import Dperf.Announced
import Dperf.ContentLength
import Dperf.Requests

/-!
The responses of a server, as the client parses them.

* `responseBlock`: the header that `http_set_payload_server` writes is a header block with one
  `Content-Length`.
* `responseStream`: the bytes of a response. The header announces what follows it in the stream
  (`exists_responseHeader`), over all packets of a large response.
* `response_parsed`: the client ends the response with its last byte, however it is cut.
-/

namespace Dperf

open Decimal

/-! ### The header as a header block -/

lemma inLine_formatInt (width n : ℕ) : ∀ c ∈ formatInt width n, InLine c := by
  intro c hc
  rw [formatInt_natCast, List.mem_append] at hc
  rcases hc with hc | hc
  · rw [List.eq_of_mem_replicate hc]
    exact ⟨by decide, by decide⟩
  · obtain ⟨hlow, -⟩ := isDigit_of_mem_decimal c hc
    constructor <;> rintro rfl <;> exact absurd hlow (by decide)

/-- `Server: dperf`. -/
def serverField : HeaderField where
  name := ascii "Server"
  value := ascii " dperf"
  nameSome := List.cons_ne_nil _ _
  nameIn := inLine_of_all rfl
  noColon := by decide
  valueIn := inLine_of_all rfl

/-- `Connection:keep-alive`. -/
def connectionField : HeaderField where
  name := ascii "Connection"
  value := ascii "keep-alive"
  nameSome := List.cons_ne_nil _ _
  nameIn := inLine_of_all rfl
  noColon := by decide
  valueIn := inLine_of_all rfl

lemma neutral_serverField : serverField.Neutral :=
  ⟨by decide, fun h => absurd h (by decide)⟩

lemma neutral_connectionField : connectionField.Neutral :=
  ⟨by decide, fun h => absurd h (by decide)⟩

lemma decimalRun_decimal (n : ℕ) : decimalRun 0 (decimal n) = n := by
  have hrun : decimalRun 0 (decimal n ++ []) = numberOf (decimal n) :=
    decimalRun_digits isDigit_of_mem_decimal fun c hc => by cases hc
  rwa [List.append_nil, numberOf_decimal] at hrun

lemma inLine_statusOk : ∀ c ∈ ascii "1.1 200 OK", InLine c := inLine_of_all rfl

lemma contentLength_ne_nil : ascii "Content-Length" ≠ [] := List.cons_ne_nil _ _

lemma inLine_contentLength : ∀ c ∈ ascii "Content-Length", InLine c := inLine_of_all rfl

lemma noColon_contentLength : 0x3a ∉ ascii "Content-Length" := by decide

lemma lowerCase_contentLength :
    (ascii "Content-Length").map lowerCase = ascii "content-length" := rfl

/-- The header of `HTTP_RSP_FORMAT`. -/
def responseBlock (n : ℕ) : LengthBlock n where
  status := ascii "1.1 200 OK"
  before := []
  length :=
    { name := ascii "Content-Length"
      value := formatInt 11 n
      nameSome := contentLength_ne_nil
      nameIn := inLine_contentLength
      noColon := noColon_contentLength
      valueIn := inLine_formatInt 11 n }
  after := [serverField, connectionField]
  blanks := List.replicate (11 - (decimal n).length) 0x20
  digits := decimal n
  trailing := []
  statusIn := inLine_statusOk
  neutral := List.forall_mem_cons.mpr ⟨neutral_serverField,
    List.forall_mem_singleton.mpr neutral_connectionField⟩
  isName := lowerCase_contentLength
  isValue := (formatInt_natCast 11 n).trans (congrArg _ (List.append_nil _).symm)
  isBlank := fun c hc => .inl (List.eq_of_mem_replicate (by rwa [List.append_nil] at hc))
  digitsSome := decimal_ne_nil n
  isDigit := isDigit_of_mem_decimal
  number := decimalRun_decimal n

lemma responseBlock_bytes (n : ℕ) : (responseBlock n).bytes = httpRspHeader n := by
  simp [LengthBlock.bytes, LengthBlock.statusText, responseBlock, HeaderField.bytes,
    HeaderField.text, serverField, connectionField, httpRspHeader, ascii]
  decide

/-! ### The bytes of a response -/

/-- The packets of a response: one, or the segments of a large response. -/
def responsePackets (cfg : SizeConfig) (i : ℕ) : ℕ :=
  if cfg.mss < cfg.payloadSize i then (cfg.payloadSize i / cfg.mss).toNat else 1

/-- The bytes of a response: each packet carries the whole text. -/
def responseStream (cfg : SizeConfig) (payloads : ℕ → List UInt8) (i : ℕ) : List UInt8 :=
  (List.replicate (responsePackets cfg i) (payloads i)).flatten

section Stream

variable {random : ℕ → ℕ → ℕ} {cfg cfg' : SizeConfig} {payloads : ℕ → List UInt8} {i : ℕ}

/-- A response begins with its header, which announces what follows it. -/
lemma exists_responseHeader (hp : cfg.Parsed) (hc : ConfigChecked random cfg cfg' payloads)
    (htcp : cfg'.TcpServer) (hi : i < cfg.cpuNum)
    (hsize : cfg.sizeOf i = 0 ∨ httpDataMinSize ≤ cfg.sizeOf i)
    (hmss : httpDataMinSize ≤ cfg.mssOrMax) :
    ∃ body, responseStream cfg' payloads i = httpRspHeader (body.length : ℕ) ++ body ∧
      body.length < 10 ^ 11 := by
  have htext : payloads i = httpSetPayloadServer (random i) cfg' (cfg'.payloadSize i) := by
    rw [hc.payloads]
    dsimp only
    rw [if_pos htcp.1, httpSetPayload, if_pos htcp.2]
  obtain ⟨hmss0, hmssle, hmssmax⟩ := hp.mssOrMax_bounds hc.mss_le
  have hround := hc.rounded htcp i hi
  have hmax := (hp.sizeOf_bounds i).2
  rw [payloadSizeMax] at hmax
  rw [httpDataMinSize] at hsize hmss
  rcases hsize with hzero | h85
  · -- the default text
    have hps : cfg'.payloadSize i = 0 := by
      rw [hround, roundedSize, if_neg (by omega), hzero]
    refine ⟨httpRspBodyDefault, ?_, by decide⟩
    rw [responseStream, responsePackets, if_neg (by rw [hps, hc.mss_eq]; omega), htext,
      httpSetPayloadServer, if_pos hps.le]
    rfl
  by_cases hbig : cfg.mssOrMax < cfg.sizeOf i
  · obtain ⟨hdvd, htwo, hless⟩ := roundedSize_of_lt hmss0 hbig
    rw [← hround, ← hc.mss_eq] at hdvd htwo hless
    rw [← hc.mss_eq] at hmss0 hmss hmssle
    obtain ⟨q, hq⟩ := hdvd
    have hq0 : 2 ≤ q := by nlinarith
    have hpackets : responsePackets cfg' i = q.toNat := by
      rw [responsePackets, if_pos (by omega), hq, Int.mul_ediv_cancel_left _ hmss0.ne']
    have hmin : min cfg'.mss (cfg'.payloadSize i) = cfg'.mss := min_eq_left (by omega)
    have hsize' : httpDataMinSize ≤ cfg'.payloadSize i := by
      rw [httpDataMinSize]
      omega
    obtain ⟨body, hbytes, hlen⟩ := httpSetPayloadServer_large (random i) cfg' hsize'
      (by omega) (by omega)
    rw [hmin, httpDataMinSize] at hlen
    rw [httpDataMinSize] at hbytes
    have hheader := length_httpRspHeader (n := cfg'.payloadSize i - 85) (by omega) (by omega)
    -- the first packet, and the other ones
    obtain ⟨k, hk⟩ : ∃ k, q.toNat = k + 1 := ⟨q.toNat - 1, by omega⟩
    have htextlen : ((payloads i).length : ℤ) = cfg'.mss := by
      rw [htext, hbytes, List.length_append, hheader]
      omega
    have htotal : ((body ++ (List.replicate k (payloads i)).flatten).length : ℤ) =
        cfg'.payloadSize i - 85 := by
      rw [List.length_append, List.length_flatten, List.map_replicate, List.sum_replicate]
      push_cast
      rw [smul_eq_mul, Nat.cast_mul, htextlen, hq]
      have hkq : (k : ℤ) = q - 1 := by omega
      rw [hkq, hlen, max_eq_left (by omega)]
      ring
    refine ⟨body ++ (List.replicate k (payloads i)).flatten, ?_, by omega⟩
    rw [htotal, ← List.append_assoc, ← hbytes, ← htext, responseStream, hpackets, hk,
      List.replicate_succ, List.flatten_cons]
  · have hps : cfg'.payloadSize i = cfg.sizeOf i := by rw [hround, roundedSize, if_neg hbig]
    have hmin : min cfg'.mss (cfg'.payloadSize i) = cfg'.payloadSize i :=
      min_eq_right (by rw [hps, hc.mss_eq]; omega)
    have hsize' : httpDataMinSize ≤ cfg'.payloadSize i := by
      rw [httpDataMinSize]
      omega
    obtain ⟨body, hbytes, hlen⟩ := httpSetPayloadServer_large (random i) cfg' hsize'
      (by omega) (by omega)
    rw [hmin, httpDataMinSize] at hlen
    rw [httpDataMinSize] at hbytes
    have hbody : (body.length : ℤ) = cfg'.payloadSize i - 85 := by omega
    refine ⟨body, ?_, by omega⟩
    rw [responseStream, responsePackets, if_neg (by rw [hps, hc.mss_eq]; omega), htext, hbytes,
      hbody]
    simp

end Stream

/-! ### The law -/

lemma length_flatMap_bytes (segs : List HttpSegment) :
    (segs.flatMap HttpSegment.bytes).length = fedBytes segs := by
  induction segs with
  | nil => rfl
  | cons s segs ih =>
      rw [List.flatMap_cons, List.length_append, ih, s.length_bytes]
      rfl

/-- The return value by what is to come. -/
lemma framing_rest {n fed : ℕ} {rest : List UInt8} (h : n = fed + rest.length) :
    framing n fed = if rest = [] then .done else .ok := by
  cases rest with
  | nil => rw [framing, if_neg (by simp [h]), if_pos (by simp [h]), if_pos rfl]
  | cons a rest =>
      rw [List.length_cons] at h
      rw [framing, if_pos (by omega), if_neg (List.cons_ne_nil a rest)]

/-- A response with a status of 200. -/
lemma httpParseResponse_header {first : HttpSegment} {k : ℤ} {part : List UInt8}
    (hfirst : first.bytes = httpRspHeader k ++ part) (hlen : 9 < first.len.toNat) (s : NetStats) :
    httpParseResponse first.data first.len s =
      { s with tcpRsp := s.tcpRsp + 1, http2xx := s.http2xx + 1 } := by
  have hdata : first.data = ascii "HTTP/1.1 2" ++ (ascii "00 OK\r\nContent-Length:" ++
      (formatInt 11 k ++ (ascii "\r\nServer: dperf\r\nConnection:keep-alive\r\n\r\n" ++
        (part ++ first.data.drop first.len.toNat)))) := by
    calc first.data = first.bytes ++ first.data.drop first.len.toNat :=
          (List.take_append_drop _ _).symm
      _ = _ := by
          rw [hfirst, httpRspHeader]
          simp only [List.append_assoc]
          rfl
  have hdigit : first.data.getD 9 0 = 0x32 := by
    rw [hdata]
    rfl
  have hlt : (9 : UInt16) < first.len := UInt16.lt_iff_toNat_lt.mpr hlen
  rw [httpParseResponse, hdigit]
  simp [hlt]

/-- **A response reaches the client.** The response of an accepted TCP server with HTTP, one packet
or many, over any cut into segments of which the first one has the header: the client counts a
status of 200 with the first segment, wants more while bytes are to come, and ends the response
with the segment that has its last byte. -/
theorem response_parsed {file : List UInt8 → Option (List UInt8)} {random : ℕ → ℕ → ℕ}
    {cfg cfg' : SizeConfig} {payloads : ℕ → List UInt8} {i : ℕ} (hp : cfg.Parsed)
    (h : configParse file random cfg = some (cfg', payloads)) (htcp : cfg'.TcpServer)
    (hi : i < cfg.cpuNum) (hsize : cfg.sizeOf i = 0 ∨ httpDataMinSize ≤ cfg.sizeOf i)
    (hmss : httpDataMinSize ≤ cfg.mssOrMax) {v : View} (hinit : v.sk.httpParseState = .init)
    (hflags : v.sk.httpFlags = 0) {first : HttpSegment} {segs : List HttpSegment}
    (hfirst : httpDataMinSize ≤ first.len.toNat)
    (hcut : (first :: segs).flatMap HttpSegment.bytes = responseStream cfg' payloads i) :
    (∀ s, httpParseResponse first.data first.len s =
      { s with tcpRsp := s.tcpRsp + 1, http2xx := s.http2xx + 1 }) ∧
    ∀ before seg after, first :: segs = before ++ seg :: after →
      (httpParseRun seg.data seg.len (httpParseSegments v before)).1 =
        if after.flatMap HttpSegment.bytes = [] then .done else .ok := by
  obtain ⟨body, hstream, hlt⟩ := exists_responseHeader hp (configParse_checked h) htcp hi hsize hmss
  rw [hstream, List.flatMap_cons] at hcut
  have hheader : (httpRspHeader (body.length : ℕ)).length = 85 :=
    length_httpRspHeader (by omega) (by omega)
  rw [httpDataMinSize] at hfirst
  -- the first segment has the header and a part of the body
  obtain ⟨part, hpart⟩ : httpRspHeader (body.length : ℕ) <+: first.bytes := by
    refine List.prefix_of_prefix_length_le (List.prefix_append _ body)
      (hcut ▸ List.prefix_append _ _) ?_
    rw [hheader, first.length_bytes]
    omega
  have hbody : body = part ++ segs.flatMap HttpSegment.bytes := by
    rw [← hpart, List.append_assoc] at hcut
    exact (List.append_cancel_left hcut).symm
  have hsum : body.length = part.length + fedBytes segs := by
    rw [hbody, List.length_append, length_flatMap_bytes]
  refine ⟨httpParseResponse_header hpart.symm (by omega), fun before seg after hall => ?_⟩
  obtain ⟨sk', hcount, hret, hsk⟩ := httpParseRun_block (responseBlock body.length) (by omega) hinit
    hflags (by rw [responseBlock_bytes]; exact hpart.symm)
  obtain ⟨hverdict, -, hnext⟩ := hcount.body part
  cases before with
  | nil =>
      obtain ⟨rfl, rfl⟩ := List.cons_eq_cons.mp hall
      refine (hret.trans hverdict).trans (framing_rest ?_)
      rw [length_flatMap_bytes, hsum]
  | cons b before =>
      obtain ⟨rfl, htail⟩ := List.cons_eq_cons.mp hall
      have hsegs : segs = before ++ seg :: after := htail
      have hfed : fedBytes segs = fedBytes before + (seg.len.toNat + fedBytes after) := by
        rw [hsegs, fedBytes, List.map_append, List.sum_append, List.map_cons, List.sum_cons]
        rfl
      have hafter : Counting (body.length - part.length)
          (httpParseRun first.data first.len v).2.sk := by
        rw [hsk]
        exact hnext (by omega)
      have hfit : fedBytes before ≤ body.length - part.length := by omega
      refine ((hafter.segments hfit).run seg).1.trans (framing_rest ?_)
      rw [length_flatMap_bytes]
      omega

/-- A response of three packets, each a segment of its own. -/
theorem response_parsed_three : ∃ cfg' payloads,
    configParse (fun _ => none) (fun _ _ => 0) (tcpServer 100 250) = some (cfg', payloads) ∧
    ∃ packet : HttpSegment, packet.bytes = payloads 0 ∧
      (httpParseRun packet.data packet.len (httpParseSegments { sk := default } [packet])).1 = .ok ∧
      (httpParseRun packet.data packet.len
        (httpParseSegments { sk := default } [packet, packet])).1 = .done := by
  obtain ⟨⟨cfg', payloads⟩, h⟩ : ∃ r, configParse (fun _ => none) (fun _ _ => 0)
      (tcpServer 100 250) = some r := ⟨_, rfl⟩
  obtain ⟨hp, htcp, hmss, -⟩ :=
    tcpServer_parse (by decide) (by decide) (by decide) (by decide) h
  have hc := configParse_checked h
  have hmss' : cfg'.mss = 100 := hc.mss_eq.trans hmss
  have hsize : cfg'.payloadSize 0 = 300 := hc.rounded htcp 0 Nat.zero_lt_one
  have htext : payloads 0 = httpSetPayloadServer (fun _ => 0) cfg' (cfg'.payloadSize 0) := by
    rw [hc.payloads]
    dsimp only
    rw [if_pos htcp.1, httpSetPayload, if_pos htcp.2]
  have hlen : (payloads 0).length = 100 := by
    obtain ⟨body, hbytes, hbody⟩ := httpSetPayloadServer_large (fun _ => 0) cfg'
      (by rw [hsize]; decide : httpDataMinSize ≤ cfg'.payloadSize 0) (by omega) (by omega)
    have hheader := length_httpRspHeader (n := cfg'.payloadSize 0 - httpDataMinSize)
      (by rw [hsize]; decide) (by rw [hsize]; decide)
    rw [hmss', hsize, httpDataMinSize] at hbody
    rw [htext, hbytes, List.length_append, hheader]
    omega
  let packet : HttpSegment := ⟨payloads 0, 100, hlen.ge⟩
  have hbytes : packet.bytes = payloads 0 := List.take_of_length_le hlen.le
  have hcut : [packet, packet, packet].flatMap HttpSegment.bytes =
      responseStream cfg' payloads 0 := by
    have hpackets : responsePackets cfg' 0 = 3 := by
      rw [responsePackets, hsize, hmss']
      rfl
    rw [responseStream, hpackets]
    simp only [List.flatMap_cons, List.flatMap_nil, hbytes]
    rfl
  have hne : [packet].flatMap HttpSegment.bytes ≠ [] := by
    intro hnil
    have hzero := congrArg List.length hnil
    rw [List.flatMap_cons, List.flatMap_nil, List.append_nil, hbytes, hlen] at hzero
    exact absurd hzero (by decide)
  have hsize' : (tcpServer 100 250).sizeOf 0 = 0 ∨
      httpDataMinSize ≤ (tcpServer 100 250).sizeOf 0 := .inr (by decide)
  have hfirst : httpDataMinSize ≤ (packet.len.toNat : ℤ) := by
    change httpDataMinSize ≤ ((100 : UInt16).toNat : ℤ)
    decide
  obtain ⟨-, hret⟩ := response_parsed hp h htcp Nat.zero_lt_one hsize' (by rw [hmss]; decide)
    (v := { sk := default }) rfl rfl hfirst hcut
  refine ⟨cfg', payloads, h, packet, hbytes, ?_, ?_⟩
  · rw [hret [packet] packet [packet] rfl, if_neg hne]
  · rw [hret [packet, packet] packet [] rfl]
    rfl

end Dperf
