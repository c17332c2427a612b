import Dperf.HeaderLines
import Dperf.PayloadLengths
import Dperf.Responses

/-!
What the header of a large response announces, and what the server sends.

* `announcedLength`: the `Content-Length` of a response, as the client reads it.
* `Announced`: the template of a worker, its `payload_size` and its bursts agree.
* `announced_iff`: they do exactly if `mss` has room for the header.
-/

namespace Dperf

open Decimal

/-! ### The header -/

/-- The content length that a response announces, as the client reads it. -/
def announcedLength (text : List UInt8) : Int64 :=
  atol (text.drop (ascii "HTTP/1.1 200 OK\r\nContent-Length:").length)

/-- A printed number is read back. -/
lemma atol_formatInt (width : ℕ) {k : ℤ} (h0 : 0 ≤ k) (hk : k < 2 ^ 63) (rest : List UInt8) :
    (atol (formatInt width k ++ 0x0d :: rest)).toInt = k := by
  have hstop : ∀ c ∈ (0x0d :: rest).head?, ¬ IsDigit c := by
    intro c hc
    obtain rfl := Option.some.inj hc
    decide
  have hdigit : ∀ c ∈ decimal k.natAbs, IsDigit c := isDigit_of_mem_decimal
  have hrun := decimalRun_digits hdigit hstop
  have hne := decimal_ne_nil k.natAbs
  rw [numberOf_decimal] at hrun
  rw [formatInt, if_neg (not_lt.mpr h0), List.nil_append, List.append_assoc, ← decimal]
  generalize decimal k.natAbs = digits at hrun hdigit hne
  obtain ⟨a, ds, rfl⟩ := List.exists_cons_of_ne_nil hne
  rw [List.cons_append] at hrun ⊢
  have hblanks : ∀ c ∈ List.replicate (width - (a :: ds).length) 0x20, isSpace c = true :=
    fun c hc => List.eq_of_mem_replicate hc ▸ rfl
  rw [atol_digits hblanks (hdigit a List.mem_cons_self), hrun,
    Int64.toInt_ofInt_of_le (by omega) (by omega)]
  omega

/-- The text that `http_set_payload_server` writes announces its second argument. -/
lemma announcedLength_httpRspHeader {k : ℤ} (h0 : 0 ≤ k) (hk : k < 2 ^ 63) (body : List UInt8) :
    (announcedLength (httpRspHeader k ++ body)).toInt = k := by
  rw [announcedLength, httpRspHeader, List.append_assoc, List.append_assoc, List.drop_left]
  exact atol_formatInt 11 h0 hk (ascii "\nServer: dperf\r\nConnection:keep-alive\r\n\r\n" ++ body)

/-- The header ends with a blank line. -/
lemma httpRspHeader_ends (k : ℤ) : ascii "\r\n\r\n" <:+ httpRspHeader k := by
  have hlines : ascii "\r\n\r\n" <:+ ascii "\r\nServer: dperf\r\nConnection:keep-alive\r\n\r\n" :=
    ⟨ascii "\r\nServer: dperf\r\nConnection:keep-alive", rfl⟩
  exact hlines.trans (List.suffix_append _ _)

/-! ### The law -/

/-- The work space of worker `i` of a TCP server. -/
structure ServerWorker (cfg : SizeConfig) (payloads : ℕ → List UInt8) (i : ℕ) (ws : WorkSpace) :
    Prop where
  protocol : ws.cfg.protocol = .tcp
  server : ws.cfg.server = true
  sendWindow : ws.sendWindow = UInt32.ofNat cfg.mss.toNat * UInt32.ofNat cfg.sendWindow
  payloadSize : ws.payloadSize = UInt32.ofNat (cfg.payloadSize i).toNat
  data : ws.tcpData.bytes = payloads i

/-- The template of a worker, its `payload_size` and the segments of its responses agree: a
response is a number of segments, its header announces what follows it, and what the bursts have
sent and what is left of a response is all of it, so that they stop at `snd_max`. -/
structure Announced (cfg : SizeConfig) (i : ℕ) (ws : WorkSpace) : Prop where
  pos : 0 < cfg.payloadSize i
  dvd : (ws.tcpData.dataLen.toNat : ℤ) ∣ cfg.payloadSize i
  le : (ws.tcpData.dataLen.toNat : ℤ) ≤ cfg.mss
  header : ∃ header body, ws.tcpData.bytes = header ++ body ∧ ascii "\r\n\r\n" <:+ header ∧
    (announcedLength ws.tcpData.bytes).toInt = cfg.payloadSize i - header.length
  responses : ∀ {n : ℕ} (st : SocketTable n) (w : Worker n), Reach st ws anyStep w →
    ∀ j, (w.pool j).state = .established → ¬ Awaiting (w.obs j) →
      (∃ b, Response ws (w.pool j) b) ∧ ∀ b, Response ws (w.pool j) b →
        ws.tcpData.dataLen.toNat ∣ b ∧ (b : ℤ) + leftOf (w.pool j) = cfg.payloadSize i ∧
        (tcpSeqLt (w.pool j).sndNxt (w.pool j).sndMax = false →
          (b : ℤ) = cfg.payloadSize i ∧ (w.pool j).sndNxt = (w.pool j).sndMax)

section Law

variable {random : ℕ → ℕ → ℕ} {cfg cfg' : SizeConfig} {payloads : ℕ → List UInt8} {i : ℕ}
  {ws : WorkSpace}

/-- A worker with large responses. -/
lemma large_worker (hp : cfg.Parsed) (hc : ConfigChecked random cfg cfg' payloads)
    (htcp : cfg'.TcpServer) (hi : i < cfg.cpuNum) (hbig : cfg.mssOrMax < cfg.sizeOf i)
    (hw : ServerWorker cfg' payloads i ws) :
    cfg'.mss ∣ cfg'.payloadSize i ∧ 2 * cfg'.mss ≤ cfg'.payloadSize i ∧
      cfg'.payloadSize i < payloadSizeMax + cfg'.mss ∧ 0 < cfg'.mss ∧ cfg'.mss ≤ 9670 ∧
      ws.tcpData.bytes = httpSetPayloadServer (random i) cfg' (cfg'.payloadSize i) ∧
      BurstServer ws := by
  obtain ⟨hmss0, hmss, hmssmax⟩ := hp.mssOrMax_bounds hc.mss_le
  obtain ⟨hdvd, htwo, hless⟩ := roundedSize_of_lt hmss0 hbig
  have hsize := hc.rounded htcp i hi
  have hsizemax := (hp.sizeOf_bounds i).2
  have hwindow := hc.window htcp i hi hbig
  rw [hc.mss_eq, hsize]
  refine ⟨hdvd, htwo, by omega, hmss0, by omega, ?_, hw.protocol, hw.server, ?_⟩
  · rw [hw.data, hc.payloads]
    dsimp only
    rw [if_pos htcp.1, httpSetPayload, if_pos htcp.2, hsize]
  · -- the window is a product of two small positive numbers
    have hwin : 0 < cfg'.sendWindow ∧ cfg'.sendWindow ≤ 16 := by
      have hsend := hp.sendWindow
      rw [hwindow, sendWindowDefault]
      split_ifs <;> omega
    rw [hw.sendWindow, hc.mss_eq]
    intro h0
    have hnat := congrArg UInt32.toNat h0
    rw [UInt32.toNat_mul, UInt32.toNat_ofNat_of_lt' (by rw [UInt32.size]; omega),
      UInt32.toNat_ofNat_of_lt' (by rw [UInt32.size]; omega), UInt32.toNat_zero] at hnat
    have hmssle : cfg.mssOrMax.toNat ≤ 9670 := by omega
    have hmul := Nat.mul_le_mul hmssle hwin.2
    rw [Nat.mod_eq_of_lt (by omega)] at hnat
    exact Nat.mul_ne_zero (by omega) hwin.1.ne' hnat

end Law

/-- **Announced and sent.** The large responses of an accepted configuration agree with their
templates exactly if a segment has room for the header. -/
theorem announced_iff {file : List UInt8 → Option (List UInt8)} {random : ℕ → ℕ → ℕ}
    {cfg cfg' : SizeConfig} {payloads : ℕ → List UInt8} {i : ℕ} {ws : WorkSpace}
    (hp : cfg.Parsed) (h : configParse file random cfg = some (cfg', payloads))
    (htcp : cfg'.TcpServer) (hi : i < cfg.cpuNum) (hbig : cfg.mssOrMax < cfg.sizeOf i)
    (hw : ServerWorker cfg' payloads i ws) :
    Announced cfg' i ws ↔ httpDataMinSize ≤ cfg.mssOrMax := by
  have hc := configParse_checked h
  obtain ⟨hdvd, htwo, hmax, hmss0, hmssmax, htext, hburst⟩ := large_worker hp hc htcp hi hbig hw
  rw [← hc.mss_eq, httpDataMinSize]
  rw [payloadSizeMax] at hmax
  have hdata := ws.tcpData.toNat_dataLen
  constructor
  · intro ha
    have hle := ha.le
    rw [hdata] at hle
    by_contra hsmall
    by_cases h85 : 85 ≤ cfg'.payloadSize i
    · obtain ⟨body, hbytes, -⟩ := httpSetPayloadServer_large (random i) cfg' h85 (by omega)
        (by omega)
      have hheader := length_httpRspHeader (n := cfg'.payloadSize i - 85) (by omega) (by omega)
      rw [htext, hbytes, httpDataMinSize, List.length_append, hheader] at hle
      omega
    · have hlen : (httpSetPayloadServer (random i) cfg' (cfg'.payloadSize i)).length =
          (cfg'.payloadSize i).toNat := by
        rw [httpSetPayloadServer, if_neg (by omega), if_pos (by rw [httpDataMinSize]; omega),
          length_configSetPayload]
      rw [htext, hlen] at hle
      omega
  · intro h85
    obtain ⟨body, hbytes, hbody⟩ := httpSetPayloadServer_large (random i) cfg'
      (by rw [httpDataMinSize]; omega : httpDataMinSize ≤ cfg'.payloadSize i) (by omega) (by omega)
    rw [httpDataMinSize] at hbytes hbody
    have hheader := length_httpRspHeader (n := cfg'.payloadSize i - 85) (by omega) (by omega)
    have hlen : (ws.tcpData.bytes.length : ℤ) = cfg'.mss := by
      rw [htext, hbytes, List.length_append, hheader]
      omega
    have hsize : (ws.payloadSize.toNat : ℤ) = cfg'.payloadSize i := by
      rw [hw.payloadSize, UInt32.toNat_ofNat_of_lt' (by rw [UInt32.size]; omega)]
      omega
    have hdvd' : ws.tcpData.bytes.length ∣ ws.payloadSize.toNat := by
      rw [← Int.natCast_dvd_natCast, hlen, hsize]
      exact hdvd
    have hne : ws.tcpData.bytes ≠ [] := by
      intro h0
      rw [h0, List.length_nil] at hlen
      omega
    refine ⟨by omega, by rw [hdata, hlen]; exact hdvd, by rw [hdata, hlen], ?_, ?_⟩
    · refine ⟨_, body, htext.trans hbytes, httpRspHeader_ends _, ?_⟩
      rw [htext, hbytes, announcedLength_httpRspHeader (by omega) (by omega), hheader]
      rfl
    · intro n st w hr j he hreq
      refine ⟨response_of_reach hburst hr he hreq, fun b hb => ?_⟩
      obtain ⟨hsum, hl⟩ := hb.left hne hdvd' (by omega) he
      rw [hdata]
      refine ⟨?_, by omega, fun hstop => ?_⟩
      · rw [show b = ws.payloadSize.toNat - leftOf (w.pool j) by omega]
        exact Nat.dvd_sub hdvd' hl
      · have hzero := leftOf_of_not_lt (by omega) hstop
        have hsub : (w.pool j).sndMax - (w.pool j).sndNxt = 0 := UInt32.toNat_inj.mp hzero
        exact ⟨by omega, by grind⟩

/-- A TCP server with one worker. -/
abbrev tcpServer (mss size : ℤ) : SizeConfig := .single .tcp true mss size []

/-- Its work space. -/
def WorkSpace.ofServer (cfg : SizeConfig) (data : MbufData) : WorkSpace :=
  { WorkSpace.single (.singleServer true) with
    sendWindow := UInt32.ofNat cfg.mss.toNat * UInt32.ofNat cfg.sendWindow
    payloadSize := UInt32.ofNat (cfg.payloadSize 0).toNat
    tcpData := data }

lemma tcpServer_parse {mss size : ℤ} {r : SizeConfig × (ℕ → List UInt8)} (hmss : 0 < mss)
    (hle : mss ≤ 1460) (h0 : 0 ≤ size) (hmax : size ≤ payloadSizeMax)
    (h : configParse (fun _ => none) (fun _ _ => 0) (tcpServer mss size) = some r) :
    (tcpServer mss size).Parsed ∧ r.1.TcpServer ∧ (tcpServer mss size).mssOrMax = mss ∧
      (r.2 0).length ≤ mbufDataSize := by
  obtain ⟨cfg', payloads⟩ := r
  have hp : (tcpServer mss size).Parsed := SizeConfig.single_parsed hmss.le h0 hmax
  have hc := configParse_checked h
  have hsame : (tcpServer mss size).mssOrMax = mss := if_neg hmss.ne'
  refine ⟨hp, ⟨hc.protocol_eq, hc.server_eq⟩, hsame, ?_⟩
  have hlen := hc.length_payload hp (i := 0) (Nat.zero_lt_one)
  have hcarried : (tcpServer mss size).carried 0 ≤ mss := (min_le_right _ _).trans hsame.le
  rw [mbufDataSize]
  show (payloads 0).length ≤ _
  omega

/-- A response of three segments. -/
theorem announced_three_segments : ∃ cfg' payloads data,
    configParse (fun _ => none) (fun _ _ => 0) (tcpServer 100 250) = some (cfg', payloads) ∧
    cfg'.payloadSize 0 = 300 ∧ ServerWorker cfg' payloads 0 (.ofServer cfg' data) ∧
    Announced cfg' 0 (.ofServer cfg' data) := by
  obtain ⟨⟨cfg', payloads⟩, h⟩ : ∃ r, configParse (fun _ => none) (fun _ _ => 0)
      (tcpServer 100 250) = some r := ⟨_, rfl⟩
  obtain ⟨hp, htcp, hmss, hfits⟩ :=
    tcpServer_parse (by decide) (by decide) (by decide) (by decide) h
  have hsize : cfg'.payloadSize 0 = 300 :=
    (configParse_checked h).rounded htcp 0 Nat.zero_lt_one
  have hw : ServerWorker cfg' payloads 0 (.ofServer cfg' ⟨payloads 0, hfits⟩) :=
    ⟨rfl, rfl, rfl, rfl, rfl⟩
  refine ⟨cfg', payloads, _, h, hsize, hw, (announced_iff hp h htcp Nat.zero_lt_one ?_ hw).mpr ?_⟩
  · rw [hmss]
    show (100 : ℤ) < 250
    omega
  · rw [hmss, httpDataMinSize]
    omega

/-- A segment size below the header: the template has 85 bytes, more than a segment, and the
response is rounded to 100. -/
theorem announced_small_mss : ∃ cfg' payloads data,
    configParse (fun _ => none) (fun _ _ => 0) (tcpServer 50 60) = some (cfg', payloads) ∧
    cfg'.TcpServer ∧ (tcpServer 50 60).mssOrMax < (tcpServer 50 60).sizeOf 0 ∧
    ServerWorker cfg' payloads 0 (.ofServer cfg' data) ∧
    ¬ Announced cfg' 0 (.ofServer cfg' data) := by
  obtain ⟨⟨cfg', payloads⟩, h⟩ : ∃ r, configParse (fun _ => none) (fun _ _ => 0)
      (tcpServer 50 60) = some r := ⟨_, rfl⟩
  obtain ⟨hp, htcp, hmss, hfits⟩ :=
    tcpServer_parse (by decide) (by decide) (by decide) (by decide) h
  have hc := configParse_checked h
  have hsize : cfg'.payloadSize 0 = 100 := hc.rounded htcp 0 Nat.zero_lt_one
  have hw : ServerWorker cfg' payloads 0 (.ofServer cfg' ⟨payloads 0, hfits⟩) :=
    ⟨rfl, rfl, rfl, rfl, rfl⟩
  have hbig : (tcpServer 50 60).mssOrMax < (tcpServer 50 60).sizeOf 0 := by
    rw [hmss]
    show (50 : ℤ) < 60
    omega
  refine ⟨cfg', payloads, _, h, htcp, hbig, hw, fun ha => ?_⟩
  obtain ⟨-, -, -, -, -, htext, -⟩ := large_worker hp hc htcp Nat.zero_lt_one hbig hw
  have hmss' : cfg'.mss = 50 := hc.mss_eq.trans hmss
  obtain ⟨body, hbytes, hbody⟩ := httpSetPayloadServer_large ((fun _ _ => 0 : ℕ → ℕ → ℕ) 0)
    cfg' (by rw [hsize]; decide : httpDataMinSize ≤ cfg'.payloadSize 0) (by omega) (by omega)
  have hheader := length_httpRspHeader (n := cfg'.payloadSize 0 - httpDataMinSize)
    (by rw [hsize]; decide) (by rw [hsize]; decide)
  have hle := ha.le
  rw [MbufData.toNat_dataLen, htext, hbytes, List.length_append, hheader, hmss'] at hle
  omega

end Dperf
