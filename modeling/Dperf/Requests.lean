import Dperf.Keywords
import Dperf.Lib.Decimal
import Dperf.PayloadLengths

/-!
The requests of a TCP client: the texts of `http_set_payload_client`, as HTTP requests.

* `Request`: a request by its parts, what makes it valid, and its text.
* `RequestWords`: the host and the path that the keywords let through.
* `HasRequest`: the text has the length that is configured, and is a valid request.
* `hasRequest_iff`: from the unpadded length on, this is so for `POST` from 85 bytes on, and for
  `GET` only without padding.
-/

namespace Dperf

open Decimal

/-! ### Requests -/

/-- The bytes of a word. -/
def isGraph (c : UInt8) : Bool := decide (0x21 ≤ c) && decide (c ≤ 0x7e)

/-- An HTTP request: each header has a name and what stands after the colon. -/
structure Request where
  method : List UInt8
  target : List UInt8
  headers : List (List UInt8 × List UInt8)
  body : List UInt8

namespace Request

/-- A header with a name and one line for its value. -/
def validHeader (h : List UInt8 × List UInt8) : Bool :=
  h.1 != [] && h.1.all (fun c => isGraph c && c != 0x3a) && h.2.all isPrint

/-- The grammar of a request, its one host, and the length of its body. -/
structure Valid (r : Request) : Prop where
  method : r.method ≠ [] ∧ r.method.all isGraph
  target : r.target.head? = some 0x2f ∧ r.target.all isGraph
  headers : r.headers.all validHeader
  host : (r.headers.filter fun h => h.1 = ascii "Host").length = 1
  announced : ∀ h ∈ r.headers, h.1 = ascii "Content-Length" →
    h.2.dropWhile (· = 0x20) = decimal r.body.length
  no_body : (∀ h ∈ r.headers, h.1 ≠ ascii "Content-Length") → r.body = []

/-- The text of a request. -/
def render (r : Request) : List UInt8 :=
  r.method ++ ascii " " ++ r.target ++ ascii " HTTP/1.1\r\n"
    ++ (r.headers.flatMap fun h => h.1 ++ ascii ":" ++ h.2 ++ ascii "\r\n") ++ ascii "\r\n" ++ r.body

end Request

/-- The name of a method. -/
def HttpMethod.name : HttpMethod → List UInt8
  | .get => ascii "GET"
  | .post => ascii "POST"

/-- The text is as long as configured, and a valid request of the method; that of a `POST` has
its length in a header. -/
structure HasRequest (method : HttpMethod) (size : ℤ) (text : List UInt8) : Prop where
  length : (text.length : ℤ) = size
  request : ∃ r : Request, r.Valid ∧ r.render = text ∧ r.method = method.name ∧
    (method = .post → ∃ h ∈ r.headers, h.1 = ascii "Content-Length")

/-- What `config_parse_http_host` and `config_parse_http_path` let through of the words of a
line. -/
structure RequestWords (cfg : SizeConfig) : Prop where
  host : cfg.httpHost.all isGraph
  path : cfg.httpPath.all isGraph
  slash : cfg.httpPath ≠ [] → cfg.httpPath.head? = some 0x2f

/-- The length of the request without padding. -/
def unpaddedLength (cfg : SizeConfig) : ℕ := (httpSetPayloadClient (fun _ => 0) cfg 0).length

/-- The words of a line that passes `config_keyword_check_input`. -/
lemma isGraph_of_mem_lineCalls {line : List UInt8} (h : Legal line) {argv : Argv}
    (hargv : argv ∈ lineCalls line) {arg : List UInt8} (harg : arg ∈ argv) :
    arg.all isGraph := by
  refine List.all_eq_true.mpr fun c hc => ?_
  have hmem : c ∈ line.filter fun a => !isSpace a := by
    rw [← flatten_words, words_of_mem_lineCalls hargv]
    exact List.mem_flatten_of_mem harg hc
  obtain ⟨hline, hspace⟩ := List.mem_filter.mp hmem
  rw [Bool.not_eq_true'] at hspace
  have hprint : isPrint c = true := (h c hline).resolve_right (by simp [hspace])
  have hblank : c ≠ 0x20 := by
    rintro rfl
    cases hspace
  simp only [isPrint, isGraph, Bool.and_eq_true, decide_eq_true_eq, UInt8.le_iff_toNat_le] at *
  have hne : c.toNat ≠ 0x20 := fun heq => hblank (UInt8.toNat_inj.mp heq)
  change 32 ≤ c.toNat ∧ c.toNat ≤ 126 at hprint
  change 33 ≤ c.toNat ∧ c.toNat ≤ 126
  omega

/-! ### Valid requests -/

section Texts

variable {path host body : List UInt8}

lemma isPrint_of_isGraph {l : List UInt8} (h : l.all isGraph) : l.all isPrint := by
  refine List.all_eq_true.mpr fun c hc => ?_
  have hgraph := List.all_eq_true.mp h c hc
  simp only [isPrint, isGraph, Bool.and_eq_true, decide_eq_true_eq, UInt8.le_iff_toNat_le] at *
  change 33 ≤ c.toNat ∧ c.toNat ≤ 126 at hgraph
  change 32 ≤ c.toNat ∧ c.toNat ≤ 126
  omega

/-- The request of `HTTP_GET_FORMAT`. -/
def getRequest (path host : List UInt8) : Request where
  method := ascii "GET"
  target := path
  headers := [(ascii "User-Agent", ascii " dperf"), (ascii "Host", ascii " " ++ host),
    (ascii "Accept", ascii " */*"), (ascii "Pad", ascii " aaaaaaaaaaaaaaa")]
  body := []

/-- The request of `HTTP_POST_FORMAT`. -/
def postRequest (path host body : List UInt8) : Request where
  method := ascii "POST"
  target := path
  headers := [(ascii "Content-Length", formatInt 4 body.length), (ascii "User-Agent", ascii " dperf"),
    (ascii "Host", ascii " " ++ host), (ascii "Accept", ascii " */*")]
  body := body

lemma render_getRequest (path host : List UInt8) :
    (getRequest path host).render = httpGetFormat path host := by
  simp only [getRequest, Request.render, httpGetFormat, List.flatMap_cons, List.flatMap_nil,
    List.append_assoc, List.append_nil]
  rfl

lemma render_postRequest (path host body : List UInt8) :
    (postRequest path host body).render = httpPostFormat path body.length host body := by
  simp only [postRequest, Request.render, httpPostFormat, List.flatMap_cons, List.flatMap_nil,
    List.append_assoc, List.append_nil]
  rfl

/-- `%4d` of a length. -/
lemma formatInt_natCast (width n : ℕ) :
    formatInt width n = List.replicate (width - (decimal n).length) 0x20 ++ decimal n := by
  rw [formatInt, if_neg (by omega), List.nil_append, Int.natAbs_natCast, decimal]

lemma dropWhile_formatInt (width n : ℕ) :
    (formatInt width n).dropWhile (· = 0x20) = decimal n := by
  rw [formatInt_natCast, List.dropWhile_append_of_pos fun c hc => by
    simpa using List.eq_of_mem_replicate hc]
  obtain ⟨d, ds, hd⟩ := List.exists_cons_of_ne_nil (decimal_ne_nil n)
  have hdigit := (isDigit_of_mem_decimal d (by rw [hd]; exact List.mem_cons_self)).1
  rw [hd, List.dropWhile_cons_of_neg]
  rw [decide_eq_true_eq]
  rintro rfl
  exact absurd hdigit (by decide)

lemma formatInt_all_isPrint (width n : ℕ) : (formatInt width n).all isPrint := by
  rw [formatInt_natCast, List.all_append, Bool.and_eq_true]
  refine ⟨List.all_eq_true.mpr fun c hc => ?_, List.all_eq_true.mpr fun c hc => ?_⟩
  · rw [List.eq_of_mem_replicate hc]
    rfl
  · obtain ⟨hlo, hhi⟩ := isDigit_of_mem_decimal c hc
    simp only [isPrint, Bool.and_eq_true, decide_eq_true_eq, UInt8.le_iff_toNat_le] at *
    change 48 ≤ c.toNat at hlo
    change c.toNat ≤ 57 at hhi
    change 32 ≤ c.toNat ∧ c.toNat ≤ 126
    omega

lemma validHeader_host (hhost : host.all isGraph) :
    Request.validHeader (ascii "Host", ascii " " ++ host) = true := by
  have hvalue : (ascii " " ++ host).all isPrint := by
    rw [List.all_append, isPrint_of_isGraph hhost]
    rfl
  rw [Request.validHeader, hvalue]
  rfl

lemma getRequest_valid (hslash : path.head? = some 0x2f) (hpath : path.all isGraph)
    (hhost : host.all isGraph) : (getRequest path host).Valid := by
  have hheader := validHeader_host hhost
  refine ⟨⟨nofun, rfl⟩, ⟨hslash, hpath⟩, ?_, rfl, fun h hh hname => ?_, fun _ => rfl⟩
  · rw [getRequest]
    simp only [List.all_cons, List.all_nil, hheader]
    rfl
  · simp only [getRequest, List.mem_cons, List.not_mem_nil, or_false] at hh
    rcases hh with rfl | rfl | rfl | rfl <;> cases hname

lemma postRequest_valid (hslash : path.head? = some 0x2f) (hpath : path.all isGraph)
    (hhost : host.all isGraph) : (postRequest path host body).Valid := by
  have hheader := validHeader_host hhost
  have hlength : Request.validHeader (ascii "Content-Length", formatInt 4 body.length) = true := by
    rw [Request.validHeader, formatInt_all_isPrint]
    rfl
  refine ⟨⟨nofun, rfl⟩, ⟨hslash, hpath⟩, ?_, rfl, fun h hh hname => ?_, fun hno => ?_⟩
  · rw [postRequest]
    simp only [List.all_cons, List.all_nil, hheader, hlength]
    rfl
  · simp only [postRequest, List.mem_cons, List.not_mem_nil, or_false] at hh
    rcases hh with rfl | rfl | rfl | rfl
    · exact dropWhile_formatInt 4 body.length
    all_goals cases hname
  · exact absurd rfl (hno _ List.mem_cons_self)

/-- A request has a blank. -/
lemma Request.blank_mem_render (r : Request) : 0x20 ∈ r.render := by
  simp only [Request.render, List.mem_append]
  exact .inl (.inl (.inl (.inl (.inl (.inr List.mem_cons_self)))))

end Texts

/-! ### The texts of a client -/

section Client

variable (random : ℕ → ℕ) {cfg : SizeConfig} {size : ℤ}

/-- Padding has no blanks. -/
lemma blank_notMem_configSetPayload (len : ℤ) (newLine : Bool) :
    0x20 ∉ configSetPayload random cfg len newLine := by
  have hletter : ∀ i, (0x61 + (random i % 26).toUInt8 : UInt8) ≠ 0x20 := by
    intro i heq
    have hlt := Nat.mod_lt (random i) (by omega : 26 > 0)
    have hval := congrArg UInt8.toNat heq
    rw [UInt8.toNat_add, Nat.toUInt8_eq, UInt8.toNat_ofNat'] at hval
    change (97 + random i % 26 % 256) % 256 = 32 at hval
    omega
  have hdata : 0x20 ∉ (List.range len.toNat).map fun i =>
      if cfg.payloadRandom then (0x61 + (random i % 26).toUInt8 : UInt8) else 0x61 := by
    intro hmem
    obtain ⟨i, -, hi⟩ := List.mem_map.mp hmem
    split_ifs at hi
    · exact hletter i hi
    · cases hi
  rw [configSetPayload]
  by_cases hset : 1 < len ∧ newLine
  · rw [if_pos hset]
    intro hmem
    rcases List.mem_or_eq_of_mem_set hmem with hmem | hmem
    · exact hdata hmem
    · cases hmem
  · rw [if_neg hset]
    exact hdata

lemma unpaddedLength_eq (hhost : cfg.httpHost.length < 128) (hpath : cfg.httpPath.length < 256) :
    unpaddedLength cfg = 79 + cfg.httpPath.length + cfg.httpHost.length := by
  rw [unpaddedLength, httpSetPayloadClient, if_pos le_rfl]
  cases cfg.httpMethod with
  | get =>
      have hlen := length_httpGetFormat cfg.httpPath cfg.httpHost
      dsimp only
      rw [snprintf_eq (by rw [hlen, mbufDataSize]; omega), hlen]
  | post =>
      have hlen := length_httpPostFormat (n := 0) le_rfl (by omega) cfg.httpPath cfg.httpHost []
      dsimp only
      rw [snprintf_eq (by rw [hlen, mbufDataSize, List.length_nil]; omega), hlen]
      rfl

/-- Below the smallest size of a packet with HTTP there is padding only. -/
lemma not_hasRequest_small (hpos : 0 < size) (hsmall : size < 85) :
    ¬ HasRequest cfg.httpMethod size (httpSetPayloadClient random cfg size) := by
  rintro ⟨-, r, -, hrender, -⟩
  have hblank := r.blank_mem_render
  rw [hrender, httpSetPayloadClient, if_neg (by omega), if_pos (by rw [httpDataMinSize]; omega)]
    at hblank
  exact blank_notMem_configSetPayload random size true hblank

/-- The padding of a request of the size that is configured. -/
lemma pad_eq (hhost : cfg.httpHost.length < 128) (hpath : cfg.httpPath.length < 256)
    (hle : (unpaddedLength cfg : ℤ) ≤ size) :
    max (size - httpDataMinSize - (cfg.httpPath.length + cfg.httpHost.length -
      httpHostDefault.length - httpPathDefault.length)) 0 = size - unpaddedLength cfg := by
  have hdefault : (httpHostDefault.length : ℤ) = 5 ∧ (httpPathDefault.length : ℤ) = 1 := by
    constructor <;> rfl
  rw [unpaddedLength_eq hhost hpath] at hle ⊢
  rw [httpDataMinSize, hdefault.1, hdefault.2]
  omega

/-- The padding of a `POST` is its body. -/
lemma hasRequest_post (hm : cfg.httpMethod = .post) (hslash : cfg.httpPath.head? = some 0x2f)
    (hpath : cfg.httpPath.all isGraph) (hhost : cfg.httpHost.all isGraph)
    (hhost' : cfg.httpHost.length < 128) (hpath' : cfg.httpPath.length < 256) (h85 : 85 ≤ size)
    (hle : (unpaddedLength cfg : ℤ) ≤ size) (hlt : size < 10000) :
    HasRequest cfg.httpMethod size (httpSetPayloadClient random cfg size) := by
  have hpad := pad_eq hhost' hpath' hle
  have hunpadded := unpaddedLength_eq hhost' hpath'
  obtain ⟨pad, hpad'⟩ : ∃ pad : ℕ, size - unpaddedLength cfg = pad :=
    ⟨(size - unpaddedLength cfg).toNat, by omega⟩
  have hbuf := length_configSetPayload random cfg pad false
  rw [Int.toNat_natCast] at hbuf
  have hlen := length_httpPostFormat (n := (pad : ℤ)) (by omega) (by omega) cfg.httpPath
    cfg.httpHost (configSetPayload random cfg pad false)
  have htext : httpSetPayloadClient random cfg size = httpPostFormat cfg.httpPath
      (configSetPayload random cfg pad false).length cfg.httpHost
        (configSetPayload random cfg pad false) := by
    rw [httpSetPayloadClient, if_neg (by omega), if_neg (by rw [httpDataMinSize]; omega)]
    dsimp only
    rw [hpad, hpad', hm, hbuf]
    exact snprintf_eq (by rw [hlen, mbufDataSize, hbuf]; omega)
  rw [hm, htext]
  refine ⟨?_, _, postRequest_valid hslash hpath hhost, render_postRequest _ _ _, rfl, fun _ =>
    ⟨_, List.mem_cons_self, rfl⟩⟩
  rw [hbuf, hlen, hbuf]
  omega

/-- The padding of a `GET` takes the place of its path. -/
lemma length_httpSetPayloadClient_get (hm : cfg.httpMethod = .get)
    (hdefault : cfg.httpPath = httpPathDefault) (hhost : cfg.httpHost.length < 128)
    (h85 : 85 ≤ size) (hle : (unpaddedLength cfg : ℤ) ≤ size) (hlt : size < 10000) : ∃ path,
      httpSetPayloadClient random cfg size = httpGetFormat path cfg.httpHost ∧
        path.head? = some 0x2f ∧ (path.length : ℤ) = max (size - unpaddedLength cfg) 1 := by
  have hpath : cfg.httpPath.length = 1 := by
    rw [hdefault]
    rfl
  have hpad := pad_eq hhost (by omega) hle
  have hunpadded := unpaddedLength_eq hhost (by omega)
  have hbuf := length_configSetPayload random cfg (size - unpaddedLength cfg) false
  have hlen := length_httpGetFormat
    (0x2f :: (configSetPayload random cfg (size - unpaddedLength cfg) false).tail) cfg.httpHost
  rw [List.length_cons, List.length_tail, hbuf] at hlen
  refine ⟨0x2f :: (configSetPayload random cfg (size - unpaddedLength cfg) false).tail, ?_, rfl, ?_⟩
  · rw [httpSetPayloadClient, if_neg (by omega), if_neg (by rw [httpDataMinSize]; omega)]
    dsimp only
    rw [hpad, hm]
    exact snprintf_eq (by rw [hlen, mbufDataSize]; omega)
  · rw [List.length_cons, List.length_tail, hbuf]
    omega

end Client

/-- An accepted TCP client, and one of its workers. -/
structure ClientOf (random : ℕ → ℕ → ℕ) (cfg cfg' : SizeConfig) (payloads : ℕ → List UInt8)
    (i : ℕ) : Prop where
  parsed : cfg.Parsed
  words : RequestWords cfg
  accepted : ∃ file, configParse file random cfg = some (cfg', payloads)
  tcp : cfg'.protocol = some .tcp
  client : cfg'.server = false
  worker : i < cfg.cpuNum

namespace ClientOf

variable {random : ℕ → ℕ → ℕ} {cfg cfg' : SizeConfig} {payloads : ℕ → List UInt8} {i : ℕ}

lemma checked (h : ClientOf random cfg cfg' payloads i) :
    ConfigChecked random cfg cfg' payloads :=
  have ⟨_, hparse⟩ := h.accepted
  configParse_checked hparse

/-- The host and the path, which may be the defaults. -/
lemma texts (h : ClientOf random cfg cfg' payloads i) :
    (cfg'.httpHost.all isGraph ∧ cfg'.httpHost.length < 128) ∧
      cfg'.httpPath.all isGraph ∧ cfg'.httpPath.length < 256 ∧
        cfg'.httpPath.head? = some 0x2f := by
  have hhost : cfg'.httpHost = if cfg.httpHost ≠ [] then cfg.httpHost else httpHostDefault :=
    congrArg SizeConfig.httpHost h.checked.config
  have hpath : cfg'.httpPath = if cfg.httpPath ≠ [] then cfg.httpPath else httpPathDefault :=
    congrArg SizeConfig.httpPath h.checked.config
  constructor
  · rw [hhost]
    split_ifs
    · exact ⟨h.words.host, h.parsed.httpHost⟩
    · exact ⟨rfl, Nat.lt_of_sub_eq_succ rfl⟩
  · rw [hpath]
    split_ifs with hne
    · exact ⟨h.words.path, h.parsed.httpPath, h.words.slash hne⟩
    · exact ⟨rfl, Nat.lt_of_sub_eq_succ rfl, rfl⟩

lemma size_lt (h : ClientOf random cfg cfg' payloads i) : cfg'.payloadSize i < 10000 := by
  have hno : ¬ cfg'.TcpServer := fun hs => by cases hs.2.symm.trans h.client
  obtain ⟨heq, hlt⟩ := h.checked.sizeOf_le h.parsed hno h.worker
  rwa [heq]

lemma payload_eq (h : ClientOf random cfg cfg' payloads i) :
    payloads i = httpSetPayloadClient (random i) cfg' (cfg'.payloadSize i) := by
  rw [h.checked.payloads]
  dsimp only
  rw [if_pos h.tcp, httpSetPayload, if_neg (by rw [h.client]; exact Bool.false_ne_true)]

/-- A `GET` with a size has the default path. -/
lemma path_default (h : ClientOf random cfg cfg' payloads i) (hget : cfg'.httpMethod = .get)
    (hpos : 0 < cfg'.payloadSize i) : cfg'.httpPath = httpPathDefault := by
  have hno : ¬ cfg'.TcpServer := fun hs => by cases hs.2.symm.trans h.client
  have hserver : cfg.server = false := h.checked.server_eq.symm.trans h.client
  have hsize := (h.checked.kept hno i h.worker).1
  rw [h.checked.one_size hserver] at hsize
  dsimp only at hsize
  have hnil := h.checked.get_path hserver (h.checked.method_eq.symm.trans hget) (by omega)
  rw [congrArg SizeConfig.httpPath h.checked.config]
  exact if_neg (not_not.mpr hnil)

end ClientOf

/-- **The request of a TCP client.** From the length of the request without padding on, a payload
size gives a valid request of that size exactly if it is not below the smallest size with HTTP,
and, for a `GET`, is that very length: the first byte of the padding takes the place of the
path. -/
theorem hasRequest_iff {random : ℕ → ℕ → ℕ} {cfg cfg' : SizeConfig} {payloads : ℕ → List UInt8}
    {i : ℕ} (h : ClientOf random cfg cfg' payloads i)
    (hle : (unpaddedLength cfg' : ℤ) ≤ cfg'.payloadSize i) :
    HasRequest cfg'.httpMethod (cfg'.payloadSize i) (payloads i) ↔
      httpDataMinSize ≤ cfg'.payloadSize i ∧
        (cfg'.httpMethod = .get → cfg'.payloadSize i = unpaddedLength cfg') := by
  obtain ⟨⟨hhost, hhost'⟩, hpath, hpath', hslash⟩ := h.texts
  have hlt := h.size_lt
  have hunpadded := unpaddedLength_eq hhost' hpath'
  rw [h.payload_eq, httpDataMinSize]
  by_cases h85 : 85 ≤ cfg'.payloadSize i
  swap
  · exact ⟨fun hreq => absurd hreq (not_hasRequest_small _ (by omega) (by omega)),
      fun hcond => absurd hcond.1 h85⟩
  cases hm : cfg'.httpMethod with
  | post =>
      have hreq := hasRequest_post (random i) hm hslash hpath hhost hhost' hpath' h85 hle hlt
      rw [hm] at hreq
      exact ⟨fun _ => ⟨h85, by simp⟩, fun _ => hreq⟩
  | get =>
      obtain ⟨path, htext, hhead, hlen⟩ := length_httpSetPayloadClient_get (random i) hm
        (h.path_default hm (by omega)) hhost' h85 hle hlt
      have hdefault := h.path_default hm (by omega)
      have hone : cfg'.httpPath.length = 1 := by
        rw [hdefault]
        rfl
      have htotal := length_httpGetFormat path cfg'.httpHost
      rw [htext]
      constructor
      · rintro ⟨hsize, -⟩
        exact ⟨h85, fun _ => by omega⟩
      · rintro ⟨-, heq⟩
        have heq := heq rfl
        -- no padding: the path is the slash
        obtain rfl : path = [0x2f] := by
          obtain ⟨c, rest, rfl⟩ := List.exists_cons_of_length_pos (l := path) (by omega)
          rw [List.length_cons] at hlen
          obtain rfl := List.length_eq_zero_iff.mp (by omega : rest.length = 0)
          rw [Option.some.inj hhead]
        refine ⟨by omega, _, getRequest_valid hhead rfl hhost, render_getRequest _ _, rfl, by simp⟩

/-- A TCP client with one worker, the method and a payload size. -/
def SizeConfig.requester (method : HttpMethod) (size : ℤ) : SizeConfig :=
  { SizeConfig.single .tcp false 0 size [] with httpMethod := method }

lemma requester_client {method : HttpMethod} {size : ℤ} (h0 : 0 ≤ size)
    (hmax : size ≤ payloadSizeMax) {cfg' : SizeConfig} {payloads : ℕ → List UInt8}
    (h : configParse (fun _ => none) (fun _ _ => 0) (.requester method size) =
      some (cfg', payloads)) : ClientOf (fun _ _ => 0) (.requester method size) cfg' payloads 0 := by
  have hc := configParse_checked h
  obtain ⟨hjumbo, hmss, hhost, hpath, hsize, hwindow, hvxlan⟩ :
      (SizeConfig.single .tcp false 0 size []).Parsed :=
    SizeConfig.single_parsed le_rfl h0 hmax
  exact ⟨⟨hjumbo, hmss, hhost, hpath, hsize, hwindow, hvxlan⟩, ⟨rfl, rfl, fun hne => absurd rfl hne⟩,
    ⟨_, h⟩, hc.protocol_eq, hc.server_eq, Nat.zero_lt_one⟩

/-- A `POST` of 100 bytes. -/
theorem hasRequest_post_hundred : ∃ cfg' payloads,
    configParse (fun _ => none) (fun _ _ => 0) (.requester .post 100) = some (cfg', payloads) ∧
      HasRequest .post 100 (payloads 0) := by
  obtain ⟨⟨cfg', payloads⟩, h⟩ : ∃ r, configParse (fun _ => none) (fun _ _ => 0)
      (.requester .post 100) = some r := ⟨_, rfl⟩
  have hclient := requester_client (by decide) (by decide) h
  obtain ⟨rfl, -⟩ := Prod.mk.inj (Option.some.inj h)
  exact ⟨_, payloads, h, (hasRequest_iff hclient (by decide)).mpr ⟨by decide, nofun⟩⟩

/-- A `GET` of 100 bytes is 99 bytes long. -/
theorem hasRequest_get_short : ∃ cfg' payloads,
    ClientOf (fun _ _ => 0) (.requester .get 100) cfg' payloads 0 ∧ cfg'.payloadSize 0 = 100 ∧
      (unpaddedLength cfg' : ℤ) ≤ 100 ∧ (payloads 0).length = 99 ∧
        ¬ HasRequest cfg'.httpMethod 100 (payloads 0) := by
  obtain ⟨⟨cfg', payloads⟩, h⟩ : ∃ r, configParse (fun _ => none) (fun _ _ => 0)
      (.requester .get 100) = some r := ⟨_, rfl⟩
  have hclient := requester_client (by decide) (by decide) h
  obtain ⟨rfl, rfl⟩ := Prod.mk.inj (Option.some.inj h)
  refine ⟨_, _, hclient, rfl, by decide, rfl, fun hreq => ?_⟩
  have hlen := hreq.length
  cases hlen

end Dperf
