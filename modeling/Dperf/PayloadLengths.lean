import Dperf.Payloads

/-!
How long the payloads of an accepted configuration are.

* `SizeConfig.carried`: what a packet carries of the size that is configured.
* `ConfigChecked.length_payload`: the length of a payload is that, or small.
* `httpSetPayloadServer_large`: the text of a server, as header and body.
-/

namespace Dperf

/-! ### Lengths -/

lemma length_ascii (s : String) : (ascii s).length = s.toList.length := by
  rw [ascii, List.length_map]

lemma length_formatInt {width k : ℕ} {n : ℤ} (h0 : 0 ≤ n) (hn : n < 10 ^ k) (hk : 0 < k)
    (hle : k ≤ width) : (formatInt width n).length = width := by
  have hdigits : (Nat.toDigits 10 n.natAbs).length ≤ k := by
    rw [Nat.length_toDigits_le_iff (by omega) hk]
    zify
    rwa [abs_of_nonneg h0]
  rw [formatInt, if_neg (not_lt.mpr h0), List.nil_append, List.length_append, List.length_replicate,
    List.length_map]
  omega

lemma length_configSetPayload (random : ℕ → ℕ) (cfg : SizeConfig) (len : ℤ) (newLine : Bool) :
    (configSetPayload random cfg len newLine).length = len.toNat := by
  rw [configSetPayload]
  split_ifs <;> simp

lemma length_httpGetFormat (path host : List UInt8) :
    (httpGetFormat path host).length = 79 + path.length + host.length := by
  simp only [httpGetFormat, List.length_append, length_ascii]
  simp
  omega

lemma length_httpPostFormat {n : ℤ} (h0 : 0 ≤ n) (hn : n < 10 ^ 4) (path host body : List UInt8) :
    (httpPostFormat path n host body).length =
      79 + path.length + host.length + body.length := by
  simp only [httpPostFormat, List.length_append, length_ascii,
    length_formatInt h0 hn (by omega) le_rfl]
  simp
  omega

lemma length_httpRspHeader {n : ℤ} (h0 : 0 ≤ n) (hn : n < 10 ^ 11) :
    (httpRspHeader n).length = 85 := by
  simp only [httpRspHeader, List.length_append, length_ascii,
    length_formatInt h0 hn (by omega) le_rfl]
  simp

lemma snprintf_eq {text : List UInt8} (h : text.length < mbufDataSize) : snprintf text = text :=
  List.take_of_length_le (by omega)

/-! ### What an accepted configuration sends -/

/-- What a packet of worker `i` carries of its size: a server cuts it at the segment size, and
the padding of a `GET` takes the place of the default path. -/
def SizeConfig.carried (cfg : SizeConfig) (i : ℕ) : ℤ :=
  if cfg.protocol = some .udp then cfg.sizeOf i
  else if cfg.server then min (cfg.sizeOf i) cfg.mssOrMax
  else match cfg.httpMethod with
    | .get => cfg.sizeOf i - 1
    | .post => cfg.sizeOf i

namespace SizeConfig.Parsed

variable {cfg : SizeConfig} (hp : cfg.Parsed)

include hp

/-- A segment of the largest size fits. -/
lemma mssMax_eq : mssMax cfg = configPacketPayloadSize { cfg with protocol := some .tcp } := by
  have hv := hp.vxlan
  rw [mssMax, configPacketPayloadSize, configPacketSizeMax, configPacketHeaderSize, jumboPktSize]
  cases cfg.jumbo <;> cases cfg.ipv6 <;> simp [hv] <;> ring

lemma packetSizeMax_le : packetSizeMax ≤ configPacketSizeMax cfg ∧
    configPacketSizeMax cfg ≤ 9724 := by
  rw [configPacketSizeMax, jumboPktSize, packetSizeMax]
  split_ifs with hj
  · have h := hp.jumboMtu hj
    omega
  · omega

lemma mssOrMax_bounds (hle : cfg.mss ≤ mssMax cfg) :
    0 < cfg.mssOrMax ∧ cfg.mssOrMax ≤ mssMax cfg ∧ mssMax cfg ≤ 9670 := by
  have hmss := hp.mss
  have hmax : 0 < mssMax cfg ∧ mssMax cfg ≤ 9670 := by
    rw [mssMax, packetSizeMax]
    cases hj : cfg.jumbo with
    | true =>
        have h := hp.jumboMtu hj
        simp only [if_true]
        split_ifs <;> omega
    | false =>
        simp only [Bool.false_eq_true, if_false]
        split_ifs <;> omega
  rw [mssOrMax]
  split_ifs <;> omega

lemma sizeOf_bounds (i : ℕ) : 0 ≤ cfg.sizeOf i ∧ cfg.sizeOf i ≤ payloadSizeMax := by
  rw [sizeOf]
  split_ifs
  · exact hp.payloadSize i
  · exact hp.payloadSize 0

end SizeConfig.Parsed

/-- A rounded size: at least two segments, less than one more than asked for. -/
lemma roundedSize_of_lt {mss size : ℤ} (h0 : 0 < mss) (h : mss < size) :
    mss ∣ roundedSize mss size ∧ 2 * mss ≤ roundedSize mss size ∧
      roundedSize mss size < size + mss := by
  rw [roundedSize, if_pos h]
  have hdiv := Int.mul_ediv_add_emod (size + mss - 1) mss
  have hmod := Int.emod_nonneg (size + mss - 1) h0.ne'
  have hlt := Int.emod_lt_of_pos (size + mss - 1) h0
  have htwo : 2 ≤ (size + mss - 1) / mss := Int.le_ediv_of_mul_le h0 (by omega)
  refine ⟨Dvd.intro_left _ rfl, mul_le_mul_of_nonneg_right htwo h0.le, ?_⟩
  rw [mul_comm]
  omega

/-- The text of a server, but for a size of a few bytes: the header with the length of the
rest, and the rest, up to one segment. -/
lemma httpSetPayloadServer_large (random : ℕ → ℕ) (cfg : SizeConfig) {size : ℤ}
    (h85 : httpDataMinSize ≤ size) (hmax : size < 10 ^ 11) (hlt : min cfg.mss size < 10240) :
    ∃ body, httpSetPayloadServer random cfg size =
        httpRspHeader (size - httpDataMinSize) ++ body ∧
      (body.length : ℤ) = max (min cfg.mss size - httpDataMinSize) 0 := by
  rw [httpDataMinSize] at *
  have hheader := length_httpRspHeader (n := size - 85) (by omega) (by omega)
  have hmin : (if cfg.mss < size then cfg.mss else size) = min cfg.mss size := by
    split_ifs <;> omega
  have hbody : ((if 0 < min cfg.mss size - 85 then
      configSetPayload random cfg (min cfg.mss size - 85) true else []).length : ℤ) =
        max (min cfg.mss size - 85) 0 := by
    split_ifs with hpos
    · rw [length_configSetPayload]
      omega
    · simp
      omega
  rw [httpSetPayloadServer, if_neg (by omega), if_neg (by rw [httpDataMinSize]; omega)]
  dsimp only
  rw [httpDataMinSize, hmin]
  refine ⟨_, snprintf_eq ?_, hbody⟩
  rw [List.length_append, hheader, mbufDataSize]
  omega

/-- The text of a server: one segment, or all of a size that fits in one, or a short text. -/
lemma length_httpSetPayloadServer (random : ℕ → ℕ) {cfg : SizeConfig} {mss size : ℤ}
    (hmss : cfg.mss = mss) (h0 : 0 < mss) (hlt : mss < 10000) (hsize : 0 ≤ size)
    (hmax : size ≤ payloadSizeMax) :
    ((httpSetPayloadServer random cfg (roundedSize mss size)).length : ℤ) = min size mss ∨
      (httpSetPayloadServer random cfg (roundedSize mss size)).length ≤ 463 ∧
        min size mss ≤ 463 := by
  have hround : mss < size ∧ 2 * mss ≤ roundedSize mss size ∧
      roundedSize mss size < size + mss ∨ size ≤ mss ∧ roundedSize mss size = size := by
    by_cases hbig : mss < size
    · obtain ⟨-, htwo, hless⟩ := roundedSize_of_lt h0 hbig
      exact .inl ⟨hbig, htwo, hless⟩
    · exact .inr ⟨not_lt.mp hbig, if_neg hbig⟩
  generalize roundedSize mss size = r at hround ⊢
  rw [payloadSizeMax] at hmax
  obtain hzero | hsmall | hlarge : r ≤ 0 ∨ 0 < r ∧ r < 85 ∨ 85 ≤ r := by omega
  · have hlen : (httpSetPayloadServer random cfg r).length = 99 := by
      rw [httpSetPayloadServer, if_pos hzero]
      rfl
    exact .inr ⟨by omega, by omega⟩
  · have hlen : (httpSetPayloadServer random cfg r).length = r.toNat := by
      rw [httpSetPayloadServer, if_neg (by omega), if_pos (by rw [httpDataMinSize]; omega),
        length_configSetPayload]
    exact .inr ⟨by omega, by omega⟩
  · obtain ⟨body, htext, hbody⟩ := httpSetPayloadServer_large random cfg hlarge
      (by omega) (by omega)
    have hheader := length_httpRspHeader (n := r - httpDataMinSize) (by rw [httpDataMinSize]; omega)
      (by rw [httpDataMinSize]; omega)
    rw [hmss, httpDataMinSize] at hbody
    rw [htext, List.length_append, hheader]
    by_cases hpos : 85 ≤ min mss r
    · exact .inl (by omega)
    · exact .inr ⟨by omega, by omega⟩

/-- The text of a client: what `carried` says, or only the header. -/
lemma length_httpSetPayloadClient (random : ℕ → ℕ) {cfg : SizeConfig} {size : ℤ}
    (hlt : size < 10000) (hhost : cfg.httpHost.length < 128) (hpath : cfg.httpPath.length < 256)
    (hget : cfg.httpMethod = .get → size ≠ 0 → cfg.httpPath = httpPathDefault) :
    ((httpSetPayloadClient random cfg size).length : ℤ) =
        (match cfg.httpMethod with
          | .get => size - 1
          | .post => size) ∨
      (httpSetPayloadClient random cfg size).length ≤ 463 ∧ size ≤ 463 := by
  have hhostlen : (httpHostDefault.length : ℤ) = 5 := rfl
  have hpathlen : (httpPathDefault.length : ℤ) = 1 := rfl
  rw [httpSetPayloadClient]
  dsimp only
  rw [hhostlen, hpathlen, httpDataMinSize]
  generalize hpad : max (size - 85 - (↑cfg.httpPath.length + ↑cfg.httpHost.length - 5 - 1)) 0 = pad
  have hbuf := length_configSetPayload random cfg pad false
  by_cases hzero : size ≤ 0
  · rw [if_pos hzero]
    refine .inr ⟨?_, by omega⟩
    cases cfg.httpMethod with
    | get =>
        have hlen := length_httpGetFormat cfg.httpPath cfg.httpHost
        dsimp only
        rw [snprintf_eq (by rw [hlen, mbufDataSize]; omega), hlen]
        omega
    | post =>
        have hlen := length_httpPostFormat (n := 0) le_rfl (by omega) cfg.httpPath cfg.httpHost []
        dsimp only
        rw [snprintf_eq (by rw [hlen, mbufDataSize, List.length_nil]; omega), hlen, List.length_nil]
        omega
  rw [if_neg hzero]
  by_cases hsmall : size < 85
  · rw [if_pos hsmall, length_configSetPayload]
    exact .inr ⟨by omega, by omega⟩
  rw [if_neg hsmall]
  cases hm : cfg.httpMethod with
  | get =>
      have hone : (cfg.httpPath.length : ℤ) = 1 := by
        rw [hget hm (by omega)]
        rfl
      have hlen := length_httpGetFormat (0x2f :: (configSetPayload random cfg pad false).tail)
        cfg.httpHost
      rw [List.length_cons, List.length_tail, hbuf] at hlen
      dsimp only
      rw [snprintf_eq (by rw [hlen, mbufDataSize]; omega), hlen]
      by_cases hpos : 0 < pad
      · exact .inl (by omega)
      · exact .inr ⟨by omega, by omega⟩
  | post =>
      have hlen := length_httpPostFormat (n := pad) (by omega) (by omega) cfg.httpPath cfg.httpHost
        (configSetPayload random cfg pad false)
      rw [hbuf] at hlen
      dsimp only
      rw [snprintf_eq (by rw [hlen, mbufDataSize]; omega), hlen]
      by_cases hpos : 0 < pad
      · exact .inl (by omega)
      · exact .inr ⟨by omega, by omega⟩

/-- TCP is the default. -/
lemma getD_tcp_iff {p : Option Protocol} : some (p.getD .tcp) = some .tcp ↔ p ≠ some .udp := by
  cases p with
  | none => simp
  | some p => cases p <;> simp

namespace ConfigChecked

variable {random : ℕ → ℕ → ℕ} {cfg cfg' : SizeConfig} {payloads : ℕ → List UInt8}

lemma protocol_eq (h : ConfigChecked random cfg cfg' payloads) :
    cfg'.protocol = some (cfg.protocol.getD .tcp) := congrArg SizeConfig.protocol h.config

lemma server_eq (h : ConfigChecked random cfg cfg' payloads) : cfg'.server = cfg.server := by
  rw [h.config]

lemma mss_eq (h : ConfigChecked random cfg cfg' payloads) : cfg'.mss = cfg.mssOrMax :=
  congrArg SizeConfig.mss h.config

lemma cpuNum_eq (h : ConfigChecked random cfg cfg' payloads) : cfg'.cpuNum = cfg.cpuNum := by
  rw [h.config]

lemma method_eq (h : ConfigChecked random cfg cfg' payloads) :
    cfg'.httpMethod = cfg.httpMethod := by
  rw [h.config]

/-- The sizes of the other workers than those of a TCP server, within a packet. -/
lemma sizeOf_le (h : ConfigChecked random cfg cfg' payloads) (hp : cfg.Parsed)
    (hs : ¬ cfg'.TcpServer) {i : ℕ} (hi : i < cfg.cpuNum) : cfg'.payloadSize i = cfg.sizeOf i ∧
      cfg.sizeOf i < 10000 := by
  obtain ⟨heq, hle⟩ := h.kept hs i hi
  refine ⟨heq, hle.trans_lt ?_⟩
  have hmax := (hp.packetSizeMax_le).2
  have hsize : configPacketSizeMax { cfg with protocol := some (cfg.protocol.getD .tcp) } =
      configPacketSizeMax cfg := rfl
  rw [configPacketPayloadSize, hsize, configPacketHeaderSize, vxlanHeadersSize]
  split_ifs <;> omega

/-- The length of a payload is what its packet carries, or small as it is. -/
theorem length_payload (h : ConfigChecked random cfg cfg' payloads) (hp : cfg.Parsed) {i : ℕ}
    (hi : i < cfg.cpuNum) : ((payloads i).length : ℤ) = cfg.carried i ∨
      (payloads i).length ≤ 463 ∧ cfg.carried i ≤ 463 := by
  obtain ⟨hsize0, hsizemax⟩ := hp.sizeOf_bounds i
  obtain ⟨hmss0, hmss, hmssmax⟩ := hp.mssOrMax_bounds h.mss_le
  have hpay : payloads i = if cfg'.protocol = some .tcp then httpSetPayload (random i) cfg' none i
      else udpSetPayload (random i) cfg' none i := congrFun h.payloads i
  by_cases hudp : cfg.protocol = some .udp
  · have hprot : cfg'.protocol = some .udp := by rw [h.protocol_eq, hudp, Option.getD_some]
    have hno : ¬ cfg'.TcpServer := fun hs => by cases hs.1.symm.trans hprot
    rw [hpay, hprot, if_neg (by simp), udpSetPayload, length_configSetPayload,
      (h.kept hno i hi).1, SizeConfig.carried, if_pos hudp]
    exact .inl (by omega)
  have hprot : cfg'.protocol = some .tcp := h.protocol_eq.trans (getD_tcp_iff.mpr hudp)
  rw [hpay, if_pos hprot, httpSetPayload, SizeConfig.carried, if_neg hudp, h.server_eq]
  by_cases hserver : cfg.server = true
  · have hs : cfg'.TcpServer := ⟨hprot, h.server_eq.trans hserver⟩
    rw [if_pos hserver, if_pos hserver, h.rounded hs i hi]
    exact length_httpSetPayloadServer _ h.mss_eq hmss0 (by omega) hsize0 hsizemax
  · have hno : ¬ cfg'.TcpServer := fun hs => hserver (h.server_eq.symm.trans hs.2)
    obtain ⟨heq, hlt⟩ := h.sizeOf_le hp hno hi
    rw [Bool.not_eq_true] at hserver
    have hhost : cfg'.httpHost.length < 128 := by
      have hlen := hp.httpHost
      rw [congrArg SizeConfig.httpHost h.config]
      dsimp only
      split_ifs
      · exact hlen
      · decide
    have hpath : cfg'.httpPath.length < 256 := by
      have hlen := hp.httpPath
      rw [congrArg SizeConfig.httpPath h.config]
      dsimp only
      split_ifs
      · exact hlen
      · decide
    have hget : cfg'.httpMethod = .get → cfg.sizeOf i ≠ 0 → cfg'.httpPath = httpPathDefault := by
      intro hm hne
      rw [h.one_size hserver] at hne
      have hnil := h.get_path hserver (h.method_eq.symm.trans hm) hne
      rw [congrArg SizeConfig.httpPath h.config]
      exact if_neg (not_not.mpr hnil)
    have hlen := length_httpSetPayloadClient (random i) hlt hhost hpath hget
    rw [if_neg (by simp [hserver]), if_neg (by simp [hserver]), heq, ← h.method_eq]
    refine hlen.imp id fun hsmall => ⟨hsmall.1, ?_⟩
    have hle := hsmall.2
    cases cfg'.httpMethod <;> dsimp only <;> omega

/-- Without the headers of VXLAN it fits. -/
lemma carried_le (h : ConfigChecked random cfg cfg' payloads) (hp : cfg.Parsed) {i : ℕ}
    (hi : i < cfg.cpuNum) : cfg.carried i ≤ configPacketPayloadSize
      { cfg with protocol := some (cfg.protocol.getD .tcp) } := by
  by_cases hs : cfg'.TcpServer
  · have hudp : cfg.protocol ≠ some .udp := getD_tcp_iff.mp (h.protocol_eq.symm.trans hs.1)
    rw [SizeConfig.carried, if_neg hudp, if_pos (h.server_eq.symm.trans hs.2),
      getD_tcp_iff.mpr hudp, ← hp.mssMax_eq]
    exact (min_le_right _ _).trans (hp.mssOrMax_bounds h.mss_le).2.1
  · have hle := (h.kept hs i hi).2
    refine le_trans ?_ hle
    rw [SizeConfig.carried]
    split_ifs with hudp hserver
    · exact le_rfl
    · exact min_le_left _ _
    · cases cfg.httpMethod <;> dsimp only <;> omega

end ConfigChecked

/-- A configuration with one worker, and IPv4 without jumbo frames. -/
def SizeConfig.single (protocol : Protocol) (server : Bool) (mss size : ℤ)
    (vxlans : List (ℕ × ℕ)) : SizeConfig where
  protocol := some protocol
  server := server
  ipv6 := false
  jumbo := false
  jumboMtu := 0
  mss := mss
  http := false
  httpMethod := .get
  httpHost := []
  httpPath := []
  statsHttp := false
  payloadPath := []
  payloadRandom := false
  payloadSize := fun i => if i = 0 then size else 0
  sendWindow := 0
  cpuNum := 1
  ports := [1]
  vxlans := vxlans
  vxlan := false

lemma SizeConfig.single_parsed {protocol : Protocol} {server : Bool} {mss size : ℤ}
    {vxlans : List (ℕ × ℕ)} (hmss : 0 ≤ mss) (h0 : 0 ≤ size) (hmax : size ≤ payloadSizeMax) :
    (SizeConfig.single protocol server mss size vxlans).Parsed := by
  refine ⟨nofun, hmss, Nat.zero_lt_succ 127, Nat.zero_lt_succ 255, fun i => ?_, .inl rfl, rfl⟩
  show 0 ≤ (if i = 0 then size else 0) ∧ (if i = 0 then size else 0) ≤ payloadSizeMax
  rw [payloadSizeMax] at *
  split_ifs <;> omega

end Dperf
