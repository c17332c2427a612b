import Dperf.PayloadLengths
import Dperf.Recycled

/-!
The length of the packet templates, against the largest packet that the configuration allows.

* `initCaches`: the templates that `tcp_init` and `udp_init` build.
* `length_template`: what the pushes of a template and `vxlan_encapsulate` add up to.
* `templates_fit_iff`: an accepted configuration has no template above the limit exactly if
  VXLAN is off, or every worker leaves room for its headers.
-/

namespace Dperf.Wire

/-! ### Templates -/

/-- The templates that `tcp_init` or `udp_init` builds. -/
def initCaches (protocol : Option Protocol) : List Cache :=
  if protocol = some .tcp then [.tcp, .tcpOpt, .tcpData] else [.udp]

/-- The work space of worker `i`. -/
structure WorkerOf (cfg : SizeConfig) (payloads : ℕ → List UInt8) (i : ℕ) (w : WireSpace) :
    Prop where
  vxlan : w.ws.vxlan = cfg.vxlan
  ipv6 : w.ipv6 = cfg.ipv6
  mss : w.mss = cfg.mss.toNat.toUInt16
  data : cfg.protocol = some .tcp → w.ws.tcpData.bytes = payloads i

/-- Every template is built, and none is larger than a packet may be. -/
def TemplatesFit (rte : Rte) (cfg : SizeConfig) (payloads : ℕ → List UInt8)
    (w : ℕ → WireSpace) : Prop :=
  ∀ i < cfg.cpuNum, ∀ c ∈ initCaches cfg.protocol, ∃ bytes,
    template rte (w i) (payloads i) c = some bytes ∧ (bytes.length : ℤ) ≤ configPacketSizeMax cfg

/-- The bytes after the IP header. -/
def l4Length (w : WireSpace) (udpData : List UInt8) : Cache → ℕ
  | .tcp => 20 + (tcpOpt 0).length + 0
  | .tcpOpt => 20 + (tcpOpt w.mss).length + 0
  | .tcpData => 20 + (tcpOpt 0).length + w.ws.tcpData.bytes.length
  | .udp => 8 + udpData.length

/-- The bytes before them. -/
def l4Start (w : WireSpace) : ℕ := (if w.ws.vxlan then 50 else 0) + 14 + if w.ipv6 then 40 else 20

lemma length_ethHdr (dAddr sAddr : EthAddr) (type : UInt16) :
    (ethHdr dAddr sAddr type).length = 14 := rfl

lemma length_vxlanHeaders (rte : Rte) (w : WireSpace) (innerLen : ℕ) :
    (vxlanHeaders rte w innerLen).length = 50 := rfl

/-- A packet that is no longer than a template may be. -/
lemma length_mbufCacheInit {rte : Rte} {w : WireSpace} {protocol : UInt8} {len : UInt16}
    {rest : List UInt8} (h : l4Start w + rest.length ≤ mbufDataSize) :
    ∃ bytes, mbufCacheInit rte w (ipHeader w protocol len ++ rest) = some bytes ∧
      bytes.length = l4Start w + rest.length := by
  have hip := length_ipHeader w protocol len
  have hlen : (if w.ws.vxlan then vxlanHeaders rte w (14 + (ipHeader w protocol len ++ rest).length)
        ++ ethHdr w.vxlan.innerDmac w.vxlan.innerSmac (etherType w)
        ++ (ipHeader w protocol len ++ rest)
      else ethHdr w.gatewayMac w.localMac (etherType w) ++ (ipHeader w protocol len ++ rest)).length
        = l4Start w + rest.length := by
    rw [l4Start]
    cases w.ws.vxlan <;>
      simp only [Bool.false_eq_true, if_true, if_false, List.length_append, length_vxlanHeaders,
        length_ethHdr, hip] <;> omega
  refine ⟨_, ?_, hlen⟩
  rw [mbufCacheInit]
  exact if_pos (hlen.trans_le h)

lemma length_mbufCacheInitTcp {rte : Rte} {w : WireSpace} {mss : UInt16} {data : List UInt8}
    (h : l4Start w + (20 + (tcpOpt mss).length + data.length) ≤ mbufDataSize) :
    ∃ bytes, mbufCacheInitTcp rte w mss data = some bytes ∧
      bytes.length = l4Start w + (20 + (tcpOpt mss).length + data.length) := by
  have hrest : ∀ off : UInt8, (tcphdr off ++ (tcpOpt mss ++ data)).length =
      20 + (tcpOpt mss).length + data.length := by
    intro off
    rw [List.length_append, length_tcphdr, List.length_append, Nat.add_assoc]
  rw [mbufCacheInitTcp, List.append_assoc, List.append_assoc]
  generalize UInt8.ofNat (5 + (tcpOpt mss).length / 4) = off
  rw [← hrest off] at h ⊢
  exact length_mbufCacheInit h

lemma length_mbufCacheInitUdp {rte : Rte} {w : WireSpace} {data : List UInt8}
    (h : l4Start w + (8 + data.length) ≤ mbufDataSize) :
    ∃ bytes, mbufCacheInitUdp rte w data = some bytes ∧
      bytes.length = l4Start w + (8 + data.length) := by
  have hrest : (udphdr 0 0 (UInt16.ofNat (8 + data.length)) ++ data).length = 8 + data.length := by
    rw [List.length_append, length_udphdr]
  rw [mbufCacheInitUdp, List.append_assoc]
  generalize udphdr 0 0 (UInt16.ofNat (8 + data.length)) ++ data = rest at hrest ⊢
  rw [← hrest] at h ⊢
  exact length_mbufCacheInit h

/-- The length of a template. -/
lemma length_template {rte : Rte} {w : WireSpace} {udpData : List UInt8} {c : Cache}
    (h : l4Start w + l4Length w udpData c ≤ mbufDataSize) :
    ∃ bytes, template rte w udpData c = some bytes ∧
      bytes.length = l4Start w + l4Length w udpData c := by
  cases c with
  | tcp => exact length_mbufCacheInitTcp h
  | tcpOpt => exact length_mbufCacheInitTcp h
  | tcpData => exact length_mbufCacheInitTcp h
  | udp => exact length_mbufCacheInitUdp h

/-! ### Accepted configurations -/

section Accepted

variable {random : ℕ → ℕ → ℕ} {cfg cfg' : SizeConfig} {payloads : ℕ → List UInt8} {i : ℕ}
  {w : WireSpace}

/-- The headers of a worker's packets. -/
lemma l4Start_eq (hp : cfg.Parsed) (h : ConfigChecked random cfg cfg' payloads)
    (hw : WorkerOf cfg' payloads i w) :
    l4Start w = (if cfg.vxlans = [] then 0 else 50) + 14 + if cfg.ipv6 then 40 else 20 := by
  have h6 : w.ipv6 = cfg.ipv6 := hw.ipv6.trans (by rw [h.config])
  have hv : w.ws.vxlan = decide (cfg.vxlans ≠ []) := by
    rw [hw.vxlan, congrArg SizeConfig.vxlan h.config]
    dsimp only
    rw [hp.vxlan, Bool.false_or]
  rw [l4Start, h6, hv]
  by_cases hnone : cfg.vxlans = [] <;> simp [hnone]

/-- What `config_check_payload` leaves for the payload: all but the headers, without VXLAN. -/
lemma packetPayload_eq (hp : cfg.Parsed) :
    configPacketPayloadSize { cfg with protocol := some (cfg.protocol.getD .tcp) } =
      configPacketSizeMax cfg - (14 + (if cfg.ipv6 then 40 else 20)
        + if cfg.protocol = some .udp then 8 else 20) := by
  have hmax : configPacketSizeMax { cfg with protocol := some (cfg.protocol.getD .tcp) } =
      configPacketSizeMax cfg := rfl
  rw [configPacketPayloadSize, hmax, configPacketHeaderSize]
  dsimp only
  rw [hp.vxlan]
  by_cases hudp : cfg.protocol = some .udp
  · rw [if_neg (mt getD_tcp_iff.mp (not_not.mpr hudp)), if_pos hudp]
    simp
  · rw [if_pos (getD_tcp_iff.mpr hudp), if_neg hudp]
    simp

lemma length_tcpOpt_le (mss : UInt16) : (tcpOpt mss).length ≤ 8 := by
  rw [tcpOpt]
  split_ifs
  · exact Nat.zero_le 8
  · exact le_rfl

/-- One of the templates carries the payload, the others carry options at most. -/
lemma l4Length_cases (h : ConfigChecked random cfg cfg' payloads) (hw : WorkerOf cfg' payloads i w) :
    (∀ c ∈ initCaches cfg'.protocol, l4Length w (payloads i) c ≤ 28 ∨
      l4Length w (payloads i) c = (if cfg.protocol = some .udp then 8 else 20)
        + (payloads i).length) ∧
    ∃ c ∈ initCaches cfg'.protocol, l4Length w (payloads i) c =
      (if cfg.protocol = some .udp then 8 else 20) + (payloads i).length := by
  have hnil : (tcpOpt 0).length = 0 := rfl
  have hdata := hw.data
  rw [h.protocol_eq] at hdata ⊢
  rw [initCaches]
  by_cases hudp : cfg.protocol = some .udp
  · rw [if_neg (mt getD_tcp_iff.mp (not_not.mpr hudp)), if_pos hudp]
    simp [l4Length]
  · rw [if_pos (getD_tcp_iff.mpr hudp), if_neg hudp]
    have hbytes := hdata (getD_tcp_iff.mpr hudp)
    have hcarry : l4Length w (payloads i) .tcpData = 20 + (payloads i).length := by
      rw [l4Length, hbytes, hnil]
    refine ⟨fun c hc => ?_, .tcpData, by simp, hcarry⟩
    cases c with
    | tcp => exact .inl (by rw [l4Length, hnil]; omega)
    | tcpOpt =>
        have hle := length_tcpOpt_le w.mss
        exact .inl (by rw [l4Length]; omega)
    | tcpData => exact .inr hcarry
    | udp => simp at hc

/-- The payload fits without VXLAN, and the other templates anyhow. -/
lemma headers_add_le (hp : cfg.Parsed) (h : ConfigChecked random cfg cfg' payloads)
    (hi : i < cfg.cpuNum) (hw : WorkerOf cfg' payloads i w) {c : Cache}
    (hc : c ∈ initCaches cfg'.protocol) :
    ((l4Start w + l4Length w (payloads i) c : ℕ) : ℤ) ≤
      max (cfg.carried i) 463 + (if cfg.vxlans = [] then 0 else 50) + (configPacketSizeMax cfg -
        configPacketPayloadSize { cfg with protocol := some (cfg.protocol.getD .tcp) }) := by
  have hlen := h.length_payload hp hi
  have hcases := (l4Length_cases h hw).1 c hc
  rw [l4Start_eq hp h hw, packetPayload_eq hp]
  split_ifs at hcases ⊢ <;> omega

/-- A template that is built, and its length. -/
lemma template_built (rte : Rte) (hp : cfg.Parsed) (h : ConfigChecked random cfg cfg' payloads)
    (hi : i < cfg.cpuNum) (hw : WorkerOf cfg' payloads i w) {c : Cache}
    (hc : c ∈ initCaches cfg'.protocol) : ∃ bytes, template rte w (payloads i) c = some bytes ∧
      bytes.length = l4Start w + l4Length w (payloads i) c := by
  have hle := headers_add_le hp h hi hw hc
  have hcarried := h.carried_le hp hi
  have hmax := hp.packetSizeMax_le.2
  have hsize := packetPayload_eq hp
  refine length_template ?_
  rw [mbufDataSize]
  split_ifs at hle hsize <;> omega

end Accepted

/-- **Templates against the packet size.** The templates of an accepted configuration are at
most as large as a packet may be exactly if VXLAN is off, or what every worker carries leaves
room for the headers of VXLAN. -/
theorem templates_fit_iff (rte : Rte) {file : List UInt8 → Option (List UInt8)}
    {random : ℕ → ℕ → ℕ} {cfg cfg' : SizeConfig} {payloads : ℕ → List UInt8} (hp : cfg.Parsed)
    (h : configParse file random cfg = some (cfg', payloads)) (w : ℕ → WireSpace)
    (hw : ∀ i < cfg'.cpuNum, WorkerOf cfg' payloads i (w i)) :
    TemplatesFit rte cfg' payloads w ↔ (cfg.vxlans ≠ [] → ∀ i < cfg.cpuNum,
      cfg.carried i + vxlanHeadersSize ≤
        configPacketPayloadSize { cfg with protocol := some (cfg.protocol.getD .tcp) }) := by
  have hc := configParse_checked h
  have hcpu := hc.cpuNum_eq
  have hmax : configPacketSizeMax cfg' = configPacketSizeMax cfg := by
    rw [hc.config]
    rfl
  have hlow := hp.packetSizeMax_le.1
  rw [packetSizeMax] at hlow
  have hsize := packetPayload_eq hp
  rw [TemplatesFit, hcpu, hmax, vxlanHeadersSize]
  rw [hcpu] at hw
  constructor
  · intro hfit hv i hi
    obtain ⟨c, hcache, hl4⟩ := (l4Length_cases hc (hw i hi)).2
    obtain ⟨bytes, ht, hle⟩ := hfit i hi c hcache
    obtain ⟨_, ht', hlen⟩ := template_built rte hp hc hi (hw i hi) hcache
    obtain rfl := Option.some.inj (ht.symm.trans ht')
    -- the template with the payload is the one that decides
    rw [hlen, hl4, l4Start_eq hp hc (hw i hi), if_neg hv] at hle
    have hpay := hc.length_payload hp hi
    split_ifs at hle hsize <;> omega
  · intro hroom i hi c hcache
    obtain ⟨bytes, ht, hlen⟩ := template_built rte hp hc hi (hw i hi) hcache
    refine ⟨bytes, ht, ?_⟩
    have hle := headers_add_le hp hc hi (hw i hi) hcache
    rw [← hlen] at hle
    have hcarried := hc.carried_le hp hi
    by_cases hv : cfg.vxlans = []
    · rw [if_pos hv] at hle
      split_ifs at hsize <;> omega
    · have hfits := hroom hv i hi
      rw [if_neg hv] at hle
      split_ifs at hsize <;> omega

/-- A UDP client with one worker, in a VXLAN. -/
abbrev vxlanClient (size : ℤ) : SizeConfig := .single .udp false 0 size [(1, 1)]

lemma WireSpace.single_fixed_dip (v : Bool) (h : (WireSpace.single false false).changeDip = true) :
    v = false :=
  absurd h Bool.false_ne_true

/-- Its worker. -/
def WireSpace.singleVxlan : WireSpace :=
  { WireSpace.single false false with
    ws := { WorkSpace.single .single with vxlan := true }
    change_dip_vxlan := WireSpace.single_fixed_dip true }

lemma vxlanClient_worker {random : ℕ → ℕ → ℕ} {size : ℤ} {cfg' : SizeConfig}
    {payloads : ℕ → List UInt8} (h : ConfigChecked random (vxlanClient size) cfg' payloads)
    (i : ℕ) : WorkerOf cfg' payloads i WireSpace.singleVxlan := by
  refine ⟨?_, ?_, ?_, fun htcp => ?_⟩
  · rw [h.config]
    rfl
  · rw [h.config]
    rfl
  · rw [h.mss_eq]
    rfl
  · cases h.protocol_eq.symm.trans htcp

/-- The largest payload that leaves room for VXLAN. -/
theorem templates_fit_vxlan : ∃ cfg' payloads,
    configParse (fun _ => none) (fun _ _ => 0) (vxlanClient 1422) = some (cfg', payloads) ∧
    TemplatesFit Rte.zero cfg' payloads fun _ => WireSpace.singleVxlan := by
  obtain ⟨⟨cfg', payloads⟩, h⟩ : ∃ r, configParse (fun _ => none) (fun _ _ => 0)
      (vxlanClient 1422) = some r := ⟨_, rfl⟩
  have hp : (vxlanClient 1422).Parsed := SizeConfig.single_parsed le_rfl (by decide) (by decide)
  refine ⟨cfg', payloads, h, (templates_fit_iff Rte.zero hp h _ fun i _ =>
    vxlanClient_worker (configParse_checked h) i).mpr fun _ i _ => ?_⟩
  show (1422 : ℤ) + 50 ≤ 1472
  omega

/-- The largest payload without VXLAN is accepted with it. -/
theorem templates_exceed_vxlan : ∃ cfg' payloads, (vxlanClient 1472).Parsed ∧
    configParse (fun _ => none) (fun _ _ => 0) (vxlanClient 1472) = some (cfg', payloads) ∧
    (∀ i < cfg'.cpuNum, WorkerOf cfg' payloads i WireSpace.singleVxlan) ∧
    ¬ TemplatesFit Rte.zero cfg' payloads fun _ => WireSpace.singleVxlan := by
  obtain ⟨⟨cfg', payloads⟩, h⟩ : ∃ r, configParse (fun _ => none) (fun _ _ => 0)
      (vxlanClient 1472) = some r := ⟨_, rfl⟩
  have hp : (vxlanClient 1472).Parsed := SizeConfig.single_parsed le_rfl (by decide) (by decide)
  have hc := configParse_checked h
  have hw := vxlanClient_worker hc
  have hcpu : cfg'.cpuNum = 1 := hc.cpuNum_eq
  refine ⟨cfg', payloads, hp, h, fun i _ => hw i, fun hfit => ?_⟩
  have hcache : Cache.udp ∈ initCaches cfg'.protocol := by
    rw [hc.protocol_eq]
    exact List.mem_singleton.mpr rfl
  obtain ⟨bytes, ht, hle⟩ := hfit 0 (by omega) .udp hcache
  obtain ⟨_, ht', hlen⟩ := template_built Rte.zero hp hc (i := 0) (by decide) (hw 0) hcache
  obtain rfl := Option.some.inj (ht.symm.trans ht')
  have hmax : configPacketSizeMax cfg' = 1514 := by
    rw [hc.config]
    rfl
  have hstart : l4Start WireSpace.singleVxlan = 84 := rfl
  have hcarried : (vxlanClient 1472).carried 0 = 1472 := rfl
  have hpay := hc.length_payload hp (i := 0) (by decide)
  rw [hlen, hmax, hstart, l4Length] at hle
  omega

end Dperf.Wire
