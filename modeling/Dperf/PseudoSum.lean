import Dperf.SoftCsum

/-!
The checksum of a packet after `tcp_change_dip` or `udp_change_dip`, for a device that completes
it: it has to be the sum of the pseudo header.

* `csumInitPseudo`: the sum that a socket keeps for its packets, from `csum.c`.
* `changeDip_modEq`: the update takes the words of both addresses off, although the new ones have
  to be added.
* `newPacket_pseudo_iff`: when the checksum is right all the same.
-/

namespace Dperf.Wire

open Memory OnesComplement

/-! ### `csum.c` -/

/-- `csum_pseudo_ipv4`. -/
def csumPseudoIpv4 (proto : UInt8) (sip dip : UInt32) (len : UInt16) : UInt16 :=
  let csum : UInt32 := (sip &&& (0xFFFF : UInt32)) + (sip >>> (16 : UInt32))
  let csum : UInt32 := csum + ((dip &&& (0xFFFF : UInt32)) + (dip >>> (16 : UInt32)))
  let csum : UInt32 := csum + (proto.toUInt32 <<< (8 : UInt32))
  let csum : UInt32 := csum + (htons len).toUInt32
  let csum : UInt32 := (csum &&& (0xFFFF : UInt32)) + (csum >>> (16 : UInt32))
  let csum : UInt32 := (csum &&& (0xFFFF : UInt32)) + (csum >>> (16 : UInt32))
  csum.toUInt16

/-- `csum_pseudo_ipv6`; `raw` is `rte_raw_cksum`. -/
def csumPseudoIpv6 (raw : List UInt8 → UInt16) (proto : UInt8) (saddr daddr : In6Addr)
    (len : UInt16) : UInt16 :=
  raw (saddr.bytes ++ daddr.bytes ++ [0, proto] ++ le16 (htons len))

/-- `L4_DATA_LEN` of a cache with the template `bytes`: what follows the IP header. -/
def l4DataLen (w : WireSpace) (bytes : List UInt8) : UInt16 := UInt16.ofNat (bytes.length - l4 w)

/-- The sum for the packets of a cache, in `csum_init_pseudo_ipv4` and `csum_init_pseudo_ipv6`;
`tcp` is the template of `ws->tcp`, which is `ws->udp` as well. -/
def csumPseudo (raw : List UInt8 → UInt16) (w : WireSpace) (sk : Socket) (proto : UInt8)
    (tcp bytes : List UInt8) : UInt16 :=
  if w.ipv6 then
    let laddr := { getSrc (image tcp) 14 with w3 := htonl sk.laddr }
    let faddr := { getDst (image tcp) 14 with w3 := htonl sk.faddr }
    csumPseudoIpv6 raw proto laddr faddr (l4DataLen w bytes)
  else csumPseudoIpv4 proto (htonl sk.laddr) (htonl sk.faddr) (l4DataLen w bytes)

/-- `csum_init_pseudo`. -/
def csumInitPseudo (raw : List UInt8 → UInt16) (w : WireSpace) (sk : Socket) (protocol : UInt8)
    (templates : Cache → List UInt8) : Csums :=
  if protocol = 6 then
    { ip := 0, ipOpt := 0, ipData := 0, udp := 0
      tcp := csumPseudo raw w sk protocol (templates .tcp) (templates .tcp)
      tcpOpt := csumPseudo raw w sk protocol (templates .tcp) (templates .tcpOpt)
      tcpData := csumPseudo raw w sk protocol (templates .tcp) (templates .tcpData) }
  else
    { ip := 0, ipOpt := 0, ipData := 0, tcp := 0, tcpOpt := 0, tcpData := 0
      udp := csumPseudo raw w sk protocol (templates .udp) (templates .udp) }

/-- `rte_raw_cksum` returns the one's complement sum of its words. -/
def RawSum (raw : List UInt8 → UInt16) : Prop :=
  ∀ bs, (raw bs).toNat ≡ listSum 0 bs [MOD 65535]

/-! ### Sums of addresses -/

/-- The sum of the words of the upper 96 bits of an address. -/
def In6Addr.prefixWords (a : In6Addr) : ℕ := words a.w0 + words a.w1 + words a.w2

/-- The sum of the words of an address. -/
def In6Addr.words (a : In6Addr) : ℕ := a.prefixWords + Wire.words a.w3

/-- What a pseudo header has beside the addresses. -/
def pseudoRest (proto : UInt8) (len : UInt16) : ℕ := 256 * proto.toNat + (htons len).toNat

lemma In6Addr.words_w3 (a : In6Addr) (v : UInt32) :
    In6Addr.words { a with w3 := v } = a.prefixWords + Wire.words v := rfl

lemma listSum_bytes {d : ℕ} (h : d % 2 = 0) (a : In6Addr) : listSum d a.bytes = a.words := by
  rw [In6Addr.bytes, listSum_append, listSum_append, listSum_append, listSum_le32 h,
    listSum_le32 (by simp; omega), listSum_le32 (by simp; omega), listSum_le32 (by simp; omega)]
  rfl

lemma wordSum_addr (m : Mem) (off : ℕ) : wordSum m off 16 =
    In6Addr.words ⟨get32 m off, get32 m (off + 4), get32 m (off + 8), get32 m (off + 12)⟩ := by
  rw [show 16 = 4 + 4 + 4 + 4 from rfl, wordSum_add m off rfl, wordSum_add m off rfl,
    wordSum_add m off rfl, wordSum_get32, wordSum_get32, wordSum_get32, wordSum_get32]
  rfl

lemma csumPseudoIpv4_modEq (proto : UInt8) (sip dip : UInt32) (len : UInt16) :
    (csumPseudoIpv4 proto sip dip len).toNat ≡ words sip + words dip + pseudoRest proto len
      [MOD 65535] := by
  have hwords : ∀ v : UInt32,
      ((v &&& (0xFFFF : UInt32)) + (v >>> (16 : UInt32))).toNat = words v ∧
        words v ≤ 2 * 65535 := by
    intro v
    have hv := v.toNat_lt
    rw [UInt32.toNat_add, toNat_and_mask, toNat_shift, words]
    omega
  obtain ⟨hsip, hsipLe⟩ := hwords sip
  obtain ⟨hdip, hdipLe⟩ := hwords dip
  have hp := proto.toNat_lt
  have hproto : (proto.toUInt32 <<< (8 : UInt32)).toNat = 256 * proto.toNat := by
    rw [UInt32.toNat_shiftLeft, UInt8.toNat_toUInt32, Nat.shiftLeft_eq]
    change proto.toNat * 2 ^ 8 % 2 ^ 32 = _
    omega
  have hl := (htons len).toNat_lt
  -- six words do not overflow 32 bits
  have hsum : ((sip &&& (0xFFFF : UInt32)) + (sip >>> (16 : UInt32))
      + ((dip &&& (0xFFFF : UInt32)) + (dip >>> (16 : UInt32)))
      + (proto.toUInt32 <<< (8 : UInt32)) + (htons len).toUInt32).toNat =
      words sip + words dip + pseudoRest proto len := by
    rw [pseudoRest, UInt32.toNat_add, UInt32.toNat_add, UInt32.toNat_add, hsip, hdip, hproto,
      UInt16.toNat_toUInt32]
    omega
  rw [csumPseudoIpv4]
  generalize (sip &&& (0xFFFF : UInt32)) + (sip >>> (16 : UInt32))
      + ((dip &&& (0xFFFF : UInt32)) + (dip >>> (16 : UInt32)))
      + (proto.toUInt32 <<< (8 : UInt32)) + (htons len).toUInt32 = csum at hsum ⊢
  have hsmall : csum.toNat < 2 ^ 31 := by
    rw [hsum, pseudoRest]
    omega
  calc _ = onesSum csum.toNat := toNat_fold_fold csum hsmall
    _ ≡ csum.toNat [MOD 65535] := onesSum_modEq _
    _ = words sip + words dip + pseudoRest proto len := hsum

lemma csumPseudoIpv6_modEq {raw : List UInt8 → UInt16} (hraw : RawSum raw) (proto : UInt8)
    (saddr daddr : In6Addr) (len : UInt16) :
    (csumPseudoIpv6 raw proto saddr daddr len).toNat ≡
      saddr.words + daddr.words + pseudoRest proto len [MOD 65535] := by
  have hsaddr : saddr.bytes.length = 16 := rfl
  have hdaddr : daddr.bytes.length = 16 := rfl
  have hproto : listSum 32 [0, proto] = 256 * proto.toNat := by
    have happend := listSum_append 32 [0] [proto]
    rw [List.length_singleton, listSum_singleton (d := 32 + 1) rfl] at happend
    have hzero : listSum 32 [0] = 0 := rfl
    rw [hzero, Nat.zero_add] at happend
    exact happend
  have hlen : (saddr.bytes ++ daddr.bytes ++ [0, proto]).length = 34 := rfl
  have hsum : listSum 0 (saddr.bytes ++ daddr.bytes ++ [0, proto] ++ le16 (htons len)) =
      saddr.words + daddr.words + pseudoRest proto len := by
    rw [listSum_append, hlen, listSum_append, listSum_append, listSum_bytes rfl, hsaddr,
      listSum_bytes rfl, List.length_append, hsaddr, hdaddr, hproto, listSum_le16 rfl, pseudoRest,
      Nat.add_assoc]
  rw [← hsum]
  exact hraw _

/-- The update of an IPv6 address takes the words of both values off. -/
lemma csumUpdateU128_modEq (ocsum : UInt16) (oval nval : In6Addr) :
    (csumUpdateU128 ocsum oval nval).toNat + (oval.words + nval.words) ≡ ocsum.toNat
      [MOD 65535] := by
  have h0 := csumUpdateU32_modEq ocsum oval.w0 nval.w0
  have h1 := csumUpdateU32_modEq (csumUpdateU32 ocsum oval.w0 nval.w0) oval.w1 nval.w1
  have h2 := csumUpdateU32_modEq (csumUpdateU32 (csumUpdateU32 ocsum oval.w0 nval.w0) oval.w1
    nval.w1) oval.w2 nval.w2
  have h3 := csumUpdateU32_modEq (csumUpdateU32 (csumUpdateU32 (csumUpdateU32 ocsum oval.w0
    nval.w0) oval.w1 nval.w1) oval.w2 nval.w2) oval.w3 nval.w3
  rw [csumUpdateU128, In6Addr.words, In6Addr.words, In6Addr.prefixWords, In6Addr.prefixWords]
  rw [Nat.ModEq] at h0 h1 h2 h3 ⊢
  omega

/-- A sum that both addresses are taken off, compared with the sum that has the new one in the
place of the one before. -/
lemma updated_iff {field sum src rest before old new : ℕ}
    (hfield : field + (old + new) ≡ sum [MOD 65535])
    (hsum : sum ≡ src + before + rest [MOD 65535]) :
    field ≡ src + new + rest [MOD 65535] ↔ before ≡ old + 2 * new [MOD 65535] := by
  rw [Nat.ModEq] at hfield hsum ⊢
  rw [Nat.ModEq]
  omega

lemma modEq_add_double_iff {old new : ℕ} :
    old ≡ old + 2 * new [MOD 65535] ↔ new ≡ 0 [MOD 65535] := by
  constructor
  · intro h
    have hdouble : 2 * new ≡ 2 * 0 [MOD 65535] := (Nat.ModEq.add_left_cancel' old h).symm
    exact Nat.ModEq.cancel_left_of_coprime (by decide) hdouble
  · exact fun h => ((h.mul_left 2).add_left old).symm

/-! ### The packet -/

section Packet

variable {c : Cache} {w : WireSpace} {bytes : List UInt8} {h : List Build} {b : Build} {m : Mem}

/-- What is built over a template has its length and its protocol. -/
lemma Stained.outgoing {rte : Rte} {udpData : List UInt8}
    (ht : template rte w udpData c = some bytes) (hs : Stained c w bytes h m) :
    Outgoing (outerIpv6 w) (outerUdp w c) (bytes.length - outerL4 (outerIpv6 w)) m := by
  refine (template_outgoing ht).congr (hs.kept.mono fun i hi => ?_)
  have hlen := (template_holds ht).lt_length
  have hfields := Set.disjoint_left.mp (disjoint_headerFields (c := c)) hi
  refine ⟨⟨Nat.zero_le i, ?_⟩, fun hmem => hmem.elim hfields fun hdip => ?_⟩
  · split_ifs at hi <;> simp only [Set.mem_union, Set.mem_Ico] at hi <;> omega
  · unfold dipFields at hdip
    by_cases hd : w.changeDip = true
    · rw [outerIpv6, w.change_dip_vxlan hd] at hi
      rw [if_pos hd] at hdip
      cases h6 : w.ipv6 <;> rw [h6] at hi hdip <;>
        simp only [Bool.not_false, Bool.true_and, if_true, if_false, Bool.false_eq_true,
          Set.mem_union, Set.mem_Ico] at hi hdip <;> omega
    · rw [if_neg hd] at hdip
      exact hdip

/-- The addresses of a pseudo header. -/
def addrWords (ipv6 : Bool) (m : Mem) : ℕ :=
  if ipv6 then (getSrc m 14).words + (getDst m 14).words
  else words (get32 m 26) + words (get32 m 30)

lemma Outgoing.outerPseudo_eq {ipv6 udp : Bool} {n : ℕ} (h : Outgoing ipv6 udp n m) :
    outerPseudo ipv6 m =
      addrWords ipv6 m + pseudoRest (if udp then 17 else 6) (UInt16.ofNat n) := by
  have hl4 := h.l4Len
  have hlen := h.len
  have hproto := h.protocol
  rw [outerPseudo, addrWords, pseudoRest]
  cases ipv6
  · simp only [if_false, Bool.false_eq_true] at hl4 hlen hproto ⊢
    have haddrs : wordSum m 26 8 = words (get32 m 26) + words (get32 m 30) := by
      rw [show 8 = 4 + 4 from rfl, wordSum_add m 26 rfl, wordSum_get32, wordSum_get32]
      rfl
    rw [pseudo4, hl4, hproto, haddrs, Nat.add_assoc]
  · simp only [if_true] at hl4 hlen hproto ⊢
    have haddrs : wordSum m 22 32 = (getSrc m 14).words + (getDst m 14).words := by
      rw [show 32 = 16 + 16 from rfl, wordSum_add m 22 rfl, wordSum_addr, wordSum_addr]
      rfl
    rw [pseudo6, hlen, hproto, haddrs, Nat.add_assoc]

lemma getDst_put (m : Mem) (a : In6Addr) : getDst (put m 38 a.bytes) 14 = a := by
  obtain ⟨a0, a1, a2, a3⟩ := a
  rw [getDst, In6Addr.mk.injEq]
  refine ⟨?_, ?_, ?_, ?_⟩
  all_goals exact get32_of_bytes fun i hi => by interval_cases i <;> rfl

lemma getDst_put_ne (m : Mem) {off : ℕ} (h : 54 ≤ off) (bs : List UInt8) :
    getDst (put m off bs) 14 = getDst m 14 := by
  rw [getDst, get32_put_ne (.inl (by omega)), get32_put_ne (.inl (by omega)),
    get32_put_ne (.inl (by omega)), get32_put_ne (.inl (by omega)), ← getDst]

section ChangedDip

variable (hT : Holds c w bytes) (hd : w.changeDip = true)

include hT hd

/-- The addresses of an IPv4 packet, and its checksum. -/
lemma Stained.addrs_v4 (h4 : w.ipv6 = false) (hs : Stained c w bytes h m) :
    get32 (newPacket c w b m) 26 = htonl b.sk.laddr ∧ get32 (newPacket c w b m) 30 = b.dip.w3 ∧
      get16 (newPacket c w b m) (34 + c.sumOff) =
        csumUpdateU32 (sum c w b) (htonl b.sk.faddr) b.dip.w3 := by
  have hl4 : l4 w = 34 := by
    rw [(hT.room hd).2, h4]
    rfl
  have hladdr := headers_laddr c w b m
  have hfaddr := headers_faddr c w b m
  have hsum := headers_sum c w b 34 m
  rw [changeDip_l3 hd, h4, hl4] at hladdr hfaddr
  have hoff : 34 ≤ 34 + c.sumOff := Nat.le_add_right _ _
  rw [hs.newPacket_eq hT hd, hl4, changeDip_v4 h4 _ _ _ hoff]
  refine ⟨?_, ?_, ?_⟩
  · rw [get32_put_ne (.inl (by omega)), get32_put_ne (.inr (by rw [length_le16])),
      get32_put_ne (.inl (by omega))]
    exact hladdr
  · rw [get32_put_ne (.inl (by omega)), get32_put_ne (.inr (by rw [length_le16]; omega)), get32_put]
  · rw [get16_put, hsum]
    congr 1

/-- The addresses of an IPv6 packet. -/
lemma Stained.addrs_v6 (h6 : w.ipv6 = true) (hs : Stained c w bytes h m) :
    getSrc (newPacket c w b m) 14 = { getSrc (image bytes) 14 with w3 := htonl b.sk.laddr } ∧
      getDst (newPacket c w b m) 14 = b.dip := by
  have hl4 : l4 w = 54 := by
    rw [(hT.room hd).2, h6]
    rfl
  have hlen := hT.length
  rw [hl4] at hlen
  have hpacket : newPacket c w b m = put (put (headers c w b 54 m) 38 b.dip.bytes) (54 + c.sumOff)
      (le16 (csumUpdateU128 (get16 (headers c w b 54 m) (54 + c.sumOff))
        (getDst (headers c w b 54 m) 14) b.dip)) := by
    rw [hs.newPacket_eq hT hd, hl4, changeDip_v6 h6 _ _ _ (Nat.le_add_right _ _)]
  constructor
  · -- the template has the upper part of the address
    have hkept : ∀ off, 22 ≤ off → off + 4 ≤ 34 →
        get32 (newPacket c w b m) off = get32 (image bytes) off := by
      intro off h1 h2
      refine get32_congr ((hs.step hT b).kept.mono fun i hi => ?_)
      refine ⟨⟨Nat.zero_le i, ?_⟩, fun hmem => ?_⟩
      · have hlt := hi.2
        split_ifs at hlen <;> omega
      · obtain ⟨h3, h4⟩ := hi
        unfold headerFields dipFields vxlanFields ipFields tcpFields udpFields at hmem
        rw [changeDip_l3 hd, hl4, w.change_dip_vxlan hd, h6, hd] at hmem
        simp only [Bool.false_eq_true, if_false, if_true, Set.mem_union, Set.mem_Ico,
          Set.mem_empty_iff_false, false_or] at hmem
        split_ifs at hmem <;> simp only [Set.mem_union, Set.mem_Ico] at hmem <;> omega
    have hladdr := headers_laddr c w b m
    rw [changeDip_l3 hd, h6, hl4] at hladdr
    have hlast : get32 (newPacket c w b m) 34 = htonl b.sk.laddr := by
      rw [hpacket, get32_put_ne (.inl (by omega)), get32_put_ne (.inl (by omega))]
      exact hladdr
    rw [getSrc, hkept 22 (by omega) (by omega), hkept 26 (by omega) (by omega),
      hkept 30 (by omega) (by omega), hlast]
    rfl
  · rw [hpacket, getDst_put_ne _ (Nat.le_add_right _ _), getDst_put]

end ChangedDip

/-! ### The sum and the update -/

/-- The new address leaves the checksum right all the same: the words of an IPv4 address add up to
a zero; the upper part of the IPv6 address of the template has the words of the one that the mbuf
holds, and twice those of the new one. -/
def Build.Harmless (w : WireSpace) (h : List Build) (b : Build) : Prop :=
  if w.ipv6 then w.dip.prefixWords ≡ (lastDip w h).prefixWords + 2 * b.dip.words [MOD 65535]
  else words b.dip.w3 ≡ 0 [MOD 65535]

lemma Build.harmless_v4 (h4 : w.ipv6 = false) :
    b.Harmless w h ↔ words b.dip.w3 ≡ 0 [MOD 65535] := by
  rw [Build.Harmless, if_neg (by rw [h4]; exact Bool.false_ne_true)]

section Sum

variable {raw : List UInt8 → UInt16} {rte : Rte} {udpData : List UInt8}
  {templates : Cache → List UInt8}

/-- The checksum field of the socket that the packet gets. -/
lemma sum_eq_csumPseudo (hv : w.ws.vxlan = false) (hc : c = .udp ∨ c = b.cache)
    (hb : b.csums = csumInitPseudo raw w b.sk c.protocol templates) : ∃ c',
      sum c w b = csumPseudo raw w b.sk c.protocol (templates c') (templates c) := by
  have hv' : ¬ w.ws.vxlan = true := Bool.eq_false_iff.mp hv
  obtain rfl | rfl := hc
  · refine ⟨.udp, ?_⟩
    rw [csumInitPseudo, if_neg (by decide)] at hb
    rw [sum, if_pos rfl, hb]
  · refine ⟨.tcp, ?_⟩
    have hproto : b.cache.protocol = 6 := by
      rw [Build.cache]
      split_ifs <;> rfl
    rw [csumInitPseudo, if_pos hproto] at hb
    rw [sum, if_neg b.cache_ne_udp, tcpSum, if_neg hv', Build.csumTcp, hb]
    rw [Build.cache]
    split_ifs <;> rfl

lemma csumPseudo_modEq (hraw : RawSum raw) (hv : w.ws.vxlan = false) {tcp : List UInt8} {c' : Cache}
    (ht : template rte w udpData c' = some tcp) (sk : Socket) (proto : UInt8) (bytes : List UInt8) :
    (csumPseudo raw w sk proto tcp bytes).toNat ≡
      (if w.ipv6 then In6Addr.words { w.sip with w3 := htonl sk.laddr }
        + In6Addr.words { w.dip with w3 := htonl sk.faddr }
      else words (htonl sk.laddr) + words (htonl sk.faddr)) + pseudoRest proto (l4DataLen w bytes)
      [MOD 65535] := by
  rw [csumPseudo]
  by_cases h6 : w.ipv6 = true
  · rw [if_pos h6, if_pos h6, template_src ht hv h6, (template_holds ht).dst hv h6]
    exact csumPseudoIpv6_modEq hraw proto _ _ _
  · rw [if_neg h6, if_neg h6]
    exact csumPseudoIpv4_modEq proto _ _ _

/-- The packet over what earlier packets have left. -/
lemma Stained.pseudo_iff (hraw : RawSum raw) (hd : w.changeDip = true)
    (ht : ∀ c, template rte w udpData c = some (templates c)) (hc : c = .udp ∨ c = b.cache)
    (hb : b.csums = csumInitPseudo raw w b.sk c.protocol templates)
    (hs : Stained c w (templates c) h m) :
    (get16 (newPacket c w b m) (l4 w + c.sumOff)).toNat ≡ outerPseudo w.ipv6 (newPacket c w b m)
      [MOD 65535] ↔ b.Harmless w h := by
  have hv := w.change_dip_vxlan hd
  have hv' : ¬ w.ws.vxlan = true := Bool.eq_false_iff.mp hv
  have hT := template_holds (ht c)
  have hl4 : l4 w = outerL4 w.ipv6 := (hT.room hd).2
  have hip : outerIpv6 w = w.ipv6 := by
    rw [outerIpv6, hv]
    rfl
  have hout := (hs.step hT b).outgoing (ht c)
  rw [hip] at hout
  obtain ⟨c', hsum⟩ := sum_eq_csumPseudo hv hc hb
  have hmod := csumPseudo_modEq hraw hv (ht c') b.sk c.protocol (templates c)
  rw [← hsum, l4DataLen, hl4] at hmod
  rw [hout.outerPseudo_eq, ← outerUdp_protocol hv', Build.Harmless, addrWords]
  generalize pseudoRest c.protocol (UInt16.ofNat ((templates c).length - outerL4 w.ipv6)) = rest
    at hmod ⊢
  by_cases h6 : w.ipv6 = true
  · obtain ⟨hsrc, hdst⟩ := hs.addrs_v6 (b := b) hT hd h6
    have hupdate := csumUpdateU128_modEq (sum c w b) { lastDip w h with w3 := htonl b.sk.faddr }
      b.dip
    rw [← hs.sum_newPacket hT hd h6] at hupdate
    rw [if_pos h6] at hmod
    rw [hl4, if_pos h6, if_pos h6, hsrc, hdst, template_src (ht c) hv h6, outerL4, if_pos h6,
      updated_iff hupdate hmod, In6Addr.words_w3, In6Addr.words_w3, Nat.add_right_comm]
    exact ⟨Nat.ModEq.add_right_cancel' _, Nat.ModEq.add_right _⟩
  · obtain ⟨hsrc, hdst, hfield⟩ := hs.addrs_v4 (b := b) hT hd (Bool.eq_false_iff.mpr h6)
    have hupdate := csumUpdateU32_modEq (sum c w b) (htonl b.sk.faddr) b.dip.w3
    rw [← hfield] at hupdate
    rw [if_neg h6] at hmod
    rw [hl4, if_neg h6, if_neg h6, hsrc, hdst, outerL4, if_neg h6, updated_iff hupdate hmod,
      modEq_add_double_iff]

end Sum

/-- **Checksum for the device.** After `change_dip`, on any mbuf of its cache, the checksum of a
packet is the sum of the pseudo header, up to the two zeros, exactly if the new address happens to
leave it right. -/
theorem newPacket_pseudo_iff {raw : List UInt8 → UInt16} {rte : Rte} {udpData : List UInt8}
    {templates : Cache → List UInt8} (hraw : RawSum raw) (hd : w.changeDip = true)
    (ht : ∀ c, template rte w udpData c = some (templates c)) (hc : c = .udp ∨ c = b.cache)
    (hb : b.csums = csumInitPseudo raw w b.sk c.protocol templates) (pool : ℕ → PacketMbuf)
    (hnew : ∀ i, (pool i).tagged = false) (hist : List (ℕ × Build)) (i : ℕ) :
    let p := (build c w (templates c) (run c w (templates c) pool hist i) b).data
    (get16 p (l4 w + c.sumOff)).toNat ≡ outerPseudo w.ipv6 p [MOD 65535] ↔
      b.Harmless w (buildsOn hist i) := by
  have hs := foldl_build (template_holds (ht c)) (pool i) (hnew i) (buildsOn hist i)
  rw [← run_apply pool hist i] at hs
  exact hs.pseudo_iff hraw hd ht hc hb

end Packet

/-- A sum of words. -/
def rawSum (bs : List UInt8) : UInt16 := UInt16.ofNat (listSum 0 bs % 65535)

lemma rawSum_rawSum : RawSum rawSum := by
  intro bs
  rw [rawSum, UInt16.toNat_ofNat_of_lt' (by change _ < 2 ^ 16; omega)]
  exact Nat.mod_modEq _ _

/-- The templates of an IPv4 client that changes its destinations. -/
def WireSpace.changing (c : Cache) : List UInt8 :=
  (template .zero (.single false true) [] c).getD []

lemma WireSpace.template_changing (c : Cache) :
    template .zero (.single false true) [] c = some (WireSpace.changing c) := by
  obtain ⟨bytes, h⟩ : ∃ bytes, template .zero (.single false true) [] c = some bytes := by
    cases c <;> exact ⟨_, rfl⟩
  rw [WireSpace.changing, h, Option.getD_some]

/-- Its SYN to a destination. -/
def Build.changing (dip : UInt32) : Build :=
  { Build.single with
    csums := csumInitPseudo rawSum (.single false true) Build.single.sk 6 WireSpace.changing
    dip := ⟨0, 0, 0, htonl dip⟩ }

/-- The words of the destination 192.168.63.87 add up to 65535. -/
theorem newPacket_pseudo_zero :
    let p := (build .tcpOpt (.single false true) (WireSpace.changing .tcpOpt)
      (run .tcpOpt (.single false true) (WireSpace.changing .tcpOpt)
        (fun _ => ⟨fun _ => 0, false⟩) [] 0) (.changing 0xC0A83F57)).data
    (get16 p (l4 (.single false true) + 16)).toNat ≡ outerPseudo false p [MOD 65535] :=
  (newPacket_pseudo_iff (c := .tcpOpt) (b := .changing 0xC0A83F57) rawSum_rawSum rfl
    WireSpace.template_changing (.inr rfl) rfl _ (fun _ => rfl) [] 0).mpr
      ((Build.harmless_v4 rfl).mpr (by decide))

/-- Those of 10.0.0.2 do not. -/
theorem newPacket_pseudo_fails :
    let p := (build .tcpOpt (.single false true) (WireSpace.changing .tcpOpt)
      (run .tcpOpt (.single false true) (WireSpace.changing .tcpOpt)
        (fun _ => ⟨fun _ => 0, false⟩) [] 0) (.changing 0x0A000002)).data
    ¬ (get16 p (l4 (.single false true) + 16)).toNat ≡ outerPseudo false p [MOD 65535] := by
  intro p hp
  have hs := foldl_build (template_holds (WireSpace.template_changing .tcpOpt))
    ⟨fun _ => 0, false⟩ rfl []
  have hharmless := (hs.pseudo_iff (b := .changing 0x0A000002) rawSum_rawSum rfl
    WireSpace.template_changing (.inr rfl) rfl).mp hp
  exact absurd ((Build.harmless_v4 rfl).mp hharmless) (by decide)

end Dperf.Wire
