import Dperf.SoftCsum

/-!
Packets built on the mbufs of packets that were sent. `mbuf_cache_alloc` skips the copy of the
template when the user data of the mbuf is the cache, so that a packet is built over what
`csum_offload_ip_tcpudp` has made of an earlier one.

* `Reused`: the template, but for the fields that a packet writes, that only `change_dip` touches,
  and that the routine leaves behind (`staleFields`). `reused_run` says so after every history.
* `Unstained`: nothing that is left in the mbuf shows in the packet.
* `recycled_eq_iff`: the packet on a recycled mbuf is the packet on a fresh template exactly then.
-/

namespace Dperf.Wire

open Memory OnesComplement

/-! ### What the routine leaves -/

section Routine

variable {rte : Rte} {off : TxOffload} {olFlag : TxFlag} {udp : Bool} {n : ℕ} {m : Mem}

/-- With the offload of the IPv4 checksum the routine clears its field. -/
lemma Outgoing.csumOffload_check (h : Outgoing false udp n m) (hoff : off.ipv4Cksum = true) :
    get16 (csumOffloadIpTcpudp rte off olFlag ⟨m, 0, 0, []⟩).data 24 = 0 := by
  have hth := h.mbufTcpHdr
  have hversion : m 14 >>> 4 = 4 := h.version
  rw [csumOffloadIpTcpudp]
  dsimp only
  rw [hth, if_pos hversion, if_pos hoff]
  split_ifs
  · exact get16_put 0
  · rw [putSum, get16_put_ne (.inl (by decide)), get16_put_ne (.inl (by decide)), get16_put]

end Routine

/-! ### Mbufs that are used again -/

section Reused

variable {rte : Rte} {off : TxOffload} {c : Cache} {w : WireSpace} {bytes : List UInt8}
  {b : Build} {m m' : Mem}

/-- The TTL or the hop limit of a template is `DEFAULT_TTL`. -/
lemma template_ttl {udpData : List UInt8} (h : template rte w udpData c = some bytes) :
    image bytes (ttlOff (outerIpv6 w)) = 64 := by
  obtain ⟨rest, -, h⟩ := template_some h
  rw [mbufCacheInit] at h
  have heth : ∀ type, (ethHdr w.gatewayMac w.localMac type).length = 14 := fun _ => rfl
  split_ifs at h with hv
  · obtain rfl := Option.some.inj h
    rw [List.append_assoc]
    obtain ⟨check, tail, htail⟩ := vxlanHeaders_append rte w
      (14 + (ipHeader w c.protocol (UInt16.ofNat rest.length) ++ rest).length)
      (ethHdr w.vxlan.innerDmac w.vxlan.innerSmac (etherType w) ++
        (ipHeader w c.protocol (UInt16.ofNat rest.length) ++ rest))
    rw [htail, ttlOff, outerIpv6, hv]
    exact image_append (heth _) 8
  · obtain rfl := Option.some.inj h
    rw [ttlOff, outerIpv6, Bool.eq_false_iff.mpr hv, ipHeader]
    cases w.ipv6 with
    | true => exact image_append (heth _) 7
    | false => exact image_append (heth _) 8

/-- The mbuf of a packet that was sent: the template, but for what packets write and the routine
leaves. -/
def Reused (off : TxOffload) (c : Cache) (w : WireSpace) (bytes : List UInt8) (m : Mem) : Prop :=
  Set.EqOn m (image bytes) (block 0 bytes.length \
    (headerFields c w (l4 w) ∪ dipFields w ∪ staleFields off (outerIpv6 w)))

lemma Reused.l4Off_eq (hT : Holds c w bytes) (h : Reused off c w bytes m) : l4Off w m = l4 w := by
  have hlen := hT.lt_length
  refine hT.l4Off_eq fun i hi => h ⟨⟨Nat.zero_le i, ?_⟩, fun hmem => ?_⟩
  · have hlt := hi.2
    omega
  · have hlt := hi.2
    rcases hmem with hmem | hmem
    · have hle := le_of_mem_fields hmem
      omega
    · have hle := le_of_mem_staleFields hmem
      omega

lemma copy_reused (hm : Set.EqOn m (image bytes) (block 0 bytes.length)) :
    Reused off c w bytes m := hm.mono Set.sdiff_subset

/-- One packet more that is sent. -/
lemma Reused.step {udp : Bool} {n : ℕ} {olFlag : TxFlag} (hT : Holds c w bytes)
    (httl : image bytes (ttlOff (outerIpv6 w)) = 64) (h : Reused off c w bytes m)
    (hout : Outgoing (outerIpv6 w) udp n (newPacket c w b m)) :
    Reused off c w bytes
      (csumOffloadIpTcpudp rte off olFlag ⟨newPacket c w b m, 0, 0, []⟩).data := by
  rintro i ⟨hi, hf⟩
  by_cases hne : i = ttlOff (outerIpv6 w)
  · rw [hne, hout.csumOffload_ttl, httl]
  · rw [hout.csumOffload_ne fun hmem => hmem.elim hne fun hmem => hf (.inr hmem),
      newPacket_kept (h.l4Off_eq hT) fun hmem => hf (.inl hmem)]
    exact h ⟨hi, hf⟩

/-- After every history, an mbuf that is used again is the template in this sense. -/
theorem reused_run {udpData : List UInt8} (ht : template rte w udpData c = some bytes)
    (pool : ℕ → PacketMbuf) (hnew : ∀ i, (pool i).tagged = false) (hist : List (ℕ × Build))
    (i : ℕ) : Reused off c w bytes
      (mbufCacheAlloc bytes (runSent rte off c w bytes pool hist i)).data := by
  have hT := template_holds ht
  have hcopy : ∀ p : PacketMbuf, p.tagged = false →
      Reused off c w bytes (mbufCacheAlloc bytes p).data := by
    intro p hp
    rw [mbufCacheAlloc, hp]
    exact copy_reused (copy_eqOn p.data bytes)
  refine runSent_rule (P := fun p => Reused off c w bytes (mbufCacheAlloc bytes p).data)
    (fun i => hcopy _ (hnew i)) (fun hist i b ih => ?_) hist i
  have htag : (buildSent rte off c w bytes (runSent rte off c w bytes pool hist i) b).tagged =
      true := mbufCacheAlloc_tagged bytes _
  rw [mbufCacheAlloc, if_pos htag]
  exact ih.step hT (template_ttl ht) (outgoing_run off ht pool hnew hist i b)

end Reused

/-! ### What shows -/

/-- What is left in the mbuf `last` does not show in the packet of `b`: the word at the place of
`th_sum`, which is payload in UDP and the inner packet in VXLAN, is that of the template; the
IP checksum is that of the template, or counts for nothing where `change_dip` goes on from it; and
so does the upper part of the IPv6 address. -/
structure Unstained (off : TxOffload) (c : Cache) (w : WireSpace) (bytes : List UInt8) (b : Build)
    (last : Mem) : Prop where
  word : off.tcpudpCksum = false → outerUdp w c = true →
    ∀ i < bytes.length, i ∈ block (outerL4 (outerIpv6 w) + 16) 2 → last i = image bytes i
  check : outerIpv6 w = false →
    if w.changeDip then onesSum ((get16 last 24).toNat + b.complements) = onesSum b.complements
    else get16 last 24 = get16 (image bytes) 24
  upper : w.changeDip = true → w.ipv6 = true →
    onesSum ((sum c w b).toNat + (complement128 { getDst last 14 with w3 := htonl b.sk.faddr }
      + complement128 b.dip)) =
    onesSum ((sum c w b).toNat + (complement128 { w.dip with w3 := htonl b.sk.faddr }
      + complement128 b.dip))

section Shows

variable {rte : Rte} {off : TxOffload} {c : Cache} {w : WireSpace} {bytes : List UInt8}
  {b : Build} {m m' : Mem}

/-- Packets over two mbufs agree if what they leave does, and the field of `change_dip`. -/
lemma newPacket_eqOn_iff (hT : Holds c w bytes) (hl : l4Off w m = l4 w) (hl' : l4Off w m' = l4 w) :
    Set.EqOn (newPacket c w b m) (newPacket c w b m') (block 0 bytes.length) ↔
      Set.EqOn m m' (block 0 bytes.length \ (headerFields c w (l4 w) ∪ dipFields w)) ∧
      (w.changeDip = true → get16 (newPacket c w b m) (staleField c w) =
        get16 (newPacket c w b m') (staleField c w)) := by
  constructor
  · intro h
    refine ⟨fun i hi => ?_, fun hd => get16_congr (h.mono ?_)⟩
    · rw [← newPacket_kept hl hi.2 (b := b), h hi.1, newPacket_kept hl' hi.2]
    · obtain ⟨hroom, hl4⟩ := hT.room hd
      have hlen := hT.lt_length
      refine Set.Ico_subset_Ico (Nat.zero_le _) ?_
      rw [staleField]
      split_ifs at hl4 ⊢ <;> omega
  · rintro ⟨hkept, hstale⟩ i hi
    by_cases hf : i ∈ headerFields c w (l4 w) ∪ dipFields w
    · by_cases hs : w.changeDip = true ∧ i ∈ block (staleField c w) 2
      · exact get16_inj (hstale hs.1) hs.2
      · refine newPacket_same hl hl' ⟨hf, fun hmem => ?_⟩
        split_ifs at hmem with hd
        · exact hs ⟨hd, hmem⟩
        · exact hmem
    · rw [newPacket_kept hl hf, newPacket_kept hl' hf]
      exact hkept ⟨hi, hf⟩

/-- No packet writes the word at the place of `th_sum` in an outermost UDP header. -/
lemma word_notMem (hu : outerUdp w c = true) {i : ℕ}
    (hi : i ∈ block (outerL4 (outerIpv6 w) + 16) 2) :
    i ∉ headerFields c w (l4 w) ∪ dipFields w := by
  intro hmem
  have hdip := w.change_dip_vxlan
  unfold outerUdp at hu
  unfold outerL4 outerIpv6 at hi
  unfold headerFields dipFields vxlanFields ipFields tcpFields udpFields l4 l3Off at hmem
  cases hv : w.ws.vxlan <;> cases h6 : w.ipv6 <;> cases hd : w.changeDip <;>
    by_cases hc : c = .udp <;>
    simp_all only [Bool.false_or, Bool.true_or, beq_iff_eq, Bool.not_true, Bool.not_false,
      Bool.true_and, Bool.false_and, if_true, if_false, Bool.false_eq_true, Set.mem_union,
      Set.mem_Ico, Set.mem_empty_iff_false, or_false, false_or] <;> omega

/-- It is the checksum of a TCP packet. -/
lemma word_mem (hu : ¬ outerUdp w c = true) {i : ℕ}
    (hi : i ∈ block (outerL4 (outerIpv6 w) + 16) 2) : i ∈ headerFields c w (l4 w) := by
  rw [outerUdp, Bool.or_eq_true, not_or, beq_iff_eq] at hu
  have hl4 : outerL4 (outerIpv6 w) = l4 w := by
    rw [outerL4, outerIpv6, Bool.eq_false_iff.mpr hu.1, l4, l3Off, if_neg hu.1]
    cases w.ipv6 <;> rfl
  rw [hl4] at hi
  refine .inr ?_
  rw [if_neg hu.2]
  exact .inr hi

/-- No packet writes the checksum of the outermost IPv4 header without `change_dip`. -/
lemma check_notMem (h4 : outerIpv6 w = false) (hd : ¬ w.changeDip = true) {i : ℕ}
    (hi : i ∈ block 24 2) : i ∉ headerFields c w (l4 w) ∪ dipFields w := by
  intro hmem
  unfold outerIpv6 at h4
  unfold headerFields dipFields vxlanFields ipFields tcpFields udpFields l4 l3Off at hmem
  cases hv : w.ws.vxlan <;> cases h6 : w.ipv6 <;> by_cases hc : c = .udp <;>
    simp_all only [Bool.not_true, Bool.not_false, Bool.true_and, Bool.false_and, if_true, if_false,
      Bool.false_eq_true, Set.mem_union, Set.mem_Ico, Set.mem_empty_iff_false, or_false,
      false_or] <;> omega

/-- What `change_dip` makes of the IP checksum that it finds. -/
lemma newPacket_check_iff (hT : Holds c w bytes) (hl : l4Off w m = l4 w) (hl' : l4Off w m' = l4 w)
    (hm' : get16 m' 24 = get16 (image bytes) 24) (hd : w.changeDip = true) (h4 : w.ipv6 = false) :
    get16 (newPacket c w b m) (staleField c w) = get16 (newPacket c w b m') (staleField c w) ↔
      onesSum ((get16 m 24).toNat + b.complements) = onesSum b.complements := by
  have hzero := hT.check (w.change_dip_vxlan hd) h4
  rw [staleField, h4, if_neg Bool.false_ne_true, check_newPacket hl hd h4,
    check_newPacket hl' hd h4, hm', hzero, ← UInt16.toNat_inj, toNat_csumUpdateU32,
    toNat_csumUpdateU32, UInt16.toNat_zero, Nat.zero_add]
  rfl

/-- What `change_dip` makes of the IPv6 address that it finds. -/
lemma newPacket_sum_iff (hT : Holds c w bytes) (hl : l4Off w m = l4 w) (hl' : l4Off w m' = l4 w)
    (hm' : Set.EqOn m' (image bytes) (block 0 bytes.length)) (hd : w.changeDip = true)
    (h6 : w.ipv6 = true) :
    get16 (newPacket c w b m) (staleField c w) = get16 (newPacket c w b m') (staleField c w) ↔
      onesSum ((sum c w b).toNat + (complement128 { getDst m 14 with w3 := htonl b.sk.faddr }
        + complement128 b.dip)) =
      onesSum ((sum c w b).toNat + (complement128 { w.dip with w3 := htonl b.sk.faddr }
        + complement128 b.dip)) := by
  have hl4 : l4 w = 54 := by
    rw [changeDip_l4 hd, h6]
    rfl
  have hroom := (hT.room hd).1
  rw [hl4] at hroom
  have hdst : getDst m' 14 = w.dip := by
    have hget : ∀ off, off + 4 ≤ 54 → get32 m' off = get32 (image bytes) off := fun off hoff =>
      get32_congr (hm'.mono (Set.Ico_subset_Ico (Nat.zero_le _) (by omega)))
    rw [getDst, hget _ (by decide), hget _ (by decide), hget _ (by decide), hget _ (by decide),
      ← hT.dst (w.change_dip_vxlan hd) h6]
    rfl
  rw [staleField, if_pos h6, sum_newPacket hl hd h6, sum_newPacket hl' hd h6, hdst,
    ← UInt16.toNat_inj, toNat_csumUpdateU128, toNat_csumUpdateU128]

/-- The bytes that no packet writes are those of the template. -/
lemma Unstained.kept (hu : Unstained off c w bytes b m) (h : Reused off c w bytes m) {i : ℕ}
    (hi : i ∈ block 0 bytes.length) (hf : i ∉ headerFields c w (l4 w) ∪ dipFields w) :
    m i = image bytes i := by
  by_cases hs : i ∈ staleFields off (outerIpv6 w)
  · rcases hs with hs | hs
    · -- the checksum of an IPv4 header, which `change_dip` does not write
      split_ifs at hs with h4
      · exact hs.elim
      have hcheck := hu.check (Bool.eq_false_iff.mpr h4)
      split_ifs at hcheck with hd
      · have hip : ¬ w.ipv6 = true := fun h6 => h4 (by
          rw [outerIpv6, w.change_dip_vxlan hd, h6]
          rfl)
        refine absurd (.inr ?_) hf
        rw [dipFields, if_pos hd, if_neg hip]
        exact hs
      · exact get16_inj hcheck hs
    · split_ifs at hs with hoff
      · exact hs.elim
      by_cases hudp : outerUdp w c = true
      · have hlt := hi.2
        exact hu.word (Bool.eq_false_iff.mpr hoff) hudp i (by omega) hs
      · exact absurd (.inl (word_mem hudp hs)) hf
  · exact h ⟨hi, fun hmem => hmem.elim hf hs⟩

/-- The packet over an mbuf that is used again, and the packet over a template. -/
lemma Reused.eqOn_iff (hT : Holds c w bytes) (h : Reused off c w bytes m)
    (hm' : Set.EqOn m' (image bytes) (block 0 bytes.length)) :
    Set.EqOn (newPacket c w b m) (newPacket c w b m') (block 0 bytes.length) ↔
      Unstained off c w bytes b m := by
  have h' : Reused off c w bytes m' := copy_reused hm'
  have hl := h.l4Off_eq hT
  have hl' := h'.l4Off_eq hT
  have hlen := hT.lt_length
  have hsub : block 24 2 ⊆ block 0 bytes.length := Set.Ico_subset_Ico (Nat.zero_le _) (by omega)
  have hcheck' : get16 m' 24 = get16 (image bytes) 24 := get16_congr (hm'.mono hsub)
  rw [newPacket_eqOn_iff hT hl hl']
  constructor
  · rintro ⟨hkept, hstale⟩
    refine ⟨fun _ hu i hi hb => ?_, fun h4 => ?_, fun hd h6 => ?_⟩
    · have hmem : i ∈ block 0 bytes.length := ⟨Nat.zero_le i, by omega⟩
      rw [hkept ⟨hmem, word_notMem hu hb⟩, hm' hmem]
    · split_ifs with hd
      · have hip : w.ipv6 = false := by
          rw [outerIpv6, w.change_dip_vxlan hd] at h4
          exact h4
        exact (newPacket_check_iff hT hl hl' hcheck' hd hip).mp (hstale hd)
      · rw [← hcheck']
        exact get16_congr fun i hi => hkept ⟨hsub hi, check_notMem h4 hd hi⟩
    · exact (newPacket_sum_iff hT hl hl' hm' hd h6).mp (hstale hd)
  · intro hu
    refine ⟨fun i hi => ?_, fun hd => ?_⟩
    · rw [hm' hi.1]
      exact hu.kept h hi.1 hi.2
    · by_cases h6 : w.ipv6 = true
      · exact (newPacket_sum_iff hT hl hl' hm' hd h6).mpr (hu.upper hd h6)
      · have h4 := Bool.eq_false_iff.mpr h6
        have hcheck := hu.check (by rw [outerIpv6, h4, Bool.and_false])
        rw [if_pos hd] at hcheck
        exact (newPacket_check_iff hT hl hl' hcheck' hd h4).mpr hcheck

/-- A copy of the template shows nothing else. -/
lemma copy_unstained (hT : Holds c w bytes)
    (hm : Set.EqOn m (image bytes) (block 0 bytes.length)) : Unstained off c w bytes b m :=
  ((copy_reused hm).eqOn_iff hT hm).mp (Set.eqOn_refl _ _)

/-- After every history of packets that were sent, the packet that is built on a recycled mbuf is
the packet on a freshly copied template exactly if nothing that is left in the mbuf shows. -/
theorem recycled_eq_iff {udpData : List UInt8} (ht : template rte w udpData c = some bytes)
    (pool : ℕ → PacketMbuf) (hnew : ∀ i, (pool i).tagged = false) (hist : List (ℕ × Build))
    (i : ℕ) (b : Build) (m : Mem) :
    Memory.bytes (build c w bytes (runSent rte off c w bytes pool hist i) b).data bytes.length =
        Memory.bytes (newPacket c w b (put m 0 bytes)) bytes.length ↔
      ((runSent rte off c w bytes pool hist i).tagged = true →
        Unstained off c w bytes b (runSent rte off c w bytes pool hist i).data) := by
  have hT := template_holds ht
  have hreused : Reused off c w bytes _ := reused_run ht pool hnew hist i
  have hiff := hreused.eqOn_iff (b := b) hT (copy_eqOn m bytes)
  rw [bytes_eq_iff, build]
  refine hiff.trans ?_
  rw [mbufCacheAlloc]
  split_ifs with htag
  · exact (imp_iff_right htag).symm
  · exact iff_of_true (copy_unstained hT (copy_eqOn _ bytes)) fun h => absurd h htag

/-- With the offload of the IPv4 checksum its field is 0 in every mbuf that is recycled. -/
lemma check_run {udpData : List UInt8} (ht : template rte w udpData c = some bytes)
    (hoff : off.ipv4Cksum = true) (h4 : outerIpv6 w = false) (pool : ℕ → PacketMbuf)
    (hnew : ∀ i, (pool i).tagged = false) (hist : List (ℕ × Build)) (i : ℕ) :
    (runSent rte off c w bytes pool hist i).tagged = true →
      get16 (runSent rte off c w bytes pool hist i).data 24 = 0 := by
  refine runSent_rule (P := fun p => p.tagged = true → get16 p.data 24 = 0) ?_ ?_ hist i
  · intro i htag
    rw [hnew i] at htag
    exact Bool.noConfusion htag
  · intro hist i b _ _
    have hout := outgoing_run off ht pool hnew hist i b
    rw [h4] at hout
    exact hout.csumOffload_check hoff

/-- With both offloads nothing shows, but in VXLAN and in an IPv6 packet of `change_dip`. -/
theorem unstained_offload {udpData : List UInt8} (ht : template rte w udpData c = some bytes)
    (hip : off.ipv4Cksum = true) (hsum : off.tcpudpCksum = true) (hv : w.ws.vxlan = false)
    (hmode : w.changeDip = true → w.ipv6 = false) (pool : ℕ → PacketMbuf)
    (hnew : ∀ i, (pool i).tagged = false) (hist : List (ℕ × Build)) (i : ℕ)
    (htag : (runSent rte off c w bytes pool hist i).tagged = true) :
    Unstained off c w bytes b (runSent rte off c w bytes pool hist i).data := by
  refine ⟨fun hno => ?_, fun h4 => ?_, fun hd h6 => ?_⟩
  · rw [hsum] at hno
    exact Bool.noConfusion hno
  · have hzero := check_run ht hip h4 pool hnew hist i htag
    split_ifs
    · rw [hzero, UInt16.toNat_zero, Nat.zero_add]
    · have hip4 : w.ipv6 = false := by
        rw [outerIpv6, hv] at h4
        exact h4
      rw [hzero, (template_holds ht).check hv hip4]
  · rw [hmode hd] at h6
    exact Bool.noConfusion h6

end Shows

/-- A device that computes every checksum. -/
def TxOffload.both : TxOffload := ⟨true, true⟩

/-- The second SYN of an IPv4 client on one mbuf, with `change_dip`. -/
theorem recycled_eq_syn : ∃ bytes,
    template Rte.zero (.single false true) [] .tcpOpt = some bytes ∧
    Memory.bytes (build .tcpOpt (.single false true) bytes
        (runSent Rte.zero .both .tcpOpt (.single false true) bytes (fun _ => ⟨fun _ => 0, false⟩)
          [(0, .single)] 0) .single).data bytes.length =
      Memory.bytes (newPacket .tcpOpt (.single false true) .single (put (fun _ => 0) 0 bytes))
        bytes.length := by
  obtain ⟨bytes, ht⟩ : ∃ bytes, template Rte.zero (.single false true) [] .tcpOpt = some bytes :=
    ⟨_, rfl⟩
  exact ⟨bytes, ht, (recycled_eq_iff ht _ (fun _ => rfl) _ _ _ _).mpr
    (unstained_offload ht rfl rfl rfl (fun _ => rfl) _ (fun _ => rfl) _ _)⟩

/-- The second SYN of an IPv6 client on one mbuf: its checksum is updated from the address that
`change_dip` has put for the first. -/
theorem recycled_stale_prefix : ∃ bytes,
    template Rte.zero (.single true true) [] .tcpOpt = some bytes ∧
    Memory.bytes (build .tcpOpt (.single true true) bytes
        (runSent Rte.zero .both .tcpOpt (.single true true) bytes (fun _ => ⟨fun _ => 0, false⟩)
          [(0, .single)] 0) .single).data bytes.length ≠
      Memory.bytes (newPacket .tcpOpt (.single true true) .single (put (fun _ => 0) 0 bytes))
        bytes.length := by
  refine ⟨_, rfl, fun heq => ?_⟩
  have hsum := get16_congr ((bytes_eq_iff.mp heq).mono
    (Set.Ico_subset_Ico (Nat.zero_le 70) (by decide)))
  revert hsum
  decide

end Dperf.Wire
