import Dperf.Checksum

/-!
The checksums of outgoing packets: the routine that every packet passes, and its results on a
device without offload.

* `csumOffloadIpTcpudp`: the routine of `csum.h` that every packet passes.
* `Outgoing`: what the outermost headers of a packet hold. `outgoing_run` says that every packet
  of a history of packets that were sent (`runSent`) holds it, whatever the routine has left in the
  mbufs.
* `Sound`: the checksums verify, and nothing else has changed. `csumOffload_sound_iff` says when:
  the routine takes every header after the IP header for a TCP header.
-/

namespace Dperf.Wire

open Memory OnesComplement

/-! ### `csum.h` -/

/-- `g_dev_tx_offload_ipv4_cksum` and `g_dev_tx_offload_tcpudp_cksum`. -/
structure TxOffload where
  ipv4Cksum : Bool
  tcpudpCksum : Bool

/-- The flags `RTE_MBUF_F_TX_*` of `ol_flags`. -/
inductive TxFlag where
  | tcpCksum | udpCksum | ipCksum | ipv4 | ipv6
  deriving DecidableEq

/-- What `csum_offload_ip_tcpudp` touches of an mbuf. -/
structure TxMbuf where
  data : Mem
  l2Len : ℕ
  l3Len : ℕ
  olFlags : List TxFlag

/-- `th_sum` is cleared and then computed. -/
def putSum (th : ℕ) (csum : Mem → UInt16) (m : Mem) : Mem :=
  let m := put m (th + 16) (le16 0)
  put m (th + 16) (le16 (csum m))

/-- `csum_offload_ip_tcpudp`. -/
def csumOffloadIpTcpudp (rte : Rte) (off : TxOffload) (olFlag : TxFlag) (p : TxMbuf) : TxMbuf :=
  let m := p.data
  let th := mbufTcpHdr m
  let p := { p with l2Len := 14 }
  if m 14 >>> 4 = 4 then
    let p := { p with l3Len := 20, data := put (put p.data 22 [64]) 24 (le16 0) }
    let p :=
      if off.tcpudpCksum then { p with olFlags := [olFlag, .ipv4] }
      else { p with data := putSum th (fun m => rte.ipv4UdptcpCksum m 14 th) p.data }
    if off.ipv4Cksum then { p with olFlags := p.olFlags ++ [.ipCksum, .ipv4] }
    else { p with data := put p.data 24 (le16 (rte.ipv4Cksum p.data 14)) }
  else
    let p := { p with data := put p.data 21 [64] }
    if off.tcpudpCksum then { p with l3Len := 40, olFlags := [olFlag, .ipv6] }
    else { p with data := putSum th (fun m => rte.ipv6UdptcpCksum m 14 th) p.data }

/-- The flag that `work_space_tx_send_tcp` or `work_space_tx_send_udp` asks for. -/
def txOlFlag (w : WireSpace) (c : Cache) : TxFlag :=
  if c = .udp ∨ w.ws.vxlan then .udpCksum else .tcpCksum

/-- A device without offload. -/
abbrev TxOffload.off : TxOffload := ⟨false, false⟩

/-! ### Packets -/

/-- The outermost headers of a packet: an IPv4 or an IPv6 header without options, and a TCP or a
UDP header; `n` is the length of the latter with all that follows. -/
structure Outgoing (ipv6 udp : Bool) (n : ℕ) (m : Mem) : Prop where
  type : get16 m 12 = htons (if ipv6 then 0x86DD else 0x0800)
  version : m 14 >>> 4 = if ipv6 then 6 else 4
  len : get16 m (if ipv6 then 18 else 16) = htons (UInt16.ofNat (if ipv6 then n else 20 + n))
  protocol : m (if ipv6 then 20 else 23) = if udp then 17 else 6
  le : (if udp then 8 else 20) ≤ n
  lt : n + 20 < 65536

/-- The place of the TCP or UDP header. -/
def outerL4 (ipv6 : Bool) : ℕ := if ipv6 then 54 else 34

/-- The sum of the pseudo header. -/
def outerPseudo (ipv6 : Bool) (m : Mem) : ℕ := if ipv6 then pseudo6 m 14 else pseudo4 m 14

/-- The bytes that may change: the hop limit, or the TTL and the IP checksum, and the checksum of
the packet's own protocol. -/
def softFields (ipv6 udp : Bool) : Set ℕ :=
  (if ipv6 then block 21 1 else block 22 1 ∪ block 24 2) ∪
    block (outerL4 ipv6 + if udp then 6 else 16) 2

/-- The TCP or UDP checksum verifies; that of UDP over IPv4 may be absent. -/
def L4Verifies (ipv6 udp : Bool) (n : ℕ) (m : Mem) : Prop :=
  (udp = true ∧ ipv6 = false ∧ get16 m (outerL4 ipv6 + 6) = 0) ∨
    outerPseudo ipv6 m + wordSum m (outerL4 ipv6) n ≡ 0 [MOD 65535]

/-- The packet after the checksums: they verify, and the rest is as it was. -/
structure Sound (ipv6 udp : Bool) (n : ℕ) (m out : Mem) : Prop where
  ip : ipv6 = false → wordSum out 14 20 ≡ 0 [MOD 65535]
  l4 : L4Verifies ipv6 udp n out
  kept : ∀ i < outerL4 ipv6 + n, i ∉ softFields ipv6 udp → out i = m i

/-! ### What the routine writes -/

/-- The data of a packet after `csum_offload_ip_tcpudp` without offload. -/
def softCsum (rte : Rte) (m : Mem) : Mem :=
  (csumOffloadIpTcpudp rte .off .tcpCksum ⟨m, 0, 0, []⟩).data

lemma csumOffloadIpTcpudp_data (rte : Rte) (olFlag : TxFlag) (p : TxMbuf) :
    (csumOffloadIpTcpudp rte .off olFlag p).data = softCsum rte p.data := by
  rw [softCsum, csumOffloadIpTcpudp, csumOffloadIpTcpudp]
  dsimp only
  split_ifs <;> rfl

/-- The function of `rte_ip.h` for the outermost headers. -/
def outerCksum (rte : Rte) (ipv6 : Bool) (m : Mem) : UInt16 :=
  if ipv6 then rte.ipv6UdptcpCksum m 14 54 else rte.ipv4UdptcpCksum m 14 34

/-- A computed checksum of zero is sent as all ones with UDP. -/
structure Rte.UdpNonzero (rte : Rte) : Prop where
  ipv4 : ∀ m iph th, m (iph + 9) = 17 → rte.ipv4UdptcpCksum m iph th ≠ 0
  ipv6 : ∀ m iph th, m (iph + 6) = 17 → rte.ipv6UdptcpCksum m iph th ≠ 0

/-- The sum that the routine completes: that of the packet without the word at 16. -/
def restSum (ipv6 : Bool) (n : ℕ) (m : Mem) : ℕ :=
  outerPseudo ipv6 m + wordSum (put m (outerL4 ipv6 + 16) (le16 0)) (outerL4 ipv6) n

/-- What the routine does: `x` is the checksum that it writes. -/
structure Softened (ipv6 udp : Bool) (n : ℕ) (m out : Mem) (x : UInt16) : Prop where
  kept : ∀ i, i ∉ softFields ipv6 false → out i = m i
  sum : get16 out (outerL4 ipv6 + 16) = x
  modEq : x.toNat + restSum ipv6 n m ≡ 0 [MOD 65535]
  ip : ipv6 = false → wordSum out 14 20 ≡ 0 [MOD 65535]
  ne : udp = true → x ≠ 0

section Soft

variable {rte : Rte} {ipv6 udp : Bool} {n : ℕ} {m m' out : Mem} {x : UInt16}

/-- The places of the pseudo header. -/
def outerPseudoFields (ipv6 : Bool) : Set ℕ :=
  if ipv6 then block 18 2 ∪ block 20 1 ∪ block 22 32 else block 16 2 ∪ block 23 1 ∪ block 26 8

lemma outerPseudo_congr (h : Set.EqOn m m' (outerPseudoFields ipv6)) :
    outerPseudo ipv6 m = outerPseudo ipv6 m' := by
  rw [outerPseudoFields] at h
  rw [outerPseudo, outerPseudo]
  split_ifs at h ⊢
  · have hlen : get16 m 18 = get16 m' 18 := get16_congr (h.mono fun _ hi => .inl (.inl hi))
    have hproto : m 20 = m' 20 := h (.inl (.inr ⟨le_rfl, by decide⟩))
    have haddr : wordSum m 22 32 = wordSum m' 22 32 := wordSum_congr (h.mono fun _ hi => .inr hi)
    rw [pseudo6, pseudo6, hlen, hproto, haddr]
  · have hlen : get16 m 16 = get16 m' 16 := get16_congr (h.mono fun _ hi => .inl (.inl hi))
    have hproto : m 23 = m' 23 := h (.inl (.inr ⟨le_rfl, by decide⟩))
    have haddr : wordSum m 26 8 = wordSum m' 26 8 := wordSum_congr (h.mono fun _ hi => .inr hi)
    have hl4 : l4Len4 m 14 = l4Len4 m' 14 := by rw [l4Len4, l4Len4, hlen]
    rw [pseudo4, pseudo4, hl4, hproto, haddr]

/-- The length that the functions of `rte_ip.h` take from the header. -/
lemma Outgoing.l4Len (h : Outgoing ipv6 udp n m) :
    (if ipv6 then l4Len6 m 14 else l4Len4 m 14) = n := by
  have hlen := h.len
  have hlt := h.lt
  split_ifs at hlen ⊢
  · rw [l4Len6, hlen, htons_htons, UInt16.toNat_ofNat_of_lt' (by change _ < 2 ^ 16; omega)]
  · rw [l4Len4, hlen, htons_htons, UInt16.toNat_ofNat_of_lt' (by change _ < 2 ^ 16; omega)]
    omega

lemma Outgoing.mbufTcpHdr (h : Outgoing ipv6 udp n m) : mbufTcpHdr m = outerL4 ipv6 := by
  rw [Wire.mbufTcpHdr, h.type, outerL4]
  cases ipv6 <;> decide

/-- The headers are all that matters. -/
lemma Outgoing.congr (h : Outgoing ipv6 udp n m) (heq : Set.EqOn m' m
    (block 12 3 ∪ if ipv6 then block 18 3 else block 16 2 ∪ block 23 1)) :
    Outgoing ipv6 udp n m' where
  type := (get16_congr (heq.mono fun i hi => .inl ⟨hi.1, by have := hi.2; omega⟩)).trans h.type
  version := by rw [heq (.inl ⟨by decide, by decide⟩)]; exact h.version
  len := by
    refine (get16_congr (heq.mono fun i hi => .inr ?_)).trans h.len
    split_ifs at hi ⊢
    · exact ⟨hi.1, by have := hi.2; omega⟩
    · exact .inl hi
  protocol := by
    refine (heq (.inr ?_)).trans h.protocol
    split_ifs
    · exact ⟨by decide, by decide⟩
    · exact .inr ⟨by decide, by decide⟩
  le := h.le
  lt := h.lt

lemma Rte.Rfc1071.outer (hr : rte.Rfc1071) (h : Outgoing ipv6 udp n m) :
    (outerCksum rte ipv6 m).toNat + (outerPseudo ipv6 m + wordSum m (outerL4 ipv6) n) ≡ 0
      [MOD 65535] := by
  have hlen := h.l4Len
  rw [outerCksum, outerPseudo, outerL4, ← hlen]
  split_ifs
  · exact hr.ipv6UdptcpCksum m 14 54
  · exact hr.ipv4UdptcpCksum m 14 34

lemma Rte.UdpNonzero.outer (hz : rte.UdpNonzero) (h : Outgoing ipv6 true n m) :
    outerCksum rte ipv6 m ≠ 0 := by
  cases ipv6
  · exact hz.ipv4 m 14 34 h.protocol
  · exact hz.ipv6 m 14 54 h.protocol

/-- A packet whose TTL or hop limit and IP checksum have been written. -/
lemma Outgoing.header (h : Outgoing ipv6 udp n m)
    (heq : Set.EqOn m' m (softFields ipv6 false)ᶜ) :
    Outgoing ipv6 udp n m' ∧ outerPseudo ipv6 m' = outerPseudo ipv6 m := by
  constructor
  · refine h.congr (heq.mono fun i hi => ?_)
    unfold softFields outerL4
    cases ipv6 <;> simp only [Set.mem_union, Set.mem_Ico, Set.mem_compl_iff, if_true, if_false,
      Bool.false_eq_true] at hi ⊢ <;> omega
  · refine outerPseudo_congr (heq.mono fun i hi => ?_)
    unfold outerPseudoFields at hi
    unfold softFields outerL4
    cases ipv6 <;> simp only [Set.mem_union, Set.mem_Ico, Set.mem_compl_iff, if_true, if_false,
      Bool.false_eq_true] at hi ⊢ <;> omega

/-- The place of the TTL or of the hop limit. -/
def ttlOff (ipv6 : Bool) : ℕ := if ipv6 then 21 else 22

/-- What `csum_offload_ip_tcpudp` writes beside them: the checksum of the outermost IPv4 header, and
the word at the place of `th_sum` unless the device computes it. -/
def staleFields (off : TxOffload) (ipv6 : Bool) : Set ℕ :=
  (if ipv6 then ∅ else block 24 2) ∪
    if off.tcpudpCksum then ∅ else block (outerL4 ipv6 + 16) 2

lemma le_of_mem_staleFields {off : TxOffload} {i : ℕ} (hi : i ∈ staleFields off ipv6) :
    24 ≤ i := by
  unfold staleFields outerL4 at hi
  split_ifs at hi <;> simp only [Set.mem_union, Set.mem_Ico, Set.mem_empty_iff_false, or_false,
    false_or] at hi <;> omega

lemma ttlOff_lt (ipv6 : Bool) : ttlOff ipv6 < 24 := by
  cases ipv6 <;> decide

/-- Both are fields of the routine in software. -/
lemma staleFields_subset (off : TxOffload) (ipv6 : Bool) :
    insert (ttlOff ipv6) (staleFields off ipv6) ⊆ softFields ipv6 false := by
  intro i hi
  unfold staleFields ttlOff outerL4 at hi
  rw [softFields, outerL4, if_neg Bool.false_ne_true]
  split_ifs at hi ⊢ <;> simp only [Set.mem_insert_iff, Set.mem_union, Set.mem_Ico,
    Set.mem_empty_iff_false, or_false, false_or] at hi ⊢ <;> omega

/-- `th_sum` is one of its fields where it is computed. -/
lemma putSum_kept {s : Set ℕ} {th : ℕ} (csum : Mem → UInt16) (h : Set.EqOn m' m sᶜ)
    (hs : block (th + 16) 2 ⊆ s) : Set.EqOn (putSum th csum m') m sᶜ :=
  put_kept (put_kept h hs) hs

section Offload

variable {off : TxOffload} {olFlag : TxFlag} {l2Len l3Len : ℕ} {flags : List TxFlag}

/-- It sets the TTL to that of the templates, and writes nothing else. -/
lemma Outgoing.csumOffload_kept (h : Outgoing ipv6 udp n m) :
    Set.EqOn (csumOffloadIpTcpudp rte off olFlag ⟨m, l2Len, l3Len, flags⟩).data
      (put m (ttlOff ipv6) [64]) (staleFields off ipv6)ᶜ := by
  have hth := h.mbufTcpHdr
  have hversion := h.version
  have hsum : ¬ off.tcpudpCksum = true → block (outerL4 ipv6 + 16) 2 ⊆ staleFields off ipv6 := by
    intro ht i hi
    rw [staleFields, if_neg ht]
    exact .inr hi
  rw [csumOffloadIpTcpudp]
  dsimp only
  rw [hth]
  cases ipv6 with
  | false =>
      have hip : block 24 2 ⊆ staleFields off false := Set.subset_union_left
      have hhead : Set.EqOn (put (put m 22 [64]) 24 (le16 0)) (put m (ttlOff false) [64])
          (staleFields off false)ᶜ := put_kept (Set.eqOn_refl _ _) hip
      rw [if_neg Bool.false_ne_true] at hversion
      rw [if_pos hversion]
      by_cases ht : off.tcpudpCksum = true
      · simp only [if_pos ht]
        split_ifs
        · exact hhead
        · exact put_kept hhead hip
      · simp only [if_neg ht]
        have hword := putSum_kept (fun m => rte.ipv4UdptcpCksum m 14 (outerL4 false)) hhead
          (hsum ht)
        split_ifs
        · exact hword
        · exact put_kept hword hip
  | true =>
      have hhead : Set.EqOn (put m 21 [64]) (put m (ttlOff true) [64]) (staleFields off true)ᶜ :=
        Set.eqOn_refl _ _
      have hno : ¬ m 14 >>> 4 = 4 := by
        rw [hversion]
        decide
      rw [if_neg hno]
      split_ifs with ht
      · exact hhead
      · exact putSum_kept (fun m => rte.ipv6UdptcpCksum m 14 (outerL4 true)) hhead (hsum ht)

lemma Outgoing.csumOffload_ttl (h : Outgoing ipv6 udp n m) :
    (csumOffloadIpTcpudp rte off olFlag ⟨m, l2Len, l3Len, flags⟩).data (ttlOff ipv6) = 64 := by
  have hlt := ttlOff_lt ipv6
  rw [h.csumOffload_kept fun hmem => absurd (le_of_mem_staleFields hmem) (Nat.not_le.mpr hlt),
    put_head]

/-- The other bytes are kept. -/
lemma Outgoing.csumOffload_ne (h : Outgoing ipv6 udp n m) :
    Set.EqOn (csumOffloadIpTcpudp rte off olFlag ⟨m, l2Len, l3Len, flags⟩).data m
      (insert (ttlOff ipv6) (staleFields off ipv6))ᶜ := by
  intro i hi
  have hne : i ∉ block (ttlOff ipv6) 1 := by
    rintro ⟨h1, h2⟩
    exact hi (.inl (by omega))
  rw [h.csumOffload_kept fun hmem => hi (.inr hmem), put_of_notMem hne]

end Offload

lemma softCsum_ipv4 (rte : Rte) (h : Outgoing false udp n m) : softCsum rte m =
    (let m₂ := put (put (put m 22 [64]) 24 (le16 0)) 50 (le16 0)
     let m₃ := put m₂ 50 (le16 (outerCksum rte false m₂))
     put m₃ 24 (le16 (rte.ipv4Cksum m₃ 14))) := by
  have hth := h.mbufTcpHdr
  have hversion : m 14 >>> 4 = 4 := h.version
  rw [softCsum, csumOffloadIpTcpudp]
  dsimp only
  rw [hth, if_pos hversion]
  rfl

lemma softCsum_ipv6 (rte : Rte) (h : Outgoing true udp n m) : softCsum rte m =
    (let m₂ := put (put m 21 [64]) 70 (le16 0)
     put m₂ 70 (le16 (outerCksum rte true m₂))) := by
  have hth := h.mbufTcpHdr
  have hno : ¬ m 14 >>> 4 = 4 := by
    rw [h.version]
    decide
  rw [softCsum, csumOffloadIpTcpudp]
  dsimp only
  rw [hth, if_neg hno]
  rfl

/-- The TCP or UDP header and the payload, but for the word at 16. -/
lemma notMem_softFields {i : ℕ} (hi : i ∈ block (outerL4 ipv6) n)
    (hb : i ∉ block (outerL4 ipv6 + 16) 2) : i ∉ softFields ipv6 false := by
  refine fun hmem => hmem.elim (fun hfield => ?_) hb
  have hlo := hi.1
  unfold outerL4 at hlo
  cases ipv6 <;> simp only [Set.mem_union, Set.mem_Ico, if_true, if_false,
    Bool.false_eq_true] at hfield hlo <;> omega

/-- The checksum of headers in which its field is zero completes the sum. -/
lemma Outgoing.softened (hr : rte.Rfc1071) (h : Outgoing ipv6 udp n m) {m₁ : Mem}
    (heq : Set.EqOn m₁ m (softFields ipv6 false)ᶜ) (hzero : get16 m₁ (outerL4 ipv6 + 16) = 0) :
    (outerCksum rte ipv6 m₁).toNat + restSum ipv6 n m ≡ 0 [MOD 65535] := by
  obtain ⟨h₁, hpseudo⟩ := h.header heq
  have hsum : wordSum m₁ (outerL4 ipv6) n =
      wordSum (put m (outerL4 ipv6 + 16) (le16 0)) (outerL4 ipv6) n := by
    refine wordSum_congr fun i hi => ?_
    by_cases hb : i ∈ block (outerL4 ipv6 + 16) 2
    · refine get16_inj ?_ hb
      rw [hzero, get16_put]
    · rw [put_of_notMem hb]
      exact heq (notMem_softFields hi hb)
  have hlaw := hr.outer h₁
  rw [hpseudo, hsum] at hlaw
  exact hlaw

/-- What the routine does to an outgoing packet. -/
lemma Outgoing.softCsum (hr : rte.Rfc1071) (hz : rte.UdpNonzero) (h : Outgoing ipv6 udp n m) :
    ∃ x, Softened ipv6 udp n m (softCsum rte m) x := by
  cases ipv6 with
  | false =>
      have hsoft := softCsum_ipv4 rte h
      dsimp only at hsoft
      have h22 : block 22 1 ⊆ softFields false false := fun i hi => Or.inl (Or.inl hi)
      have h24 : block 24 2 ⊆ softFields false false := fun i hi => Or.inl (Or.inr hi)
      have h50 : block 50 2 ⊆ softFields false false := fun i hi => Or.inr hi
      have hkept : Set.EqOn (put (put (put m 22 [64]) 24 (le16 0)) 50 (le16 0)) m
          (softFields false false)ᶜ :=
        put_kept (put_kept (put_kept (Set.eqOn_refl m _) h22)
          h24) h50
      have hmod := h.softened hr hkept (get16_put 0)
      refine ⟨_, fun i hi => ?_, ?_, hmod, fun _ => ?_, fun hu => ?_⟩
      · rw [hsoft]
        exact put_kept (put_kept hkept h50)
          h24 hi
      · rw [hsoft, outerL4, get16_put_ne (.inr (by rw [length_le16]; decide))]
        exact get16_put _
      · -- the field of the IP checksum is zero when it is computed
        rw [hsoft]
        generalize hm₂ : put (put (put m 22 [64]) 24 (le16 0)) 50 (le16 0) = m₂
        generalize hm₃ : put m₂ 50 (le16 (outerCksum rte false m₂)) = m₃
        have hzero : get16 m₃ 24 = 0 := by
          rw [← hm₃, ← hm₂, get16_put_ne (.inl (by decide)), get16_put_ne (.inl (by decide)),
            get16_put]
        have hsum := wordSum_put16 m₃ 14 (rte.ipv4Cksum m₃ 14) (by decide : 10 % 2 = 0)
          (by decide : 10 + 2 ≤ 20)
        rw [hzero, UInt16.toNat_zero, Nat.add_zero] at hsum
        rw [hsum, Nat.add_comm]
        exact hr.ipv4Cksum m₃ 14
      · subst hu
        exact hz.outer (h.header hkept).1
  | true =>
      have hsoft := softCsum_ipv6 rte h
      dsimp only at hsoft
      have h21 : block 21 1 ⊆ softFields true false := fun i hi => Or.inl hi
      have h70 : block 70 2 ⊆ softFields true false := fun i hi => Or.inr hi
      have hkept : Set.EqOn (put (put m 21 [64]) 70 (le16 0)) m (softFields true false)ᶜ :=
        put_kept (put_kept (Set.eqOn_refl m _) h21)
          h70
      have hmod := h.softened hr hkept (get16_put 0)
      refine ⟨_, fun i hi => ?_, ?_, hmod, fun hno => Bool.noConfusion hno, fun hu => ?_⟩
      · rw [hsoft]
        exact put_kept hkept h70 hi
      · rw [hsoft]
        exact get16_put _
      · subst hu
        exact hz.outer (h.header hkept).1

/-- The word at 16 is no field of a UDP packet. -/
lemma notMem_softFields_udp {i : ℕ} (hb : i ∈ block (outerL4 ipv6 + 16) 2) :
    i ∉ softFields ipv6 true := by
  intro hmem
  unfold softFields outerL4 at hmem
  unfold outerL4 at hb
  cases ipv6 <;> simp only [Set.mem_union, Set.mem_Ico, if_true, if_false,
    Bool.false_eq_true] at hmem hb <;> omega

namespace Softened

lemma eqOn_put (hs : Softened ipv6 udp n m out x) :
    Set.EqOn out (put m (outerL4 ipv6 + 16) (le16 x)) (block (outerL4 ipv6) n) := by
  intro i hi
  by_cases hb : i ∈ block (outerL4 ipv6 + 16) 2
  · exact get16_inj (by rw [hs.sum, get16_put]) hb
  · rw [put_of_notMem hb]
    exact hs.kept i (notMem_softFields hi hb)

/-- The segment is as it was exactly if the word at 16 is. -/
lemma eqOn_iff (hs : Softened ipv6 udp n m out x) :
    Set.EqOn out m (block (outerL4 ipv6) n) ↔ ∀ i < outerL4 ipv6 + n,
      i ∈ block (outerL4 ipv6 + 16) 2 → m i = put m (outerL4 ipv6 + 16) (le16 x) i := by
  constructor
  · intro h i hi hb
    have hmem : i ∈ block (outerL4 ipv6) n := ⟨(Nat.le_add_right _ 16).trans hb.1, hi⟩
    exact (h hmem).symm.trans (hs.eqOn_put hmem)
  · intro h i hi
    by_cases hb : i ∈ block (outerL4 ipv6 + 16) 2
    · exact (hs.eqOn_put hi).trans (h i hi.2 hb).symm
    · exact hs.kept i (notMem_softFields hi hb)

/-- The whole sum, with the word that the routine writes. -/
lemma wordSum_eq (hs : Softened ipv6 udp n m out x) (hn : 18 ≤ n) :
    wordSum out (outerL4 ipv6) n =
      wordSum (put m (outerL4 ipv6 + 16) (le16 0)) (outerL4 ipv6) n + x.toNat := by
  have h16 : 16 % 2 = 0 := rfl
  have hx := wordSum_put16 m (outerL4 ipv6) x h16 hn
  have h0 := wordSum_put16 m (outerL4 ipv6) 0 h16 hn
  rw [UInt16.toNat_zero, Nat.add_zero] at h0
  rw [wordSum_congr hs.eqOn_put]
  omega

/-- The checksum of a TCP packet verifies. -/
lemma verifies (hs : Softened ipv6 false n m out x) (h : Outgoing ipv6 false n m) :
    L4Verifies ipv6 false n out := by
  have hn : 20 ≤ n := h.le
  have hmod := hs.modEq
  refine .inr ?_
  rw [(h.header hs.kept).2, hs.wordSum_eq (by omega), ← Nat.add_assoc, Nat.add_comm]
  exact hmod

end Softened

lemma l4Verifies_congr (hp : outerPseudo ipv6 out = outerPseudo ipv6 m)
    (h : Set.EqOn out m (block (outerL4 ipv6) n)) (hn : 8 ≤ n) :
    L4Verifies ipv6 udp n out ↔ L4Verifies ipv6 udp n m := by
  have hsum : get16 out (outerL4 ipv6 + 6) = get16 m (outerL4 ipv6 + 6) :=
    get16_congr (h.mono (Set.Ico_subset_Ico (by omega) (by omega)))
  rw [L4Verifies, L4Verifies, hp, hsum, wordSum_congr h]

end Soft

/-! ### The law -/

/-- The word that completes a sum, with zero sent as all ones. -/
def sumWord (s : ℕ) : UInt16 := UInt16.ofNat (65535 - s % 65535)

lemma eq_sumWord {x : UInt16} {s : ℕ} (h : x.toNat + s ≡ 0 [MOD 65535]) (hx : x ≠ 0) :
    x = sumWord s := by
  have hlt := x.toNat_lt
  have hpos : x.toNat ≠ 0 := fun h0 => hx (UInt16.toNat_inj.mp h0)
  apply UInt16.toNat_inj.mp
  rw [sumWord, UInt16.toNat_ofNat_of_lt' (by change _ < 2 ^ 16; omega)]
  rw [Nat.ModEq] at h
  omega

/-- A UDP packet that the routine leaves as it should be: its own checksum verifies already, and
the word at 16, as far as the packet has it, is the one that completes the sum of the rest. -/
structure Completes (ipv6 : Bool) (n : ℕ) (m : Mem) : Prop where
  verifies : L4Verifies ipv6 true n m
  word : ∀ i < outerL4 ipv6 + n, i ∈ block (outerL4 ipv6 + 16) 2 →
    m i = put m (outerL4 ipv6 + 16) (le16 (sumWord (restSum ipv6 n m))) i

/-- **Checksums without offload.** The checksums of an outgoing packet verify and the rest of it
is unchanged for every TCP packet; for a UDP packet, as the outermost one of VXLAN is, exactly if
the routine finds in the payload what it writes there. -/
theorem csumOffload_sound_iff {rte : Rte} (hr : rte.Rfc1071) (hz : rte.UdpNonzero)
    {ipv6 udp : Bool} {n : ℕ} (olFlag : TxFlag) {p : TxMbuf} (h : Outgoing ipv6 udp n p.data) :
    Sound ipv6 udp n p.data (csumOffloadIpTcpudp rte .off olFlag p).data ↔
      (udp = true → Completes ipv6 n p.data) := by
  rw [csumOffloadIpTcpudp_data]
  obtain ⟨x, hs⟩ := h.softCsum hr hz
  generalize softCsum rte p.data = out at hs
  have hpseudo := (h.header hs.kept).2
  have hle := h.le
  cases udp with
  | false =>
      exact ⟨fun _ hno => Bool.noConfusion hno,
        fun _ => ⟨hs.ip, hs.verifies h, fun i _ => hs.kept i⟩⟩
  | true =>
      have hn : 8 ≤ n := hle
      have hx : x = sumWord (restSum ipv6 n p.data) := eq_sumWord hs.modEq (hs.ne rfl)
      constructor
      · intro hsound _
        have hseg : Set.EqOn out p.data (block (outerL4 ipv6) n) := by
          intro i hi
          by_cases hb : i ∈ block (outerL4 ipv6 + 16) 2
          · exact hsound.kept i hi.2 (notMem_softFields_udp hb)
          · exact hs.kept i (notMem_softFields hi hb)
        refine ⟨(l4Verifies_congr hpseudo hseg hn).mp hsound.l4, ?_⟩
        rw [← hx]
        exact hs.eqOn_iff.mp hseg
      · intro hc
        obtain ⟨hver, hword⟩ := hc rfl
        rw [← hx] at hword
        have hseg := hs.eqOn_iff.mpr hword
        refine ⟨hs.ip, (l4Verifies_congr hpseudo hseg hn).mpr hver, fun i hi hno => ?_⟩
        by_cases hb : i ∈ block (outerL4 ipv6) n
        · exact hseg hb
        · have hlt : i < outerL4 ipv6 := by
            by_contra hle'
            exact hb ⟨by omega, hi⟩
          have hhead : i ∉ block (outerL4 ipv6 + 16) 2 := fun hmem => by
            have hge := hmem.1
            omega
          exact hs.kept i fun hmem => hno (.inl (hmem.resolve_right hhead))

/-! ### The packets that are sent -/

/-- The outermost IP header of the packets is an IPv6 header. -/
def outerIpv6 (w : WireSpace) : Bool := !w.ws.vxlan && w.ipv6

/-- The outermost header after it is a UDP header. -/
def outerUdp (w : WireSpace) (c : Cache) : Bool := w.ws.vxlan || c == .udp

section Sent

variable {c : Cache} {w : WireSpace} {bytes : List UInt8} {m : Mem}

lemma outerUdp_protocol (hv : ¬ w.ws.vxlan = true) :
    c.protocol = if outerUdp w c then 17 else 6 := by
  rw [outerUdp, Bool.eq_false_iff.mpr hv]
  cases c <;> rfl

lemma outerUdp_min (hv : ¬ w.ws.vxlan = true) :
    (if outerUdp w c then 8 else 20) = if c = .udp then 8 else 20 := by
  rw [outerUdp, Bool.eq_false_iff.mpr hv]
  cases c <;> rfl

/-- The outer headers of a VXLAN packet start like those of another IPv4 packet. -/
lemma vxlanHeaders_append (rte : Rte) (w : WireSpace) (innerLen : ℕ) (l : List UInt8) :
    ∃ check rest, vxlanHeaders rte w innerLen ++ l =
      ethHdr w.gatewayMac w.localMac 0x0800 ++ (iphdr w.tos (UInt16.ofNat (36 + innerLen)) 17 check
        w.vxlan.saddr w.vxlan.daddr ++ rest) := by
  let ip := iphdr w.tos (UInt16.ofNat (36 + innerLen)) 17 0 w.vxlan.saddr w.vxlan.daddr
  refine ⟨rte.ipv4Cksum (put (fun _ => 0) 0 ip) 0,
    udphdr 0 (htons 4789) (UInt16.ofNat (16 + innerLen)) ++ (([0x08, 0, 0, 0] : List UInt8) ++
      (le32 (htonl (w.vxlan.vni <<< 8)) ++ l)), ?_⟩
  rw [vxlanHeaders]
  simp only [List.append_assoc, ip]

/-- A template in VXLAN headers. -/
lemma outgoing_vxlan (rte : Rte) (w : WireSpace) {inner : List UInt8}
    (hlen : 50 + inner.length ≤ mbufDataSize) :
    Outgoing false true (16 + inner.length) (image (vxlanHeaders rte w inner.length ++ inner)) := by
  rw [mbufDataSize] at hlen
  obtain ⟨check, rest, hbytes⟩ := vxlanHeaders_append rte w inner.length inner
  have heth : (ethHdr w.gatewayMac w.localMac 0x0800).length = 14 := rfl
  rw [hbytes]
  refine ⟨ethHdr_type .., ?_, ?_, ?_, ?_, ?_⟩
  · rw [image_append heth 0]
    exact iphdr_version ..
  · rw [if_neg Bool.false_ne_true, if_neg Bool.false_ne_true, get16_image_append heth 2,
      iphdr_totLen]
    congr 2
    omega
  · exact image_append heth 9
  · rw [if_pos rfl]
    omega
  · omega

/-- A template without VXLAN. -/
lemma outgoing_plain (hv : ¬ w.ws.vxlan = true) {rest : List UInt8}
    (hmin : (if c = .udp then 8 else 20) ≤ rest.length) (hlen : 34 + rest.length ≤ mbufDataSize) :
    Outgoing w.ipv6 (outerUdp w c) rest.length (image (ethHdr w.gatewayMac w.localMac
      (etherType w) ++ (ipHeader w c.protocol (UInt16.ofNat rest.length) ++ rest))) := by
  rw [mbufDataSize] at hlen
  have heth : (ethHdr w.gatewayMac w.localMac (etherType w)).length = 14 := rfl
  refine ⟨?_, ?_, ?_, ?_, ?_, ?_⟩
  · rw [ethHdr_type, etherType]
  · rw [image_append heth 0]
    exact ipHeader_version ..
  · rw [ipHeader]
    split_ifs
    · exact get16_of_bytes rfl rfl
    · rw [get16_image_append heth 2, iphdr_totLen, UInt16.ofNat_add]
      rfl
  · have hprotocol := ipHeader_protocol w c.protocol (UInt16.ofNat rest.length) rest
    rw [← outerUdp_protocol hv]
    refine Eq.trans ?_ hprotocol
    split_ifs
    · exact image_append heth 6
    · exact image_append heth 9
  · rw [outerUdp_min hv]
    exact hmin
  · omega

/-- A template is an outgoing packet, but for what is written later. -/
lemma template_outgoing {rte : Rte} {udpData : List UInt8}
    (h : template rte w udpData c = some bytes) :
    Outgoing (outerIpv6 w) (outerUdp w c) (bytes.length - outerL4 (outerIpv6 w)) (image bytes) := by
  obtain ⟨rest, hrest, h⟩ := template_some h
  rw [mbufCacheInit] at h
  split_ifs at h with hv hlen hlen
  · obtain rfl := Option.some.inj h
    have hip : outerIpv6 w = false := by rw [outerIpv6, hv]; rfl
    have hudp : outerUdp w c = true := by rw [outerUdp, hv]; rfl
    have hin : (ethHdr w.vxlan.innerDmac w.vxlan.innerSmac (etherType w)).length = 14 := rfl
    generalize ipHeader w c.protocol (UInt16.ofNat rest.length) ++ rest = l3 at hlen ⊢
    have hinner : (ethHdr w.vxlan.innerDmac w.vxlan.innerSmac (etherType w) ++ l3).length =
        14 + l3.length := by
      rw [List.length_append, hin]
    have hout : (vxlanHeaders rte w (14 + l3.length)).length = 50 := rfl
    rw [List.append_assoc, List.length_append, hinner, hout] at hlen
    rw [hip, hudp, List.append_assoc, List.length_append, hinner, hout]
    have hn : 50 + (14 + l3.length) - outerL4 false = 16 + (14 + l3.length) := by
      rw [outerL4, if_neg Bool.false_ne_true]
      omega
    have hvxlan := outgoing_vxlan rte w (hinner ▸ hlen)
    rw [hinner] at hvxlan
    rw [hn]
    exact hvxlan
  · obtain rfl := Option.some.inj h
    have heth : (ethHdr w.gatewayMac w.localMac (etherType w)).length = 14 := rfl
    have hip : outerIpv6 w = w.ipv6 := by
      rw [outerIpv6, Bool.eq_false_iff.mpr hv]
      rfl
    have hlip := length_ipHeader w c.protocol (UInt16.ofNat rest.length)
    rw [List.length_append, List.length_append, heth, hlip] at hlen
    have hn : (ethHdr w.gatewayMac w.localMac (etherType w) ++
        (ipHeader w c.protocol (UInt16.ofNat rest.length) ++ rest)).length - outerL4 w.ipv6 =
        rest.length := by
      rw [List.length_append, List.length_append, heth, hlip, outerL4]
      split_ifs <;> omega
    rw [hip, hn]
    exact outgoing_plain hv hrest (by split_ifs at hlen <;> omega)

/-- The fields that make a packet outgoing. -/
def outerFields (ipv6 : Bool) : Set ℕ :=
  block 12 3 ∪ if ipv6 then block 18 3 else block 16 2 ∪ block 23 1

lemma disjoint_headerFields : Disjoint (outerFields (outerIpv6 w)) (headerFields c w (l4 w)) := by
  refine Set.disjoint_left.mpr fun i hi hf => ?_
  unfold outerFields outerIpv6 at hi
  unfold headerFields vxlanFields ipFields tcpFields udpFields l4 l3Off at hf
  by_cases hv : w.ws.vxlan = true <;> by_cases h6 : w.ipv6 = true <;> by_cases hc : c = .udp <;>
    simp only [hv, h6, hc, if_true, if_false, Bool.not_true, Bool.not_false, Bool.and_true,
      Bool.and_false, Bool.false_eq_true, Set.mem_union, Set.mem_Ico, Set.mem_empty_iff_false,
      false_or] at hi hf <;> omega

/-- A packet that is built keeps the fields. -/
lemma Outgoing.newPacket {udp : Bool} {n : ℕ} (h : Outgoing (outerIpv6 w) udp n m) (b : Build) :
    Outgoing (outerIpv6 w) udp n (newPacket c w b m) := by
  have hl4 : l4Off w m = l4 w := by
    rw [l4Off, l4, l3Off]
    split_ifs with hv h6 h6
    · rfl
    · rfl
    · rw [h.mbufTcpHdr, outerIpv6, Bool.eq_false_iff.mpr hv, h6]
      rfl
    · rw [h.mbufTcpHdr, outerIpv6, Bool.eq_false_iff.mpr hv, Bool.eq_false_iff.mpr h6]
      rfl
  have hheaders : Set.EqOn (headers c w b (l4 w) m) m (outerFields (outerIpv6 w)) :=
    ((headers_writes c w b (l4 w)).kept m).mono
      (Set.disjoint_left.mp disjoint_headerFields)
  refine h.congr (?_ : Set.EqOn _ _ (outerFields (outerIpv6 w)))
  rw [newPacket_eq, hl4]
  split_ifs with hd
  · have hv := w.change_dip_vxlan hd
    have hip : outerIpv6 w = w.ipv6 := by
      rw [outerIpv6, hv]
      rfl
    have hoff : outerL4 w.ipv6 ≤ l4 w + c.sumOff := by
      rw [l4, changeDip_l3 hd, outerL4]
      split_ifs <;> omega
    rw [hip] at hheaders ⊢
    generalize headers c w b (l4 w) m = m₁ at hheaders ⊢
    -- a write behind the fields, or between the protocol and the addresses
    have hput : ∀ {m' : Mem} {off : ℕ} {bs : List UInt8}, (if w.ipv6 then 21 else 24) ≤ off →
        Set.EqOn m' m (outerFields w.ipv6) → Set.EqOn (put m' off bs) m (outerFields w.ipv6) := by
      intro m' off bs hle h'
      refine (put_eqOn_left (Set.disjoint_left.mpr fun i hi hb => ?_)).trans h'
      have hge := hb.1
      unfold outerFields at hi
      split_ifs at hle hi <;> simp only [Set.mem_union, Set.mem_Ico] at hi <;> omega
    rw [changeDip_l3 hd]
    by_cases h6 : w.ipv6 = true
    · rw [outerL4, if_pos h6] at hoff
      rw [changeDip_v6 h6 _ _ _ (by omega)]
      rw [if_pos h6] at hput
      exact hput (by omega) (hput (by omega) hheaders)
    · rw [outerL4, if_neg h6] at hoff
      rw [changeDip_v4 (Bool.eq_false_iff.mpr h6) _ _ _ (by omega)]
      rw [if_neg h6] at hput
      exact hput (by omega) (hput (by omega) (hput (by omega) hheaders))
  · exact hheaders

/-- `mbuf_cache_alloc`, a packet, and what it passes when it is sent. -/
def buildSent (rte : Rte) (off : TxOffload) (c : Cache) (w : WireSpace) (bytes : List UInt8)
    (m : PacketMbuf) (b : Build) : PacketMbuf :=
  let m := build c w bytes m b
  { m with data := (csumOffloadIpTcpudp rte off (txOlFlag w c) ⟨m.data, 0, 0, []⟩).data }

/-- The mbufs of a cache after a history of packets that were sent. -/
def runSent (rte : Rte) (off : TxOffload) (c : Cache) (w : WireSpace) (bytes : List UInt8)
    (pool : ℕ → PacketMbuf) (hist : List (ℕ × Build)) : ℕ → PacketMbuf :=
  hist.foldl
    (fun pool p => Function.update pool p.1 (buildSent rte off c w bytes (pool p.1) p.2)) pool

/-- What every packet keeps of the mbuf that it is built on holds after every history. -/
lemma runSent_rule {rte : Rte} {off : TxOffload} {P : PacketMbuf → Prop} {pool : ℕ → PacketMbuf}
    (hpool : ∀ i, P (pool i)) (hbuild : ∀ hist i b, P (runSent rte off c w bytes pool hist i) →
      P (buildSent rte off c w bytes (runSent rte off c w bytes pool hist i) b))
    (hist : List (ℕ × Build)) (i : ℕ) : P (runSent rte off c w bytes pool hist i) := by
  induction hist using List.reverseRecOn generalizing i with
  | nil => exact hpool i
  | append_singleton hist p ih =>
      rw [runSent, List.foldl_concat, ← runSent]
      by_cases hi : i = p.1
      · subst hi
        rw [Function.update_self]
        exact hbuild hist p.1 p.2 (ih p.1)
      · rw [Function.update_of_ne hi]
        exact ih i

/-- What is handed to `csum_offload_ip_tcpudp`, on an mbuf that is new or has been used. -/
lemma build_outgoing {rte : Rte} {udpData : List UInt8}
    (ht : template rte w udpData c = some bytes) {p : PacketMbuf}
    (hp : p.tagged = true →
      Outgoing (outerIpv6 w) (outerUdp w c) (bytes.length - outerL4 (outerIpv6 w)) p.data)
    (b : Build) :
    Outgoing (outerIpv6 w) (outerUdp w c) (bytes.length - outerL4 (outerIpv6 w))
      (build c w bytes p b).data := by
  refine Outgoing.newPacket ?_ b
  rw [mbufCacheAlloc]
  split_ifs with htag
  · exact hp htag
  · refine (template_outgoing ht).congr ((copy_eqOn p.data bytes).mono fun i hi => ?_)
    have hlen := (template_holds ht).lt_length
    refine ⟨Nat.zero_le i, ?_⟩
    split_ifs at hi <;> simp only [Set.mem_union, Set.mem_Ico] at hi <;> omega

/-- Every packet that is sent is an outgoing packet. -/
theorem outgoing_run {rte : Rte} (off : TxOffload) {udpData : List UInt8}
    (ht : template rte w udpData c = some bytes) (pool : ℕ → PacketMbuf)
    (hnew : ∀ i, (pool i).tagged = false) (hist : List (ℕ × Build)) (i : ℕ) (b : Build) :
    Outgoing (outerIpv6 w) (outerUdp w c) (bytes.length - outerL4 (outerIpv6 w))
      (build c w bytes (runSent rte off c w bytes pool hist i) b).data := by
  refine build_outgoing ht (runSent_rule (P := fun p => p.tagged = true → Outgoing (outerIpv6 w)
    (outerUdp w c) (bytes.length - outerL4 (outerIpv6 w)) p.data) ?_ ?_ hist i) b
  · intro i htag
    rw [hnew i] at htag
    exact Bool.noConfusion htag
  · intro hist i b ih _
    have hb := build_outgoing ht ih b
    exact (hb.header (hb.csumOffload_ne.mono
      (Set.compl_subset_compl.mpr (staleFields_subset off _)))).1

end Sent

lemma Rte.rfc1071_udpNonzero : Rte.rfc1071.UdpNonzero := by
  have hne : ∀ x : ℕ, UInt16.ofNat (65535 - x % 65535) ≠ 0 := by
    intro x h0
    have hnat := congrArg UInt16.toNat h0
    rw [UInt16.toNat_ofNat_of_lt' (by change _ < 2 ^ 16; omega), UInt16.toNat_zero] at hnat
    omega
  exact ⟨fun _ _ _ _ => hne _, fun _ _ _ _ => hne _⟩

/-- The template of a cache of an IPv4 client whose UDP payload has ten bytes. -/
def softTemplate (c : Cache) : List UInt8 :=
  (template .rfc1071 (.single false false) (List.replicate 10 0x61) c).getD []

lemma template_softTemplate (c : Cache) :
    template .rfc1071 (.single false false) (List.replicate 10 0x61) c =
      some (softTemplate c) := by
  obtain ⟨bytes, h⟩ : ∃ bytes,
      template .rfc1071 (.single false false) (List.replicate 10 0x61) c = some bytes := by
    cases c <;> exact ⟨_, rfl⟩
  rw [softTemplate, h, Option.getD_some]

/-- The first packet of that client. -/
def softPacket (c : Cache) : TxMbuf :=
  ⟨(build c (.single false false) (softTemplate c) ⟨fun _ => 0, false⟩ .single).data, 0, 0, []⟩

lemma softPacket_outgoing (c : Cache) :
    Outgoing false (c == .udp) ((softTemplate c).length - 34) (softPacket c).data :=
  outgoing_run .off (template_softTemplate c)
    (fun _ => ⟨fun _ => 0, false⟩) (fun _ => rfl) [] 0 .single

/-- A SYN. -/
theorem csumOffload_sound_syn :
    Outgoing false false ((softTemplate .tcpOpt).length - 34) (softPacket .tcpOpt).data ∧
    Sound false false ((softTemplate .tcpOpt).length - 34) (softPacket .tcpOpt).data
      (csumOffloadIpTcpudp .rfc1071 .off .tcpCksum (softPacket .tcpOpt)).data :=
  ⟨softPacket_outgoing .tcpOpt,
    (csumOffload_sound_iff Rte.rfc1071_rfc1071 Rte.rfc1071_udpNonzero .tcpCksum
      (softPacket_outgoing .tcpOpt)).mpr fun h => absurd h (by decide)⟩

/-- A UDP packet of ten bytes: two of its payload are replaced by a checksum. -/
theorem csumOffload_udp_fails :
    Outgoing false true 18 (softPacket .udp).data ∧
    ¬ Sound false true 18 (softPacket .udp).data
      (csumOffloadIpTcpudp .rfc1071 .off .udpCksum (softPacket .udp)).data := by
  have hout : Outgoing false true 18 (softPacket .udp).data := softPacket_outgoing .udp
  refine ⟨hout, fun hsound => ?_⟩
  rw [csumOffloadIpTcpudp_data] at hsound
  obtain ⟨x, hs⟩ := hout.softCsum Rte.rfc1071_rfc1071 Rte.rfc1071_udpNonzero
  have hkept : ∀ i ∈ block 50 2, softCsum .rfc1071 (softPacket .udp).data i =
      (softPacket .udp).data i := fun i hi =>
    hsound.kept i hi.2 (notMem_softFields_udp hi)
  have hword : get16 (softPacket .udp).data 50 =
      sumWord (restSum false 18 (softPacket .udp).data) :=
    calc get16 (softPacket .udp).data 50 = get16 (softCsum .rfc1071 (softPacket .udp).data) 50 :=
          (get16_congr hkept).symm
      _ = x := hs.sum
      _ = _ := eq_sumWord hs.modEq (hs.ne rfl)
  revert hword
  decide

end Dperf.Wire
