import Dperf.Receive
import Dperf.ResetPacket

/-!
The answer to an ICMP echo request, built over the bytes of the request.

* `icmpReply`: what `icmp_process` makes of an mbuf; `icmpProcess_reply` says that this is the mbuf
  that the receiving side sends.
* `IcmpVerifies`: the checksum of an ICMP message, recomputed over the whole message.
* `icmpReply_message`: the answer is the request but for the type and the checksum.
* `icmpReply_verifies_iff`: the checksum is patched by a 16-bit addition without the end-around
  carry, so that the answer verifies exactly if the addition does not overflow.
-/

namespace Dperf.Wire

open Memory OnesComplement

/-! ### `icmp.c` -/

/-- `iph_swap_addr`. -/
def iphSwapAddr (iph : ℕ) (m : Mem) : Mem :=
  let ip := get32 m (iph + 12)
  let m := put m (iph + 12) (le32 (get32 m (iph + 16)))
  put m (iph + 16) (le32 ip)

/-- `csum_ip_compute`. -/
def csumIpCompute (rte : Rte) (m : Mem) : Mem :=
  let m := put m 24 (le16 0)
  put m 24 (le16 (rte.ipv4Cksum m 14))

/-- `icmp_process`: the mbuf that is sent, if any. -/
def icmpReply (rte : Rte) (w : WireSpace) (m : RteMbuf) : Option RteMbuf :=
  if m.data 34 ≠ 8 then none
  else
    let data := put m.data 34 [0]
    let data := put data 36 (le16 (get16 data 36 + htons 0x0800))
    let data := iphSwapAddr 14 data
    let data := put data 15 [w.tos]
    let data := put data 22 [64]
    -- no offload of the IP checksum here
    let data := csumIpCompute rte data
    some { m with data := ethAddrSwap data }

/-! ### ICMP messages -/

/-- The length of the ICMP message in a frame without IP options. -/
def icmpLen (m : Mem) : ℕ := (htons (get16 m 16)).toNat - 20

/-- The words of the ICMP message, its checksum among them, fold to all ones. -/
def IcmpVerifies (m : Mem) : Prop := onesSum (wordSum m 34 (icmpLen m)) = 65535

instance (m : Mem) : Decidable (IcmpVerifies m) := inferInstanceAs (Decidable (_ = _))

/-- An ICMP echo request. -/
structure EchoRequest (m : RteMbuf) : Prop where
  type : m.data 34 = 8
  len : 8 ≤ icmpLen m.data
  verifies : IcmpVerifies m.data

lemma onesSum_eq_ones {x : ℕ} : onesSum x = 65535 ↔ x ≠ 0 ∧ x ≡ 0 [MOD 65535] := by
  rw [onesSum, Nat.ModEq]
  split_ifs with h
  · exact iff_of_false (by decide) fun hx => hx.1 h
  · omega

section Reply

variable {rte : Rte} {w : WireSpace} {m out : RteMbuf} {n : ℕ}

/-- The receiving side sends the mbuf of the answer, and no other. -/
lemma icmpProcess_reply (p : PortSpace) (s : Core n) :
    icmpProcess p m s = match icmpReply rte p.w m with
      | some out => s.onNic (workSpaceTxSend p out.id)
      | none => if p.w.ws.kni && workSpaceIsLocalAddr p m then s.onNic (kniRecv p (some m.id))
          else s.onNic (mbufFree m.id) := by
  rw [icmpProcess, icmpReply]
  split_ifs <;> rfl

lemma iphSwapAddr_kept (d : Mem) : Set.EqOn (iphSwapAddr 14 d) d (block 14 20)ᶜ := by
  rw [iphSwapAddr]
  refine put_kept (put_kept (Set.eqOn_refl d _) ?_) ?_ <;>
  exact Set.Ico_subset_Ico (by omega) (by simp only [length_le32]; omega)

lemma csumIpCompute_kept (rte : Rte) (d : Mem) :
    Set.EqOn (csumIpCompute rte d) d (block 14 20)ᶜ := by
  rw [csumIpCompute]
  refine put_kept (put_kept (Set.eqOn_refl d _) ?_) ?_ <;>
  exact Set.Ico_subset_Ico (by omega) (by rw [length_le16]; omega)

/-- The ICMP message of a frame with another type and checksum. -/
def echoPatched (d : Mem) : Mem :=
  put (put d 34 [0]) 36 (le16 (get16 d 36 + htons 0x0800))

/-- Behind the IP header, the answer is the request with another type and checksum. -/
lemma icmpReply_message (rte : Rte) (w : WireSpace) (htype : m.data 34 = 8) :
    ∃ out, icmpReply rte w m = some out ∧ out.id = m.id ∧ out.dataLen = m.dataLen ∧
      (∀ i, 34 ≤ i → out.data i = echoPatched m.data i) ∧ icmpLen out.data = icmpLen m.data := by
  have hget : get16 (put m.data 34 [0]) 36 = get16 m.data 36 := get16_put_ne (.inr (by simp))
  set d := put (put (iphSwapAddr 14 (echoPatched m.data)) 15 [w.tos]) 22 [64] with hd
  have hout : icmpReply rte w m = some { m with data := ethAddrSwap (csumIpCompute rte d) } := by
    rw [hd, echoPatched, ← hget, icmpReply, if_neg (not_not_intro htype)]
  refine ⟨_, hout, rfl, rfl, fun i hi => ?_, ?_⟩
  · have hip : i ∈ (block 14 20)ᶜ := fun hmem => absurd hmem.2 (by omega)
    have heth : i ∈ (block 0 12)ᶜ := fun hmem => absurd hmem.2 (by omega)
    calc ethAddrSwap (csumIpCompute rte d) i = csumIpCompute rte d i := ethAddrSwap_kept _ heth
      _ = d i := csumIpCompute_kept rte _ hip
      _ = iphSwapAddr 14 (echoPatched m.data) i := by
          rw [hd, put_ne (.inr (by rw [List.length_singleton]; omega)),
            put_ne (.inr (by rw [List.length_singleton]; omega))]
      _ = echoPatched m.data i := iphSwapAddr_kept _ hip
  · -- the total length is behind the Ethernet addresses, and none of the fields that are set
    have hlen : ∀ d : Mem, get16 (ethAddrSwap d) 16 = get16 d 16 := fun d =>
      get16_congr ((ethAddrSwap_kept d).mono (block_disjoint (.inr (by decide))).subset_compl_right)
    rw [icmpLen, icmpLen, hlen, csumIpCompute, hd, iphSwapAddr, echoPatched]
    simp (disch := simp only [length_le16, length_le32, List.length_singleton]; omega) only
      [get16_put_ne]

/-- What the type and the checksum add to the sum of the words. -/
lemma wordSum_echoPatched (d : Mem) (htype : d 34 = 8) (hn : 8 ≤ n) :
    wordSum (echoPatched d) 34 n + 8 + (get16 d 36).toNat
      = wordSum d 34 n + ((get16 d 36).toNat + 8) % 65536 := by
  have hsum : (get16 d 36 + htons 0x0800).toNat = ((get16 d 36).toNat + 8) % 65536 := by
    rw [UInt16.toNat_add]
    rfl
  have hget : get16 (put d 34 [0]) (34 + 2) = get16 d 36 := get16_put_ne (.inr (by simp))
  have hcheck := wordSum_put16 (n := n) (put d 34 [0]) 34 (get16 d 36 + htons 0x0800)
    (d := 2) rfl (by omega)
  have hfirst : wordSum (put d 34 [0]) 34 n + 8 = wordSum d 34 n := by
    have hput : wordSum (put d (34 + 0) [0]) 34 n
        + ∑ i ∈ Finset.range [(0 : UInt8)].length, weight (0 + i) * (d (34 + 0 + i)).toNat
        = wordSum d 34 n + listSum 0 [0] := wordSum_put (by rw [List.length_singleton]; omega)
    simpa [htype, weight, listSum] using hput
  rw [hget, hsum] at hcheck
  show wordSum (put (put d 34 [0]) (34 + 2) (le16 (get16 d 36 + htons 0x0800))) 34 n + 8 + _ = _
  omega

end Reply

/-- **The checksum of an echo reply.** The answer to an echo request verifies exactly if the
checksum of the request, as the little-endian word that it is in memory, is below 0xFFF8. -/
theorem icmpReply_verifies_iff (rte : Rte) (w : WireSpace) {m : RteMbuf} (h : EchoRequest m) :
    (∃ out, icmpReply rte w m = some out ∧ IcmpVerifies out.data) ↔
      (get16 m.data 36).toNat + 8 < 65536 := by
  obtain ⟨out, hout, -, -, hmsg, hlen⟩ := icmpReply_message rte w h.type
  have hsum : wordSum out.data 34 (icmpLen out.data)
      = wordSum (echoPatched m.data) 34 (icmpLen m.data) := by
    rw [hlen]
    exact wordSum_congr fun i hi => hmsg i hi.1
  have hpatched := wordSum_echoPatched m.data h.type h.len
  obtain ⟨hne, hok⟩ := onesSum_eq_ones.mp h.verifies
  have hchecksum := (get16 m.data 36).toNat_lt
  have hiff : IcmpVerifies out.data ↔ (get16 m.data 36).toNat + 8 < 65536 := by
    rw [IcmpVerifies, hsum, onesSum_eq_ones]
    rw [Nat.ModEq] at hok ⊢
    omega
  refine ⟨fun ⟨out', hout', hv⟩ => ?_, fun hlt => ⟨out, hout, hiff.mpr hlt⟩⟩
  obtain rfl : out = out' := Option.some.inj (hout.symm.trans hout')
  exact hiff.mp hv

/-- An echo request without data, from 10.0.0.1 to 10.0.0.2. -/
def ping (check ident : UInt16) : RteMbuf where
  id := 0
  data := fun i => (List.replicate 12 0 ++ le16 (htons 0x0800) ++ [0x45, 0] ++ le16 (htons 28) ++
    [0, 0, 0x40, 0, 64, 1, 0, 0, 10, 0, 0, 1, 10, 0, 0, 2] ++ [8, 0] ++ le16 check ++
    le16 ident ++ le16 0).getD i 0
  dataLen := 42
  ipCksumBad := false
  l4CksumBad := false

/-- The greatest checksum that can be patched. -/
theorem icmpReply_verifies_ping : EchoRequest (ping 0xFFF7 0) ∧
    ∃ out, icmpReply .rfc1071 (.single false false) (ping 0xFFF7 0) = some out ∧
      IcmpVerifies out.data := by
  have h : EchoRequest (ping 0xFFF7 0) := ⟨rfl, by decide, by decide⟩
  exact ⟨h, (icmpReply_verifies_iff .rfc1071 (.single false false) h).mpr (by decide)⟩

/-- The next one overflows: the answer has the checksum zero. -/
theorem icmpReply_ping_fails : EchoRequest (ping 0xFFF8 0xFFFE) ∧
    ∃ out, icmpReply .rfc1071 (.single false false) (ping 0xFFF8 0xFFFE) = some out ∧
      ¬ IcmpVerifies out.data := by
  obtain ⟨out, hout, -, -, hmsg, hlen⟩ :=
    icmpReply_message .rfc1071 (.single false false) (m := ping 0xFFF8 0xFFFE) rfl
  have hsum : wordSum out.data 34 (icmpLen out.data)
      = wordSum (echoPatched (ping 0xFFF8 0xFFFE).data) 34 8 := by
    rw [hlen]
    exact wordSum_congr fun i hi => hmsg i hi.1
  refine ⟨⟨rfl, by decide, by decide⟩, out, hout, ?_⟩
  rw [IcmpVerifies, hsum]
  decide

end Dperf.Wire
