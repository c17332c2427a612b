import Dperf.Frames

/-!
Every received mbuf gets to one place.

* `RunLoop`: what the run loops and the neighbour discovery pass to `ipv4_input`, `ipv6_input` and
  `vxlan_input`.
* `Consumes`: a function that is given an mbuf takes it, and every mbuf that it allocates, to one
  place each. One lemma for each handler, put together along the dispatch.
* `Consumed.sound`: so no mbuf is at two places, and none is lost.
* `received_consumed`: the three input functions consume, in every run loop.
-/

namespace Dperf.Wire

open Memory

variable {n : ℕ} {p : PortSpace} {m : RteMbuf} {s : Core n}

/-- The functions that the run loops pass on: `tcp_server_run_loop_ipv4` and its likes, and
`server_recv_mbuf` in `neigh.c`. -/
inductive RunLoop (p : PortSpace) : L4Input n → L4Input n → Prop
  | tcpServer (lookup : Lookup n) : RunLoop p (tcpServerProcess p lookup) (udpDrop p)
  | tcpClient (lookup : Lookup n) : RunLoop p (tcpClientProcess p lookup) (udpDrop p)
  | udpServer (lookup : Lookup n) : RunLoop p (tcpDrop p) (udpServerProcess p lookup)
  | udpClient (lookup : Lookup n) : RunLoop p (tcpDrop p) (udpClientProcess p lookup)
  | neigh : RunLoop p (tcpDrop p) (udpDrop p)

/-- The mbuf given and those allocated get to one place each. -/
def Consumed (m : RteMbuf) (s s' : Core n) : Prop := Nic.ledger.Takes {m.id} s.nic s'.nic

/-- A function that consumes what it is given. -/
def Consumes (f : L4Input n) : Prop := ∀ m s, Consumed m s (f m s)

/-- Where no mbuf was at two places, none is afterwards, and the mbuf given is at one. -/
lemma Consumed.sound {s' : Core n} (h : Consumed m s s') (hs : Nic.ledger.Sound s.nic)
    (hm : m.id ∉ Nic.ledger.held s.nic) (hissued : m.id < s.nic.issued) :
    Nic.ledger.Sound s'.nic ∧ m.id ∈ Nic.ledger.held s'.nic := by
  constructor
  · refine Ledger.Takes.sound h hs (Multiset.nodup_singleton m.id) fun a ha => ?_
    rw [Multiset.mem_singleton.mp ha]
    exact ⟨hm, hissued⟩
  · rw [Ledger.Takes.held h]
    exact Multiset.mem_add.mpr (.inl (Multiset.mem_add.mpr (.inr (Multiset.mem_singleton_self _))))

/-! ### Steps -/

/-- New packets are allocated and sent. -/
lemma transmit_takes (p : PortSpace) : ∀ (packets : ℕ) (s : Nic),
    Nic.ledger.Takes 0 s (transmit p packets s) := by
  intro packets
  induction packets with
  | zero => exact Ledger.Takes.refl
  | succ packets ih =>
      intro s
      have hsend : Nic.ledger.Takes 0 s (workSpaceTxSend p (pktmbufAlloc s).1 (pktmbufAlloc s).2) :=
        pktmbufAlloc_takes (workSpaceTxSend_takes p _ _)
      exact hsend.before (ih _)

/-- What is done after a function on the sockets. -/
lemma Consumed.call {s' : Core n} {f : Worker n → Worker n} (h : Consumed m (s.call p f) s') :
    Consumed m s s' :=
  Ledger.Takes.after h (transmit_takes p _ s.nic)

/-- What is done after a function that takes nothing. -/
lemma Consumed.onNic {s' : Core n} {f : Nic → Nic} (hf : Nic.ledger.Takes 0 s.nic (f s.nic))
    (h : Consumed m (s.onNic f) s') : Consumed m s s' :=
  Ledger.Takes.after h hf

lemma consumed_free (m : RteMbuf) (s : Core n) : Consumed m s (s.onNic (mbufFree m.id)) :=
  mbufFree_takes m.id s.nic

lemma consumed_free2 (m : RteMbuf) (s : Core n) : Consumed m s (s.onNic (mbufFree2 m.id)) :=
  mbufFree2_takes m.id s.nic

lemma consumed_send (p : PortSpace) (m : RteMbuf) (s : Core n) :
    Consumed m s (s.onNic (workSpaceTxSend p m.id)) := workSpaceTxSend_takes p m.id s.nic

lemma consumed_kni (p : PortSpace) (m : RteMbuf) (s : Core n) :
    Consumed m s (s.onNic (kniRecv p (some m.id))) := kniRecv_takes p (some m.id) s.nic

/-- A changed frame is the same mbuf. -/
lemma Consumed.of_id {m' : RteMbuf} {s' : Core n} (h : Consumed m' s s') (hid : m'.id = m.id) :
    Consumed m s s' := by
  rw [Consumed, ← hid]
  exact h

/-! ### TCP and UDP -/

lemma tcpReplyRst_consumes (p : PortSpace) : Consumes (n := n) (tcpReplyRst p) := by
  intro m s
  rw [tcpReplyRst]
  split_ifs
  · exact (consumed_free2 m _).call
  · exact (consumed_send p m _).call

lemma tcpNoSocket_consumes (p : PortSpace) : Consumes (n := n) (tcpNoSocket p) := by
  intro m s
  rw [tcpNoSocket]
  split_ifs
  · exact consumed_kni p m s
  · exact tcpReplyRst_consumes p m s
  · exact (consumed_free2 m _).call

lemma tcpServerProcess_consumes (lookup : Lookup n) : Consumes (tcpServerProcess p lookup) := by
  intro m s
  rw [tcpServerProcess]
  dsimp only
  refine Consumed.call (p := p) (f := fun _ => (lookup m.headers s.worker).2) ?_
  cases (lookup m.headers s.worker).1 with
  | none => exact tcpNoSocket_consumes p m _
  | some i =>
      refine Consumed.call (p := p)
        (f := fun w => w.count (tcpFlagsRxCount m.headers.th.flags)) ?_
      dsimp only
      split_ifs
      · exact (consumed_free2 m _).call
      · exact (consumed_free2 m _).call
      · exact (consumed_free2 m _).call
      · exact (consumed_free2 m _).call

lemma tcpClientProcess_consumes (lookup : Lookup n) : Consumes (tcpClientProcess p lookup) := by
  intro m s
  rw [tcpClientProcess]
  dsimp only
  refine Consumed.call (p := p) (f := fun _ => (lookup m.headers s.worker).2) ?_
  cases (lookup m.headers s.worker).1 with
  | none => exact tcpNoSocket_consumes p m _
  | some i =>
      refine Consumed.call (p := p)
        (f := fun w => w.count (tcpFlagsRxCount m.headers.th.flags)) ?_
      dsimp only
      split_ifs
      · exact (consumed_free2 m _).call
      · exact (consumed_free2 m _).call
      · exact (consumed_free2 m _).call
      · exact (consumed_free2 m _).call

lemma tcpDrop_consumes (p : PortSpace) : Consumes (n := n) (tcpDrop p) := by
  intro m s
  rw [tcpDrop]
  split_ifs
  · exact consumed_kni p m s
  · exact (consumed_free m _).call

lemma udpDrop_consumes (p : PortSpace) : Consumes (n := n) (udpDrop p) := by
  intro m s
  rw [udpDrop]
  split_ifs
  · exact consumed_kni p m s
  · exact (consumed_free2 m _).call

lemma udpNoSocket_consumes (p : PortSpace) : Consumes (n := n) (udpNoSocket p) := by
  intro m s
  rw [udpNoSocket]
  split_ifs
  · exact consumed_kni p m s
  · exact (consumed_free m _).call

lemma udpClientProcess_consumes (lookup : Lookup n) : Consumes (udpClientProcess p lookup) := by
  intro m s
  rw [udpClientProcess]
  refine Consumed.call (p := p) (f := fun _ => (lookup m.headers s.worker).2) ?_
  cases (lookup m.headers s.worker).1 with
  | none => exact udpNoSocket_consumes p m _
  | some i => exact (consumed_free m _).call

lemma udpServerProcess_consumes (lookup : Lookup n) : Consumes (udpServerProcess p lookup) := by
  intro m s
  rw [udpServerProcess]
  refine Consumed.call (p := p) (f := fun _ => (lookup m.headers s.worker).2) ?_
  cases (lookup m.headers s.worker).1 with
  | none => exact udpNoSocket_consumes p m _
  | some i => exact (consumed_free m _).call

/-- What the run loops pass on consumes. -/
lemma RunLoop.consumes {tcpInput udpInput : L4Input n} (h : RunLoop p tcpInput udpInput) :
    Consumes tcpInput ∧ Consumes udpInput := by
  cases h with
  | tcpServer lookup => exact ⟨tcpServerProcess_consumes lookup, udpDrop_consumes p⟩
  | tcpClient lookup => exact ⟨tcpClientProcess_consumes lookup, udpDrop_consumes p⟩
  | udpServer lookup => exact ⟨tcpDrop_consumes p, udpServerProcess_consumes lookup⟩
  | udpClient lookup => exact ⟨tcpDrop_consumes p, udpClientProcess_consumes lookup⟩
  | neigh => exact ⟨tcpDrop_consumes p, udpDrop_consumes p⟩

/-! ### ICMP and ARP -/

lemma icmpProcess_consumes (p : PortSpace) : Consumes (n := n) (icmpProcess p) := by
  intro m s
  rw [icmpProcess]
  split_ifs
  · exact consumed_kni p m s
  · exact consumed_free m s
  · exact consumed_send p m s

lemma icmp6Send_consumes (p : PortSpace) : Consumes (n := n) (icmp6Send p) := by
  intro m s
  rw [icmp6Send]
  split_ifs
  · exact (consumed_send p m _).onNic (bondBroadcast_takes p _ s.nic)
  · exact consumed_send p m s

lemma icmp6NsProcess_consumes (p : PortSpace) : Consumes (n := n) (icmp6NsProcess p) := by
  intro m s
  rw [icmp6NsProcess]
  dsimp only
  split_ifs
  · exact consumed_free m s
  · exact (consumed_free m _).onNic (kniBroadcast_takes p s.nic)
  · refine Consumed.onNic (kniBroadcast_takes p s.nic) ?_
    exact (icmp6Send_consumes p (m.setType ndNeighborAdvert) _).of_id rfl

lemma icmp6Process_consumes (p : PortSpace) : Consumes (n := n) (icmp6Process p) := by
  intro m s
  rw [icmp6Process]
  split_ifs
  · exact consumed_free m s
  · rw [icmp6EchoProcess]
    split_ifs
    · exact consumed_free m s
    · exact (icmp6Send_consumes p (m.setType icmp6EchoReply) s).of_id rfl
  · exact icmp6NsProcess_consumes p m s
  · rw [icmp6NaProcess]
    split_ifs
    · exact consumed_kni p m s
    · exact consumed_free m s
  · exact consumed_kni p m s
  · exact consumed_free m s
  · exact consumed_free m s

lemma arpProcessRequest_consumes (p : PortSpace) : Consumes (n := n) (arpProcessRequest p) := by
  intro m s
  rw [arpProcessRequest, arpSend]
  split_ifs
  · exact consumed_free m s
  · exact consumed_free m s
  · exact (consumed_send p m _).onNic (bondBroadcast_takes p _ s.nic)
  · exact consumed_send p m s

lemma arpProcess_consumes (p : PortSpace) : Consumes (n := n) (arpProcess p) := by
  intro m s
  have hop : ∀ s : Core n, Consumed m s
      (if get16 m.data 20 = htons 1 then arpProcessRequest p m s
      else if get16 m.data 20 = htons 2 then arpProcessReply m s
      else s.onNic (mbufFree m.id)) := by
    intro s
    split_ifs
    · exact arpProcessRequest_consumes p m s
    · exact consumed_free m s
    · exact consumed_free m s
  rw [arpProcess]
  by_cases hk : p.w.ws.kni = true
  · rw [if_pos hk]
    exact (hop _).onNic (kniBroadcast_takes p s.nic)
  · rw [if_neg hk]
    exact hop s

lemma otherProtocol_consumes (p : PortSpace) : Consumes (n := n) (otherProtocol p) := by
  intro m s
  rw [otherProtocol]
  split_ifs
  · exact consumed_kni p m s
  · exact consumed_free m s

/-! ### The input functions -/

section Input

variable {tcpInput udpInput : L4Input n}

lemma RteMbuf.adj_id (m : RteMbuf) (len : ℕ) : (m.adj len).id = m.id := by
  rw [RteMbuf.adj]
  split_ifs
  · rfl
  · rfl

lemma vxlanInput_consumes (ht : Consumes tcpInput) (hu : Consumes udpInput) :
    Consumes (vxlanInput p tcpInput udpInput) := by
  intro m s
  have hinner : ∀ {f : L4Input n}, Consumes f → Consumed m s (f (m.adj 50) s) :=
    fun hf => (hf (m.adj 50) s).of_id (m.adj_id 50)
  rw [vxlanInput]
  dsimp only
  split_ifs
  · exact hinner ht
  · exact hinner hu
  · exact hinner (otherProtocol_consumes p)
  · exact hinner ht
  · exact hinner hu
  · exact hinner (otherProtocol_consumes p)
  · exact consumed_free m s
  · exact icmpProcess_consumes p m s
  · exact arpProcess_consumes p m s
  · exact otherProtocol_consumes p m s

lemma ipv4TrimOptions_id {m' : RteMbuf} (h : ipv4TrimOptions m = some m') : m'.id = m.id := by
  rw [ipv4TrimOptions] at h
  dsimp only at h
  split_ifs at h
  obtain rfl := Option.some.inj h
  rw [RteMbuf.adj_id]

lemma ipv4Input_consumes (ht : Consumes tcpInput) (hu : Consumes udpInput) :
    Consumes (ipv4Input p tcpInput udpInput) := by
  intro m s
  rw [ipv4Input]
  dsimp only
  by_cases htype : get16 m.data 12 = htons 0x0800
  swap
  · rw [if_neg htype]
    split_ifs
    · exact arpProcess_consumes p m s
    · exact otherProtocol_consumes p m s
  rw [if_pos htype]
  by_cases hck : (m.ipCksumBad || m.l4CksumBad) = true
  · rw [if_pos hck]
    exact consumed_free m s
  rw [if_neg hck]
  by_cases hfrag : isFragmented m = true
  · rw [if_pos hfrag]
    exact consumed_free m s
  rw [if_neg hfrag]
  have hid : ∀ m' ∈ (if m.data 14 &&& 0xF ≠ 5 then ipv4TrimOptions m else some m),
      m'.id = m.id := by
    intro m' hm'
    split_ifs at hm'
    · exact ipv4TrimOptions_id hm'
    · rw [Option.mem_some.mp hm']
  generalize (if m.data 14 &&& 0xF ≠ 5 then ipv4TrimOptions m else some m) = trimmed at hid ⊢
  cases trimmed with
  | none => exact consumed_free m s
  | some m' =>
      have hid' := hid m' rfl
      dsimp only
      split_ifs
      · exact (ht m' s).of_id hid'
      · exact (hu m' s).of_id hid'
      · exact (icmpProcess_consumes p m' s).of_id hid'
      · exact (otherProtocol_consumes p m' s).of_id hid'

lemma ipv6Dispatch_consumes (ht : Consumes tcpInput) (hu : Consumes udpInput) (proto : UInt8) :
    Consumes (ipv6Dispatch p tcpInput udpInput proto) := by
  intro m s
  rw [ipv6Dispatch]
  split_ifs
  · exact ht m s
  · exact hu m s
  · exact icmp6Process_consumes p m s
  · exact otherProtocol_consumes p m s

lemma ipv6TrimOptions_id (m : RteMbuf) : (ipv6TrimOptions m).2.id = m.id := by
  rw [ipv6TrimOptions]
  dsimp only
  split_ifs
  · rfl
  · exact RteMbuf.adj_id _ _

lemma ipv6Input_consumes (ht : Consumes tcpInput) (hu : Consumes udpInput) :
    Consumes (ipv6Input p tcpInput udpInput) := by
  intro m s
  rw [ipv6Input]
  dsimp only
  split_ifs
  · exact consumed_free m s
  · exact (ipv6Dispatch_consumes ht hu _ _ s).of_id (ipv6TrimOptions_id m)
  · exact ipv6Dispatch_consumes ht hu _ m s
  · exact otherProtocol_consumes p m s

end Input

/-- **Received mbufs.** Whatever is received, by whatever run loop, `ipv4_input`, `ipv6_input` and
`vxlan_input` take the mbuf, every copy that they make of one, and every mbuf that they allocate to
one place each. -/
theorem received_consumed {tcpInput udpInput : L4Input n} (h : RunLoop p tcpInput udpInput) :
    Consumes (ipv4Input p tcpInput udpInput) ∧ Consumes (ipv6Input p tcpInput udpInput) ∧
      Consumes (vxlanInput p tcpInput udpInput) := by
  obtain ⟨ht, hu⟩ := h.consumes
  exact ⟨ipv4Input_consumes ht hu, ipv6Input_consumes ht hu, vxlanInput_consumes ht hu⟩

/-- An `ACK` without a socket, received by a TCP server. -/
theorem received_consumed_ack :
    Consumed (ackFrame 40) (Core.idle 1) (ipv4Input .single
      (tcpServerProcess .single fun _ w => (none, w)) (udpDrop .single) (ackFrame 40) (.idle 1)) :=
  (received_consumed (p := .single) (.tcpServer fun _ w => (none, w))).1 (ackFrame 40) (.idle 1)

end Dperf.Wire
