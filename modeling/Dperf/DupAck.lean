import Dperf.Acts
import Dperf.FirstPayload

/-!
What a server with a send window repeats when acknowledgements come again.

* `Recorded`: a segment that the socket records as sent and not acknowledged.
* `Recovers`: a segment makes `tcp_check_sequence` send the payload at `snd_una` again.
  `dupAck_recorded_iff` says when that payload is one that has been sent.
-/

namespace Dperf

/-! ### The law -/

/-- The payload of the segment lies between `snd_una` and `snd_nxt`. -/
def Recorded (sk : Socket) (seg : Segment) : Prop :=
  sk.sndNxt ≠ sk.sndUna ∧
    (seg.seq - sk.sndUna).toNat + seg.data.length ≤ (sk.sndNxt - sk.sndUna).toNat

/-- A payload that `tcp_check_sequence` sends has been sent before. -/
def RepeatsRecorded (ws : WorkSpace) (th : Tcphdr) (dataLen : UInt16) (v : View) : Prop :=
  ∀ l, (tcpCheckSequence ws th dataLen v).2.trace = v.trace ++ l →
    ∀ seg una nxt fresh, .sent seg una nxt fresh ∈ l → seg.data ≠ [] →
      Recorded v.sk seg ∧ Recorded (tcpCheckSequence ws th dataLen v).2.sk seg

/-- The third of equal acknowledgements on an open socket, when the template has a payload and an
mbuf is found. -/
structure Recovers (ws : WorkSpace) (th : Tcphdr) (dataLen : UInt16) (v : View) : Prop where
  live : v.sk.state ≠ .closed
  dup : ThirdDupAck th dataLen v.sk
  mbuf : ws.mbufAlloc v.allocs = true
  payload : ws.tcpData.bytes ≠ []

section Check

variable {ws : WorkSpace} {th : Tcphdr} {dataLen : UInt16} {v : View}

/-- The recovery sends the template from `snd_una` on, and leaves the two numbers alone. -/
lemma Recovers.sends (hw : ws.sendWindow ≠ 0) (h : Recovers ws th dataLen v) :
    ∃ seg una nxt fresh, (tcpCheckSequence ws th dataLen v).2.trace =
        v.trace ++ [.sent seg una nxt fresh] ∧
      seg.seq = v.sk.sndUna ∧ seg.data = ws.tcpData.bytes ∧
      (tcpCheckSequence ws th dataLen v).2.sk.sndUna = v.sk.sndUna ∧
      (tcpCheckSequence ws th dataLen v).2.sk.sndNxt = v.sk.sndNxt := by
  obtain ⟨hin, hf, hack, hle, h3⟩ := h.dup
  have hgt : ¬ tcpSeqGt th.ack v.sk.sndUna = true := by
    rw [hack]
    simp [tcpSeqGt]
  rw [tcpCheckSequence, if_neg hin, if_neg hf, if_neg h.live, if_pos hle, if_pos hw, if_neg hgt,
    if_pos hack]
  dsimp only
  rw [View.count_sk, if_neg h3]
  have hreply := tcpReply_trace ws (thPush ||| thAck)
    ({ v with sk.retrans := v.sk.retrans + 1, sk.sndNxt := th.ack }.count fun s =>
      { s with ackDup := s.ackDup + 1 })
  rw [View.count_allocs, if_pos h.mbuf] at hreply
  exact ⟨_, _, _, _, hreply, rfl, rfl, tcpReply_sndUna .., rfl⟩

/-- With a send window no other branch of `tcp_check_sequence` sends a payload. -/
lemma recovers_of_sent (hw : ws.sendWindow ≠ 0) {l : List Obs}
    (hl : (tcpCheckSequence ws th dataLen v).2.trace = v.trace ++ l) {seg : Segment}
    {una nxt : UInt32} {fresh : ℕ} (hmem : .sent seg una nxt fresh ∈ l) (hdata : seg.data ≠ []) :
    Recovers ws th dataLen v := by
  have hnone : ∀ {u : View}, u.trace = v.trace → u.trace = v.trace ++ l → False := by
    intro u hu hul
    have hnil : l = [] := List.self_eq_append_right.mp (hu.symm.trans hul)
    rw [hnil] at hmem
    exact List.not_mem_nil hmem
  have hs := tcpCheckSequence_step ws th dataLen v
  generalize tcpCheckSequence ws th dataLen v = r at hs hl
  cases hs with
  | accept hin =>
      have hacked : Acked ws v (tcpAcceptInOrder ws th dataLen v) := acked_inOrder dataLen hin
      exact (hnone hacked.trace hl).elim
  | closedSocket => exact (hnone rfl hl).elim
  | simultaneous => exact (hnone rfl hl).elim
  | drop => exact (hnone rfl hl).elim
  | newAck => exact (hnone rfl hl).elim
  | dupAck => exact (hnone rfl hl).elim
  | fastRetransmit _ _ _ hw' => exact absurd hw' hw
  | thirdDupAck hin ho _ ha h3 hf hle =>
      have hreply := tcpReply_trace ws (thPush ||| thAck)
        ({ v with sk.retrans := v.sk.retrans + 1, sk.sndNxt := th.ack }.count fun s =>
          { s with ackDup := s.ackDup + 1 })
      have hsent := hreply.symm.trans hl
      split_ifs at hsent with hmbuf
      · rw [View.count_trace, List.append_cancel_left_eq] at hsent
        rw [← hsent, List.mem_singleton, Obs.sent.injEq] at hmem
        rw [hmem.1] at hdata
        exact ⟨ho, ⟨hin, hf, ha, hle, h3⟩, hmbuf, hdata⟩
      · exact (hnone rfl ((List.append_nil _).symm.trans hsent)).elim

end Check

/-! ### When it holds -/

/-- **Repeated payloads.** What the duplicate-acknowledgement recovery sends has been sent and is
not acknowledged, exactly if a recovery finds at least the length of the template outstanding. -/
theorem dupAck_recorded_iff {ws : WorkSpace} (hw : ws.sendWindow ≠ 0) (th : Tcphdr)
    (dataLen : UInt16) (v : View) :
    RepeatsRecorded ws th dataLen v ↔
      (Recovers ws th dataLen v →
        ws.tcpData.bytes.length ≤ (v.sk.sndNxt - v.sk.sndUna).toNat) := by
  constructor
  · intro h hrec
    obtain ⟨seg, una, nxt, fresh, htrace, hseq, hdata, -, -⟩ := hrec.sends hw
    obtain ⟨⟨-, hle⟩, -⟩ := h _ htrace seg una nxt fresh (List.mem_singleton_self _)
      (hdata ▸ hrec.payload)
    rw [hdata] at hle
    exact (Nat.le_add_left _ _).trans hle
  · intro h l hl seg una nxt fresh hmem hdata
    have hrec := recovers_of_sent hw hl hmem hdata
    obtain ⟨seg', una', nxt', fresh', htrace, hseq, hbytes, huna, hnxt⟩ := hrec.sends hw
    rw [htrace, List.append_cancel_left_eq] at hl
    rw [← hl, List.mem_singleton, Obs.sent.injEq] at hmem
    have hlen := h hrec
    have hout : v.sk.sndNxt ≠ v.sk.sndUna := by
      intro heq
      have hpos := List.length_pos_iff.mpr hrec.payload
      rw [heq, UInt32.sub_self] at hlen
      exact absurd (hpos.trans_le hlen) (by simp)
    have hin : Recorded v.sk seg := by
      refine ⟨hout, ?_⟩
      rw [hmem.1, hseq, hbytes, UInt32.sub_self]
      simpa using hlen
    refine ⟨hin, ?_⟩
    rw [Recorded, huna, hnxt]
    exact hin

/-- One of the outstanding segments is sent again. -/
theorem dupAck_recorded_outstanding :
    ∃ th v, Recovers .window th 0 v ∧ RepeatsRecorded .window th 0 v := by
  let v : View :=
    { sk := { state := .established, rcvNxt := 1, sndNxt := 8, sndUna := 2, retrans := 2 } }
  let th : Tcphdr := (Mbuf.single true thAck 0 2 []).th
  have hrec : Recovers .window th 0 v :=
    ⟨by decide, ⟨by decide, by decide, rfl, rfl, by decide⟩, rfl, by decide⟩
  exact ⟨th, v, hrec, (dupAck_recorded_iff (by decide) th 0 v).mpr fun _ => by decide⟩

/-- On an idle connection the third keepalive probe of a client is answered with a payload that
has never been sent. -/
theorem dupAck_not_recorded :
    ∃ w, Reach .single .window anyStep w ∧ (w.pool 0).state = .established ∧
      ∃ th, ¬ RepeatsRecorded .window th 0 (w.view 0) := by
  obtain ⟨w, hw, hp⟩ := reach_runEvents SocketTable.single _ anyStep
    (Worker.single_initial .window)
    (serverHandshake ++
      [(.single 2, .recv .tcp (.single true thAck 100 2 [])),
        (.single 3, .recv .tcp (.single true thAck 100 2 []))])
    (p := fun w => (w.pool 0).state == .established && (w.pool 0).sndNxt == 2 &&
      (w.pool 0).sndUna == 2 && (w.pool 0).rcvNxt == 101 && (w.pool 0).retrans == 2)
    (fun _ _ _ _ => trivial) (by decide)
  simp only [Bool.and_eq_true, beq_iff_eq] at hp
  obtain ⟨⟨⟨⟨hst, hnxt⟩, huna⟩, hrcv⟩, hretrans⟩ := hp
  refine ⟨w, hw, hst, (Mbuf.single true thAck 100 2 []).th, fun h => ?_⟩
  have hrec : Recovers .window (Mbuf.single true thAck 100 2 []).th 0 (w.view 0) := by
    refine ⟨?_, ⟨?_, ?_, ?_, ?_, ?_⟩, rfl, by decide⟩
    · rw [Worker.view, hst]
      exact SkState.noConfusion
    · rintro ⟨-, hseq⟩
      rw [Worker.view, hrcv] at hseq
      exact absurd hseq (by decide)
    · rintro ⟨hfin, -⟩
      rw [Worker.view, hst] at hfin
      cases hfin
    · exact huna.symm
    · rw [Worker.view, hnxt]
      rfl
    · rw [Worker.view, hretrans]
      decide
  obtain ⟨seg, una, nxt, fresh, htrace, -, hdata, -, -⟩ := hrec.sends (by decide)
  obtain ⟨⟨hout, -⟩, -⟩ := h _ htrace seg una nxt fresh (List.mem_singleton_self _)
    (hdata ▸ hrec.payload)
  exact hout (hnxt.trans huna.symm)

end Dperf
