import Dperf.System

/-!
What `tcp_check_sequence` does with a segment that comes again because its acknowledgement got
lost.

* `LostAck`: the segment acknowledges all that was sent, and starts before what is expected.
* `tcpCheckSequence_lostAck`: the branch written for it is not reached; the segment ends in the
  branches for lost data.
* `AckedAgain`, `AnsweredAnyway`: the acknowledgement that the segment asks for, and when a
  segment of those branches carries it. `lostAck_acked_iff` says that there is no other case.
-/

namespace Dperf

/-! ### The segment -/

/-- The segment comes again because its acknowledgement got lost. -/
structure LostAck (th : Tcphdr) (sk : Socket) : Prop where
  isOpen : .closed < sk.state
  ack : th.ack = sk.sndNxt
  seq : tcpSeqLt th.seq sk.rcvNxt = true

/-- A segment that acknowledges `rcvNxt` is sent. -/
def Acks (rcvNxt : UInt32) (l : List Obs) : Prop :=
  ∃ seg sndUna sndNxt fresh, .sent seg sndUna sndNxt fresh ∈ l ∧
    hasFlag seg.flags thAck = true ∧ seg.ack = rcvNxt

/-- A call of `tcp_check_sequence` acknowledges `rcv_nxt`, lets nothing pass and leaves the
sequence numbers alone. -/
structure AckedAgain (v : View) (r : Bool × View) : Prop where
  sent : ∃ l, r.2.trace = v.trace ++ l ∧ Acks v.sk.rcvNxt l
  sndUna : r.2.sk.sndUna = v.sk.sndUna
  sndNxt : r.2.sk.sndNxt = v.sk.sndNxt
  rcvNxt : r.2.sk.rcvNxt = v.sk.rcvNxt
  refused : r.1 = false

/-- A segment of another branch carries the acknowledgement: data sent again by the fast
retransmit, or in answer to the third of equal acknowledgements. -/
def AnsweredAnyway (ws : WorkSpace) (v : View) : Prop :=
  ws.mbufAlloc v.allocs = true ∧
    (ws.sendWindow = 0 ∧ v.sk.timerTsc + ws.tscPerSec < ws.tsc ∧ v.sk.sndNxt ≠ v.sk.sndUna ∧
        v.sk.laddr ≠ 0 ∧ (v.sk.retrans + 1).val < retransmitNumMax ∧
        hasFlag v.sk.flags thAck = true ∨
      ws.sendWindow ≠ 0 ∧ v.sk.sndNxt = v.sk.sndUna ∧ 3 ≤ (v.sk.retrans + 1).val)

instance (ws : WorkSpace) (v : View) : Decidable (AnsweredAnyway ws v) :=
  inferInstanceAs (Decidable (_ ∧ (_ ∧ _ ∧ _ ∧ _ ∧ _ ∧ _ ∨ _ ∧ _ ∧ _)))

/-! ### The branches it ends in -/

section Check

variable {ws : WorkSpace} {th : Tcphdr} {dataLen : UInt16} {v : View}

lemma tcpSeqLt_irrefl (a : UInt32) : tcpSeqLt a a = false := by
  simp [tcpSeqLt]

lemma tcpSeqGt_irrefl (a : UInt32) : tcpSeqGt a a = false := by
  simp [tcpSeqGt]

lemma LostAck.seq_ne (h : LostAck th v.sk) : th.seq ≠ v.sk.rcvNxt := by
  intro heq
  have hlt := h.seq
  rw [heq, tcpSeqLt_irrefl] at hlt
  cases hlt

/-- The test `tcp_seq_le(ack, snd_nxt)` comes first and holds. -/
lemma tcpCheckSequence_lostAck (h : LostAck th v.sk) :
    tcpCheckSequence ws th dataLen v =
      if ws.sendWindow = 0 then
        (false, if v.sk.timerTsc + ws.tscPerSec < ws.tsc then tcpDoRetransmit ws v else v)
      else if v.sk.sndNxt = v.sk.sndUna then
        let u := { v with sk.retrans := v.sk.retrans + 1 }.count fun s =>
          { s with ackDup := s.ackDup + 1 }
        (false,
          if 3 ≤ (v.sk.retrans + 1).val then
            (fun w : View =>
                { w with sk.sndNxt := v.sk.sndNxt, sk.retrans := 0, sk.sndWindow := 1 })
              (tcpReply ws (thPush ||| thAck) u)
          else u)
      else
        (tcpSeqGt v.sk.sndNxt v.sk.sndUna,
          if tcpSeqGt v.sk.sndNxt v.sk.sndUna then
            { v with sk := { growWindow { v.sk with sndUna := v.sk.sndNxt } with retrans := 0 } }
          else v) := by
  have hin : ¬ inOrder th v.sk := fun hin => h.seq_ne hin.2
  have hf : ¬ simultaneousFin th dataLen v.sk := fun hf => h.seq_ne hf.2.2.2.2
  have ho : v.sk.state ≠ .closed := SkState.closed_lt.mp h.isOpen
  rw [tcpCheckSequence, if_neg hin, if_neg hf, if_neg ho, h.ack, if_pos (tcpSeqLe_refl _)]
  by_cases hw : ws.sendWindow = 0
  · simp only [hw, ne_eq, not_true_eq_false, if_false, if_true]
    split_ifs <;> rfl
  · by_cases hn : v.sk.sndNxt = v.sk.sndUna
    · simp only [hw, ne_eq, not_false_eq_true, if_true, if_false, hn, tcpSeqGt_irrefl,
        Bool.false_eq_true]
      by_cases h3 : 3 ≤ (v.sk.retrans + 1).val
      · rw [if_pos h3, if_neg (by simpa using h3)]
        rfl
      · rw [if_neg h3, if_pos (by simpa using h3)]
    · simp only [hw, ne_eq, not_false_eq_true, if_true, if_false, hn]
      split_ifs with hgt
      · simp [hgt]
      · simp [hgt]

lemma not_acks_nil (a : UInt32) : ¬ Acks a [] := by
  rintro ⟨_, _, _, _, hmem, -⟩
  exact List.not_mem_nil hmem

/-- A call that does nothing acknowledges nothing. -/
lemma not_ackedAgain_of_trace {r : Bool × View} (h : r.2.trace = v.trace) : ¬ AckedAgain v r := by
  intro ha
  obtain ⟨l, hl, hacks⟩ := ha.sent
  rw [h, List.self_eq_append_right] at hl
  exact not_acks_nil _ (hl ▸ hacks)

/-- `tcp_reply` acknowledges `rcv_nxt` if its flags say so and an mbuf is found. -/
lemma acks_reply (f : UInt8) (u : View) :
    (∃ l, (tcpReply ws f u).trace = u.trace ++ l ∧ Acks u.sk.rcvNxt l) ↔
      ws.mbufAlloc u.allocs = true ∧ hasFlag f thAck = true := by
  have hflag : hasFlag (wireFlags f) thAck = hasFlag f thAck := wireFlags_of (by decide) f
  rw [tcpReply_trace]
  simp only [List.append_cancel_left_eq, exists_eq_left']
  by_cases ha : ws.mbufAlloc u.allocs = true
  · simp only [ha, if_true, true_and]
    constructor
    · rintro ⟨seg, _, _, _, hmem, hack, -⟩
      rw [List.mem_singleton, Obs.sent.injEq] at hmem
      rw [hmem.1] at hack
      exact hflag.symm.trans hack
    · exact fun hack => ⟨_, _, _, _, List.mem_singleton_self _, hflag.trans hack, rfl⟩
  · simp only [ha, if_false, false_and, iff_false, Bool.false_eq_true]
    exact not_acks_nil _

/-- The fast retransmit acknowledges `rcv_nxt` if it sends again what was sent with an
acknowledgement. -/
lemma ackedAgain_doRetransmit (hw : ws.sendWindow = 0) :
    AckedAgain v (false, tcpDoRetransmit ws v) ↔
      ws.mbufAlloc v.allocs = true ∧ v.sk.sndNxt ≠ v.sk.sndUna ∧ v.sk.laddr ≠ 0 ∧
        (v.sk.retrans + 1).val < retransmitNumMax ∧ hasFlag v.sk.flags thAck = true := by
  have hclose : ∀ u : View, u.trace = v.trace → ¬ AckedAgain v (false, socketClose u) := by
    rintro u hu ha
    obtain ⟨l, hl, _, _, _, _, hmem, -⟩ := ha.sent
    rw [socketClose] at hl
    split_ifs at hl
    · have hlog : v.trace ++ [.closed u.stats.socketCurrent] = v.trace ++ l := hu ▸ hl
      rw [← List.append_cancel_left hlog, List.mem_singleton] at hmem
      cases hmem
    · exact not_ackedAgain_of_trace (r := (false, u)) hu (by rwa [socketClose, if_neg ‹_›] at ha)
  rw [tcpDoRetransmit]
  by_cases hn : v.sk.sndNxt = v.sk.sndUna
  · rw [if_pos hn]
    simp only [hn, ne_eq, not_true_eq_false, false_and, and_false, iff_false]
    exact not_ackedAgain_of_trace rfl
  rw [if_neg hn]
  by_cases hl : v.sk.laddr = 0
  · rw [if_pos hl]
    simp only [hl, ne_eq, not_true_eq_false, false_and, and_false, iff_false]
    exact hclose v rfl
  rw [if_neg hl]
  dsimp only
  by_cases hr : (v.sk.retrans + 1).val < retransmitNumMax
  · rw [if_pos hr, if_neg (by simp [hw])]
    have hsent := @acks_reply ws v.sk.flags { v with sk.retrans := v.sk.retrans + 1 }
    have hfresh : replyFresh ws v.sk.flags { v with sk.retrans := v.sk.retrans + 1 } = 0 :=
      replyFresh_outstanding hn
    constructor
    · intro ha
      obtain ⟨hmbuf, hack⟩ := hsent.mp ha.sent
      exact ⟨hmbuf, hn, hl, hr, hack⟩
    · rintro ⟨hmbuf, -, -, -, hack⟩
      refine ⟨hsent.mpr ⟨hmbuf, hack⟩, tcpReply_sndUna .., ?_, tcpReply_rcvNxt .., rfl⟩
      exact (tcpReply_sndNxt ..).trans (by rw [hfresh, UInt32.add_zero])
  · rw [if_neg hr]
    simp only [hr, false_and, and_false, iff_false]
    exact hclose _ rfl

end Check

/-! ### When it is acknowledged -/

/-- **Lost acknowledgements.** A segment that comes again because its acknowledgement got lost
is acknowledged exactly if a segment of another branch happens to do it: the branch
`ack == snd_nxt` of `tcp_check_sequence` stands behind `tcp_seq_le(ack, snd_nxt)`. -/
theorem lostAck_acked_iff {ws : WorkSpace} {th : Tcphdr} {v : View} (dataLen : UInt16)
    (h : LostAck th v.sk) :
    AckedAgain v (tcpCheckSequence ws th dataLen v) ↔ AnsweredAnyway ws v := by
  rw [tcpCheckSequence_lostAck h, AnsweredAnyway]
  by_cases hw : ws.sendWindow = 0
  · rw [if_pos hw]
    by_cases hts : v.sk.timerTsc + ws.tscPerSec < ws.tsc
    · rw [if_pos hts, ackedAgain_doRetransmit hw]
      simp [hw, hts]
    · rw [if_neg hts]
      simp only [hts, hw, ne_eq, not_true_eq_false, false_and, and_false, or_self, iff_false]
      exact not_ackedAgain_of_trace rfl
  rw [if_neg hw]
  by_cases hn : v.sk.sndNxt = v.sk.sndUna
  · rw [if_pos hn]
    dsimp only
    by_cases h3 : 3 ≤ (v.sk.retrans + 1).val
    · rw [if_pos h3]
      have hsent := @acks_reply ws (thPush ||| thAck)
        ({ v with sk.retrans := v.sk.retrans + 1 }.count fun s => { s with ackDup := s.ackDup + 1 })
      constructor
      · exact fun ha => ⟨(hsent.mp ha.sent).1, .inr ⟨hw, hn, h3⟩⟩
      · exact fun ha => ⟨hsent.mpr ⟨ha.1, rfl⟩, tcpReply_sndUna .., rfl, tcpReply_rcvNxt .., rfl⟩
    · rw [if_neg h3]
      simp only [hw, h3, false_and, and_false, or_self, iff_false]
      exact not_ackedAgain_of_trace rfl
  · rw [if_neg hn]
    simp only [hw, hn, false_and, and_false, or_self, iff_false]
    refine not_ackedAgain_of_trace ?_
    split_ifs <;> rfl

/-- The request of a client, its answer acknowledged, as a server sees it. -/
def answeredRequest : List (Clock × Event) :=
  serverHandshake ++
    [(.single 1, .recv .tcp (.single true (thPush ||| thAck) 101 2 [71, 69, 84])),
      (.single 1, .recv .tcp (.single true thAck 104 5 []))]

/-- The same request once more. -/
def requestAgain : Tcphdr := (Mbuf.single true (thPush ||| thAck) 101 5 [71, 69, 84]).th

/-- The third time that a server with a send window sees an old request, its data for it carry
the acknowledgement. -/
theorem lostAck_acked_third :
    ∃ v, LostAck requestAgain v.sk ∧
      AckedAgain v (tcpCheckSequence .window requestAgain 3 v) := by
  have h : LostAck requestAgain
      { state := .established, sndNxt := 5, sndUna := 5, rcvNxt := 104, retrans := 2 } :=
    ⟨by decide, rfl, by decide⟩
  exact ⟨{ sk := _ }, h, (lostAck_acked_iff 3 h).mpr (by decide)⟩

/-- A server has answered a request, and the answer is acknowledged. When the request comes
again, nothing is sent. -/
theorem lostAck_unanswered :
    ∃ w, Reach .single (.single (.singleServer true)) anyStep w ∧
      LostAck requestAgain (w.pool 0) ∧
      ¬ AckedAgain (w.view 0)
        (tcpCheckSequence ((WorkSpace.single (.singleServer true)).at (.single 5)) requestAgain 3
          (w.view 0)) := by
  obtain ⟨w, hw, hp⟩ := reach_runEvents SocketTable.single _ anyStep
    (Worker.single_initial (.single (.singleServer true))) answeredRequest
    (p := fun w => (w.pool 0).state == .established && (w.pool 0).sndNxt == 5 &&
      (w.pool 0).sndUna == 5 && (w.pool 0).rcvNxt == 104) (fun _ _ _ _ => trivial) (by decide)
  simp only [Bool.and_eq_true, beq_iff_eq] at hp
  obtain ⟨⟨⟨hstate, hnxt⟩, huna⟩, hrcv⟩ := hp
  have h : LostAck requestAgain (w.view 0).sk := by
    refine ⟨?_, ?_, ?_⟩
    · change _ < (w.pool 0).state
      rw [hstate]
      decide
    · exact hnxt.symm
    · change tcpSeqLt _ (w.pool 0).rcvNxt = true
      rw [hrcv]
      decide
  have hacked : (w.view 0).sk.sndNxt = (w.view 0).sk.sndUna := hnxt.trans huna.symm
  have hsmall : ((WorkSpace.single (.singleServer true)).at (.single 5)).sendWindow = 0 := rfl
  refine ⟨w, hw, h, not_ackedAgain_of_trace ?_⟩
  rw [tcpCheckSequence_lostAck h, if_pos hsmall]
  dsimp only
  split_ifs
  · rw [tcpDoRetransmit, if_pos hacked]
  · rfl

end Dperf
