import Dperf.Moves

/-!
What becomes of a socket with `send_window == 0` whose segment is not sent, since `tcp_new_packet`
finds no mbuf.

* `Rescued`: it is closed, or in a timer queue whose handler sends it again or closes it, once
  there are mbufs.
* `tcpReply_rescued_iff`: after a segment with `SYN`, `PUSH` or `FIN`, that is the case where
  something was outstanding already, and where the socket was left in a queue whose handler asks
  for nothing outstanding.
-/

namespace Dperf

/-- The call that the loop makes on the sockets of a queue that are due. -/
def TimerKind.call : TimerKind → Call
  | .retransmit => .retransmit
  | .keepalive => .keepalive
  | .timeout => .timeout

/-- The work space once there are mbufs. -/
def WorkSpace.refilled (ws : WorkSpace) : WorkSpace := { ws with mbufAlloc := fun _ => true }

/-- The call has closed its socket, or sent a segment. -/
def Serves (v : View) : Prop :=
  v.sk.state = .closed ∨ ∃ seg una nxt fresh, Obs.sent seg una nxt fresh ∈ v.trace

/-- A socket that was in the queue `p` before the call is closed, or in a queue of its side, and
the handler of that queue serves it whenever it is called with mbufs. -/
def Rescued (ws : WorkSpace) (p : Option TimerKind) (v : View) : Prop :=
  v.sk.state = .closed ∨ ∃ q : TimerKind, v.link.after p = some q ∧ q.call.Allowed ws.cfg ∧
    ∀ (c : Clock) (stats : NetStats) (allocs : ℕ),
      Serves (q.call.run (ws.refilled.at c) { sk := v.sk, stats := stats, allocs := allocs })

/-! ### Handlers -/

section Handlers

variable {ws : WorkSpace} {v : View}

lemma Plain.refilled (h : Plain ws) : Plain ws.refilled := ⟨h.protocol, h.window, h.flood⟩

lemma serves_reply (ha : ws.mbufAlloc v.allocs = true) (f : UInt8) : Serves (tcpReply ws f v) := by
  have hsent : Obs.sent (replySegment ws f v.sk) v.sk.sndUna (v.sk.sndNxt + replyFresh ws f v)
      (replyFresh ws f v).toNat ∈ (tcpReply ws f v).trace := by
    rw [tcpReply_trace, if_pos ha]
    exact List.mem_append_right _ (List.mem_singleton_self _)
  exact .inr ⟨_, _, _, _, hsent⟩

lemma not_serves (ho : v.sk.state ≠ .closed) (ht : v.trace = []) : ¬ Serves v := by
  rintro (hclosed | ⟨seg, una, nxt, fresh, hsent⟩)
  · exact ho hclosed
  · rw [ht] at hsent
    cases hsent

/-- What is outstanding is sent again, or given up. -/
lemma serves_retransmit (hw : Plain ws) (ha : ws.mbufAlloc v.allocs = true)
    (hn : v.sk.sndNxt ≠ v.sk.sndUna) : Serves (Call.retransmit.run ws v) := by
  rw [Call.run, hw.protocol]
  have hstep := tcpDoRetransmit_step ws (socketDelTimer v)
  dsimp only
  generalize tcpDoRetransmit ws (socketDelTimer v) = r at hstep ⊢
  cases hstep with
  | acked hacked => exact absurd hacked hn
  | handedOver => exact .inl (socketClose_closed _)
  | burst _ _ hwindow => exact absurd hw.window hwindow
  | again => exact serves_reply (v := { socketDelTimer v with sk.retrans := v.sk.retrans + 1 }) ha _
  | giveUp => exact .inl (socketClose_closed _)

/-- Where nothing is outstanding, the retransmit timer does nothing. -/
lemma not_serves_retransmit (hw : Plain ws) (hn : v.sk.sndNxt = v.sk.sndUna)
    (ho : v.sk.state ≠ .closed) (ht : v.trace = []) : ¬ Serves (Call.retransmit.run ws v) := by
  have hidle : Call.retransmit.run ws v =
      { socketDelTimer v with sk := { v.sk with retrans := 0 } } := by
    rw [Call.run, hw.protocol]
    exact if_pos hn
  rw [hidle]
  exact not_serves ho ht

lemma serves_timeout : Serves (Call.timeout.run ws v) := .inl (socketClose_closed _)

lemma serves_sendKeepaliveRequest (ha : ws.mbufAlloc v.allocs = true) :
    Serves (tcpSendKeepaliveRequest ws v) := by
  have hpush := serves_reply
    (v := { v with sk.keepaliveRequestNum := v.sk.keepaliveRequestNum + 1 }) ha (thAck ||| thPush)
  have hfin := serves_reply (v := { v with sk.state := .finWait1 }) ha (thAck ||| thFin)
  rw [tcpSendKeepaliveRequest]
  dsimp only
  split_ifs
  · exact hpush
  · exact hpush
  · exact hfin

/-- The keepalive timer of a client serves open connections only. -/
lemma serves_keepalive_iff (hw : Plain ws) (hs : ws.cfg.server = false)
    (ha : ws.mbufAlloc v.allocs = true) (hn : v.sk.sndNxt = v.sk.sndUna)
    (ho : v.sk.state ≠ .closed) (ht : v.trace = []) :
    Serves (Call.keepalive.run ws v) ↔ v.sk.state = .established := by
  have hflood : ¬ ws.cfg.flood = true := by simp [hw.flood hs]
  rw [Call.run, hw.protocol]
  dsimp only
  rw [tcpDoKeepalive]
  constructor
  · intro hserves
    by_contra he
    have hno : ¬ ((socketDelTimer v).sk.keepalive = false ∧
        (socketDelTimer v).sk.state = .established) := fun h => he h.2
    rw [if_pos (.inr (.inl he)), if_neg hflood, if_neg hno] at hserves
    exact not_serves (v := socketDelTimer v) ho ht hserves
  · intro he
    split_ifs with hc hlast
    · exact serves_reply (v := { socketDelTimer v with sk.state := .finWait1 }) ha _
    · -- an open connection with its keepalive and nothing outstanding
      rcases hc with hc | hc | hc
      · exact absurd hn hc
      · exact absurd he hc
      · exact absurd ⟨hc, he⟩ hlast
    · exact serves_sendKeepaliveRequest (v := socketDelTimer v) ha

end Handlers

/-! ### A segment that is not sent -/

/-- **Rescued.** A segment with `SYN`, `PUSH` or `FIN` for which there is no mbuf leaves an open
socket in a queue if and only if something was outstanding already, or the socket was in one; and
to a timer that sends it again or closes it, if and only if something was outstanding already, or
the socket was in the timeout queue, or it is an open connection of a client that was in the
keepalive queue. -/
theorem tcpReply_rescued_iff {ws : WorkSpace} (hw : Plain ws) {f : UInt8}
    (hf : hasFlag f (thPush ||| thSyn ||| thFin) = true) {p : Option TimerKind} {v : View}
    (ho : v.sk.state ≠ .closed) (ha : ws.mbufAlloc v.allocs = false) :
    ((tcpReply ws f v).link.after p ≠ none ↔
        v.sk.sndNxt ≠ v.sk.sndUna ∨ v.link.after p ≠ none) ∧
      (Rescued ws p (tcpReply ws f v) ↔ v.sk.sndNxt ≠ v.sk.sndUna ∨
        v.link.after p = some .timeout ∨
        v.link.after p = some .keepalive ∧ (ws.cfg.server = false ∧ ws.cfg.keepalive = true) ∧
          v.sk.state = .established) := by
  have hfresh : replyFresh ws f v = 0 := by simp [replyFresh, ha]
  have hsk := tcpReply_sk ws f v
  have hlink := tcpReply_link ws f v
  have hopen : ¬ (v.sk.state = .closed ∨ ws.sendWindow ≠ 0) :=
    not_or.mpr ⟨ho, not_not.mpr hw.window⟩
  by_cases hn : v.sk.sndNxt = v.sk.sndUna
  · -- no timer is started, and the socket stays where it was
    have htimer : replyTimer ws f v = none := by
      rw [replyTimer, if_neg hopen, if_pos hf, hfresh, UInt32.add_zero]
      exact if_neg (not_not.mpr hn)
    rw [htimer] at hlink
    rw [htimer, if_pos rfl, hfresh, UInt32.add_zero] at hsk
    have hkeep := fun (c : Clock) (stats : NetStats) (allocs : ℕ) (hs : ws.cfg.server = false) =>
      serves_keepalive_iff
        (v := { sk := { v.sk with flags := f }, stats := stats, allocs := allocs })
        (hw.refilled.at c) hs rfl hn ho rfl
    have hidle := not_serves_retransmit
      (v := { sk := { v.sk with flags := f } }) (hw.refilled.at ⟨0, 0, false⟩) hn ho rfl
    rw [Rescued, hsk, hlink]
    refine ⟨(or_iff_right (not_not.mpr hn)).symm, ?_⟩
    constructor
    · rintro (hclosed | ⟨q, hq, hallowed, hserves⟩)
      · exact absurd hclosed ho
      · cases q with
        | retransmit => exact absurd (hserves ⟨0, 0, false⟩ {} 0) hidle
        | keepalive =>
            have he := (hkeep ⟨0, 0, false⟩ {} 0 hallowed.1).mp (hserves _ _ _)
            exact .inr (.inr ⟨hq, hallowed, he⟩)
        | timeout => exact .inr (.inl hq)
    · rintro (hne | hq | ⟨hq, hallowed, he⟩)
      · exact absurd hn hne
      · exact .inr ⟨.timeout, hq, trivial, fun _ _ _ => serves_timeout⟩
      · exact .inr ⟨.keepalive, hq, hallowed, fun c stats allocs =>
          (hkeep c stats allocs hallowed.1).mpr he⟩
  · -- the retransmit timer is started
    have htimer : replyTimer ws f v = some .retransmit := by
      rw [replyTimer, if_neg hopen, if_pos hf, hfresh, UInt32.add_zero]
      exact if_pos hn
    rw [htimer] at hlink
    have hout : (tcpReply ws f v).sk.sndNxt ≠ (tcpReply ws f v).sk.sndUna := by
      rw [tcpReply_sndNxt, tcpReply_sndUna, hfresh, UInt32.add_zero]
      exact hn
    refine ⟨iff_of_true ?_ (.inl hn),
      iff_of_true (.inr ⟨.retransmit, ?_, trivial, fun c stats allocs => ?_⟩) (.inl hn)⟩
    · rw [hlink]
      exact Option.some_ne_none _
    · rw [hlink]
      rfl
    · exact serves_retransmit (hw.refilled.at c) rfl hout

/-- A client without mbufs. -/
def WorkSpace.drained : WorkSpace := { WorkSpace.single .single with mbufAlloc := fun _ => false }

/-- A `SYN` that cannot be sent again stays with the retransmit timer. -/
theorem tcpReply_rescued_again :
    Rescued .drained none
      (tcpReply .drained thSyn { sk := { state := .synSent, sndNxt := 2, sndUna := 1 } }) := by
  have hplain : Plain .drained := ⟨rfl, rfl, fun _ => rfl⟩
  have hopen : SkState.synSent ≠ .closed := by simp
  have hout : (2 : UInt32) ≠ 1 := by decide
  exact (tcpReply_rescued_iff hplain rfl hopen rfl).2.mpr (.inl hout)

/-- The first `SYN` of a connection does not: the socket is open, and in no queue. -/
theorem tcpReply_syn_stranded : ∃ w : Worker 1, Reach .single .drained anyStep w ∧
    w.pool 0 = (tcpReply (WorkSpace.drained.at (.single 1)) thSyn
      (socketClientOpened (WorkSpace.drained.at (.single 1)) 1000
        ((Worker.single .drained).view 0))).sk ∧
      (w.pool 0).state = .synSent ∧ ∀ q, 0 ∉ w.timers.list q := by
  have hrun : (runEvents .single .drained [(.single 1, .launch 1)] (Worker.single .drained)).any
      (fun w => w.pool 0 == (tcpReply (WorkSpace.drained.at (.single 1)) thSyn
          (socketClientOpened (WorkSpace.drained.at (.single 1)) 1000
            ((Worker.single .drained).view 0))).sk &&
        (w.pool 0).state == .synSent && w.timers.list .retransmit == [] &&
          w.timers.list .keepalive == [] && w.timers.list .timeout == []) = true := by decide
  obtain ⟨w, hreach, hp⟩ := reach_runEvents .single .drained anyStep (Worker.single_initial _) _
    (fun _ _ _ _ => trivial) hrun
  simp only [Bool.and_eq_true, beq_iff_eq] at hp
  obtain ⟨⟨⟨⟨hsk, hstate⟩, hr⟩, hk⟩, ht⟩ := hp
  refine ⟨w, hreach, hsk, hstate, fun q => ?_⟩
  cases q with
  | retransmit => simp [hr]
  | keepalive => simp [hk]
  | timeout => simp [ht]

end Dperf
