import Dperf.Connection

/-!
The handshake of a TCP connection with `send_window == 0`, move by move.

* `Shut`: a socket that was never opened. A move may open it (`Shut.move`).
* `Calling`: a socket that has sent nothing but its `SYN`. A move may send it again, and a client
  may take the `SYN-ACK` (`Calling.move`).
* `Calling.establish`: a client that takes the `SYN-ACK` agrees with its server.
-/

namespace Dperf

open Peers Sequence

/-! ### Flags and states -/

/-- The flags that a socket opens the connection with. -/
def callFlags (server : Bool) : UInt8 := if server then thSyn ||| thAck else thSyn

/-- Its state until the other end has answered. -/
def callState (server : Bool) : SkState := if server then .synReceived else .synSent

lemma callFlags_syn (server : Bool) : hasFlag (callFlags server) thSyn = true := by
  cases server <;> rfl

lemma callFlags_fin (server : Bool) : hasFlag (callFlags server) thFin = false := by
  cases server <;> rfl

lemma callFlags_marks (server : Bool) : Side.marks (callFlags server) = 1 := by
  rw [Side.marks, callFlags_syn, callFlags_fin]
  rfl

lemma callFlags_segLen (ws : WorkSpace) (server : Bool) : segLen ws (callFlags server) = 1 := by
  rw [Side.segLen_eq, callFlags_marks, payload, callFlags_syn]
  rfl

lemma finLeft_le (t : SkState) : finLeft t ≤ 1 := by
  rw [finLeft]
  split_ifs <;> decide

/-! ### Before and during the handshake -/

/-- A socket that was never opened. -/
structure Shut (s : Slot) : Prop where
  state : s.sk.state = .closed
  place : s.place ≠ some .retransmit
  sent : sentSegments s.obs = []
  passed : passedRequests s.obs = []

/-- A socket that has sent nothing but its `SYN`, or its `SYN` and `ACK`, which have not been
acknowledged. -/
structure Calling (ws : WorkSpace) (b b' : UInt32) (x : Ends) (s : Slot) : Prop where
  side : Side ws b b' x s.sk s.obs
  state : s.sk.state = callState ws.cfg.server
  flags : s.sk.flags = callFlags ws.cfg.server
  una : x.una = 0
  sent : ∀ seg ∈ sentSegments s.obs, seg.flags = callFlags ws.cfg.server
  passed : passedRequests s.obs = []

section Handshake

variable {ws wp : WorkSpace} {k : Call} {crossing overrun early : Prop} {b b' b₀ : UInt32}
  {x y : Ends} {s p : Slot} {v v' u : View} {m : Mbuf}

/-- The `SYN` is sent, for the first time or again. -/
lemma calling_reply (hside : Side ws b b' x u.sk (s.obs ++ u.trace))
    (hst : u.sk.state = callState ws.cfg.server) (huna : x.una = 0)
    (hsent : ∀ seg ∈ sentSegments (s.obs ++ u.trace), seg.flags = callFlags ws.cfg.server)
    (hpassed : passedRequests (s.obs ++ u.trace) = [])
    (hb : sentBytes (s.obs ++ u.trace) < 2 ^ 31) :
    ∃ nxt, x.nxt ≤ nxt ∧ Calling ws b b' { x with nxt := nxt }
      (s.after (tcpReply ws (callFlags ws.cfg.server) u)) := by
  have hleft := finLeft_le u.sk.state
  obtain ⟨nxt, hle, hside'⟩ := hside.reply (f := callFlags ws.cfg.server) hb
    (fun hn => ⟨.inr (callFlags_fin _), by rw [callFlags_marks]; omega⟩)
    fun hlt => by rw [callFlags_segLen]; exact hlt
  refine ⟨nxt, hle, hside', ?_, tcpReply_flags .., huna, fun seg hseg => ?_, ?_⟩
  · exact (tcpReply_state ..).trans hst
  · rcases mem_sentSegments_reply hseg with hseg | rfl
    · exact hsent seg hseg
    · exact if_pos (callFlags_syn _)
  · exact (passedRequests_reply ..).trans hpassed

/-- A socket is opened at `b`. -/
lemma Shut.calling (h : Shut (s.after v)) (hn : u.sk.sndNxt = b) (hu : u.sk.sndUna = b) {rcv : ℕ}
    (hr : u.sk.rcvNxt = seqAt b' rcv) (hst : u.sk.state = callState ws.cfg.server)
    (htr : ∃ c d, u.trace = v.trace ++ [.opened c d]) (hb : sentBytes (s.after v).obs < 2 ^ 31) :
    ∃ nxt, Calling ws b b' ⟨nxt, 0, rcv⟩
      (s.after (tcpReply ws (callFlags ws.cfg.server) u)) := by
  obtain ⟨c, d, htr⟩ := htr
  have hobs : s.obs ++ u.trace = (s.after v).obs ++ [.opened c d] := by
    rw [htr, ← List.append_assoc]
    rfl
  have hseg : sentSegments (s.obs ++ u.trace) = [] := by
    rw [hobs, sentSegments_append, h.sent]
    rfl
  have hpassed : passedRequests (s.obs ++ u.trace) = [] := by
    rw [hobs, passedRequests_append, h.passed]
    rfl
  have hbytes : sentBytes (s.obs ++ u.trace) = sentBytes (s.after v).obs := by
    rw [hobs, sentBytes_append]
    rfl
  have hleft := finLeft_le u.sk.state
  have hside : Side ws b b' ⟨0, 0, rcv⟩ u.sk (s.obs ++ u.trace) := by
    refine ⟨?_, ?_, hr, le_rfl, Nat.zero_le _, fun hlt => absurd hlt (lt_irrefl 0), ?_, ?_⟩
    · rw [hn, seqAt_zero]
    · rw [hu, seqAt_zero]
    · dsimp only
      omega
    · rw [hseg]
      exact fun seg hs => absurd hs List.not_mem_nil
  have hnone : ∀ seg ∈ sentSegments (s.obs ++ u.trace), seg.flags = callFlags ws.cfg.server := by
    rw [hseg]
    exact fun seg hs => absurd hs List.not_mem_nil
  obtain ⟨nxt, -, hcall⟩ := calling_reply hside hst rfl hnone hpassed (hbytes ▸ hb)
  exact ⟨nxt, hcall⟩

/-- What a move makes of a socket that was never opened: it may be opened. -/
theorem Shut.move (h : Shut (s.after v)) (hk : k ≠ .retransmit)
    (hin : ∀ m, k = .input m → ¬ dataFlags m) (hm : Move ws k crossing overrun early v v')
    (hgood : Ongoing (s.after v').obs) :
    Shut (s.after v') ∨
      (∃ m, k = .input m ∧ m.th.flags = thSyn ∧
        v' = tcpReply ws (thSyn ||| thAck) (socketServerOpen m.th v)) ∨
      ws.cfg.server = false ∧ v' = tcpReply ws thSyn (socketClientOpened ws ws.tsc v) := by
  have hclosed : v.sk.state = .closed := h.state
  have hbefore := hgood.before (move_trace hm)
  cases hm with
  | frame hf =>
      have htr : (s.after v').obs = (s.after v).obs := congrArg (s.obs ++ ·) hf.trace
      refine .inl ⟨hf.state.trans hclosed, ?_, htr ▸ h.sent, htr ▸ h.passed⟩
      rw [Slot.after]
      rcases hf.link with hl | hl | hl | ⟨hl, -⟩
      · rw [hl]
        exact h.place
      all_goals
        rw [hl]
        simp [Link.after]
  | accept hk' ha => exact absurd ha.kind (hin _ hk')
  | finAcked hk' ha => exact absurd ha.kind (hin _ hk')
  | lastAcked hk' ha => exact absurd ha.kind (hin _ hk')
  | closingAcked hk' ha => exact absurd ha.kind (hin _ hk')
  | crossed hk' hf => exact absurd hf (hin _ hk')
  | push hs => exact absurd (hs.symm.trans hclosed) (by decide)
  | bare _ hs =>
      rcases hs with hs | hs | ⟨-, cur, hc⟩
      · exact absurd (hs.symm.trans hclosed) (by decide)
      · exact absurd (hs.symm.trans hclosed) (by decide)
      · exact absurd (List.mem_append_right _ hc) (hbefore.closed cur)
  | again _ ho => exact absurd (ho.resolve_left fun hne => hne hclosed) hk
  | synAgain hs => exact absurd (hs.symm.trans hclosed) (by decide)
  | fin hs => exact absurd (hs.symm.trans hclosed) (by decide)
  | earlyAcked hs => exact absurd (hs.symm.trans hclosed) (by decide)
  | close =>
      rw [socketClose, if_neg (not_not.mpr hclosed)]
      exact .inl h
  | recycle hs => exact absurd (hs.symm.trans hclosed) (by decide)
  | openServer hk' hf => exact .inr (.inl ⟨_, hk', hf, rfl⟩)
  | openClient hs => exact .inr (.inr ⟨hs, rfl⟩)
  | synAck _ _ hs => exact absurd (hs.symm.trans hclosed) (by decide)

lemma Calling.again (h : Calling ws b b' x (s.after v)) (hb : sentBytes (s.after v).obs < 2 ^ 31) :
    ∃ nxt, x.nxt ≤ nxt ∧ Calling ws b b' { x with nxt := nxt }
      (s.after (tcpReply ws (callFlags ws.cfg.server) v)) :=
  calling_reply h.side h.state h.una h.sent h.passed hb

lemma Calling.state_ne (h : Calling ws b b' x s) {t : SkState} (hs : t ≠ .synReceived)
    (ht : t ≠ .synSent) : s.sk.state ≠ t := by
  intro he
  have hst : t = callState ws.cfg.server := he.symm.trans h.state
  rw [callState] at hst
  split_ifs at hst
  · exact hs hst
  · exact ht hst

lemma Calling.ne_closed (h : Calling ws b b' x s) : s.sk.state ≠ .closed :=
  h.state_ne (by decide) (by decide)

/-- What a move makes of a socket in the handshake: its `SYN` may be sent again, and a client may
take the `SYN-ACK`. -/
theorem Calling.move (h : Calling ws b b' x (s.after v))
    (hin : ∀ m, k = .input m → ¬ dataFlags m) (hm : Move ws k crossing overrun early v v')
    (hgood : Ongoing (s.after v').obs) :
    (∃ nxt, x.nxt ≤ nxt ∧ Calling ws b b' { x with nxt := nxt } (s.after v')) ∨
      ∃ m, k = .input m ∧ m.th.flags = thSyn ||| thAck ∧ ws.cfg.server = false ∧
        m.th.ack = v.sk.sndNxt ∧ v' = tcpReply ws (thPush ||| thAck)
          ({ v with sk.rcvNxt := m.th.seq + 1, sk.sndUna := m.th.ack, sk.state := .established }.log
            (.synAck m.th.seq m.th.ack)) := by
  have hbefore := hgood.before (move_trace hm)
  have hlive : v.sk.state ≠ .closed := h.ne_closed
  cases hm with
  | frame hf =>
      have htr : (s.after v').obs = (s.after v).obs := congrArg (s.obs ++ ·) hf.trace
      refine .inl ⟨x.nxt, le_rfl, ?_, hf.state.trans h.state, hf.flags.trans h.flags, h.una,
        htr ▸ h.sent, htr ▸ h.passed⟩
      exact h.side.congr hf.sndNxt hf.sndUna hf.rcvNxt hf.flags (hf.state ▸ le_rfl)
        (congrArg _ htr) (congrArg _ htr)
  | accept hk' ha => exact absurd ha.kind (hin _ hk')
  | finAcked hk' ha => exact absurd ha.kind (hin _ hk')
  | lastAcked hk' ha => exact absurd ha.kind (hin _ hk')
  | closingAcked hk' ha => exact absurd ha.kind (hin _ hk')
  | crossed hk' hf => exact absurd hf (hin _ hk')
  | push hs => exact absurd hs (h.state_ne (by decide) (by decide))
  | bare _ hs =>
      rcases hs with hs | hs | ⟨hs, -⟩
      · exact absurd hs (h.state_ne (by decide) (by decide))
      · exact absurd hs (h.state_ne (by decide) (by decide))
      · exact absurd hs hlive
  | again =>
      rw [show v.sk.flags = callFlags ws.cfg.server from h.flags]
      exact .inl (h.again hbefore.bytes)
  | synAgain hs =>
      have hserver : ws.cfg.server = true := by
        have hst : SkState.synReceived = callState ws.cfg.server := hs.symm.trans h.state
        by_contra hno
        rw [callState, if_neg hno] at hst
        cases hst
      have hagain := h.again hbefore.bytes
      rw [hserver] at hagain
      exact .inl hagain
  | fin hs => exact absurd hs (h.state_ne (by decide) (by decide))
  | earlyAcked hs => exact absurd hs (h.state_ne (by decide) (by decide))
  | close => exact absurd hgood.not_close hlive
  | recycle hs => exact absurd hs (h.state_ne (by decide) (by decide))
  | openServer _ _ hc => exact absurd hc hlive
  | openClient _ hc => exact absurd hc hlive
  | @synAck m _ hk' hf hs ha =>
      have hserver : ws.cfg.server = false := by
        have hst : SkState.synSent = callState ws.cfg.server := hs.symm.trans h.state
        by_contra hno
        rw [callState, if_pos (by simpa using hno)] at hst
        cases hst
      exact .inr ⟨m, hk', hf, hserver, ha, rfl⟩

/-- A server whose `SYN` is on the way. -/
lemma Calling.settled (h : Calling ws b b' x s) (hserver : ws.cfg.server = true)
    (hpos : 0 < x.nxt) (peer : List Obs) : Settled ws b b' x s peer := by
  refine ⟨h.side, .inr ⟨?_, hserver, h.una, hpos⟩, ?_⟩
  · rw [h.state, hserver]
    rfl
  · rw [h.passed]
    exact .nil

/-- The `SYN-ACK` of a server in the handshake reaches its client. -/
lemma Calling.establish (h : Calling ws b b₀ x (s.after v)) (hserver : ws.cfg.server = false)
    (hp : Calling wp b' b y p) (hrcv : y.rcv ≤ x.nxt) (hb : sentBytes (s.after v).obs < 2 ^ 31)
    {seg : Segment} (hseg : seg ∈ sentSegments p.obs) (hm : m.Arrives seg)
    (hf : m.th.flags = thSyn ||| thAck) (hack : m.th.ack = v.sk.sndNxt) :
    0 < y.nxt ∧ ∃ x', Consistent x' y ∧ Settled ws b b' x' (s.after (tcpReply ws (thPush ||| thAck)
      ({ v with sk.rcvNxt := m.th.seq + 1, sk.sndUna := m.th.ack, sk.state := .established }.log
        (.synAck m.th.seq m.th.ack)))) p.obs := by
  obtain ⟨-, e, hsends, hstands⟩ := hp.side.sent seg hseg
  have hstart : e.start = 0 := Nat.le_zero.mp (hp.una ▸ hsends.start)
  have hflags : seg.flags = thSyn ||| thAck := hm.flags ▸ hf
  have hpos : 0 < y.nxt := by
    have hlen : 0 < seg.seqLen := by
      rw [Segment.seqLen, hflags, show hasFlag (thSyn ||| thAck) thSyn = true from rfl, if_pos rfl]
      omega
    have hstop := hsends.stop
    rw [hstands.stop] at hstop
    omega
  -- all that the client sent has been received
  have hall : e.ack = x.nxt := by
    have hnxt := h.side.nxt_lt hb
    have hle := hsends.ack.trans hrcv
    have heq : seqAt b e.ack = seqAt b x.nxt := by
      rw [← hstands.ack (hflags ▸ rfl), ← hm.ack, hack]
      exact h.side.sndNxt
    exact (seqAt_inj (by omega) hnxt).mp heq
  refine ⟨hpos, ?_⟩
  generalize hu : ({ v with
    sk.rcvNxt := m.th.seq + 1, sk.sndUna := m.th.ack, sk.state := .established } : View).log
    (.synAck m.th.seq m.th.ack) = u
  have hobs : (s.after u).obs = (s.after v).obs ++ [.synAck m.th.seq m.th.ack] := by
    rw [← hu, Slot.after, View.log_trace, ← List.append_assoc]
    rfl
  have hsegs : sentSegments (s.after u).obs = sentSegments (s.after v).obs := by
    rw [hobs, sentSegments_append]
    exact List.append_nil _
  have hbytes : sentBytes (s.after u).obs = sentBytes (s.after v).obs := by
    rw [hobs, sentBytes_append]
    rfl
  have hroom := h.side.room
  have hleft : finLeft (s.after v).sk.state = 1 := by
    rw [h.state, hserver]
    rfl
  have hset : Settled ws b b' ⟨x.nxt, x.nxt, 1⟩ (s.after u) p.obs := by
    refine ⟨⟨?_, ?_, ?_, le_rfl, Nat.le_add_right _ _, fun hlt => absurd hlt (lt_irrefl _), ?_,
      fun seg' hs => ?_⟩, .inl (.inl ?_), ?_⟩
    · rw [← hu]
      exact h.side.sndNxt
    · rw [← hu]
      exact hack.trans h.side.sndNxt
    · have hseq : m.th.seq + 1 = seqAt b' 1 := by
        rw [hm.seq, hstands.seq, hstart, seqAt_zero]
        rfl
      rw [← hu]
      exact hseq
    · rw [hleft] at hroom
      rw [hbytes, ← hu]
      exact hroom
    · -- a `SYN` acknowledges nothing
      rw [hsegs] at hs
      obtain ⟨hsmall, e', he, hst⟩ := h.side.sent seg' hs
      refine ⟨hsmall, { e' with ack := 0 }, ⟨he.start.trans h.side.una_le, he.stop, Nat.zero_le _⟩,
        hst.seq, hst.stop, fun ha => ?_⟩
      rw [h.sent seg' hs, hserver] at ha
      cases ha
    · rw [← hu]
      rfl
    · have hnone : passedRequests (s.after u).obs = [] := by
        rw [hobs, passedRequests_append, h.passed]
        rfl
      rw [hnone]
      exact .nil
  have hag : Consistent ⟨x.nxt, x.nxt, 1⟩ y :=
    ⟨hall ▸ hsends.ack, hrcv, hp.una ▸ Nat.zero_le _, hpos⟩
  obtain ⟨x', hset', hag'⟩ := hset.reply (f := thPush ||| thAck) hag (hbytes ▸ hb)
    (fun _ => ⟨.inr rfl, hset.side.room⟩) fun hlt => absurd hlt (lt_irrefl _)
  exact ⟨x', hag', hset'⟩

end Handshake

end Dperf
