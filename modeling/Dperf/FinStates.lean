import Dperf.Moves

/-!
The closing states of a TCP socket with `send_window == 0` against its sequence numbers.

* `Agree`: in `FIN_WAIT_2` nothing is outstanding; in `FIN_WAIT_1`, `CLOSING` and `LAST_ACK`
  something is, and a retransmission sends a `FIN`. Every move but one keeps it
  (`agree_move`): the exception is `EarlyFin`.
* `finStates_agree_iff`: the law holds in runs without an `EarlyFin`, and every `EarlyFin`
  breaks it.
-/

namespace Dperf

variable {n : ℕ}

/-- The state of the socket agrees with its sequence numbers and its saved flags. -/
structure Agree (sk : Socket) : Prop where
  finWait2 : sk.state = .finWait2 → sk.sndNxt = sk.sndUna
  fin : sk.state = .finWait1 ∨ sk.state = .closing ∨ sk.state = .lastAck →
    sk.sndNxt ≠ sk.sndUna ∧ hasFlag sk.flags thFin = true

instance (sk : Socket) : Decidable (Agree sk) :=
  decidable_of_iff ((sk.state = .finWait2 → sk.sndNxt = sk.sndUna) ∧
    (sk.state = .finWait1 ∨ sk.state = .closing ∨ sk.state = .lastAck →
      sk.sndNxt ≠ sk.sndUna ∧ hasFlag sk.flags thFin = true))
    ⟨fun h => ⟨h.1, h.2⟩, fun h => ⟨h.1, h.2⟩⟩

/-! ### Moves -/

section Move

variable {ws : WorkSpace} {k : Call} {crossing overrun early : Prop} {v v' u : View}

/-- Before the closing states there is nothing to say. -/
lemma agree_early {sk : Socket} (h : sk.state ≤ .established) : Agree sk := by
  refine ⟨fun hs => ?_, fun hs => ?_⟩
  · rw [hs] at h
    exact absurd h (by decide)
  · rcases hs with hs | hs | hs <;> rw [hs] at h <;> exact absurd h (by decide)

lemma agree_closed {sk : Socket} (h : sk.state = .closed) : Agree sk :=
  agree_early (by rw [h]; decide)

lemma agree_of_eq {sk sk' : Socket} (h : Agree sk) (hs : sk'.state = sk.state)
    (hn : sk'.sndNxt = sk.sndNxt) (hu : sk'.sndUna = sk.sndUna) (hf : sk'.flags = sk.flags) :
    Agree sk' := by
  refine ⟨fun h2 => ?_, fun h1 => ?_⟩
  · rw [hn, hu]
    exact h.finWait2 (hs ▸ h2)
  · rw [hn, hu, hf]
    exact h.fin (hs ▸ h1)

/-- A `FIN` takes a sequence number, whatever else the segment carries. -/
lemma fin_outstanding {f : UInt8} (ha : ws.mbufAlloc v.allocs = true)
    (hf : hasFlag f thFin = true) (hs : hasFlag f thSyn = false) :
    v.sk.sndNxt + replyFresh ws f v ≠ v.sk.sndUna := by
  by_cases hn : v.sk.sndNxt = v.sk.sndUna
  · intro heq
    have h0 : replyFresh ws f v = 0 := by
      rw [hn] at heq
      grind
    have hlen := replyFresh_toNat (f := f) (.inl hs) ha hn
    rw [h0, segLen, hf] at hlen
    simp at hlen
  · exact still_outstanding hn

/-- A `FIN` is sent, or sent again, on the way into a closing state. -/
lemma agree_fin {f : UInt8} (ha : ws.mbufAlloc v.allocs = true) (hf : hasFlag f thFin = true)
    (hs : hasFlag f thSyn = false) (hst : v.sk.state ≠ .finWait2) :
    Agree (tcpReply ws f v).sk := by
  refine ⟨fun h2 => ?_, fun _ => ⟨?_, ?_⟩⟩
  · rw [tcpReply_state] at h2
    exact absurd h2 hst
  · rw [tcpReply_sndNxt, tcpReply_sndUna]
    exact fin_outstanding ha hf hs
  · rw [tcpReply_flags]
    exact hf

lemma socketClose_agree (h : v.sk.state = .closed → Agree v.sk) : Agree (socketClose v).sk := by
  rw [socketClose]
  split_ifs with ho
  · exact agree_closed rfl
  · exact h (not_not.mp ho)

/-- Every move but the early one keeps the agreement, if an mbuf is always found. -/
theorem agree_move (ha : ∀ i, ws.mbufAlloc i = true) (h : Agree v.sk)
    (hm : Move ws k crossing overrun False v v') : Agree v'.sk := by
  cases hm with
  | frame hf => exact agree_of_eq h hf.state hf.sndNxt hf.sndUna hf.flags
  | @accept m v u _ hacc h1 h2 h3 =>
      by_cases he : v'.sk.state = .established
      · exact agree_early (by rw [he]; decide)
      · rw [← hacc.state_eq he] at h1 h2 h3
        exact ⟨fun _ => hacc.acked, fun hs => by simp [h1, h2, h3] at hs⟩
  | finAcked _ hacc => exact ⟨fun _ => hacc.acked, fun hs => by simp at hs⟩
  | lastAcked => exact socketClose_agree agree_closed
  | closingAcked => exact agree_fin (ha _) rfl rfl (by simp)
  | crossed _ _ _ _ _ hu => exact agree_fin (ha _) rfl rfl (by simp [hu.state])
  | push hs => exact agree_early (by rw [tcpReply_state, hs]; decide)
  | bare hf hs =>
      rcases hs with hs | hs | hs
      · exact agree_early (by rw [tcpReply_state, hs]; decide)
      · refine ⟨fun _ => ?_, fun h1 => by simp [hs] at h1⟩
        rw [tcpReply_sndNxt, tcpReply_sndUna, replyFresh_bare hf, h.finWait2 hs]
        simp
      · exact agree_closed (by rw [tcpReply_state, hs.1])
  | again hn =>
      refine ⟨fun h2 => ?_, fun h1 => ?_⟩
      · rw [tcpReply_state] at h2
        exact absurd (h.finWait2 h2) hn
      · rw [tcpReply_state] at h1
        rw [tcpReply_sndNxt, tcpReply_sndUna, tcpReply_flags]
        exact ⟨still_outstanding hn, (h.fin h1).2⟩
  | synAgain hs => exact agree_early (by rw [tcpReply_state, hs]; decide)
  | fin _ ht hf hsyn =>
      refine agree_fin (ha _) hf hsyn ?_
      rcases ht with rfl | rfl <;> simp
  | earlyAcked _ he => exact he.elim
  | close => exact socketClose_agree agree_closed
  | recycle => exact agree_closed rfl
  | openServer =>
      refine agree_early ?_
      rw [tcpReply_state, socketServerOpen_state]
      decide
  | openClient =>
      refine agree_early ?_
      rw [tcpReply_state]
      exact (by decide : SkState.synSent ≤ .established)
  | synAck =>
      refine agree_early ?_
      rw [tcpReply_state]
      exact (by decide : SkState.established ≤ .established)

theorem agree_moves (ws : WorkSpace) (ha : ∀ i, ws.mbufAlloc i = true) (h : Agree v.sk)
    (hm : Moves ws k crossing overrun False v v') : Agree v'.sk := by
  induction hm with
  | refl => exact h
  | tail _ hlast ih => exact agree_move ha ih hlast

end Move

/-! ### The early acknowledgement -/

/-- A response makes the client send a `FIN` after the end of the test, and take the response
for the acknowledgement of this `FIN`. -/
def FinOnResponse (st : SocketTable n) (ws : WorkSpace) (e : Event) (w : Worker n) : Prop :=
  ∃ m i, e = .recv .tcp m ∧ socketLookup st ws w.pool m = some i ∧
    EarlyFin ws (.input m) (w.pool i)

/-- A segment without `FIN` is taken for the acknowledgement of ours. -/
lemma clientAnswer_finWait1 {ws : WorkSpace} {rx : UInt8} {w : View} (hs : w.sk.state = .finWait1)
    (hn : w.sk.sndNxt ≠ w.sk.sndUna) (hf : hasFlag rx thFin = false) :
    (tcpClientAnswer ws rx thAck w).sk.state = .finWait2 ∧
      (tcpClientAnswer ws rx thAck w).sk.sndNxt ≠ (tcpClientAnswer ws rx thAck w).sk.sndUna := by
  have hstep := tcpFinFlags_step rx thAck w
  rw [tcpClientAnswer]
  generalize tcpFinFlags rx thAck w = r at hstep ⊢
  cases hstep with
  | keep h1 => exact absurd hs h1
  | passive he => exact absurd (hs.symm.trans he) (by simp)
  | active he => exact absurd (hs.symm.trans he) (by simp)
  | finAcked =>
      dsimp only
      split_ifs
      · rw [tcpReply_state, tcpReply_sndNxt, tcpReply_sndUna]
        exact ⟨rfl, still_outstanding hn⟩
      · exact ⟨rfl, hn⟩
      · exact ⟨rfl, hn⟩
  | finBoth _ hf' => simp [hf] at hf'
  | closing he => exact absurd (hs.symm.trans he) (by simp)
  | lastAck he => exact absurd (hs.symm.trans he) (by simp)

/-- The input call of such a response. -/
lemma earlyFin_input {ws : WorkSpace} (hp : Plain ws) (ha : ∀ i, ws.mbufAlloc i = true) {m : Mbuf}
    {v : View} (h : EarlyFin ws (.input m) v.sk) :
    (tcpClientInput ws m v).1 = .none ∧ (tcpClientInput ws m v).2.sk.state = .finWait2 ∧
      (tcpClientInput ws m v).2.sk.sndNxt ≠ (tcpClientInput ws m v).2.sk.sndUna := by
  obtain ⟨m', hm', hreq, hfin, hdur⟩ := h
  cases hm'
  obtain ⟨u, hu, -, hacked, -⟩ := hreq.input hp
  have hout : (tcpReply ws (thAck ||| thFin) { u with sk.state := .finWait1 }).sk.sndNxt ≠
      (tcpReply ws (thAck ||| thFin) { u with sk.state := .finWait1 }).sk.sndUna := by
    rw [tcpReply_sndNxt, tcpReply_sndUna]
    exact fin_outstanding (ha _) rfl rfl
  rw [hu, tcpSendKeepaliveRequest, if_neg (by simp [hdur])]
  exact ⟨rfl, clientAnswer_finWait1 (by simp) hout hfin⟩

/-! ### Runs -/

lemma FinOnResponse.of_call {st : SocketTable n} {ws : WorkSpace} {e : Event} {w₀ w : Worker n}
    {i : Fin n} {k : Call} (hp : Plain ws) (hk : Permit ws (e.inp st ws w₀) i k w)
    (h : EarlyFin ws k (w.pool i)) : FinOnResponse st ws e w₀ := by
  obtain ⟨m, rfl, hm⟩ := h
  obtain ⟨rfl, he, hi⟩ := hk.input m rfl
  rw [hp.protocol] at he
  exact ⟨m, i, he, hi, m, rfl, hm⟩

/-- **The closing states.** As long as no response makes the client send a `FIN` after the end
of the test, every socket agrees with its sequence numbers; every such response leaves a socket
in `FIN_WAIT_2` with its `FIN` outstanding. -/
theorem finStates_agree_iff {st : SocketTable n} {ws : WorkSpace} (hp : Plain ws)
    (ha : ∀ i, ws.mbufAlloc i = true) :
    (∀ w, Reach st ws (fun ws e w => ¬ FinOnResponse st ws e w) w → ∀ i, Agree (w.pool i)) ∧
      ∀ w w' c e, Reach st ws anyStep w → step st (ws.at c) e w = some w' →
        FinOnResponse st (ws.at c) e w → ¬ ∀ i, Agree (w'.pool i) := by
  constructor
  · intro w h
    refine slots_of_reach (P := fun s => Agree s.sk) ?_ ?_ h
    · exact fun sk hnew => agree_closed hnew.closed.1
    · intro c e w₀ hG i k w hk hw
      have hm := moves_run (hp.at c) hk.mode (w.view i)
      have hE : ¬ EarlyFin (ws.at c) k (w.pool i) := fun he => hG (.of_call (hp.at c) hk he)
      rw [show EarlyFin (ws.at c) k (w.view i).sk = False from eq_false hE] at hm
      exact agree_moves (ws.at c) ha (v := w.view i) hw hm
  · rintro w w' c e - hstep ⟨m, i, rfl, hi, hE⟩ hagree
    have hs : (ws.at c).cfg.server = false := by
      obtain ⟨_, _, hreq, -⟩ := hE
      exact hreq.1
    obtain ⟨hd, hst, hn⟩ := earlyFin_input (v := w.view i) (hp.at c) ha hE
    rw [step_clientInput (hp.at c).protocol hs hi hd] at hstep
    cases hstep
    have hpool := (hagree i).finWait2
    rw [Worker.on, Worker.pool_put_self] at hpool
    exact hn (hpool hst)

/-- A client that sends one request a connection. -/
def Config.once : Config := { Config.single with keepalive := false }

/-- The response to its request, which it answers with a `FIN`. -/
def onceResponse : List (Clock × Event) :=
  clientHandshake ++ [(.single 2, .recv .tcp (.single false (thPush ||| thAck) 101 5 [1]))]

/-- And the acknowledgement of the `FIN`. -/
def onceAcked : List (Clock × Event) :=
  onceResponse ++ [(.single 2, .recv .tcp (.single false thAck 102 6 []))]

/-- The law holds in `FIN_WAIT_1` and in `FIN_WAIT_2`. -/
theorem finStates_agree_finWait :
    (∃ w, Reach .single (.single .once) (fun ws e w => ¬ FinOnResponse SocketTable.single ws e w) w ∧
      (w.pool 0).state = .finWait1 ∧ ∀ i, Agree (w.pool i)) ∧
    ∃ w, Reach .single (.single .once) (fun ws e w => ¬ FinOnResponse SocketTable.single ws e w) w ∧
      (w.pool 0).state = .finWait2 ∧ ∀ i, Agree (w.pool i) := by
  -- everything comes within the duration of the test
  have hdur : ∀ p ∈ onceAcked,
      workSpaceInDuration ((WorkSpace.single .once).at p.1) = true := by
    decide
  have hG : ∀ c e, (c, e) ∈ onceAcked → ∀ w, ¬ FinOnResponse SocketTable.single
      ((WorkSpace.single .once).at c) e w := by
    rintro c e he w ⟨m, i, -, -, m', -, -, -, hout⟩
    exact Bool.false_ne_true (hout.symm.trans (hdur _ he))
  have hG' : ∀ c e, (c, e) ∈ onceResponse → ∀ w, ¬ FinOnResponse SocketTable.single
      ((WorkSpace.single .once).at c) e w :=
    fun c e he => hG c e (List.mem_append_left _ he)
  have hplain : Plain (.single .once) := ⟨rfl, rfl, fun _ => rfl⟩
  have hagree := @finStates_agree_iff 1 .single _ hplain fun _ => rfl
  constructor
  · obtain ⟨w, hw, hs⟩ := reach_runEvents SocketTable.single _
      (fun ws e w => ¬ FinOnResponse SocketTable.single ws e w)
      (Worker.single_initial (.single .once)) onceResponse
      (p := fun w => (w.pool 0).state == .finWait1) hG' (by decide)
    exact ⟨w, hw, beq_iff_eq.mp hs, hagree.1 w hw⟩
  · obtain ⟨w, hw, hs⟩ := reach_runEvents SocketTable.single _
      (fun ws e w => ¬ FinOnResponse SocketTable.single ws e w)
      (Worker.single_initial (.single .once)) onceAcked
      (p := fun w => (w.pool 0).state == .finWait2) hG (by decide)
    exact ⟨w, hw, beq_iff_eq.mp hs, hagree.1 w hw⟩

/-- A response after the tenth second leaves the client in `FIN_WAIT_2` with its `FIN`
outstanding. -/
theorem finStates_not_agree :
    ∃ w, Reach .single (.single .single) anyStep w ∧
      (w.pool 0).state = .finWait2 ∧ (w.pool 0).sndNxt ≠ (w.pool 0).sndUna := by
  obtain ⟨w, hw, hs⟩ := reach_runEvents SocketTable.single _ anyStep
    (Worker.single_initial (.single .single))
    (clientHandshake ++ [(.single 11, .recv .tcp (.single false (thPush ||| thAck) 101 5 [1]))])
    (p := fun w => (w.pool 0).state == .finWait2 && (w.pool 0).sndNxt != (w.pool 0).sndUna)
    (fun _ _ _ _ => trivial) (by decide)
  exact ⟨w, hw, by simpa using hs⟩

end Dperf
