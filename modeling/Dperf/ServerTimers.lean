import Dperf.Turns

/-!
The timers of the TCP server: which queue an open socket is in.

* `Armed`: with `send_window == 0` a socket is in no queue exactly when it is closed, an
  open one with something outstanding is in the retransmit queue and its saved flags make
  a retransmission start that timer again, one with nothing outstanding is in the timeout
  queue. Every call of the server keeps it (`armed_run`).
* `server_timer`: the law in every reachable state.
* `windowServer_unlinked`: with `send_window > 0` the handshake starts no timer, so a socket
  just opened is in no queue.
-/

namespace Dperf

variable {n : ℕ}

/-! ### Small responses -/

/-- A TCP server that answers with one segment and always finds an mbuf. -/
structure SmallServer (ws : WorkSpace) : Prop where
  protocol : ws.cfg.protocol = .tcp
  server : ws.cfg.server = true
  window : ws.sendWindow = 0
  template : ws.tcpData.bytes ≠ []
  alloc : ∀ k, ws.mbufAlloc k = true

lemma SmallServer.at {ws : WorkSpace} (h : SmallServer ws) (c : Clock) : SmallServer (ws.at c) :=
  ⟨h.protocol, h.server, h.window, h.template, h.alloc⟩

/-- The socket is in the queue its state calls for. -/
structure Armed (sk : Socket) (p : Option TimerKind) : Prop where
  closed : sk.state = .closed → p = none
  retransmit : sk.state ≠ .closed → sk.sndNxt ≠ sk.sndUna →
    p = some .retransmit ∧ hasFlag sk.flags seqFlags = true
  timeout : sk.state ≠ .closed → sk.sndNxt = sk.sndUna → p = some .timeout

/-- `Armed` for a view of a socket that was in the queue `p`. -/
def ArmedAt (p : Option TimerKind) (v : View) : Prop := Armed v.sk (v.link.after p)

section Armed

variable {ws : WorkSpace} {p : Option TimerKind} {v : View}

lemma armed_of_closed (hc : v.sk.state = .closed) (hp : v.link.after p = none) : ArmedAt p v :=
  ⟨fun _ => hp, fun ho => absurd hc ho, fun ho => absurd hc ho⟩

lemma armed_of_eq {v' : View} (h : ArmedAt p v) (hst : v'.sk.state = v.sk.state)
    (hn : v'.sk.sndNxt = v.sk.sndNxt) (hu : v'.sk.sndUna = v.sk.sndUna)
    (hf : v'.sk.flags = v.sk.flags) (hl : v'.link = v.link) : ArmedAt p v' := by
  refine ⟨fun hc => ?_, fun ho hne => ?_, fun ho he => ?_⟩
  · rw [hl]
    exact h.closed (hst ▸ hc)
  · rw [hl, hf]
    exact h.retransmit (hst ▸ ho) (by rwa [← hn, ← hu])
  · rw [hl]
    exact h.timeout (hst ▸ ho) (by rwa [← hn, ← hu])

lemma armed_close (h : v.sk.state = .closed → v.link.after p = none) :
    ArmedAt p (socketClose v) := by
  rw [socketClose]
  split_ifs with ho
  · exact armed_of_closed rfl rfl
  · exact armed_of_closed (not_not.mp ho) (h (not_not.mp ho))

/-- A reply that leaves something outstanding starts the retransmit timer. -/
lemma armed_reply (hs : SmallServer ws) {f : UInt8} (ho : v.sk.state ≠ .closed)
    (hf : hasFlag f seqFlags = true) (hout : v.sk.sndNxt + replyFresh ws f v ≠ v.sk.sndUna) :
    ArmedAt p (tcpReply ws f v) := by
  have ht : replyTimer ws f v = some .retransmit := by
    simp [replyTimer, ho, hs.window, hf, hout]
  have hl : (tcpReply ws f v).link = .tail .retransmit := by rw [tcpReply_link, ht]
  refine ⟨fun hc => ?_, fun _ _ => ?_, fun _ he => ?_⟩
  · exact absurd ((tcpReply_state ws f v) ▸ hc) ho
  · exact ⟨by rw [hl]; rfl, by rw [tcpReply_flags]; exact hf⟩
  · rw [tcpReply_sndNxt, tcpReply_sndUna] at he
    exact absurd he hout

/-- The same for a segment that is built anew or sent again. -/
lemma armed_reply_seq (hs : SmallServer ws) {f : UInt8} (ho : v.sk.state ≠ .closed)
    (hf : hasFlag f seqFlags = true) (h : hasFlag f thSyn = false ∨ hasFlag f thFin = false) :
    ArmedAt p (tcpReply ws f v) :=
  armed_reply hs ho hf (reply_outstanding hs.template (hs.alloc _) hf h)

/-- A reply on a closed socket starts nothing. -/
lemma armed_reply_closed {f : UInt8} (hc : v.sk.state = .closed) (hp : v.link.after p = none) :
    ArmedAt p (tcpReply ws f v) := by
  have ht : replyTimer ws f v = none := by simp [replyTimer, hc]
  refine armed_of_closed (by rw [tcpReply_state, hc]) ?_
  rw [tcpReply_link, ht]
  exact hp

lemma armed_startTimeout (ho : v.sk.state ≠ .closed) (hn : v.sk.sndNxt = v.sk.sndUna)
    (tsc : UInt64) : ArmedAt p (socketStartTimeoutTimer tsc v) :=
  ⟨fun hc => absurd hc ho, fun _ hne => absurd hn hne, fun _ _ => rfl⟩

/-- A retransmission arms the timer again or closes the socket. -/
lemma armed_doRetransmit (hs : SmallServer ws) (ho : v.sk.state ≠ .closed)
    (hn : v.sk.sndNxt ≠ v.sk.sndUna) (hf : hasFlag v.sk.flags seqFlags = true) :
    ArmedAt p (tcpDoRetransmit ws v) := by
  have hstep := tcpDoRetransmit_step ws v
  generalize tcpDoRetransmit ws v = r at hstep ⊢
  cases hstep with
  | acked he => exact absurd he hn
  | handedOver => exact armed_close fun hc => absurd hc ho
  | burst _ _ hw => exact absurd hs.window hw
  | again =>
      have h₁ : ArmedAt p (tcpReply ws v.sk.flags { v with sk.retrans := v.sk.retrans + 1 }) := by
        exact armed_reply hs ho hf (still_outstanding hn)
      exact armed_of_eq h₁ rfl rfl rfl rfl rfl
  | giveUp => exact armed_close fun hc => absurd hc ho

/-- The end of `tcp_server_process_data`: nothing is outstanding, or the two sides close at
the same time. -/
lemma armed_answer (hs : SmallServer ws) {rx tx : UInt8} (ho : v.sk.state ≠ .closed)
    (hn : v.sk.sndNxt = v.sk.sndUna ∨ v.sk.state = .closing)
    (htx : tx = 0 ∨ v.sk.state = .established ∧ tx = responseFlags v.sk) :
    ArmedAt p (tcpServerAnswer ws rx tx v) := by
  have hsyn : hasFlag tx thSyn = false := by
    rcases htx with rfl | ⟨-, rfl⟩
    · rfl
    · exact (responseFlags_seq _).2
  -- a `FIN` of the server, whatever it is combined with
  have hfin : ∀ u : View, u.sk.state ≠ .closed →
      tx ||| (thFin ||| thAck) ≠ 0 ∧ ArmedAt p (tcpReply ws (tx ||| (thFin ||| thAck)) u) := by
    intro u hu
    have h₁ : hasFlag (tx ||| (thFin ||| thAck)) seqFlags = true := by
      rw [hasFlag_or]
      exact Bool.or_eq_true_iff.mpr (.inr rfl)
    have h₂ : hasFlag (tx ||| (thFin ||| thAck)) thSyn = false := by
      rw [hasFlag_or, hsyn]
      rfl
    refine ⟨fun h0 => ?_, armed_reply_seq hs hu h₁ (.inl h₂)⟩
    rw [h0] at h₁
    cases h₁
  have hstep := tcpFinFlags_step rx tx v
  rw [tcpServerAnswer]
  generalize tcpFinFlags rx tx v = r at hstep ⊢
  cases hstep with
  | keep _ h2 _ _ =>
      have hn' := hn.resolve_right h2
      split_ifs with h0
      · obtain ⟨-, rfl⟩ := htx.resolve_left h0
        exact armed_reply_seq hs ho (responseFlags_seq _).1 (.inl hsyn)
      · exact armed_startTimeout ho hn' _
  | passive =>
      rw [if_pos (hfin v ho).1]
      exact (hfin _ (by simp)).2
  | active =>
      rw [if_pos (hfin v ho).1]
      exact (hfin _ (by simp)).2
  | closing =>
      rw [if_pos (hfin v ho).1]
      exact (hfin _ (by simp)).2
  | finAcked hst =>
      have hn' := hn.resolve_right (by simp [hst])
      obtain rfl := htx.resolve_right (by simp [hst])
      have ho' : ({ v with sk.state := .finWait2 } : View).sk.state ≠ .closed := by simp
      rw [if_neg (by simp), if_pos ho']
      exact armed_startTimeout ho' hn' _
  | finBoth hst =>
      obtain rfl : tx = 0 := htx.resolve_right (by rcases hst with h | h <;> simp [h])
      have hc : (socketClose v).sk.state = .closed ∧ (socketClose v).link = .self := by
        simp [socketClose, ho, socketNodeDel]
      exact armed_reply_closed hc.1 (by rw [hc.2]; rfl)
  | lastAck hst =>
      obtain rfl := htx.resolve_right (by simp [hst])
      have hc : (socketClose v).sk.state = .closed := by simp [socketClose, ho, socketNodeDel]
      rw [if_neg (by simp), if_neg (by simp [hc])]
      exact armed_close fun h => absurd h ho

/-- Data on an open socket. -/
lemma armed_accepted (hs : SmallServer ws) (th : Tcphdr) (data : List UInt8) (dataLen : UInt16)
    (ho : v.sk.state ≠ .closed) (hn : v.sk.sndNxt = v.sk.sndUna ∨ v.sk.state = .closing) :
    ArmedAt p (tcpServerAccepted ws th data dataLen v) := by
  obtain ⟨tx, u, he, -, -, hu, -, htx⟩ := tcpServerAccepted_small hs.window th data dataLen v
  rw [he]
  refine armed_answer hs ?_ ?_ htx
  · rw [hu]
    exact SkState.establish_ne ho (by simp)
  · rw [hu]
    rcases hn with hn | hn
    · exact .inl hn
    · right
      simp [hn]
      decide

lemma armed_data (hs : SmallServer ws) (h : ArmedAt p v) (m : Mbuf) :
    ArmedAt p (tcpServerProcessData ws m v) := by
  have hstep := tcpCheckSequence_step ws m.th (tcpDataGet m).2 v
  rw [tcpServerProcessData]
  generalize tcpCheckSequence ws m.th (tcpDataGet m).2 v = r at hstep ⊢
  cases hstep with
  | accept hin ho =>
      refine armed_accepted hs _ _ _ (by rwa [tcpAcceptInOrder_state]) (.inl ?_)
      exact tcpAcceptInOrder_acked hin
  | simultaneous =>
      have hst : ({ v with sk.rcvNxt := m.th.seq + 1, sk.state := .closing } : View).sk.state
          = .closing := rfl
      exact armed_accepted hs m.th (tcpDataGet m).1 (tcpDataGet m).2 (by simp) (.inr hst)
  | closedSocket => exact armed_of_eq h rfl rfl rfl rfl rfl
  | drop => exact armed_of_eq h rfl rfl rfl rfl rfl
  | newAck _ _ _ hw => exact absurd hs.window hw
  | dupAck _ _ hw => exact absurd hs.window hw
  | thirdDupAck _ _ hw => exact absurd hs.window hw
  | fastRetransmit _ _ ho =>
      have h₁ : ArmedAt p (tcpDoRetransmit ws v) := by
        by_cases hn : v.sk.sndNxt = v.sk.sndUna
        · rw [tcpDoRetransmit, if_pos hn]
          exact armed_of_eq h rfl rfl rfl rfl rfl
        · exact armed_doRetransmit hs ho hn (h.retransmit ho hn).2
      exact armed_of_eq h₁ rfl rfl rfl rfl rfl

lemma armed_syn (hs : SmallServer ws) (h : ArmedAt p v) (th : Tcphdr) :
    ArmedAt p (tcpServerProcessSyn ws th v) := by
  rw [tcpServerProcessSyn]
  dsimp only
  generalize hu : (if v.sk.state = .timeWait then { v with sk.state := .closed } else v : View) = u
  split_ifs with hc hr
  · exact armed_reply_seq hs (by simp [socketServerOpen_state]) rfl (.inr rfl)
  · have ho : u.sk.state ≠ .closed := hc
    exact armed_of_eq (armed_reply_seq hs ho rfl (.inr rfl)) rfl rfl rfl rfl rfl
  all_goals
    -- no recycle happens on the remaining paths
    have huv : u = v := by
      rw [← hu]
      refine if_neg fun ht => hc ?_
      rw [← hu, if_pos ht]
    rw [huv]
  · exact h
  · exact armed_of_eq h rfl rfl rfl rfl rfl

/-- Every call of the server keeps its timers. -/
theorem armed_run (hs : SmallServer ws) {k : Call} (hk : k.Allowed ws.cfg) (hl : v.link = .kept)
    (h : Armed v.sk p) (hq : ∀ q, k.queue = some q → p = some q) : ArmedAt p (k.run ws v) := by
  have hv : ArmedAt p v := by
    rw [ArmedAt, hl]
    exact h
  obtain ⟨m, rfl⟩ | rfl | rfl := hk.of_server hs.server
  · rw [Call.run, l4Input, hs.protocol, hs.server]
    have h₁ : ArmedAt p (v.count (tcpFlagsRxCount m.th.flags)) :=
      armed_of_eq hv rfl rfl rfl rfl rfl
    dsimp only
    rw [tcpServerInput]
    split_ifs
    · exact armed_data hs h₁ m
    · exact armed_syn hs h₁ m.th
    · rw [tcpProcessRst]
      split_ifs with ho
      · exact armed_close fun hc => absurd hc ho
      · exact h₁
    · exact armed_of_eq h₁ rfl rfl rfl rfl rfl
  · have hp := hq .retransmit rfl
    have ho : v.sk.state ≠ .closed := fun hc => by simp [h.closed hc] at hp
    have hn : v.sk.sndNxt ≠ v.sk.sndUna := fun he => by simp [h.timeout ho he] at hp
    rw [Call.run, hs.protocol]
    exact armed_doRetransmit hs ho hn (h.retransmit ho hn).2
  · exact armed_close fun _ => rfl

end Armed

/-- **The timers of the server.** With `send_window == 0` a socket is closed exactly when it
is in no timer queue; an open one is in the retransmit queue alone if something is
outstanding, and in the timeout queue alone otherwise. -/
theorem server_timer {st : SocketTable n} {ws : WorkSpace} {w : Worker n} (hs : SmallServer ws)
    (h : Reach st ws anyStep w) (i : Fin n) :
    ((w.pool i).state = .closed ↔ ∀ q, i ∉ w.timers.list q) ∧
      ((w.pool i).state ≠ .closed → (w.pool i).sndNxt ≠ (w.pool i).sndUna →
        ∀ q, i ∈ w.timers.list q ↔ q = .retransmit) ∧
      ((w.pool i).state ≠ .closed → (w.pool i).sndNxt = (w.pool i).sndUna →
        ∀ q, i ∈ w.timers.list q ↔ q = .timeout) := by
  have hA : ∀ i, Armed (w.slot i).sk (w.slot i).place := by
    refine slots_of_reach (P := fun s => Armed s.sk s.place) ?_ ?_ h
    · rintro sk ⟨_, _, _, _, _, _, rfl⟩
      refine ⟨fun _ => rfl, fun ho => absurd ?_ ho, fun ho => absurd ?_ ho⟩
      all_goals simp [socketInit, hs.server]
    · intro c e w₀ _ i k w hp hw
      refine armed_run (hs.at c) hp.mode rfl hw fun q hq => ?_
      exact Queues.place_eq_some.mpr (hp.timer q hq)
  have hi : Armed (w.pool i) (w.timers.place i) := hA i
  refine ⟨⟨fun hc => Queues.place_eq_none.mp (hi.closed hc), fun hq => ?_⟩, fun ho hn q => ?_,
    fun ho hn q => ?_⟩
  · by_contra ho
    have hnone := Queues.place_eq_none.mpr hq
    by_cases hn : (w.pool i).sndNxt = (w.pool i).sndUna
    · simp [hi.timeout ho hn] at hnone
    · simp [(hi.retransmit ho hn).1] at hnone
  · rw [← Queues.place_eq_some, (hi.retransmit ho hn).1]
    simp [eq_comm]
  · rw [← Queues.place_eq_some, hi.timeout ho hn]
    simp [eq_comm]

/-- After a `SYN` the socket waits in the retransmit queue for its acknowledgement. -/
theorem server_timer_syn :
    ∃ w, Reach .single (.single (.singleServer true)) anyStep w ∧
      (w.pool 0).state = .synReceived ∧ ∀ q, 0 ∈ w.timers.list q ↔ q = .retransmit := by
  have hs : SmallServer (.single (.singleServer true)) :=
    ⟨rfl, rfl, rfl, by decide, fun _ => rfl⟩
  obtain ⟨w, hw, hp⟩ := reach_runEvents SocketTable.single _ anyStep
    (Worker.single_initial (.single (.singleServer true))) (serverHandshake.take 1)
    (p := fun w => (w.pool 0).state == .synReceived && (w.pool 0).sndNxt != (w.pool 0).sndUna)
    (fun _ _ _ _ => trivial) (by decide)
  simp only [Bool.and_eq_true, beq_iff_eq, bne_iff_ne] at hp
  exact ⟨w, hw, hp.1, (server_timer hs hw 0).2.1 (by simp [hp.1]) hp.2⟩

/-! ### Large responses -/

/-- A TCP server that sends responses in bursts and always finds an mbuf. -/
structure WindowServer (ws : WorkSpace) : Prop where
  protocol : ws.cfg.protocol = .tcp
  server : ws.cfg.server = true
  window : ws.sendWindow ≠ 0
  alloc : ∀ k, ws.mbufAlloc k = true

lemma WindowServer.at {ws : WorkSpace} (h : WindowServer ws) (c : Clock) : WindowServer (ws.at c) :=
  ⟨h.protocol, h.server, h.window, h.alloc⟩

/-- Every open socket of the worker is in the retransmit or in the timeout queue. -/
def Linked (w : Worker n) : Prop :=
  ∀ i, (w.pool i).state ≠ .closed →
    i ∈ w.timers.list .retransmit ∨ i ∈ w.timers.list .timeout

/-- The step gives a `SYN` to a closed socket, which opens it. -/
def Opens (st : SocketTable n) (ws : WorkSpace) (e : Event) (w : Worker n) : Prop :=
  ∃ m i, e = .recv .tcp m ∧ socketLookup st ws w.pool m = some i ∧ m.th.flags = thSyn ∧
    (w.pool i).state = .closed

section Window

variable {ws : WorkSpace} {v : View}

/-- Only a `SYN` opens a closed socket. -/
lemma input_closed {m : Mbuf} (hc : v.sk.state = .closed) (hm : m.th.flags ≠ thSyn) :
    (tcpServerInput ws m v).sk.state = .closed := by
  rw [tcpServerInput]
  rw [if_neg hm]
  split_ifs
  · have hv : (v.count (tcpFlagsRxCount m.th.flags)).sk.state = .closed := hc
    obtain ⟨hf, hcl⟩ := tcpCheckSequence_closed ws hv m.th (tcpDataGet m).2
    rw [tcpServerProcessData, if_pos hf]
    exact hcl
  · exact tcpProcessRst_closed _
  · exact hc

/-- Without a `SYN` for it a closed socket stays closed. -/
lemma closed_run (hs : WindowServer ws) {k : Call} (hk : k.Allowed ws.cfg)
    (hc : v.sk.state = .closed) (hm : ∀ m, k = .input m → m.th.flags ≠ thSyn) :
    (k.run ws v).sk.state = .closed := by
  obtain ⟨m, rfl⟩ | rfl | rfl := hk.of_server hs.server
  · rw [Call.run, l4Input, hs.protocol, hs.server]
    exact input_closed hc (hm m rfl)
  · rw [Call.run, hs.protocol]
    exact tcpDoRetransmit_closed ws hc
  · exact socketClose_closed _

/-- The handshake opens the socket and leaves it in no queue. -/
lemma syn_unlinked (hs : WindowServer ws) {m : Mbuf} (hm : m.th.flags = thSyn)
    (hc : v.sk.state = .closed) :
    (tcpServerInput ws m v).sk.state = .synReceived ∧ (tcpServerInput ws m v).link = .self := by
  rw [tcpServerInput_syn hm, tcpServerProcessSyn_closed (by exact hc)]
  have ht : ∀ u, replyTimer ws (thSyn ||| thAck) u = none := by
    intro u
    rw [replyTimer, if_pos (.inr hs.window)]
  refine ⟨by rw [tcpReply_state, socketServerOpen_state], ?_⟩
  rw [tcpReply_link, ht]
  rfl

end Window

/-- **The timers of a server with a send window.** As long as no `SYN` opens a socket every
open socket is in a timer queue; every `SYN` that opens one leaves it in none. -/
theorem windowServer_linked_iff {st : SocketTable n} {ws : WorkSpace} (hs : WindowServer ws) :
    (∀ w, Reach st ws (fun ws e w => ¬ Opens st ws e w) w → Linked w) ∧
      ∀ w w' c e, Reach st ws anyStep w → step st (ws.at c) e w = some w' →
        Opens st (ws.at c) e w → ¬ Linked w' := by
  constructor
  · intro w h i ho
    have hc : ∀ i, (w.slot i).sk.state = .closed := by
      refine slots_of_reach (P := fun s => s.sk.state = .closed) ?_ ?_ h
      · rintro sk ⟨_, _, _, _, _, _, rfl⟩
        simp [socketInit, hs.server]
      · intro c e w₀ hG i k w hp hw
        refine closed_run (hs.at c) hp.mode hw fun m hm hsyn => hG ?_
        obtain ⟨rfl, he, hi⟩ := hp.input m hm
        rw [(hs.at c).protocol] at he
        exact ⟨m, i, he, hi, hsyn, hw⟩
    exact absurd (hc i) ho
  · rintro w w' c e - hstep ⟨m, i, rfl, hi, hsyn, hc⟩ hlinked
    rw [step_serverInput (hs.at c).protocol (hs.at c).server hi] at hstep
    cases hstep
    have hsk := syn_unlinked (v := w.view i) (hs.at c) hsyn hc
    have hplace : ((w.on i (tcpServerInput (ws.at c) m)).slot i).place = none := by
      rw [Worker.on, Worker.slot_put_self, Slot.after, hsk.2]
      rfl
    have hnone := Queues.place_eq_none.mp hplace
    have hstate : ((w.on i (tcpServerInput (ws.at c) m)).pool i).state = .synReceived := by
      rw [Worker.on, Worker.pool_put_self, hsk.1]
    rcases hlinked i (by simp [hstate]) with h | h
    · exact hnone _ h
    · exact hnone _ h

/-- A segment without `SYN` leaves the sockets closed and the server linked. A connection that has
been reset is opened by a second `SYN`, which does not. -/
theorem windowServer_linked_segment :
    (∃ w, Reach .single .window (fun ws e w => ¬ Opens SocketTable.single ws e w) w ∧
        0 < w.stats.tcpDrop ∧ Linked w) ∧
      ∃ w, Reach .single .window anyStep w ∧ w.stats.socketOpen = 2 ∧ ¬ Linked w := by
  have hs : WindowServer .window := ⟨rfl, rfl, by decide, fun _ => rfl⟩
  constructor
  · have hG : ∀ c e, (c, e) ∈ serverHandshake.drop 1 →
        ∀ w, ¬ Opens SocketTable.single (WorkSpace.window.at c) e w := by
      rintro c e he w ⟨m, i, rfl, -, hm, -⟩
      simp only [serverHandshake, List.drop_succ_cons, List.drop_zero, List.mem_singleton,
        Prod.mk.injEq, Event.recv.injEq, true_and] at he
      rw [he.2] at hm
      exact absurd hm (by decide)
    obtain ⟨w, hw, hp⟩ := reach_runEvents SocketTable.single _
      (fun ws e w => ¬ Opens SocketTable.single ws e w) (Worker.single_initial .window) _
      (p := fun w => decide (0 < w.stats.tcpDrop)) hG (by decide)
    exact ⟨w, hw, by simpa using hp, (windowServer_linked_iff hs).1 w hw⟩
  · have hreset : (runEvents SocketTable.single .window
        (serverHandshake ++ [(.single 2, .recv .tcp (.single true thRst 101 2 []))])
        (Worker.single .window)).any (fun w₁ => (w₁.pool 0).state == .closed &&
          socketLookup .single (WorkSpace.window.at (.single 3)) w₁.pool
            (.single true thSyn 100 0 []) == some 0 &&
          (step .single (WorkSpace.window.at (.single 3)) (.recv .tcp (.single true thSyn 100 0 []))
            w₁).any fun w => w.stats.socketOpen == 2) = true := by
      decide
    obtain ⟨w₁, hruns, hw₁⟩ := (Option.any_eq_true _ _).mp hreset
    rw [Bool.and_eq_true, Bool.and_eq_true, beq_iff_eq, beq_iff_eq] at hw₁
    obtain ⟨⟨hclosed, hlookup⟩, hsyn⟩ := hw₁
    obtain ⟨w, hw, hopen⟩ := (Option.any_eq_true _ _).mp hsyn
    have h₁ : Reach .single .window anyStep w₁ :=
      ⟨_, Worker.single_initial _, runEvents_runs (fun _ _ _ _ => trivial) hruns⟩
    have hopens : Opens SocketTable.single (WorkSpace.window.at (.single 3))
        (.recv .tcp (.single true thSyn 100 0 [])) w₁ := ⟨_, 0, rfl, hlookup, rfl, hclosed⟩
    obtain ⟨w₀, h₀, hrun⟩ := h₁
    exact ⟨w, ⟨w₀, h₀, hrun.tail ⟨_, _, trivial, hw⟩⟩, beq_iff_eq.mp hopen,
      (windowServer_linked_iff hs).2 _ _ _ _ ⟨w₀, h₀, hrun⟩ hw hopens⟩

/-- After its `SYN` an open socket of a server with a send window is in no queue. -/
theorem windowServer_not_linked :
    ∃ w, Reach .single .window anyStep w ∧ (w.pool 0).state = .synReceived ∧
      0 ∉ w.timers.list .retransmit ∧ 0 ∉ w.timers.list .timeout := by
  obtain ⟨w, hw, hp⟩ := reach_runEvents SocketTable.single _ anyStep
    (Worker.single_initial .window) (serverHandshake.take 1)
    (p := fun w => (w.pool 0).state == .synReceived && decide (0 ∉ w.timers.list .retransmit) &&
      decide (0 ∉ w.timers.list .timeout)) (fun _ _ _ _ => trivial) (by decide)
  simp only [Bool.and_eq_true, beq_iff_eq, decide_eq_true_eq] at hp
  exact ⟨w, hw, hp.1.1, hp.1.2, hp.2⟩

end Dperf
