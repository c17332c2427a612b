import Dperf.System

/-!
Every step of a worker is a sequence of calls on single sockets: an invariant of the slots
has to be checked for the calls only.

* `Call`: the functions that the work of a worker calls on one socket, `Call.run` their
  effect for the protocol and the side of the work space.
* `LoopTurn`: one call, a flush of the delayed acknowledgements, one more of them, or a change
  that no slot sees. `step_loopTurns`: a step is a sequence of them, in which an `input` call
  comes first and is made on the socket that the lookup found.
* `Turn`: the same taken call by call (`step_turns`); `LoopCall` keeps that a delayed
  acknowledgement is listed for an open connection.
* `slot_of_turns`, `slots_of_turns`, `slots_of_reach`: what calls preserve holds after a step, of
  one socket and of all, and in every reachable state.
-/

namespace Dperf

variable {n : ℕ}

/-! ### Calls -/

/-- The functions that are called on one socket. -/
inductive Call where
  | input (m : Mbuf)
  | ackDone (keepaliveTimer : Bool)
  | ackFlush
  | retransmit
  | keepalive
  | timeout
  | launch (turns : ℕ)
  | disableKeepalive

/-- The effect of a call; the timer handlers are called on a socket just unlinked. -/
def Call.run (ws : WorkSpace) (k : Call) (v : View) : View :=
  match k with
  | .input m => (l4Input ws m v).2
  | .ackDone b => tcpAckDelayDone ws b v
  | .ackFlush => tcpAckDelayFlushOne ws v
  | .retransmit =>
      match ws.cfg.protocol with
      | .tcp => tcpDoRetransmit ws (socketDelTimer v)
      | .udp => udpRetransmitHandler (socketDelTimer v)
  | .keepalive =>
      match ws.cfg.protocol with
      | .tcp => tcpDoKeepalive ws (socketDelTimer v)
      | .udp => udpSocketKeepaliveTimerHandler ws (socketDelTimer v)
  | .timeout => socketTimeoutHandler (socketDelTimer v)
  | .launch turns =>
      let r := socketClientOpen ws ws.tsc v
      if r.1 then
        match ws.cfg.protocol with
        | .tcp => tcpClientStart ws r.2
        | .udp => udpClientStart ws turns r.2
      else r.2
  | .disableKeepalive => { v with sk.keepalive := false }

/-- The calls that a configuration makes. -/
def Call.Allowed (cfg : Config) : Call → Prop
  | .input _ | .retransmit | .timeout => True
  | .ackDone _ => cfg.server = false ∧ cfg.protocol = .tcp
  | .ackFlush | .launch _ | .disableKeepalive => cfg.server = false
  | .keepalive => cfg.server = false ∧ cfg.keepalive = true

/-- The calls of a server. -/
lemma Call.Allowed.of_server {cfg : Config} {k : Call} (h : k.Allowed cfg)
    (hs : cfg.server = true) : (∃ m, k = .input m) ∨ k = .retransmit ∨ k = .timeout := by
  have hno : ¬ cfg.server = false := by simp [hs]
  cases k with
  | input m => exact .inl ⟨m, rfl⟩
  | retransmit => exact .inr (.inl rfl)
  | timeout => exact .inr (.inr rfl)
  | ackDone | keepalive => exact absurd h.1 hno
  | ackFlush | launch | disableKeepalive => exact absurd h hno

/-- The queue from which a call takes its socket. -/
def Call.queue : Call → Option TimerKind
  | .retransmit => some .retransmit
  | .keepalive | .disableKeepalive => some .keepalive
  | .timeout => some .timeout
  | _ => none

/-- What a step grants its calls: the packets that it hands to a socket, and launches. -/
structure Grants (n : ℕ) where
  input : Fin n → Mbuf → Worker n → Prop
  launch : Prop

/-- When a call is made on the socket `i` of `w`; `inp` says it for the packets and the
launches. -/
structure Permit (ws : WorkSpace) (inp : Grants n) (i : Fin n) (k : Call) (w : Worker n) :
    Prop where
  mode : k.Allowed ws.cfg
  input : ∀ m, k = .input m → inp.input i m w
  timer : ∀ q, k.queue = some q → i ∈ w.timers.list q
  launch : ∀ turns, k = .launch turns → inp.launch

/-! ### Turns -/

/-- A change that no slot and no socket counter sees. -/
structure Quiet (w w' : Worker n) : Prop where
  pool : w'.pool = w.pool
  timers : w'.timers = w.timers
  sockets : w'.stats.sockets = w.stats.sockets
  obs : ∀ i, w'.obs i = w.obs i

/-- One call, or a change that no slot sees. -/
inductive Turn (ws : WorkSpace) (inp : Grants n) : Worker n → Worker n → Prop
  | call {i : Fin n} {k : Call} {w : Worker n} (h : Permit ws inp i k w) :
      Turn ws inp w (w.on i (k.run ws))
  | quiet {w w' : Worker n} (h : Quiet w w') : Turn ws inp w w'

/-- Turns one after the other. -/
abbrev Turns (ws : WorkSpace) (inp : Grants n) : Worker n → Worker n → Prop :=
  Relation.ReflTransGen (Turn ws inp)

section Rules

variable {ws : WorkSpace} {inp : Grants n} {w w' : Worker n}

lemma Quiet.slot (h : Quiet w w') (i : Fin n) : w'.slot i = w.slot i := by
  rw [Worker.slot, Worker.slot, h.pool, h.timers, h.obs]

lemma Turns.quiet (h : Quiet w w') : Turns ws inp w w' := .single (.quiet h)

lemma Turns.call {i : Fin n} {k : Call} (h : Permit ws inp i k w) :
    Turns ws inp w (w.on i (k.run ws)) := .single (.call h)

/-- What every permitted call on one socket preserves of its slot holds after the turns. -/
theorem slot_of_turns {P : Slot → Prop} {i : Fin n}
    (hcall : ∀ k (w : Worker n), Permit ws inp i k w → P (w.slot i) →
      P ((w.slot i).after (k.run ws (w.view i))))
    (ht : Turns ws inp w w') (hw : P (w.slot i)) : P (w'.slot i) := by
  induction ht with
  | refl => exact hw
  | @tail b c _ hbc ih =>
      cases hbc with
      | @call j k _ hp =>
          by_cases hj : i = j
          · subst hj
            rw [Worker.on, Worker.slot_put_self]
            exact hcall _ _ hp ih
          · rw [Worker.on, Worker.slot_put_ne _ hj]
            exact ih
      | quiet hq =>
          rw [hq.slot]
          exact ih

/-- What every permitted call preserves of a slot holds after the turns. -/
theorem slots_of_turns {P : Slot → Prop}
    (hcall : ∀ i k (w : Worker n), Permit ws inp i k w → P (w.slot i) →
      P ((w.slot i).after (k.run ws (w.view i))))
    (ht : Turns ws inp w w') (hw : ∀ i, P (w.slot i)) : ∀ i, P (w'.slot i) :=
  fun i => slot_of_turns (hcall i) ht (hw i)

end Rules

/-! ### The turns of the loop -/

/-- The calls on delayed acknowledgements, which come with the list of the worker. -/
def Call.Delayed : Call → Prop
  | .ackDone _ | .ackFlush => True
  | _ => False

/-- One call, a flush of the delayed acknowledgements, one more of them for an open connection,
or a change that no slot sees. -/
inductive LoopTurn (ws : WorkSpace) (inp : Grants n) : Worker n → Worker n → Prop
  | call {i : Fin n} {k : Call} {w : Worker n} (h : Permit ws inp i k w) (hk : ¬ k.Delayed) :
      LoopTurn ws inp w (w.on i (k.run ws))
  | flush {w : Worker n} (hs : ws.cfg.server = false) :
      LoopTurn ws inp w (tcpAckDelayFlush ws w)
  | add {i : Fin n} {b : Bool} {w : Worker n}
      (hs : ws.cfg.server = false ∧ ws.cfg.protocol = .tcp)
      (he : (w.pool i).state = .established) :
      LoopTurn ws inp w (tcpAckDelayRest ws i (.add b) w)
  | quiet {w w' : Worker n} (h : Quiet w w') (hd : w'.ackDelay = w.ackDelay) :
      LoopTurn ws inp w w'

/-- Turns of the loop one after the other. -/
abbrev LoopTurns (ws : WorkSpace) (inp : Grants n) : Worker n → Worker n → Prop :=
  Relation.ReflTransGen (LoopTurn ws inp)

/-- A call is permitted, and a delayed acknowledgement is that of an open connection. -/
structure LoopPermit (ws : WorkSpace) (inp : Grants n) (i : Fin n) (k : Call) (w : Worker n) :
    Prop extends Permit ws inp i k w where
  done : ∀ b, k = .ackDone b → (w.pool i).state = .established

/-- One call of the loop, or a change that no slot sees. -/
inductive LoopCall (ws : WorkSpace) (inp : Grants n) : Worker n → Worker n → Prop
  | call {i : Fin n} {k : Call} {w : Worker n} (h : LoopPermit ws inp i k w) :
      LoopCall ws inp w (w.on i (k.run ws))
  | quiet {w w' : Worker n} (h : Quiet w w') : LoopCall ws inp w w'

/-- Calls of the loop one after the other. -/
abbrev LoopCalls (ws : WorkSpace) (inp : Grants n) : Worker n → Worker n → Prop :=
  Relation.ReflTransGen (LoopCall ws inp)

section Loop

variable {ws : WorkSpace} {inp : Grants n} {w w' : Worker n}

lemma LoopTurns.quiet (h : Quiet w w') (hd : w'.ackDelay = w.ackDelay) :
    LoopTurns ws inp w w' := .single (.quiet h hd)

lemma LoopTurns.call {i : Fin n} {k : Call} (h : Permit ws inp i k w) (hk : ¬ k.Delayed) :
    LoopTurns ws inp w (w.on i (k.run ws)) := .single (.call h hk)

lemma LoopCalls.quiet (h : Quiet w w') : LoopCalls ws inp w w' := .single (.quiet h)

lemma tcpAckDelayFlushOne_state (ws : WorkSpace) (v : View) :
    (tcpAckDelayFlushOne ws v).sk.state = v.sk.state := by
  rw [tcpAckDelayFlushOne]
  dsimp only
  split_ifs <;> simp

/-- A flush is a call for each place of the list, and leaves every state alone. -/
lemma tcpAckDelayFlush_calls (inp : Grants n) (hs : ws.cfg.server = false) (w : Worker n) :
    LoopCalls ws inp w (tcpAckDelayFlush ws w) ∧
      ∀ i, ((tcpAckDelayFlush ws w).pool i).state = (w.pool i).state := by
  have hfold : ∀ (l : List (Fin n)) (w : Worker n),
      LoopCalls ws inp w (l.foldl (fun w i => w.on i (tcpAckDelayFlushOne ws)) w) ∧
        ∀ i, ((l.foldl (fun w i => w.on i (tcpAckDelayFlushOne ws)) w).pool i).state =
          (w.pool i).state := by
    intro l
    induction l with
    | nil => exact fun w => ⟨.refl, fun _ => rfl⟩
    | cons j l ih =>
        intro w
        have hp : Permit ws inp j .ackFlush w := ⟨hs, by simp, by simp [Call.queue], by simp⟩
        have hone : LoopCall ws inp w (w.on j (tcpAckDelayFlushOne ws)) :=
          .call (k := .ackFlush) ⟨hp, fun b h => by cases h⟩
        obtain ⟨hcalls, hstate⟩ := ih (w.on j (tcpAckDelayFlushOne ws))
        refine ⟨.head hone hcalls, fun i => (hstate i).trans ?_⟩
        by_cases hij : i = j
        · subst hij
          rw [Worker.on, Worker.pool_put_self, tcpAckDelayFlushOne_state]
          rfl
        · rw [Worker.on, Worker.pool_put_ne _ hij]
  obtain ⟨hcalls, hstate⟩ := hfold w.ackDelay w
  exact ⟨hcalls.trans (LoopCalls.quiet ⟨rfl, rfl, rfl, fun _ => rfl⟩), hstate⟩

/-- The turns of the loop are calls. -/
lemma loopCalls_of_loopTurn (h : LoopTurn ws inp w w') : LoopCalls ws inp w w' := by
  cases h with
  | @call i k _ hp hk =>
      refine .single (.call ⟨hp, fun b hb => ?_⟩)
      subst hb
      exact absurd trivial hk
  | flush hs => exact (tcpAckDelayFlush_calls inp hs w).1
  | @add i b _ hs he =>
      have hroom : LoopCalls ws inp w
          (if tcpAckDelayMax ≤ w.ackDelay.length then tcpAckDelayFlush ws w else w) ∧
          ((if tcpAckDelayMax ≤ w.ackDelay.length then tcpAckDelayFlush ws w else w).pool i).state =
            .established := by
        split_ifs
        · obtain ⟨hcalls, hstate⟩ := tcpAckDelayFlush_calls inp hs.1 w
          exact ⟨hcalls, (hstate i).trans he⟩
        · exact ⟨.refl, he⟩
      rw [tcpAckDelayRest]
      generalize (if tcpAckDelayMax ≤ w.ackDelay.length then tcpAckDelayFlush ws w else w) = u
        at hroom
      have hq : Quiet u { u with ackDelay := u.ackDelay ++ [i] } := ⟨rfl, rfl, rfl, fun _ => rfl⟩
      have hp : Permit ws inp i (.ackDone b) { u with ackDelay := u.ackDelay ++ [i] } :=
        ⟨hs, by simp, by simp [Call.queue], by simp⟩
      exact (hroom.1.trans (LoopCalls.quiet hq)).tail (.call ⟨hp, fun _ _ => hroom.2⟩)
  | quiet hq => exact LoopCalls.quiet hq

lemma loopCalls_of_loopTurns (h : LoopTurns ws inp w w') : LoopCalls ws inp w w' := by
  induction h with
  | refl => exact .refl
  | tail _ hturn ih => exact ih.trans (loopCalls_of_loopTurn hturn)

lemma turns_of_loopCalls (h : LoopCalls ws inp w w') : Turns ws inp w w' := by
  refine Relation.ReflTransGen.mono (fun a b hab => ?_) _ _ h
  cases hab with
  | call hp => exact .call hp.toPermit
  | quiet hq => exact .quiet hq

end Loop

/-! ### The pieces of a step -/

section Pieces

variable {ws : WorkSpace} {inp : Grants n}

lemma quiet_count (w : Worker n) (f : NetStats → NetStats)
    (h : (f w.stats).sockets = w.stats.sockets) : Quiet w (w.count f) :=
  ⟨rfl, rfl, h, fun _ => rfl⟩

lemma quiet_log (w : Worker n) (o : Out (Fin n)) (h : ∀ i b, o ≠ .sk i b) : Quiet w (w.log o) := by
  refine ⟨rfl, rfl, rfl, fun i => ?_⟩
  cases o with
  | sk j b => exact absurd rfl (h j b)
  | rst seg => simp [Worker.obs, Worker.log]
  | kni m => simp [Worker.obs, Worker.log]

/-- The loop of `socket_timer_run` calls its handler on members of the queue. -/
lemma socketTimerRun_turns {q : TimerKind} {timeout : UInt64} {handler : View → View} {k : Call}
    (hq : k.queue = some q) (hm : k.Allowed ws.cfg) (hi : ∀ m, k ≠ .input m)
    (hl : ∀ turns, k ≠ .launch turns) (hd : ¬ k.Delayed)
    (hk : ∀ v, k.run ws v = handler (socketDelTimer v)) :
    ∀ (fuel : ℕ) (w : Worker n) r, socketTimerRun ws q timeout handler fuel w = some r →
      LoopTurns ws inp w r.2 := by
  intro fuel
  induction fuel with
  | zero =>
      intro w r h
      simp [socketTimerRun] at h
  | succ fuel ih =>
      intro w r h
      rw [socketTimerRun] at h
      cases hlist : w.timers.list q with
      | nil =>
          simp only [hlist, Option.some.injEq] at h
          subst h
          exact .refl
      | cons i l =>
          simp only [hlist] at h
          split at h
          · -- the head of the queue is due: its call, and the rest of the loop
            obtain ⟨r', hr', rfl⟩ := Option.map_eq_some_iff.mp h
            have hp : Permit ws inp i k w := by
              refine ⟨hm, fun m hkm => absurd hkm (hi m), fun q' hq' => ?_,
                fun t ht => absurd ht (hl t)⟩
              rw [hq] at hq'
              rw [← Option.some.inj hq', hlist]
              exact List.mem_cons_self
            have hon : (w.on i fun v => handler (socketDelTimer v)) = w.on i (k.run ws) := by
              rw [Worker.on, Worker.on, hk]
            rw [hon] at hr'
            exact (LoopTurns.call hp hd).trans (ih _ r' hr')
          · simp only [Option.some.injEq] at h
            subst h
            exact .refl

lemma socketTimerProcess_turns {fuel : ℕ} {w w' : Worker n}
    (h : socketTimerProcess ws fuel w = some w') : LoopTurns ws inp w w' := by
  unfold socketTimerProcess at h
  dsimp only at h
  split at h
  · -- TCP server
    rename_i hp hs
    obtain ⟨r, hr, rfl⟩ := Option.map_eq_some_iff.mp h
    exact socketTimerRun_turns (k := .retransmit) rfl trivial (by simp) (by simp)
      id (by simp [Call.run, hp]) _ _ _ hr
  · -- TCP client
    rename_i hp hs
    obtain ⟨r, hr, h⟩ := Option.bind_eq_some_iff.mp h
    have h₁ : LoopTurns ws inp w r.2 := socketTimerRun_turns (k := .retransmit) rfl trivial
      (by simp) (by simp) id (by simp [Call.run, hp]) _ _ _ hr
    split at h
    · rename_i hk
      obtain ⟨r', hr', rfl⟩ := Option.map_eq_some_iff.mp h
      exact h₁.trans (socketTimerRun_turns (k := .keepalive) rfl ⟨hs, hk⟩
        (by simp) (by simp) id (by simp [Call.run, hp]) _ _ _ hr')
    · cases h
      exact h₁
  · cases h
    exact .refl
  · -- UDP client
    rename_i hp hs
    split at h
    · rename_i hk
      obtain ⟨r, hr, rfl⟩ := Option.map_eq_some_iff.mp h
      exact socketTimerRun_turns (k := .keepalive) rfl ⟨hs, hk⟩ (by simp) (by simp)
        id (by simp [Call.run, hp]) _ _ _ hr
    · obtain ⟨r, hr, rfl⟩ := Option.map_eq_some_iff.mp h
      exact socketTimerRun_turns (k := .retransmit) rfl trivial (by simp) (by simp)
        id (by simp [Call.run, hp]) _ _ _ hr

lemma noSocket_quiet (m : Mbuf) (w : Worker n) : Quiet w (noSocket ws m w) := by
  unfold noSocket tcpReplyRst
  split_ifs with hk ht hv
  · exact quiet_log w _ (by simp)
  · cases ws.cfg.protocol <;> exact quiet_count w _ rfl
  · cases ws.cfg.protocol with
    | tcp =>
        have h₁ := quiet_count w (fun s => { s with rstTx := s.rstTx + 1 }) rfl
        have h₂ := quiet_log (w.count fun s => { s with rstTx := s.rstTx + 1 })
          (.rst (tcpRstSegment m)) (by simp)
        exact ⟨h₂.pool.trans h₁.pool, h₂.timers.trans h₁.timers, h₂.sockets.trans h₁.sockets,
          fun i => (h₂.obs i).trans (h₁.obs i)⟩
    | udp => exact quiet_count w _ rfl
  · cases ws.cfg.protocol <;> exact quiet_count w _ rfl

lemma noSocket_ackDelay (m : Mbuf) (w : Worker n) : (noSocket ws m w).ackDelay = w.ackDelay := by
  unfold noSocket tcpReplyRst
  split_ifs
  · rfl
  · cases ws.cfg.protocol <;> rfl
  · cases ws.cfg.protocol <;> rfl
  · cases ws.cfg.protocol <;> rfl

lemma l4Drop_ackDelay (p : Protocol) (m : Mbuf) (w : Worker n) :
    (l4Drop ws p m w).ackDelay = w.ackDelay := by
  unfold l4Drop
  split_ifs
  · rfl
  · cases p <;> rfl

lemma l4Drop_quiet (p : Protocol) (m : Mbuf) (w : Worker n) : Quiet w (l4Drop ws p m w) := by
  unfold l4Drop
  split_ifs
  · exact quiet_log w _ (by simp)
  · cases p <;> exact quiet_count w _ rfl

/-- Only the client's data path leaves something to the worker, on an open connection. -/
lemma l4Input_ackDelay {m : Mbuf} {v : View} (h : (l4Input ws m v).1 ≠ .none) :
    (ws.cfg.server = false ∧ ws.cfg.protocol = .tcp) ∧
      (l4Input ws m v).2.sk.state = .established := by
  cases hp : ws.cfg.protocol with
  | udp =>
      cases hs : ws.cfg.server <;> simp [l4Input, hp, hs, udpClientInput] at h
  | tcp =>
      cases hs : ws.cfg.server with
      | true => simp [l4Input, hp, hs] at h
      | false =>
          rw [l4Input, hp, hs] at h ⊢
          exact ⟨⟨rfl, rfl⟩, tcpClientInput_add h⟩

/-- A packet: the `input` call on its socket comes first. -/
lemma l4Process_turns {m : Mbuf} {found : Option (Fin n)} {w : Worker n}
    (hi : ∀ i, found = some i → inp.input i m w) :
    LoopTurns ws inp w (l4Process ws m found w) := by
  cases found with
  | none => exact LoopTurns.quiet (noSocket_quiet m w) (noSocket_ackDelay m w)
  | some i =>
      have hp : Permit ws inp i (.input m) w := by
        refine ⟨trivial, fun m' hm' => ?_, by simp [Call.queue], by simp⟩
        cases hm'
        exact hi i rfl
      have hcall : LoopTurns ws inp w (w.put i (l4Input ws m (w.view i)).2) := LoopTurns.call hp id
      rw [l4Process]
      cases hd : (l4Input ws m (w.view i)).1 with
      | none => exact hcall
      | add b =>
          have hadd : (l4Input ws m (w.view i)).1 ≠ .none := by
            rw [hd]
            exact fun h => by cases h
          obtain ⟨hs, he⟩ := l4Input_ackDelay hadd
          refine hcall.tail (.add hs ?_)
          rwa [Worker.pool_put_self]

lemma clientLaunchOne_turns (hs : ws.cfg.server = false) (hg : inp.launch) {st : SocketTable n}
    {fuel : ℕ} (turns : ℕ) {start : View → View} (hstart : ∀ v, (Call.launch turns).run ws v =
      if (socketClientOpen ws ws.tsc v).1 then start (socketClientOpen ws ws.tsc v).2
      else (socketClientOpen ws ws.tsc v).2)
    {w : Worker n} {r : Bool × Worker n} (h : clientLaunchOne st ws fuel start w = some r) :
    LoopTurns ws inp w r.2 := by
  obtain ⟨p, -, rfl⟩ := Option.map_eq_some_iff.mp h
  have hq : Quiet w { w with next := p.2 } := ⟨rfl, rfl, rfl, fun _ => rfl⟩
  have hp : Permit ws inp p.1 (.launch turns) { w with next := p.2 } :=
    ⟨hs, by simp, by simp [Call.queue], fun _ _ => hg⟩
  have hc := LoopTurns.call hp id
  rw [Worker.on, hstart] at hc
  exact (LoopTurns.quiet hq rfl).trans hc

lemma tcpClientLaunch_turns (hs : ws.cfg.server = false) (hg : inp.launch)
    (hp : ws.cfg.protocol = .tcp) {st : SocketTable n} {fuel : ℕ} : ∀ (num : ℕ) (w w' : Worker n),
      tcpClientLaunch st ws fuel num w = some w' → LoopTurns ws inp w w' := by
  intro num
  induction num with
  | zero =>
      intro w w' h
      cases h
      exact .refl
  | succ num ih =>
      intro w w' h
      obtain ⟨r, hr, h⟩ := Option.bind_eq_some_iff.mp h
      have h₁ : LoopTurns ws inp w r.2 :=
        clientLaunchOne_turns hs hg 0 (by simp [Call.run, hp]) hr
      exact h₁.trans (ih _ _ h)

lemma udpClientLaunch_turns (hs : ws.cfg.server = false) (hg : inp.launch)
    (hp : ws.cfg.protocol = .udp) {st : SocketTable n} {fuel : ℕ} :
    ∀ (num : ℕ) (pipeline : Int) (w w' : Worker n),
      udpClientLaunch st ws fuel num pipeline w = some w' → LoopTurns ws inp w w' := by
  intro num
  induction num with
  | zero =>
      intro pipeline w w' h
      cases h
      exact .refl
  | succ num ih =>
      intro pipeline w w' h
      obtain ⟨r, hr, h⟩ := Option.bind_eq_some_iff.mp h
      have h₁ : LoopTurns ws inp w r.2 :=
        clientLaunchOne_turns hs hg (pipelineTurns pipeline) (by simp [Call.run, hp]) hr
      exact h₁.trans (ih _ _ _ h)

lemma workSpaceClientLaunchNum_turns (hs : ws.cfg.server = false) {st : SocketTable n}
    (w : Worker n) : LoopTurns ws inp w (workSpaceClientLaunchNum st ws w).2 := by
  have hdis : ∀ w : Worker n, LoopTurns ws inp w (socketDisableKeepaliveRandom w) := by
    intro w
    unfold socketDisableKeepaliveRandom
    split
    · exact .refl
    · rename_i i l hl
      refine LoopTurns.call (k := .disableKeepalive) ⟨hs, by simp, fun q hq => ?_, by simp⟩ id
      cases hq
      rw [hl]
      exact List.mem_cons_self
  have hnext : Quiet w
      { w with launch.launchNext := w.launch.launchNext + w.launch.launchInterval } :=
    ⟨rfl, rfl, rfl, fun _ => rfl⟩
  unfold workSpaceClientLaunchNum
  dsimp only
  split_ifs
  · exact LoopTurns.quiet hnext rfl
  · exact LoopTurns.quiet hnext rfl
  · exact LoopTurns.quiet hnext rfl
  · -- more sockets than wanted: one of them loses its keepalive
    have hreduce : ∀ (u : Worker n) (l : ClientLaunch),
        LoopTurns ws inp u { u with launch := l } :=
      fun u l => LoopTurns.quiet ⟨rfl, rfl, rfl, fun _ => rfl⟩ rfl
    exact (LoopTurns.quiet hnext rfl).trans ((hdis _).trans (hreduce _ _))
  · exact LoopTurns.quiet hnext rfl
  · exact LoopTurns.quiet hnext rfl
  · exact .refl

lemma clientLaunch_turns (hs : ws.cfg.server = false) (hg : inp.launch) {st : SocketTable n}
    {fuel : ℕ} {w w' : Worker n} (h : clientLaunch st ws fuel w = some w') :
    LoopTurns ws inp w w' := by
  unfold clientLaunch at h
  dsimp only at h
  split at h
  · rename_i hp
    exact (workSpaceClientLaunchNum_turns hs w).trans (tcpClientLaunch_turns hs hg hp _ _ _ h)
  · rename_i hp
    exact (workSpaceClientLaunchNum_turns hs w).trans (udpClientLaunch_turns hs hg hp _ _ _ _ h)

end Pieces

/-! ### Steps and runs -/

/-- The `input` calls of a step: on the socket found for the packet of the event, as the
first thing the step does. Launches belong to launch events. -/
def Event.inp (st : SocketTable n) (ws : WorkSpace) (e : Event) (w₀ : Worker n) : Grants n where
  input i m w := w = w₀ ∧ e = .recv ws.cfg.protocol m ∧ socketLookup st ws w₀.pool m = some i
  launch := ∃ fuel, e = .launch fuel

/-- A step is a sequence of turns of the loop. -/
theorem step_loopTurns {st : SocketTable n} {ws : WorkSpace} {e : Event} {w w' : Worker n}
    (h : step st ws e w = some w') : LoopTurns ws (e.inp st ws w) w w' := by
  cases e with
  | recv p m =>
      cases h
      by_cases hp : p = ws.cfg.protocol
      · subst hp
        rw [recvPacket, if_pos rfl]
        exact l4Process_turns fun i hi => ⟨rfl, rfl, hi⟩
      · rw [recvPacket, if_neg hp]
        exact LoopTurns.quiet (l4Drop_quiet p m w) (l4Drop_ackDelay p m w)
  | launch fuel =>
      cases hs : ws.cfg.server with
      | true => simp [step, hs] at h
      | false =>
          simp only [step, hs] at h
          have hl : (Event.inp st ws (.launch fuel) w).launch := ⟨fuel, rfl⟩
          exact clientLaunch_turns hs hl h
  | socketTimer fuel => exact socketTimerProcess_turns h
  | timeoutTimer fuel =>
      obtain ⟨r, hr, rfl⟩ := Option.map_eq_some_iff.mp h
      exact socketTimerRun_turns (k := .timeout) rfl trivial (by simp) (by simp) id (fun _ => rfl)
        _ _ _ hr
  | ackFlush =>
      cases hs : ws.cfg.server with
      | true => simp [step, hs] at h
      | false =>
          simp only [step, hs] at h
          cases h
          exact .single (.flush hs)
  | setLaunchInterval x =>
      cases h
      exact LoopTurns.quiet ⟨rfl, rfl, rfl, fun _ => rfl⟩ rfl
  | stop =>
      cases h
      exact LoopTurns.quiet ⟨rfl, rfl, rfl, fun _ => rfl⟩ rfl

/-- A step is a sequence of turns. -/
theorem step_turns {st : SocketTable n} {ws : WorkSpace} {e : Event} {w w' : Worker n}
    (h : step st ws e w = some w') : Turns ws (e.inp st ws w) w w' :=
  turns_of_loopCalls (loopCalls_of_loopTurns (step_loopTurns h))

/-- What the calls of guarded steps preserve holds of every slot in every reachable state. -/
theorem slots_of_reach {st : SocketTable n} {ws : WorkSpace} {G : Guard n} {P : Slot → Prop}
    (hinit : ∀ sk, SocketNew ws sk → P ⟨sk, none, []⟩)
    (hcall : ∀ (c : Clock) (e : Event) (w₀ : Worker n), G (ws.at c) e w₀ → ∀ i k (w : Worker n),
      Permit (ws.at c) (e.inp st (ws.at c) w₀) i k w → P (w.slot i) →
      P ((w.slot i).after (k.run (ws.at c) (w.view i))))
    {w : Worker n} (h : Reach st ws G w) : ∀ i, P (w.slot i) := by
  obtain ⟨w₀, h₀, hr⟩ := h
  induction hr with
  | refl =>
      intro i
      rw [h₀.slot]
      exact hinit _ (h₀.pool i)
  | tail _ hstep ih =>
      obtain ⟨c, e, hG, hs⟩ := hstep
      exact slots_of_turns (hcall c e _ hG) (step_turns hs) ih

end Dperf
