import Dperf.Turns

/-!
Runs taken call by call, so that a test can be made on every call and not only on the steps.

* `CallReach ws G`: the workers of the runs whose calls all pass the test `G`. Every step is
  such a run (`callReach_of_reach`), and what the calls keep of a slot holds in every state
  (`slots_of_callReach`).
* `Timed`: a worker with its time, and for each socket the time at which it last sent a segment
  with `SYN`, `PUSH` or `FIN`. `TimedReach` are the runs on a clock that does not go back;
  `timedSteps_of_step` says that steps are such runs.
-/

namespace Dperf

variable {n : ℕ}

/-! ### Guarded calls -/

/-- A test on a call: the work space at its time, the call, and what it finds. -/
abbrev CallGuard := WorkSpace → Call → View → Prop

/-- No test at all. -/
def anyCall : CallGuard := fun _ _ _ => True

/-- One call that passes the test, or a change that no slot sees. -/
inductive GuardedTurn (ws : WorkSpace) (G : CallGuard) : Worker n → Worker n → Prop
  | call {c : Clock} {inp : Grants n} {i : Fin n} {k : Call} {w : Worker n}
      (hp : Permit (ws.at c) inp i k w) (hG : G (ws.at c) k (w.view i)) :
      GuardedTurn ws G w (w.on i (k.run (ws.at c)))
  | quiet {w w' : Worker n} (h : Quiet w w') : GuardedTurn ws G w w'

/-- The states of the runs whose calls all pass the test. -/
def CallReach (ws : WorkSpace) (G : CallGuard) (w : Worker n) : Prop :=
  ∃ w₀, Initial ws w₀ ∧ Relation.ReflTransGen (GuardedTurn ws G) w₀ w

section Untimed

variable {ws : WorkSpace} {G : CallGuard} {w w' : Worker n}

/-- What the calls that pass the test keep of a slot holds in every state. -/
theorem slots_of_callReach {P : Slot → Prop} (hinit : ∀ sk, SocketNew ws sk → P ⟨sk, none, []⟩)
    (hcall : ∀ (c : Clock) (inp : Grants n) i k (w : Worker n), Permit (ws.at c) inp i k w →
      G (ws.at c) k (w.view i) → P (w.slot i) →
      P ((w.slot i).after (k.run (ws.at c) (w.view i))))
    (h : CallReach ws G w) : ∀ i, P (w.slot i) := by
  obtain ⟨w₀, h₀, hr⟩ := h
  induction hr with
  | refl =>
      intro i
      rw [h₀.slot]
      exact hinit _ (h₀.pool i)
  | tail _ hturn ih =>
      intro j
      cases hturn with
      | @call c inp i k w hp hG =>
          by_cases hj : j = i
          · subst hj
            rw [Worker.on, Worker.slot_put_self]
            exact hcall c inp _ _ _ hp hG (ih _)
          · rw [Worker.on, Worker.slot_put_ne _ hj]
            exact ih j
      | quiet hq =>
          rw [hq.slot]
          exact ih j

lemma CallReach.call {c : Clock} {inp : Grants n} {i : Fin n} {k : Call} (h : CallReach ws G w)
    (hp : Permit (ws.at c) inp i k w) (hG : G (ws.at c) k (w.view i)) :
    CallReach ws G (w.on i (k.run (ws.at c))) := by
  obtain ⟨w₀, h₀, hr⟩ := h
  exact ⟨w₀, h₀, hr.tail (.call hp hG)⟩

lemma guardedTurns_of_turns {c : Clock} {inp : Grants n} (h : Turns (ws.at c) inp w w') :
    Relation.ReflTransGen (GuardedTurn ws anyCall) w w' := by
  refine Relation.ReflTransGen.mono (fun a b hab => ?_) _ _ h
  cases hab with
  | call hp => exact .call hp trivial
  | quiet hq => exact .quiet hq

/-- The runs of the loop are runs of calls. -/
theorem callReach_of_reach {st : SocketTable n} (h : Reach st ws anyStep w) :
    CallReach ws anyCall w := by
  obtain ⟨w₀, h₀, hr⟩ := h
  refine ⟨w₀, h₀, ?_⟩
  induction hr with
  | refl => exact .refl
  | tail _ hstep ih =>
      obtain ⟨c, e, -, hs⟩ := hstep
      exact ih.trans (guardedTurns_of_turns (step_turns hs))

end Untimed

/-! ### Runs on a clock -/

/-- The entry hands over a segment with `SYN`, `PUSH` or `FIN`; what goes out for a `PUSH` in a
burst has a payload and no `PUSH`. -/
def Obs.transmits : Obs → Bool
  | .sent seg _ _ _ => hasFlag seg.flags (thPush ||| thSyn ||| thFin) || !seg.data.isEmpty
  | _ => false

/-- The time of the last such segment after a call with the trace `l` at the time `tsc`, if it
was `last` before. -/
def lastSent (tsc : UInt64) (last : Option UInt64) (l : List Obs) : Option UInt64 :=
  if l.any Obs.transmits then some tsc else last

lemma lastSent_append (tsc : UInt64) (last : Option UInt64) (l r : List Obs) :
    lastSent tsc last (l ++ r) = lastSent tsc (lastSent tsc last l) r := by
  rw [lastSent, lastSent, lastSent, List.any_append]
  cases l.any Obs.transmits <;> cases r.any Obs.transmits <;> rfl

/-- A worker with the time of its last call, and the time at which each socket last sent a
segment with `SYN`, `PUSH` or `FIN`. -/
structure Timed (n : ℕ) where
  worker : Worker n
  tsc : UInt64
  last : Fin n → Option UInt64

/-- A call at the time `c`. -/
def Timed.call (ws : WorkSpace) (c : Clock) (i : Fin n) (k : Call) (s : Timed n) : Timed n where
  worker := s.worker.on i (k.run (ws.at c))
  tsc := c.tsc
  last := Function.update s.last i
    (lastSent c.tsc (s.last i) (k.run (ws.at c) (s.worker.view i)).trace)

/-- A later reading of the clock, with room for the sums of `socket_timer.h`. -/
structure Later (ws : WorkSpace) (tsc : UInt64) (c : Clock) : Prop where
  le : tsc ≤ c.tsc
  room : c.tsc.toNat + 3 * ws.cfg.keepaliveRequestInterval.toNat +
    (ws.cfg.retransmitTimeout.toNat + ws.cfg.retransmitTimeout.toNat / 10) < 2 ^ 64

/-- One call that passes the test, not before the last one, or a change that no slot sees. -/
inductive TimedStep (ws : WorkSpace) (G : CallGuard) : Timed n → Timed n → Prop
  | call {c : Clock} {inp : Grants n} {i : Fin n} {k : Call} {s : Timed n}
      (hc : Later ws s.tsc c) (hp : Permit (ws.at c) inp i k s.worker)
      (hG : G (ws.at c) k (s.worker.view i)) : TimedStep ws G s (s.call ws c i k)
  | quiet {s : Timed n} {w' : Worker n} (h : Quiet s.worker w') :
      TimedStep ws G s { s with worker := w' }

/-- Calls one after the other. -/
abbrev TimedSteps (ws : WorkSpace) (G : CallGuard) : Timed n → Timed n → Prop :=
  Relation.ReflTransGen (TimedStep ws G)

/-- The states of the runs on a clock whose calls all pass the test. -/
def TimedReach (ws : WorkSpace) (G : CallGuard) (s : Timed n) : Prop :=
  ∃ s₀ : Timed n, (Initial ws s₀.worker ∧ s₀.last = fun _ => none) ∧ TimedSteps ws G s₀ s

section OnClock

variable {ws : WorkSpace} {G : CallGuard} {s s' : Timed n}

lemma timedSteps_of_turns {c : Clock} {inp : Grants n} {w w' : Worker n}
    (h : Turns (ws.at c) inp w w') (hs : s.worker = w) (hc : Later ws s.tsc c) :
    ∃ s', TimedSteps ws anyCall s s' ∧ s'.worker = w' ∧ Later ws s'.tsc c ∧
      ∀ i, ∃ r, w'.obs i = w.obs i ++ r ∧ s'.last i = lastSent c.tsc (s.last i) r := by
  induction h with
  | refl => exact ⟨s, .refl, hs, hc, fun i => ⟨[], by simp, rfl⟩⟩
  | @tail b b' _ hturn ih =>
      obtain ⟨s₁, hsteps, hw, hl, hobs⟩ := ih
      cases hturn with
      | @call i k _ hp =>
          subst hw
          refine ⟨s₁.call ws c i k, hsteps.tail (.call hl hp trivial), rfl,
            ⟨UInt64.le_refl _, hc.room⟩, fun j => ?_⟩
          obtain ⟨r, hr, hlast⟩ := hobs j
          by_cases hj : j = i
          · subst hj
            refine ⟨r ++ (k.run (ws.at c) (s₁.worker.view j)).trace, ?_, ?_⟩
            · rw [Worker.on, Worker.obs_put_self, hr, List.append_assoc]
            · rw [lastSent_append, ← hlast]
              exact Function.update_self ..
          · refine ⟨r, ?_, ?_⟩
            · rw [Worker.on, Worker.obs_put_ne _ hj, hr]
            · rw [← hlast]
              exact Function.update_of_ne hj ..
      | quiet hq =>
          subst hw
          refine ⟨{ s₁ with worker := b' }, hsteps.tail (.quiet hq), rfl, hl, fun j => ?_⟩
          obtain ⟨r, hr, hlast⟩ := hobs j
          exact ⟨r, (hq.obs j).trans hr, hlast⟩

/-- A step of the loop is a sequence of calls at its time. -/
theorem timedSteps_of_step {st : SocketTable n} {c : Clock} {e : Event} {w' : Worker n}
    (h : step st (ws.at c) e s.worker = some w') (hc : Later ws s.tsc c) :
    ∃ s', TimedSteps ws anyCall s s' ∧ s'.worker = w' ∧ Later ws s'.tsc c ∧
      ∀ i, ∃ r, w'.obs i = s.worker.obs i ++ r ∧ s'.last i = lastSent c.tsc (s.last i) r :=
  timedSteps_of_turns (step_turns h) rfl hc

/-- The times only grow. -/
lemma last_of_timedSteps (h : TimedSteps ws G s s') {i : Fin n} {t : UInt64} (ht : t ≤ s.tsc)
    (hlast : ∃ t', s.last i = some t' ∧ t ≤ t') :
    t ≤ s'.tsc ∧ ∃ t', s'.last i = some t' ∧ t ≤ t' := by
  induction h with
  | refl => exact ⟨ht, hlast⟩
  | @tail s₁ _ _ hstep ih =>
      obtain ⟨hle, t', ht', htt'⟩ := ih
      cases hstep with
      | @call c inp j k _ hc =>
          have hle' : t ≤ c.tsc := UInt64.le_trans hle hc.le
          refine ⟨hle', ?_⟩
          by_cases hij : i = j
          · subst hij
            have hnew : (s₁.call ws c i k).last i = lastSent c.tsc (s₁.last i)
                (k.run (ws.at c) (s₁.worker.view i)).trace := Function.update_self ..
            rw [hnew, lastSent]
            split_ifs
            · exact ⟨_, rfl, hle'⟩
            · exact ⟨t', ht', htt'⟩
          · have hold : (s₁.call ws c j k).last i = s₁.last i := Function.update_of_ne hij ..
            exact ⟨t', hold.trans ht', htt'⟩
      | quiet hq => exact ⟨hle, t', ht', htt'⟩

end OnClock

end Dperf
