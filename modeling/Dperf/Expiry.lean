import Dperf.Pieces
import Dperf.SocketPool
import Dperf.TimerDates

/-!
The dates of the sockets in the timer queues, on a clock that does not go back, and what
`socket_timer_run` leaves behind when it stops at the first socket that is not due.

* `Clocked`, `ClockStep`: the runs of the loop call by call, each call with its time.
* `Filed`: what a call does to the date and the place of its socket; `filed_run`.
* `server_expiry`: the server appends the time itself, so its queues stay sorted and nothing due
  is left.
* `JumpsBack`: a client appends a date from before that of a socket that still waits, by what the
  call finds (`Call.dating`). `client_expiry`: without such a call nothing due is left, and after
  one the loop can leave its socket.
-/

namespace Dperf

variable {n : ℕ}

/-! ### Runs on a clock -/

/-- A worker with the time of its last call. -/
structure Clocked (n : ℕ) where
  worker : Worker n
  tsc : UInt64

/-- A test on a call: the work space at its time, the socket, the call, the worker before it. -/
abbrev QueueGuard (n : ℕ) := WorkSpace → Fin n → Call → Worker n → Prop

/-- No test at all. -/
def anyQueueCall : QueueGuard n := fun _ _ _ _ => True

/-- One call of the loop that passes the test, not before the last one, or a change that no slot
sees. -/
inductive ClockStep (ws : WorkSpace) (G : QueueGuard n) : Clocked n → Clocked n → Prop
  | call {c : Clock} {inp : Grants n} {i : Fin n} {k : Call} {s : Clocked n} (hc : s.tsc ≤ c.tsc)
      (hp : LoopPermit (ws.at c) inp i k s.worker) (hG : G (ws.at c) i k s.worker) :
      ClockStep ws G s ⟨s.worker.on i (k.run (ws.at c)), c.tsc⟩
  | quiet {s s' : Clocked n} (hc : s.tsc ≤ s'.tsc) (h : Quiet s.worker s'.worker) :
      ClockStep ws G s s'

/-- Calls one after the other. -/
abbrev ClockSteps (ws : WorkSpace) (G : QueueGuard n) : Clocked n → Clocked n → Prop :=
  Relation.ReflTransGen (ClockStep ws G)

/-- The states of the runs on a clock whose calls all pass the test. -/
def ClockReach (ws : WorkSpace) (G : QueueGuard n) (s : Clocked n) : Prop :=
  ∃ s₀ : Clocked n, Initial ws s₀.worker ∧ ClockSteps ws G s₀ s

section Clocks

variable {ws : WorkSpace} {G : QueueGuard n} {s s' : Clocked n}

lemma ClockReach.steps (h : ClockReach ws G s) (hs : ClockSteps ws G s s') :
    ClockReach ws G s' := by
  obtain ⟨s₀, h₀, hr⟩ := h
  exact ⟨s₀, h₀, hr.trans hs⟩

/-- Calls of the loop at one time. -/
lemma clockSteps_of_loopCalls {c : Clock} {inp : Grants n} {w w' : Worker n}
    (h : LoopCalls (ws.at c) inp w w') {t : UInt64} (hc : t ≤ c.tsc) :
    ClockSteps ws anyQueueCall ⟨w, t⟩ ⟨w', c.tsc⟩ := by
  have hnow : ClockStep ws anyQueueCall ⟨w, t⟩ ⟨w, c.tsc⟩ :=
    .quiet hc ⟨rfl, rfl, rfl, fun _ => rfl⟩
  refine .head hnow ?_
  induction h with
  | refl => exact .refl
  | tail _ hcall ih =>
      refine ih.tail ?_
      cases hcall with
      | call hp => exact .call (UInt64.le_refl _) hp trivial
      | quiet hq => exact .quiet (UInt64.le_refl _) hq

/-- A step of the loop is a run of calls at its time. -/
theorem clockSteps_of_step {st : SocketTable n} {c : Clock} {e : Event} {w' : Worker n}
    (h : step st (ws.at c) e s.worker = some w') (hc : s.tsc ≤ c.tsc) :
    ClockSteps ws anyQueueCall s ⟨w', c.tsc⟩ :=
  clockSteps_of_loopCalls (loopCalls_of_loopTurns (step_loopTurns h)) hc

/-- A given run whose times do not go back. -/
lemma clockSteps_of_runEvents {st : SocketTable n} :
    ∀ {l : List (Clock × Event)} {s : Clocked n} {w' : Worker n},
      (s.tsc :: l.map fun e => e.1.tsc).Pairwise (· ≤ ·) → runEvents st ws l s.worker = some w' →
      ∃ t, ClockSteps ws anyQueueCall s ⟨w', t⟩ ∧
        ∀ t', s.tsc ≤ t' → (∀ e ∈ l, e.1.tsc ≤ t') → t ≤ t' := by
  intro l
  induction l with
  | nil =>
      intro s w' _ h
      cases h
      exact ⟨s.tsc, .refl, fun t' ht' _ => ht'⟩
  | cons e l ih =>
      intro s w' hsorted h
      rw [List.map_cons, List.pairwise_cons] at hsorted
      obtain ⟨w₁, h₁, h₂⟩ := Option.bind_eq_some_iff.mp h
      have hfirst := clockSteps_of_step h₁ (hsorted.1 _ List.mem_cons_self)
      obtain ⟨t, hsteps, ht⟩ := ih (s := ⟨w₁, e.1.tsc⟩) hsorted.2 h₂
      refine ⟨t, hfirst.trans hsteps, fun t' _ hall => ?_⟩
      exact ht t' (hall e List.mem_cons_self) fun e' he' => hall e' (List.mem_cons_of_mem _ he')

/-- What holds at the start and is kept by every call that passes the test. -/
lemma of_clockReach {P : Clocked n → Prop} (hinit : ∀ s : Clocked n, Initial ws s.worker → P s)
    (hstep : ∀ s s', ClockStep ws G s s' → P s → P s') (h : ClockReach ws G s) : P s := by
  obtain ⟨s₀, h₀, hr⟩ := h
  induction hr with
  | refl => exact hinit _ h₀
  | tail _ hs ih => exact hstep _ _ hs ih

end Clocks

/-- A worker with two client ports, at the start of its loop. -/
def Worker.twoPorts (ws : WorkSpace) : Worker 2 where
  pool i := socketInit ws 1 (UInt16.ofNat (i + 1)) 2 80 0
  launch := { launchNum := 1 }

lemma Worker.twoPorts_initial (ws : WorkSpace) : Initial ws (Worker.twoPorts ws) :=
  ⟨fun i => ⟨1, UInt16.ofNat (i + 1), 2, 80, 0, by decide, rfl⟩, rfl, rfl, rfl, rfl, rfl⟩

/-! ### Dates and places -/

/-- A socket that was in the queue `p` with the date `t`: a queued socket keeps its date, a
closed one is in no queue, and a server dates what it queues to the time itself. -/
structure Filed (ws : WorkSpace) (p : Option TimerKind) (t : UInt64) (v : View) : Prop where
  kept : v.link = .kept → p ≠ none → v.sk.timerTsc = t
  unlinked : v.sk.state = .closed → v.link.after p = none
  now : ws.cfg.server = true → ∀ q, v.link = .tail q → q ≠ .keepalive → v.sk.timerTsc = ws.tsc

namespace Filed

variable {ws : WorkSpace} {p : Option TimerKind} {t : UInt64} {k : Call} {e : Socket} {v v' : View}

/-- The timer is left alone. -/
lemma frame (h : Filed ws p t v) (ht : v'.sk.timerTsc = v.sk.timerTsc) (hl : v'.link = v.link)
    (hs : v'.sk.state = .closed → v.sk.state = .closed) : Filed ws p t v' := by
  refine ⟨fun hk hp => ?_, fun hc => ?_, fun hserver q hq hne => ?_⟩
  · rw [ht]
    exact h.kept (hl ▸ hk) hp
  · rw [hl]
    exact h.unlinked (hs hc)
  · rw [ht]
    exact h.now hserver q (hl ▸ hq) hne

/-- A socket that is in no queue. -/
lemma of_self (hl : v.link = .self) : Filed ws p t v := by
  refine ⟨fun hk => ?_, fun _ => ?_, fun _ q hq => ?_⟩
  · rw [hl] at hk
    cases hk
  · rw [hl]
    rfl
  · rw [hl] at hq
    cases hq

/-- An open socket that is queued. -/
lemma of_tail {q : TimerKind} (hl : v.link = .tail q) (ho : v.sk.state ≠ .closed)
    (hnow : ws.cfg.server = true → q ≠ .keepalive → v.sk.timerTsc = ws.tsc) :
    Filed ws p t v := by
  refine ⟨fun hk => ?_, fun hc => absurd hc ho, fun hserver r hr hne => ?_⟩
  · rw [hl] at hk
    cases hk
  · rw [hl, Link.tail.injEq] at hr
    exact hnow hserver (hr ▸ hne)

lemma reply (h : Filed ws p t v) (f : UInt8) : Filed ws p t (tcpReply ws f v) := by
  have hsk := tcpReply_sk ws f v
  have hlink := tcpReply_link ws f v
  cases ht : replyTimer ws f v with
  | none =>
      rw [ht] at hlink
      rw [ht, if_pos rfl] at hsk
      exact h.frame (by rw [hsk]) hlink (by rw [hsk]; exact id)
  | some q =>
      rw [ht] at hlink
      rw [ht, if_neg (by simp)] at hsk
      refine of_tail hlink ?_ fun hserver _ => ?_
      · rw [tcpReply_state]
        intro hc
        rw [replyTimer, if_pos (.inl hc)] at ht
        cases ht
      · rw [hsk]
        exact if_neg fun hno => by simp [hserver] at hno

lemma close (h : Filed ws p t v) : Filed ws p t (socketClose v) := by
  rw [socketClose]
  split_ifs
  · exact of_self rfl
  · exact h

lemma piece (hw : Plain ws) (hpiece : Piece ws k e v v') (h : Filed ws p t v) :
    Filed ws p t v' := by
  have hwindow : ∀ {P : Prop}, ws.sendWindow ≠ 0 → P := fun hne => absurd hw.window hne
  cases hpiece with
  | touch hu =>
      refine h.frame hu.timerTsc hu.link fun hc => ?_
      rcases hu.state with hs | ⟨-, ho, -⟩
      · exact hs ▸ hc
      · exact absurd hc ho
  | unlink => exact of_self rfl
  | ackAll => exact h.frame rfl rfl id
  | ackPart _ hne => exact hwindow hne
  | close => exact h.close
  | serverOpen => exact of_self rfl
  | clientOpen hs _ hc =>
      -- the date is new, but a closed socket is in no queue
      have hnone : v.link.after p = none := h.unlinked hc
      refine ⟨fun hk hp => ?_, fun hclosed => ?_, fun hserver => ?_⟩
      · have hkept : v.link = .kept := hk
        rw [hkept] at hnone
        exact absurd hnone hp
      · exact SkState.noConfusion hclosed
      · exact absurd (hserver.symm.trans hs) (by simp)
  | reply => exact h.reply _
  | again => exact h.reply _
  | oneAgain hne => exact hwindow hne
  | burst hne => exact hwindow hne
  | retransmitTimer hne => exact hwindow hne
  | keepaliveTimer hs =>
      have ho : v.sk.state ≠ .closed := by
        rcases hs with he | ⟨hc, hf⟩
        · simp [he]
        · exact absurd ((hw.flood hc).symm.trans hf) (by simp)
      rw [socketStartKeepaliveTimer]
      split_ifs
      · exact of_tail rfl ho fun _ hne => absurd rfl hne
      · exact h
  | timeoutTimer _ ho => exact of_tail rfl ho fun _ _ => rfl
  | mark => exact h.frame rfl rfl id

end Filed

/-- What a call of the loop does to the date and the place of its socket. -/
theorem filed_run {ws : WorkSpace} (hw : Plain ws) {inp : Grants n} {i : Fin n} {k : Call}
    {w : Worker n} (hp : LoopPermit ws inp i k w)
    (hc : (w.pool i).state = .closed → w.timers.place i = none) :
    Filed ws (w.timers.place i) (w.pool i).timerTsc (k.run ws (w.view i)) := by
  have hv : Filed ws (w.timers.place i) (w.pool i).timerTsc (w.view i) :=
    ⟨fun _ _ => rfl, hc, fun _ q hq => absurd hq (by simp [Worker.view])⟩
  exact of_pieces (fun _ _ h => Filed.piece hw h) (pieces_run hw.protocol hp.mode hp.done) hv

/-- A closed socket is in no queue. -/
def ClosedUnlinked (w : Worker n) : Prop :=
  ∀ i, (w.pool i).state = .closed → w.timers.place i = none

/-- The dates along the queue `q`. -/
def Along (R : UInt64 → UInt64 → Prop) (q : TimerKind) (w : Worker n) : Prop :=
  (w.timers.list q).Pairwise fun i j => R (w.pool i).timerTsc (w.pool j).timerTsc

section Call

variable {ws : WorkSpace} {w : Worker n} {i : Fin n} {v : View}

lemma closedUnlinked_put {t : UInt64} (h : ClosedUnlinked w)
    (hf : Filed ws (w.timers.place i) t v) : ClosedUnlinked (w.put i v) := by
  intro j hj
  by_cases hji : j = i
  · subst hji
    rw [Worker.pool_put_self] at hj
    exact (place_relink_self v.link).trans (hf.unlinked hj)
  · rw [Worker.pool_put_ne _ hji] at hj
    exact (place_relink_ne hji v.link).trans (h j hj)

/-- A relation along a queue after a call, which has to hold for a socket that is appended. -/
lemma along_put {R R' : UInt64 → UInt64 → Prop} {q : TimerKind} (h : Along R q w)
    (hf : Filed ws (w.timers.place i) (w.pool i).timerTsc v) (hR : ∀ x y, R x y → R' x y)
    (htail : v.link = .tail q → ∀ j ∈ w.timers.list q, j ≠ i →
      R' (w.pool j).timerTsc v.sk.timerTsc) : Along R' q (w.put i v) := by
  refine pairwise_relink h (fun a b ha hb hab => ?_) (fun hk hi a b hab => ?_)
    (fun hl j hj hji => ?_)
  · rw [Worker.pool_put_ne _ ha, Worker.pool_put_ne _ hb]
    exact hR _ _ hab
  · -- the socket has stayed in its queue, with its date
    have hplace : w.timers.place i ≠ none := by
      rw [Queues.place_eq_some.mpr hi]
      simp
    have hdate : ∀ a, ((w.put i v).pool a).timerTsc = (w.pool a).timerTsc := by
      intro a
      by_cases ha : a = i
      · subst ha
        rw [Worker.pool_put_self]
        exact hf.kept hk hplace
      · rw [Worker.pool_put_ne _ ha]
    rw [hdate, hdate]
    exact hR _ _ hab
  · rw [Worker.pool_put_ne _ hji, Worker.pool_put_self]
    exact htail hl j hj hji

/-- What holds of the dates in a queue after a call. -/
lemma dates_put {P P' : UInt64 → Prop} {q : TimerKind}
    (h : ∀ j ∈ w.timers.list q, P (w.pool j).timerTsc)
    (hf : Filed ws (w.timers.place i) (w.pool i).timerTsc v) (hP : ∀ x, P x → P' x)
    (htail : v.link = .tail q → P' v.sk.timerTsc) :
    ∀ j ∈ (w.put i v).timers.list q, P' ((w.put i v).pool j).timerTsc := by
  intro j hj
  by_cases hji : j = i
  · subst hji
    rw [Worker.pool_put_self]
    have hplace : v.link.after (w.timers.place j) = some q :=
      (place_relink_self v.link).symm.trans (Queues.place_eq_some.mpr hj)
    cases hl : v.link with
    | kept =>
        rw [hl] at hplace
        have hold : w.timers.place j = some q := hplace
        have hdate := hf.kept hl (by rw [hold]; simp)
        rw [hdate]
        exact hP _ (h j (Queues.place_eq_some.mp hold))
    | self =>
        rw [hl] at hplace
        cases hplace
    | tail r =>
        rw [hl] at hplace
        cases hplace
        exact htail hl
  · rw [Worker.pool_put_ne _ hji]
    exact hP _ (h j ((mem_relink_ne hji v.link).mp hj))

end Call

/-- The socket `i` is left in the queue `q` although it is due; the sum is taken without the wrap
of 64 bits. -/
structure LeftDue (q : TimerKind) (timeout now : UInt64) (w : Worker n) (i : Fin n) : Prop where
  mem : i ∈ w.timers.list q
  due : (w.pool i).timerTsc.toNat + timeout.toNat ≤ now.toNat

section Loop

variable {ws : WorkSpace} {q : TimerKind} {timeout : UInt64} {handler : View → View}

/-- The date `x` may stand before `y` in a queue: it is not later, or due anyway. -/
def Precedes (timeout now x y : UInt64) : Prop :=
  x ≤ y ∨ x.toNat + timeout.toNat ≤ now.toNat

lemma Precedes.later {now now' x y : UInt64} (h : Precedes timeout now x y) (hle : now ≤ now') :
    Precedes timeout now' x y :=
  h.imp_right fun hdue => hdue.trans (UInt64.le_iff_toNat_le.mp hle)

/-- The loop returns when the queue is empty or its head is not due. -/
lemma socketTimerRun_head : ∀ {fuel : ℕ} {w w' : Worker n} {l : List (Fin n)},
    socketTimerRun ws q timeout handler fuel w = some (l, w') →
      ∀ i r, w'.timers.list q = i :: r →
        ws.tsc.toNat < (w'.pool i).timerTsc.toNat + timeout.toNat := by
  intro fuel
  induction fuel with
  | zero =>
      intro w w' l h
      simp [socketTimerRun] at h
  | succ fuel ih =>
      intro w w' l h i r hlist
      rw [socketTimerRun] at h
      split at h
      · rename_i hnil
        cases h
        rw [hnil] at hlist
        cases hlist
      · rename_i j r' hcons
        split_ifs at h with hdue
        · obtain ⟨p, hp, heq⟩ := Option.map_eq_some_iff.mp h
          cases heq
          exact ih hp i r hlist
        · cases h
          rw [hcons] at hlist
          cases hlist
          have hlt := UInt64.not_le.mp hdue
          rw [UInt64.lt_iff_toNat_lt, UInt64.toNat_add] at hlt
          exact lt_of_lt_of_le hlt (Nat.mod_le _ _)

/-- Behind a head that is not due, nothing is due. -/
lemma not_leftDue_of_along {fuel : ℕ} {w w' : Worker n} {l : List (Fin n)}
    (h : socketTimerRun ws q timeout handler fuel w = some (l, w'))
    (horder : Along (Precedes timeout ws.tsc) q w') (i : Fin n) :
    ¬ LeftDue q timeout ws.tsc w' i := by
  intro hleft
  have hhead := socketTimerRun_head h
  rw [Along] at horder
  have hmem := hleft.mem
  cases hlist : w'.timers.list q with
  | nil =>
      rw [hlist] at hmem
      cases hmem
  | cons j r =>
      have hj := hhead j r hlist
      rw [hlist] at hmem horder
      rcases List.mem_cons.mp hmem with hij | hbehind
      · subst hij
        exact absurd hleft.due (Nat.not_le.mpr hj)
      · rcases (List.pairwise_cons.mp horder).1 i hbehind with hle | hdue
        · have hlate : (w'.pool j).timerTsc.toNat ≤ (w'.pool i).timerTsc.toNat :=
            UInt64.le_iff_toNat_le.mp hle
          have hdue := hleft.due
          omega
        · exact absurd hdue (Nat.not_le.mpr hj)

end Loop

/-! ### The server -/

/-- The queues of a server: sorted, with no date that is still to come. -/
structure ServerQueues (s : Clocked n) : Prop where
  closed : ClosedUnlinked s.worker
  past : ∀ q, q ≠ .keepalive → ∀ i ∈ s.worker.timers.list q, (s.worker.pool i).timerTsc ≤ s.tsc
  sorted : ∀ q, q ≠ .keepalive → Along (· ≤ ·) q s.worker

section Server

variable {ws : WorkSpace} {G : QueueGuard n} {s s' : Clocked n}

lemma ServerQueues.step (hw : Plain ws) (hs : ws.cfg.server = true) (hstep : ClockStep ws G s s')
    (h : ServerQueues s) : ServerQueues s' := by
  cases hstep with
  | @call c inp i k _ hc hp _ =>
      have hf := filed_run (hw.at c) hp (h.closed i)
      refine ⟨closedUnlinked_put h.closed hf, fun q hq => ?_, fun q hq => ?_⟩
      · refine dates_put (P := (· ≤ s.tsc)) (h.past q hq) hf (fun x hx => UInt64.le_trans hx hc)
          fun hl => ?_
        exact (hf.now hs q hl hq).symm ▸ UInt64.le_refl _
      · refine along_put (h.sorted q hq) hf (fun _ _ => id) fun hl j hj _ => ?_
        have hdate : _ = c.tsc := hf.now hs q hl hq
        rw [hdate]
        exact UInt64.le_trans (h.past q hq j hj) hc
  | quiet hc hq =>
      refine ⟨?_, fun q hne i hi => ?_, fun q hne => ?_⟩
      · rw [ClosedUnlinked, hq.pool, hq.timers]
        exact h.closed
      · rw [hq.timers] at hi
        rw [hq.pool]
        exact UInt64.le_trans (h.past q hne i hi) hc
      · rw [Along, hq.timers, hq.pool]
        exact h.sorted q hne

lemma serverQueues (hw : Plain ws) (hs : ws.cfg.server = true) (h : ClockReach ws G s) :
    ServerQueues s := by
  refine of_clockReach (fun s hinit => ?_) (fun _ _ => ServerQueues.step hw hs) h
  have hnil : ∀ q, s.worker.timers.list q = [] := by
    intro q
    rw [hinit.timers]
    rfl
  refine ⟨fun i _ => ?_, fun q _ i hi => ?_, fun q _ => ?_⟩
  · rw [hinit.timers, Queues.place_empty]
  · rw [hnil] at hi
    cases hi
  · rw [Along, hnil]
    exact .nil

/-- The loop of a timer is a run of calls at one time. -/
lemma clockSteps_of_timerRun {c : Clock} (hc : s.tsc ≤ c.tsc) {fuel : ℕ}
    {q : TimerKind} {timeout : UInt64} {handler : View → View} {k : Call} (hq : k.queue = some q)
    (hm : k.Allowed (ws.at c).cfg) (hd : ¬ k.Delayed)
    (hk : ∀ v, k.run (ws.at c) v = handler (socketDelTimer v)) {l : List (Fin n)} {w' : Worker n}
    (h : socketTimerRun (ws.at c) q timeout handler fuel s.worker = some (l, w')) :
    ClockSteps ws anyQueueCall s ⟨w', c.tsc⟩ := by
  have hi : ∀ m, k ≠ .input m := by
    rintro m rfl
    cases hq
  have hl : ∀ turns, k ≠ .launch turns := by
    rintro turns rfl
    cases hq
  have hturns : LoopTurns (ws.at c) ⟨fun _ _ _ => False, False⟩ s.worker w' :=
    socketTimerRun_turns hq hm hi hl hd hk fuel _ _ h
  exact clockSteps_of_loopCalls (loopCalls_of_loopTurns hturns) hc

/-- **Sorted queues.** The retransmit and the timeout queue of a server are sorted by date, and
when `socket_timer_run` returns, it has left nothing that is due. -/
theorem server_expiry {ws : WorkSpace} (hw : Plain ws) (hs : ws.cfg.server = true)
    {s : Clocked n} (h : ClockReach ws anyQueueCall s) :
    Along (· ≤ ·) .retransmit s.worker ∧ Along (· ≤ ·) .timeout s.worker ∧
      ∀ (c : Clock) (timeout : UInt64) (fuel : ℕ) (l : List (Fin n)) (w' : Worker n),
        s.tsc ≤ c.tsc →
        (socketTimerRun (ws.at c) .retransmit timeout (tcpDoRetransmit (ws.at c)) fuel s.worker =
            some (l, w') → ∀ i, ¬ LeftDue .retransmit timeout c.tsc w' i) ∧
        (socketTimerRun (ws.at c) .timeout timeout socketTimeoutHandler fuel s.worker =
            some (l, w') → ∀ i, ¬ LeftDue .timeout timeout c.tsc w' i) := by
  have hq := serverQueues hw hs h
  refine ⟨hq.sorted _ (by simp), hq.sorted _ (by simp), fun c timeout fuel l w' hc =>
    ⟨fun hrun => ?_, fun hrun => ?_⟩⟩
  · have hrun' := clockSteps_of_timerRun hc (k := .retransmit) rfl trivial id
      (fun v => by rw [Call.run, WorkSpace.at_cfg, hw.protocol]) hrun
    have hsorted := (serverQueues hw hs (h.steps hrun')).sorted .retransmit (by simp)
    exact not_leftDue_of_along hrun (hsorted.imp fun hle => .inl hle)
  · have hrun' := clockSteps_of_timerRun hc (k := .timeout) rfl trivial id (fun _ => rfl) hrun
    have hsorted := (serverQueues hw hs (h.steps hrun')).sorted .timeout (by simp)
    exact not_leftDue_of_along hrun (hsorted.imp fun hle => .inl hle)

/-- Two connections of a server that are opened five ticks apart. When the first `SYN-ACK` is sent
again, its socket is queued behind the second one, and the loop stops in front of that one, which
is not due yet. -/
theorem server_expiry_break :
    ∃ (s : Clocked 2) (w : Worker 2), s.worker.timers.list .retransmit = [0, 1] ∧
      socketTimerRun ((WorkSpace.single (.singleServer true)).at ⟨2103, 2, false⟩) .retransmit 1100
        (tcpDoRetransmit ((WorkSpace.single (.singleServer true)).at ⟨2103, 2, false⟩)) 2 s.worker =
          some ([0], w) ∧
      w.timers.list .retransmit = [1, 0] ∧ (w.pool 1).timerTsc = 1005 ∧
      (w.pool 0).timerTsc = 2103 ∧ ∀ i, ¬ LeftDue .retransmit 1100 2103 w i := by
  have hrun : (runEvents { SocketTable.twoPorts 0 with rss := false }
      (.single (.singleServer true))
      [(⟨1000, 1, false⟩, .recv .tcp (.single true thSyn 100 0 [])),
        (⟨1005, 1, false⟩, .recv .tcp { Mbuf.single true thSyn 100 0 [] with th.sport := 2 })]
      (Worker.twoPorts (.single (.singleServer true)))).any (fun w =>
        w.timers.list .retransmit == [0, 1] &&
        (socketTimerRun ((WorkSpace.single (.singleServer true)).at ⟨2103, 2, false⟩) .retransmit
          1100 (tcpDoRetransmit ((WorkSpace.single (.singleServer true)).at ⟨2103, 2, false⟩)) 2
            w).any fun r => r.1 == [0] && r.2.timers.list .retransmit == [1, 0] &&
              (r.2.pool 1).timerTsc == 1005 && (r.2.pool 0).timerTsc == 2103) = true := by decide
  obtain ⟨w, hw, hp⟩ := (Option.any_eq_true _ _).mp hrun
  rw [Bool.and_eq_true, beq_iff_eq] at hp
  obtain ⟨⟨l, w'⟩, hloop, hleft⟩ := (Option.any_eq_true _ _).mp hp.2
  simp only [Bool.and_eq_true, beq_iff_eq] at hleft
  obtain ⟨⟨⟨rfl, hlist⟩, hsecond⟩, hfirst⟩ := hleft
  obtain ⟨t, hsteps, ht⟩ := clockSteps_of_runEvents
    (s := ⟨Worker.twoPorts (.single (.singleServer true)), 1000⟩) (by decide) hw
  have hreach : ClockReach (.single (.singleServer true)) anyQueueCall ⟨w, t⟩ :=
    ⟨_, Worker.twoPorts_initial _, hsteps⟩
  refine ⟨⟨w, t⟩, w', hp.1, hloop, hlist, hsecond, hfirst, ?_⟩
  exact ((server_expiry ⟨rfl, rfl, fun h => by cases h⟩ rfl hreach).2.2 ⟨2103, 2, false⟩ 1100 2 [0]
    w' (ht 2103 (by decide) (by decide))).1 hloop

end Server

/-! ### The client -/

/-- The timeouts that a client passes to `socket_timer_run`. -/
def clientTimeout (cfg : Config) : TimerKind → UInt64
  | .retransmit => cfg.retransmitTimeout
  | .keepalive => cfg.keepaliveRequestInterval
  | .timeout => cfg.retransmitTimeout * retransmitNumMax.toUInt64 + cfg.keepaliveRequestInterval

/-- The handlers that it passes. -/
def clientHandler (ws : WorkSpace) : TimerKind → View → View
  | .retransmit => tcpDoRetransmit ws
  | .keepalive => tcpDoKeepalive ws
  | .timeout => socketTimeoutHandler

/-- `socket_timer_run` on one of its queues. -/
def clientTimerRun (ws : WorkSpace) (q : TimerKind) (fuel : ℕ) (w : Worker n) :
    Option (List (Fin n) × Worker n) :=
  socketTimerRun ws q (clientTimeout ws.cfg q) (clientHandler ws q) fuel w

lemma clientTimerRun_process {ws : WorkSpace} (hp : ws.cfg.protocol = .tcp)
    (hs : ws.cfg.server = false) (fuel : ℕ) (w : Worker n) :
    socketTimerProcess ws fuel w = (clientTimerRun ws .retransmit fuel w).bind fun r =>
      if ws.cfg.keepalive then (clientTimerRun ws .keepalive fuel r.2).map Prod.snd
      else some r.2 := by
  rw [socketTimerProcess, hp, hs]
  rfl

/-- The call will append its socket to the queue `q` with a date from before that of the socket
`j`, which is in the queue and not due yet. -/
structure JumpsBack (ws : WorkSpace) (i : Fin n) (k : Call) (w : Worker n) (q : TimerKind)
    (j : Fin n) : Prop where
  date : ∃ t, (k.dating ws (w.view i)).timer = some (q, t) ∧ t < (w.pool j).timerTsc
  mem : j ∈ w.timers.list q
  other : j ≠ i
  waits : ws.tsc.toNat < (w.pool j).timerTsc.toNat + (clientTimeout ws.cfg q).toNat

instance (ws : WorkSpace) (i : Fin n) (k : Call) (w : Worker n) (q : TimerKind) (j : Fin n) :
    Decidable (JumpsBack ws i k w q j) :=
  decidable_of_iff ((k.dating ws (w.view i)).timer.any
        (fun d => decide (d.1 = q ∧ d.2 < (w.pool j).timerTsc)) = true ∧
      (w.timers.list q).contains j = true ∧ j ≠ i ∧
      ws.tsc.toNat < (w.pool j).timerTsc.toNat + (clientTimeout ws.cfg q).toNat)
    ⟨fun ⟨hdate, hmem, hother, hwaits⟩ => by
      obtain ⟨⟨_, t⟩, hd, ht⟩ := (Option.any_eq_true _ _).mp hdate
      obtain ⟨rfl, hlt⟩ := of_decide_eq_true ht
      exact ⟨⟨t, hd, hlt⟩, List.contains_iff_mem.mp hmem, hother, hwaits⟩,
    fun ⟨⟨t, hd, hlt⟩, hmem, hother, hwaits⟩ =>
      ⟨(Option.any_eq_true _ _).mpr ⟨(q, t), hd, decide_eq_true ⟨rfl, hlt⟩⟩,
        List.contains_iff_mem.mpr hmem, hother, hwaits⟩⟩

/-- The retransmit and the keepalive queue are appended to in order. -/
def InOrder : QueueGuard n := fun ws i k w => ∀ q j, q ≠ .timeout → ¬ JumpsBack ws i k w q j

instance (ws : WorkSpace) (i : Fin n) (k : Call) (w : Worker n) : Decidable (InOrder ws i k w) :=
  decidable_of_iff (∀ q ∈ [TimerKind.retransmit, .keepalive], ∀ j, ¬ JumpsBack ws i k w q j)
    ⟨fun h q j hq => h q (by cases q <;> simp_all) j,
      fun h q hq j => h q j (by rintro rfl; simp at hq)⟩

/-- The queues of a client whose calls keep the order. -/
structure ClientQueues (ws : WorkSpace) (s : Clocked n) : Prop where
  closed : ClosedUnlinked s.worker
  order : ∀ q, q ≠ .timeout → Along (Precedes (clientTimeout ws.cfg q) s.tsc) q s.worker

section Client

variable {ws : WorkSpace} {G : QueueGuard n} {s s' : Clocked n}

lemma ClientQueues.step (hw : Plain ws) (hs : ws.cfg.server = false)
    (hstep : ClockStep ws InOrder s s') (h : ClientQueues ws s) : ClientQueues ws s' := by
  cases hstep with
  | @call c inp i k _ hc hp hG =>
      have hf := filed_run (hw.at c) hp (h.closed i)
      refine ⟨closedUnlinked_put h.closed hf, fun q hq => ?_⟩
      refine along_put (h.order q hq) hf (fun _ _ hxy => hxy.later hc) fun hl j hj hji => ?_
      have htold : Told (k.dating (ws.at c) (s.worker.view i))
          (k.run (ws.at c) (s.worker.view i)) := told_run (hw.at c) hs k rfl rfl
      by_contra hno
      rw [Precedes, not_or, UInt64.not_le, Nat.not_le] at hno
      exact hG q j hq ⟨⟨_, (htold.timer q _).mpr ⟨hl, rfl⟩, hno.1⟩, hj, hji, hno.2⟩
  | quiet hc hq =>
      refine ⟨?_, fun q hne => ?_⟩
      · rw [ClosedUnlinked, hq.pool, hq.timers]
        exact h.closed
      · rw [Along, hq.timers, hq.pool]
        exact (h.order q hne).imp fun hxy => hxy.later hc

lemma clientQueues (hw : Plain ws) (hs : ws.cfg.server = false) (h : ClockReach ws InOrder s) :
    ClientQueues ws s := by
  refine of_clockReach (fun s hinit => ?_) (fun _ _ => ClientQueues.step hw hs) h
  refine ⟨fun i _ => ?_, fun q _ => ?_⟩
  · rw [hinit.timers, Queues.place_empty]
  · rw [Along, hinit.timers]
    exact .nil

/-- A handler does not leave its socket where it was. -/
lemma clientHandler_link (hw : Plain ws) (hs : ws.cfg.server = false) (q : TimerKind) (v : View) :
    (clientHandler ws q (socketDelTimer v)).link ≠ .kept := by
  intro hk
  -- a socket that is in no queue would have to keep every date
  have hfiled : ∀ t, Filed ws (some q) t (clientHandler ws q (socketDelTimer v)) := by
    intro t
    have hdel : Filed ws (some q) t (socketDelTimer v) := Filed.of_self rfl
    have hpiece : ∀ u u', Piece ws .retransmit v.sk u u' → Filed ws (some q) t u →
        Filed ws (some q) t u' := fun _ _ h => Filed.piece hw h
    cases q with
    | retransmit => exact of_pieces hpiece (Pieces.doRetransmit ws _ _) hdel
    | keepalive => exact of_pieces hpiece (Pieces.doKeepalive hs) hdel
    | timeout =>
        have hcount : Filed ws (some .timeout) t ((socketDelTimer v).count netStatsSocketError) :=
          hdel.frame rfl rfl id
        exact hcount.close
  have hzero := (hfiled 0).kept hk (by simp)
  have hone := (hfiled 1).kept hk (by simp)
  exact absurd (hzero.symm.trans hone) (by simp)

/-- The head of a queue, when it is handled, leaves it or goes behind the others. -/
lemma list_on_head {q : TimerKind} {f : View → View} {x : Fin n} {l : List (Fin n)} {w : Worker n}
    (hlink : (f (w.view x)).link ≠ .kept) (hlist : w.timers.list q = x :: l) :
    (w.on x f).timers.list q = l ∨ (w.on x f).timers.list q = l ++ [x] := by
  have herase : (w.timers.list q).erase x = l := by
    rw [hlist, List.erase_cons_head]
  rw [Worker.on]
  change (Timers.relink x (f (w.view x)).link w.timers).list q = _ ∨
    (Timers.relink x (f (w.view x)).link w.timers).list q = _
  cases hl : (f (w.view x)).link with
  | kept => exact absurd hl hlink
  | self => exact .inl herase
  | tail r =>
      by_cases hr : q = r
      · subst hr
        right
        rw [Timers.relink, Queues.list_enqueue_self, herase]
      · left
        rw [Timers.relink, Queues.list_enqueue_ne hr, herase]

/-- The loop stops in front of a socket that is not due, and leaves those behind it. -/
lemma socketTimerRun_leaves {q : TimerKind} {timeout : UInt64} {handler : View → View}
    (hlink : ∀ v, (handler (socketDelTimer v)).link ≠ .kept) {i j : Fin n} :
    ∀ (a b : List (Fin n)) (w : Worker n), w.timers.list q = a ++ j :: b → i ∈ b →
      (w.pool i).timerTsc.toNat + timeout.toNat ≤ ws.tsc.toNat →
      ws.tsc.toNat < (w.pool j).timerTsc.toNat + timeout.toNat →
      (w.pool j).timerTsc.toNat + timeout.toNat < 2 ^ 64 →
      ∃ fuel l w', socketTimerRun ws q timeout handler fuel w = some (l, w') ∧
        LeftDue q timeout ws.tsc w' i := by
  intro a
  induction a with
  | nil =>
      intro b w hlist hi hdue hwait hroom
      have hno : ¬ (w.pool j).timerTsc + timeout ≤ ws.tsc := by
        rw [UInt64.le_iff_toNat_le, UInt64.toNat_add, Nat.mod_eq_of_lt hroom]
        exact Nat.not_le.mpr hwait
      refine ⟨1, [], w, ?_, ?_, hdue⟩
      · rw [socketTimerRun, hlist]
        exact if_neg hno
      · rw [hlist]
        exact List.mem_cons_of_mem _ hi
  | cons x a ih =>
      intro b w hlist hi hdue hwait hroom
      by_cases hx : (w.pool x).timerTsc + timeout ≤ ws.tsc
      · -- the head is handled, and is no longer in front
        have hnodup := w.timers.nodup q
        rw [hlist, List.cons_append, List.nodup_cons] at hnodup
        have hjx : j ≠ x := fun h => hnodup.1 (by simp [← h])
        have hix : i ≠ x := fun h => hnodup.1 (by simp [← h, hi])
        obtain ⟨b', hi', hlist'⟩ : ∃ b', i ∈ b' ∧
            (w.on x fun v => handler (socketDelTimer v)).timers.list q = a ++ j :: b' := by
          rcases list_on_head (f := fun v => handler (socketDelTimer v)) (hlink (w.view x)) hlist
            with hnew | hnew
          · exact ⟨b, hi, hnew⟩
          · exact ⟨b ++ [x], List.mem_append_left _ hi,
              hnew.trans (List.append_assoc a (j :: b) [x])⟩
        obtain ⟨fuel, l, w', hrun, hleft⟩ := ih b' _ hlist' hi'
          (by rwa [Worker.on, Worker.pool_put_ne _ hix])
          (by rwa [Worker.on, Worker.pool_put_ne _ hjx])
          (by rwa [Worker.on, Worker.pool_put_ne _ hjx])
        refine ⟨fuel + 1, x :: l, w', ?_, hleft⟩
        rw [socketTimerRun, hlist]
        dsimp only [List.cons_append]
        rw [if_pos hx, hrun, Option.map_some]
      · refine ⟨1, [], w, ?_, ?_, hdue⟩
        · rw [socketTimerRun, hlist]
          exact if_neg hx
        · rw [hlist]
          simp [hi]

/-- A time, not before `now`, at which what has the date `a` is due and what has the later date `b`
is not. -/
lemma exists_due {a b timeout now : UInt64} (hab : a < b)
    (hwait : now.toNat < b.toNat + timeout.toNat) (hroom : b.toNat + timeout.toNat < 2 ^ 64) :
    ∃ t : UInt64, now ≤ t ∧ a.toNat + timeout.toNat ≤ t.toNat ∧
      t.toNat < b.toNat + timeout.toNat := by
  have hdate := UInt64.lt_iff_toNat_lt.mp hab
  by_cases hover : a.toNat + timeout.toNat ≤ now.toNat
  · exact ⟨now, UInt64.le_refl _, hover, hwait⟩
  · have hof : (UInt64.ofNat (a.toNat + timeout.toNat)).toNat = a.toNat + timeout.toNat :=
      UInt64.toNat_ofNat_of_lt' (by change _ < 2 ^ 64; omega)
    refine ⟨UInt64.ofNat (a.toNat + timeout.toNat), ?_, hof.ge, ?_⟩
    · rw [UInt64.le_iff_toNat_le, hof]
      omega
    · rw [hof]
      omega

/-- After a call that jumps back, the loop can leave its socket. -/
lemma JumpsBack.leaves (hw : Plain ws) (hs : ws.cfg.server = false) {c : Clock} {i j : Fin n}
    {k : Call} {w : Worker n} {q : TimerKind} (h : JumpsBack (ws.at c) i k w q j)
    (hroom : (w.pool j).timerTsc.toNat + (clientTimeout ws.cfg q).toNat < 2 ^ 64) :
    ∃ (c' : Clock) (fuel : ℕ) (l : List (Fin n)) (w' : Worker n), c.tsc ≤ c'.tsc ∧
      clientTimerRun (ws.at c') q fuel (w.on i (k.run (ws.at c))) = some (l, w') ∧
      LeftDue q (clientTimeout ws.cfg q) c'.tsc w' i := by
  obtain ⟨t₀, htimer, hlt⟩ := h.date
  have htold : Told (k.dating (ws.at c) (w.view i)) (k.run (ws.at c) (w.view i)) :=
    told_run (hw.at c) hs k rfl rfl
  obtain ⟨hlink, rfl⟩ := (htold.timer q t₀).mp htimer
  have hwaits : c.tsc.toNat < (w.pool j).timerTsc.toNat + (clientTimeout ws.cfg q).toNat := h.waits
  obtain ⟨t, ht₁, ht₂, ht₃⟩ := exists_due hlt hwaits hroom
  generalize hv : k.run (ws.at c) (w.view i) = v at ht₂ hlink
  have hlist : (w.on i (k.run (ws.at c))).timers.list q = (w.timers.list q).erase i ++ [i] := by
    rw [Worker.on, hv]
    change (Timers.relink i v.link w.timers).list q = _
    rw [hlink, Timers.relink, Queues.list_enqueue_self]
  obtain ⟨a, b, hab⟩ := List.append_of_mem ((w.timers.nodup q).mem_erase_iff.mpr ⟨h.other, h.mem⟩)
  rw [hab, List.append_assoc, List.cons_append] at hlist
  have hself : (w.on i (k.run (ws.at c))).pool i = v.sk := by
    rw [Worker.on, hv, Worker.pool_put_self]
  have hother : (w.on i (k.run (ws.at c))).pool j = w.pool j := by
    rw [Worker.on, Worker.pool_put_ne _ h.other]
  have hlinks := clientHandler_link (hw.at ⟨t, c.second, c.stop⟩) hs q
  have hmem : i ∈ b ++ [i] := List.mem_append_right _ (List.mem_singleton_self i)
  have hloop : ∃ fuel l w', clientTimerRun (ws.at ⟨t, c.second, c.stop⟩) q fuel
        (w.on i (k.run (ws.at c))) = some (l, w') ∧
      LeftDue q (clientTimeout ws.cfg q) t w' i := by
    refine socketTimerRun_leaves hlinks a (b ++ [i]) _ hlist hmem ?_ ?_ ?_
    · rw [hself]
      exact ht₂
    · rw [hother]
      exact ht₃
    · rw [hother]
      exact hroom
  obtain ⟨fuel, l, w', hrun, hleft⟩ := hloop
  exact ⟨⟨t, c.second, c.stop⟩, fuel, l, w', ht₁, hrun, hleft⟩

/-- **Appended in order.** As long as no call of a client appends its socket to the retransmit or
the keepalive queue with a date from before that of a socket that is in it and not due yet,
`socket_timer_run` leaves nothing that is due when it returns; after a call that does, it can
leave its socket. -/
theorem client_expiry {ws : WorkSpace} (hw : Plain ws) (hs : ws.cfg.server = false)
    {s : Clocked n} (h : ClockReach ws InOrder s) {q : TimerKind} (hq : q ≠ .timeout) :
    (∀ (c : Clock) (fuel : ℕ) (l : List (Fin n)) (w : Worker n), c.tsc = s.tsc →
      clientTimerRun (ws.at c) q fuel w = some (l, s.worker) →
      ∀ i, ¬ LeftDue q (clientTimeout ws.cfg q) c.tsc s.worker i) ∧
    ∀ (c : Clock) (i j : Fin n) (k : Call), JumpsBack (ws.at c) i k s.worker q j →
      (s.worker.pool j).timerTsc.toNat + (clientTimeout ws.cfg q).toNat < 2 ^ 64 →
      ∃ (c' : Clock) (fuel : ℕ) (l : List (Fin n)) (w' : Worker n), c.tsc ≤ c'.tsc ∧
        clientTimerRun (ws.at c') q fuel (s.worker.on i (k.run (ws.at c))) = some (l, w') ∧
        LeftDue q (clientTimeout ws.cfg q) c'.tsc w' i := by
  refine ⟨fun c fuel l w hc hrun => ?_, fun c i j k hjump hroom => hjump.leaves hw hs hroom⟩
  have horder := (clientQueues hw hs h).order q hq
  rw [← hc] at horder
  exact not_leftDue_of_along hrun horder

end Client

/-- A client that sends again after ten ticks, and every hundred ticks on a connection. -/
def Config.hundred : Config :=
  { Config.single with retransmitTimeout := 10, keepaliveRequestInterval := 100 }

/-- The same, but it sends again after a thousand ticks. -/
def Config.thousand : Config := { Config.hundred with retransmitTimeout := 1000 }

/-- A launch of a client. -/
lemma loopPermit_launch {ws : WorkSpace} (hs : ws.cfg.server = false) {i : Fin n} {w : Worker n} :
    LoopPermit ws ⟨fun _ _ _ => False, True⟩ i (.launch 1) w :=
  ⟨⟨hs, by simp, by simp [Call.queue], fun _ _ => trivial⟩, by simp⟩

/-- A turn of the retransmit timer. -/
lemma loopPermit_retransmit {ws : WorkSpace} {i : Fin n} {w : Worker n}
    (hi : i ∈ w.timers.list .retransmit) :
    LoopPermit ws ⟨fun _ _ _ => False, False⟩ i .retransmit w := by
  refine ⟨⟨trivial, by simp, fun q hq => ?_, by simp⟩, by simp⟩
  cases hq
  exact hi

/-- A worker after the launch of the socket `i` at 1000 and that of `j` at 1005. -/
def Worker.launched (i j : Fin 2) : Worker 2 :=
  ((Worker.twoPorts (.single .thousand)).on i
    (Call.run ((WorkSpace.single .thousand).at ⟨1000, 1, false⟩) (.launch 1))).on j
      (Call.run ((WorkSpace.single .thousand).at ⟨1005, 1, false⟩) (.launch 1))

/-- Two connections that are opened five ticks apart. When the first one sends its `SYN` again, it
is queued behind the second one with a later date, and the loop stops in front of that one, which
is not due yet. -/
theorem client_expiry_break :
    ∃ w : Worker 2, (Worker.launched 0 1).timers.list .retransmit = [0, 1] ∧
      clientTimerRun ((WorkSpace.single .thousand).at ⟨2003, 2, false⟩) .retransmit 2
        (Worker.launched 0 1) = some ([0], w) ∧
      w.timers.list .retransmit = [1, 0] ∧ (w.pool 0).timerTsc = 1903 ∧
      ∀ i, ¬ LeftDue .retransmit 1000 2003 w i := by
  have hplain : Plain (.single .thousand) := ⟨rfl, rfl, fun _ => rfl⟩
  -- the calls of the run, each with its time
  have hfirst : ClockStep (.single .thousand) InOrder ⟨Worker.twoPorts (.single .thousand), 0⟩
      ⟨(Worker.twoPorts (.single .thousand)).on 0
        (Call.run ((WorkSpace.single .thousand).at ⟨1000, 1, false⟩) (.launch 1)), 1000⟩ :=
    .call (by decide) (loopPermit_launch rfl) (by decide)
  have hsecond : ClockStep (.single .thousand) InOrder
      ⟨(Worker.twoPorts (.single .thousand)).on 0
        (Call.run ((WorkSpace.single .thousand).at ⟨1000, 1, false⟩) (.launch 1)), 1000⟩
      ⟨Worker.launched 0 1, 1005⟩ :=
    .call (by decide) (loopPermit_launch rfl) (by decide)
  have hagain : ClockStep (.single .thousand) InOrder ⟨Worker.launched 0 1, 1005⟩
      ⟨(Worker.launched 0 1).on 0
        (Call.run ((WorkSpace.single .thousand).at ⟨2003, 2, false⟩) .retransmit), 2003⟩ :=
    .call (by decide) (loopPermit_retransmit (by decide)) (by decide)
  have hrun : clientTimerRun ((WorkSpace.single .thousand).at ⟨2003, 2, false⟩) .retransmit 2
      (Worker.launched 0 1) = some ([0], (Worker.launched 0 1).on 0
        (Call.run ((WorkSpace.single .thousand).at ⟨2003, 2, false⟩) .retransmit)) := rfl
  have hreach : ClockReach (.single .thousand) InOrder _ :=
    ⟨_, Worker.twoPorts_initial _, ((Relation.ReflTransGen.single hfirst).tail hsecond).tail hagain⟩
  refine ⟨_, by decide, hrun, by decide, by decide, ?_⟩
  exact (client_expiry (q := .retransmit) hplain rfl hreach (by simp)).1 ⟨2003, 2, false⟩ 2 [0] _
    rfl hrun

/-- Two connections that are opened five ticks apart: when the first one sends its `SYN` again,
it is queued behind the second one with the time at which it was opened, and left there. -/
theorem client_leaves_due :
    ∃ (s : Clocked 2) (c : Clock) (l : List (Fin 2)) (w' : Worker 2),
      ClockReach (.single .hundred) anyQueueCall s ∧ s.tsc ≤ c.tsc ∧
      clientTimerRun ((WorkSpace.single .hundred).at c) .retransmit 2 s.worker = some (l, w') ∧
      LeftDue .retransmit (clientTimeout .hundred .retransmit) c.tsc w' 0 := by
  have hrun : (runEvents { SocketTable.twoPorts 0 with rss := false } (.single .hundred)
      [(⟨1000, 1, false⟩, .launch 1), (⟨1005, 1, false⟩, .launch 1)]
      (Worker.twoPorts (.single .hundred))).any (fun w =>
        (clientTimerRun ((WorkSpace.single .hundred).at ⟨1010, 1, false⟩) .retransmit 2 w).any
          fun r => decide (0 ∈ r.2.timers.list .retransmit) &&
            decide ((r.2.pool 0).timerTsc.toNat + 10 ≤ 1010)) = true := by decide
  obtain ⟨w, hw, hp⟩ := (Option.any_eq_true _ _).mp hrun
  obtain ⟨⟨l, w'⟩, hloop, hleft⟩ := (Option.any_eq_true _ _).mp hp
  rw [Bool.and_eq_true, decide_eq_true_eq, decide_eq_true_eq] at hleft
  obtain ⟨t, hsteps, ht⟩ := clockSteps_of_runEvents
    (s := ⟨Worker.twoPorts (.single .hundred), 1000⟩) (by decide) hw
  have hreach : ClockReach (.single .hundred) anyQueueCall ⟨w, t⟩ :=
    ⟨_, Worker.twoPorts_initial _, hsteps⟩
  exact ⟨⟨w, t⟩, ⟨1010, 1, false⟩, l, w', hreach, ht 1010 (by decide) (by decide), hloop, hleft.1,
    hleft.2⟩

end Dperf
