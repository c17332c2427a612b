import Dperf.Ticks

/-!
The CPU usage of a worker: `cpuload.h`, `cpuload.c`, and what `server_loop` and `client_loop` do
with the time stamp counter.

* `cpuloadCalCpusage`: the usage since the last call; nothing comes back where it divides by zero.
* `serverLoop`, `clientLoop`: a turn of the loops. What they do with packets and sockets is left
  out, for it changes neither the counters nor the load.
* `cpuloadCalCpusage_le`, `cpuloadCalCpusage_eq_none_iff`: what comes back is a percentage; the
  division is by zero if the last call was less than 128 cycles ago.
* `Advance`: what a turn does, the same for both loops (`serverLoop_advance`,
  `clientLoop_advance`).
-/

namespace Dperf

open Periods

/-! ### The load -/

/-- `struct cpuload`. -/
structure Cpuload where
  initTsc : UInt64
  startTsc : UInt64
  workTsc : UInt64 := 0

/-- `cpuload_init`; `rdtsc` is the time stamp counter. -/
def cpuloadInit (rdtsc : UInt64) : Cpuload := { initTsc := rdtsc, startTsc := rdtsc }

/-- `CPULOAD_ADD_TSC`, but for the `work` of the caller, which it sets to zero. -/
def cpuloadAddTsc (load : Cpuload) (nowTsc : UInt64) (work : Int32) : Cpuload :=
  { load with
    workTsc := if work ≠ 0 then load.workTsc + (nowTsc - load.startTsc) else load.workTsc
    startTsc := nowTsc }

/-- `cpuload_cal_cpusage`; nothing where it divides by zero. -/
def cpuloadCalCpusage (load : Cpuload) (nowTsc : UInt64) : Option (UInt32 × Cpuload) :=
  let total := nowTsc - load.initTsc
  let work := load.workTsc
  let usage : Option UInt32 :=
    if work ≤ total then
      -- reduce
      let work := work / 128
      let total := total / 128
      if total = 0 then none else some ((work * 100) / total).toUInt32
    else some 100
  usage.map fun usage => (usage, { initTsc := nowTsc, startTsc := nowTsc })

/-! ### The loops -/

/-- Where a loop is: it goes on, it was left by `break`, a counter does not return, or a division
by zero has ended the program. -/
inductive LoopStatus where
  | running | left | stuck | crashed
  deriving DecidableEq

/-- The part of `struct work_space` that is about time, the `work` of the loop, and what
`cpuload_cal_cpusage` has returned. -/
structure LoopState where
  time : TickTime
  load : Cpuload
  work : Int32 := 0
  usages : List UInt32 := []
  status : LoopStatus := .running

/-- `net_stats_timer_handler`. -/
def netStatsTimerHandler (s : LoopState) : LoopState :=
  match cpuloadCalCpusage s.load s.time.tsc with
  | none => { s with status := .crashed }
  | some (usage, load) => { s with load := load, usages := s.usages ++ [usage] }

/-- `slow_timer_run`; where it returns -1 the loop is left. `exit` is `ws->exit`. -/
def slowTimerRun (fuel : ℕ) (exit : Bool) (s : LoopState) : LoopState :=
  match tscTimeGo s.time.tsc fuel s.time.ms100 with
  | none => { s with status := .stuck }
  | some (ms100, tt) =>
      let s := { s with time.ms100 := tt }
      if 0 < ms100 then
        match tscTimeGo s.time.tsc fuel s.time.second with
        | none => { s with status := .stuck }
        | some (seconds, tt) =>
            let s := { s with time.second := tt }
            if 0 < seconds then
              let s := netStatsTimerHandler s
              if s.status = .running ∧ exit = true then { s with status := .left } else s
            else s
      else s

/-- What a turn of `server_loop` meets: the number of packets that `rte_eth_rx_burst` returns, the
time stamp counter in step 2, and `ws->exit`. -/
structure ServerTurn where
  nbRx : ℕ := 0
  tsc : UInt64
  exit : Bool := false

/-- What `server_recv_mbuf` returns. -/
def serverRecvMbuf (nbRx : ℕ) : Int32 := if nbRx ≠ 0 then 1 else 0

/-- A turn of `server_loop`. -/
def serverLoop (fuel : ℕ) (t : ServerTurn) (s : LoopState) : LoopState :=
  -- step 1
  let s := { s with work := s.work + serverRecvMbuf t.nbRx }
  -- step 2
  let s := { s with time := tickTimeUpdate t.tsc s.time }
  match tscTimeGo s.time.tsc fuel s.time.tick with
  | none => { s with status := .stuck }
  | some (ticks, tick) =>
      let s := { s with time.tick := tick }
      let s := { s with load := cpuloadAddTsc s.load s.time.tsc s.work, work := 0 }
      if 0 < ticks then slowTimerRun fuel t.exit { s with work := 1 } else s

/-- What a turn of `client_loop` meets: the time stamp counter at the first packet and at every 64th
after it, and in step 2; what `client_launch` returns there; `ws->exit`; and the time stamp counter
after the timers, if they are run. -/
structure ClientTurn where
  rxTsc : List UInt64 := []
  tsc : UInt64
  launch : Int32 := 0
  exit : Bool := false
  timerTsc : UInt64

/-- `client_recv_mbuf`. -/
def clientRecvMbuf (rxTsc : List UInt64) (s : LoopState) : LoopState :=
  { s with
    time := rxTsc.foldl (fun tt x => tickTimeUpdate x tt) s.time
    work := s.work + if rxTsc ≠ [] then 1 else 0 }

/-- A turn of `client_loop`. -/
def clientLoop (fuel : ℕ) (t : ClientTurn) (s : LoopState) : LoopState :=
  -- step 1
  let s := clientRecvMbuf t.rxTsc s
  -- step 2
  let s := { s with time := tickTimeUpdate t.tsc s.time }
  let s := { s with load := cpuloadAddTsc s.load s.time.tsc s.work, work := 0 }
  let s := { s with work := s.work + t.launch }
  match tscTimeGo s.time.tsc fuel s.time.tick with
  | none => { s with status := .stuck }
  | some (ticks, tick) =>
      let s := { s with time.tick := tick }
      if 0 < ticks then
        let s := slowTimerRun fuel t.exit { s with work := 1 }
        if s.status = .running then { s with time := tickTimeUpdate t.timerTsc s.time } else s
      else s

/-- The readings of a turn, in their order. -/
def ClientTurn.readings (t : ClientTurn) : List UInt64 := t.rxTsc ++ [t.tsc, t.timerTsc]

/-- A worker before its loop: `tick_init`, then `tick_time_init` and `cpuload_init` with the time
stamp counter at each. -/
def LoopState.start (hz : UInt64) (ticksPerSec : Int32) (timeTsc loadTsc : UInt64) : LoopState where
  time := tickTimeInit (tickInit hz ticksPerSec).1 (tickInit hz ticksPerSec).2 timeTsc
  load := cpuloadInit loadTsc

/-- The turns of a loop one after the other, as long as it goes on. -/
def runLoop {τ : Type} (turn : τ → LoopState → LoopState) (s : LoopState) (turns : List τ) :
    LoopState :=
  turns.foldl (fun s t => if s.status = .running then turn t s else s) s

/-- No call of `cpuload_cal_cpusage` has divided by zero, and all of them have returned a
percentage. -/
structure CpusageRight (s : LoopState) : Prop where
  running : s.status ≠ .crashed
  usage : ∀ u ∈ s.usages, u ≤ 100

/-! ### The usage -/

/-- The time spent working is part of the time since the last call. -/
structure Cpuload.Loaded (load : Cpuload) : Prop where
  init : load.initTsc ≤ load.startTsc
  work : load.initTsc.toNat + load.workTsc.toNat ≤ load.startTsc.toNat

section Load

variable {load : Cpuload} {x : UInt64}

lemma cpuloadInit_loaded (rdtsc : UInt64) : (cpuloadInit rdtsc).Loaded :=
  ⟨UInt64.le_refl rdtsc, Nat.le_of_eq (Nat.add_zero _)⟩

lemma Cpuload.Loaded.addTsc (h : load.Loaded) (hx : load.startTsc ≤ x) (work : Int32) :
    (cpuloadAddTsc load x work).Loaded := by
  have hwork := h.work
  have hinit := h.init
  have hlt := x.toNat_lt
  rw [UInt64.le_iff_toNat_le] at hx hinit
  refine ⟨UInt64.le_iff_toNat_le.mpr (hinit.trans hx), ?_⟩
  rw [cpuloadAddTsc]
  dsimp only
  split_ifs
  · rw [UInt64.toNat_add, UInt64.toNat_sub_of_le _ _ (UInt64.le_iff_toNat_le.mpr hx)]
    rw [Nat.mod_eq_of_lt (by omega)]
    omega
  · omega

/-- A usage is a percentage: the work is not more than the time, also in units of 128 cycles. -/
lemma cpuloadCalCpusage_le {usage : UInt32} {load' : Cpuload}
    (h : cpuloadCalCpusage load x = some (usage, load')) :
    usage ≤ 100 ∧ load' = cpuloadInit x := by
  rw [cpuloadCalCpusage] at h
  dsimp only at h
  obtain ⟨u, hu, heq⟩ := Option.map_eq_some_iff.mp h
  obtain ⟨rfl, rfl⟩ := Prod.mk.inj heq
  refine ⟨?_, rfl⟩
  split_ifs at hu with hle hzero
  · obtain rfl := Option.some.inj hu
    generalize x - load.initTsc = total at hle hzero ⊢
    have hreduced : load.workTsc.toNat / 128 ≤ total.toNat / 128 :=
      Nat.div_le_div_right (UInt64.le_iff_toNat_le.mp hle)
    have hlt := load.workTsc.toNat_lt
    have hpercent : load.workTsc.toNat / 128 * 100 / (total.toNat / 128) ≤ 100 :=
      Nat.div_le_of_le_mul (Nat.mul_le_mul_right 100 hreduced)
    have hmul : (load.workTsc / 128 * 100).toNat = load.workTsc.toNat / 128 * 100 := by
      rw [UInt64.toNat_mul, UInt64.toNat_div]
      exact Nat.mod_eq_of_lt (by change load.workTsc.toNat / 128 * 100 < 2 ^ 64; omega)
    rw [UInt32.le_iff_toNat_le, UInt64.toNat_toUInt32, UInt64.toNat_div, hmul, UInt64.toNat_div]
    exact (Nat.mod_le _ _).trans hpercent
  · obtain rfl := Option.some.inj hu
    exact UInt32.le_refl 100

/-- The division is by zero if the last call was less than 128 cycles ago. -/
lemma cpuloadCalCpusage_eq_none_iff (h : load.Loaded) (hx : load.startTsc = x) :
    cpuloadCalCpusage load x = none ↔ ¬ Apart 128 load.initTsc.toNat x.toNat := by
  subst hx
  have hinit := UInt64.le_iff_toNat_le.mp h.init
  have hwork := h.work
  have htotal : (load.startTsc - load.initTsc).toNat =
      load.startTsc.toNat - load.initTsc.toNat := UInt64.toNat_sub_of_le _ _ h.init
  have hle : load.workTsc ≤ load.startTsc - load.initTsc := by
    rw [UInt64.le_iff_toNat_le, htotal]
    omega
  have hzero : (load.startTsc - load.initTsc) / 128 = 0 ↔
      ¬ Apart 128 load.initTsc.toNat load.startTsc.toNat := by
    rw [← UInt64.toNat_inj, UInt64.toNat_div, htotal, Apart]
    change (load.startTsc.toNat - load.initTsc.toNat) / 128 = 0 ↔ _
    omega
  rw [cpuloadCalCpusage, Option.map_eq_none_iff]
  dsimp only
  rw [if_pos hle, ← hzero]
  by_cases hdiv : (load.startTsc - load.initTsc) / 128 = 0
  · rw [if_pos hdiv]
    exact iff_of_true rfl hdiv
  · rw [if_neg hdiv]
    exact iff_of_false (Option.some_ne_none _) hdiv

end Load

/-! ### Turns -/

/-- The counters of tenths and of seconds at the time: whether both pass. -/
def TickTime.slowPass (fuel : ℕ) (tt : TickTime) : Option (Bool × TickTime) :=
  (tscTimeGo tt.tsc fuel tt.ms100).bind fun ms100 =>
    if 0 < ms100.1 then
      (tscTimeGo tt.tsc fuel tt.second).map fun second =>
        (decide (0 < second.1), { tt with ms100 := ms100.2, second := second.2 })
    else some (false, { tt with ms100 := ms100.2 })

/-- All three counters at the time: whether they all pass. -/
def TickTime.allPass (fuel : ℕ) (tt : TickTime) : Option (Bool × TickTime) :=
  (tscTimeGo tt.tsc fuel tt.tick).bind fun tick =>
    if 0 < tick.1 then { tt with tick := tick.2 }.slowPass fuel
    else some (false, { tt with tick := tick.2 })

/-- What `slow_timer_run` does. -/
inductive SlowStep (fuel : ℕ) (exit : Bool) (s : LoopState) : LoopState → Prop
  | stuck {s'} (h : s.time.slowPass fuel = none) (hs : s'.status = .stuck)
      (hu : s'.usages = s.usages) : SlowStep fuel exit s s'
  | quiet {tt} (h : s.time.slowPass fuel = some (false, tt)) :
      SlowStep fuel exit s { s with time := tt }
  | crashed {s' tt} (h : s.time.slowPass fuel = some (true, tt))
      (hcal : cpuloadCalCpusage s.load s.time.tsc = none) (hs : s'.status = .crashed)
      (hu : s'.usages = s.usages) : SlowStep fuel exit s s'
  | called {tt usage load} (h : s.time.slowPass fuel = some (true, tt))
      (hcal : cpuloadCalCpusage s.load s.time.tsc = some (usage, load)) :
      SlowStep fuel exit s { s with
        time := tt, load := load, usages := s.usages ++ [usage]
        status := if exit then .left else s.status }

/-- What a turn of a loop does at the time `x`. -/
inductive Advance (fuel : ℕ) (x : UInt64) (exit : Bool) (s : LoopState) : LoopState → Prop
  | stuck {s'} (h : (tickTimeUpdate x s.time).allPass fuel = none) (hs : s'.status = .stuck)
      (hu : s'.usages = s.usages) : Advance fuel x exit s s'
  | quiet {s' tt y work} (h : (tickTimeUpdate x s.time).allPass fuel = some (false, tt))
      (hs : s'.status = .running) (hu : s'.usages = s.usages)
      (ht : s'.time = tickTimeUpdate y tt) (hl : s'.load = cpuloadAddTsc s.load x work) :
      Advance fuel x exit s s'
  | crashed {s' tt work} (h : (tickTimeUpdate x s.time).allPass fuel = some (true, tt))
      (hcal : cpuloadCalCpusage (cpuloadAddTsc s.load x work) x = none)
      (hs : s'.status = .crashed) (hu : s'.usages = s.usages) : Advance fuel x exit s s'
  | called {s' tt y work usage} (h : (tickTimeUpdate x s.time).allPass fuel = some (true, tt))
      (hcal : cpuloadCalCpusage (cpuloadAddTsc s.load x work) x = some (usage, s'.load))
      (hs : s'.status = if exit then .left else .running)
      (hu : s'.usages = s.usages ++ [usage]) (ht : s'.time = tickTimeUpdate y tt) :
      Advance fuel x exit s s'

section Turns

variable {fuel : ℕ} {exit : Bool} {s : LoopState}

lemma slowTimerRun_step (h : s.status = .running) :
    SlowStep fuel exit s (slowTimerRun fuel exit s) := by
  rw [slowTimerRun]
  rcases hms : tscTimeGo s.time.tsc fuel s.time.ms100 with _ | ⟨ms100, tt⟩
  · exact .stuck (by rw [TickTime.slowPass, hms, Option.bind_none]) rfl rfl
  dsimp only
  by_cases hpass : 0 < ms100
  swap
  · rw [if_neg hpass]
    exact .quiet (by rw [TickTime.slowPass, hms, Option.bind_some, if_neg hpass])
  rw [if_pos hpass]
  rcases hsec : tscTimeGo s.time.tsc fuel s.time.second with _ | ⟨seconds, tt'⟩
  · refine .stuck ?_ rfl rfl
    rw [TickTime.slowPass, hms, Option.bind_some, if_pos hpass, hsec, Option.map_none]
  have hslow : s.time.slowPass fuel =
      some (decide (0 < seconds), { s.time with ms100 := tt, second := tt' }) := by
    rw [TickTime.slowPass, hms, Option.bind_some, if_pos hpass, hsec, Option.map_some]
  dsimp only
  by_cases hsecond : 0 < seconds
  swap
  · rw [if_neg hsecond]
    rw [decide_eq_false hsecond] at hslow
    exact .quiet hslow
  rw [if_pos hsecond]
  rw [decide_eq_true hsecond] at hslow
  rw [netStatsTimerHandler]
  dsimp only
  rcases hcal : cpuloadCalCpusage s.load s.time.tsc with _ | ⟨usage, load⟩
  · exact .crashed hslow hcal rfl rfl
  · have hcalled : SlowStep fuel exit s _ := .called hslow hcal
    dsimp only
    by_cases hexit : exit = true
    · rw [if_pos ⟨h, hexit⟩]
      rwa [if_pos hexit] at hcalled
    · rw [if_neg fun hleft => hexit hleft.2]
      rwa [if_neg hexit] at hcalled

/-- A turn whose tick does not return. -/
lemma Advance.of_none {x : UInt64} {s' : LoopState} (h : tscTimeGo x fuel s.time.tick = none)
    (hs : s'.status = .stuck) (hu : s'.usages = s.usages) : Advance fuel x exit s s' := by
  refine .stuck ?_ hs hu
  rw [TickTime.allPass, tickTimeUpdate]
  dsimp only
  rw [h, Option.bind_none]

/-- A turn whose tick does not pass. -/
lemma Advance.of_quiet {x ticks : UInt64} {tick : TscTime} {s' : LoopState} {work : Int32}
    (h : tscTimeGo x fuel s.time.tick = some (ticks, tick)) (hpass : ¬ 0 < ticks)
    (hs : s'.status = .running) (hu : s'.usages = s.usages)
    (ht : s'.time = { tickTimeUpdate x s.time with tick := tick })
    (hl : s'.load = cpuloadAddTsc s.load x work) : Advance fuel x exit s s' := by
  have hall : (tickTimeUpdate x s.time).allPass fuel =
      some (false, { tickTimeUpdate x s.time with tick := tick }) := by
    rw [TickTime.allPass, tickTimeUpdate]
    dsimp only
    rw [h, Option.bind_some, if_neg hpass]
  exact .quiet (y := x) hall hs hu (by rw [ht]; rfl) hl

/-- A turn whose tick passes. -/
lemma SlowStep.advance {x ticks : UInt64} {tick : TscTime} {s₁ s₂ : LoopState} {work : Int32}
    (hslow : SlowStep fuel exit s₁ s₂) (h : tscTimeGo x fuel s.time.tick = some (ticks, tick))
    (hpass : 0 < ticks) (hs : s₁.status = .running) (hu : s₁.usages = s.usages)
    (ht : s₁.time = { tickTimeUpdate x s.time with tick := tick })
    (hl : s₁.load = cpuloadAddTsc s.load x work) : Advance fuel x exit s s₂ := by
  have hall : (tickTimeUpdate x s.time).allPass fuel = s₁.time.slowPass fuel := by
    rw [TickTime.allPass, ht, tickTimeUpdate]
    dsimp only
    rw [h, Option.bind_some, if_pos hpass]
  have hx : s₁.time.tsc = x := by
    rw [ht]
    rfl
  cases hslow with
  | stuck hnone hstuck husages => exact .stuck (hall.trans hnone) hstuck (husages.trans hu)
  | @quiet tt hsome => exact .quiet (y := tt.tsc) (hall.trans hsome) hs hu rfl hl
  | crashed hsome hcal hcrashed husages =>
      rw [hl, hx] at hcal
      exact .crashed (hall.trans hsome) hcal hcrashed (husages.trans hu)
  | @called tt usage load hsome hcal =>
      rw [hl, hx] at hcal
      exact .called (y := tt.tsc) (hall.trans hsome) hcal (by rw [hs]) (by rw [hu]) rfl

/-- The time may be taken once more at the end of a turn. -/
lemma Advance.update {x : UInt64} {s' : LoopState} (h : Advance fuel x exit s s') (y : UInt64) :
    Advance fuel x exit s
      (if s'.status = .running then { s' with time := tickTimeUpdate y s'.time } else s') := by
  split_ifs with hrun
  · cases h with
    | stuck hnone hs hu => exact .stuck hnone hs hu
    | quiet hsome hs hu ht hl => exact .quiet (y := y) hsome hs hu (by rw [ht]; rfl) hl
    | crashed hsome hcal hs hu => exact .crashed hsome hcal hs hu
    | called hsome hcal hs hu ht => exact .called (y := y) hsome hcal hs hu (by rw [ht]; rfl)
  · exact h

/-- A turn of `server_loop`. -/
lemma serverLoop_advance (t : ServerTurn) (h : s.status = .running) :
    Advance fuel t.tsc t.exit s (serverLoop fuel t s) := by
  rw [serverLoop, tickTimeUpdate]
  dsimp only
  rcases htick : tscTimeGo t.tsc fuel s.time.tick with _ | ⟨ticks, tick⟩
  · exact .of_none htick rfl rfl
  dsimp only
  by_cases hpass : 0 < ticks
  · rw [if_pos hpass]
    refine (slowTimerRun_step ?_).advance htick hpass h rfl rfl rfl
    exact h
  · rw [if_neg hpass]
    exact .of_quiet htick hpass h rfl rfl rfl

/-- What `client_recv_mbuf` does to the counters. -/
lemma clientRecvMbuf_time (rxTsc : List UInt64) (s : LoopState) :
    ∃ y, (clientRecvMbuf rxTsc s).time = tickTimeUpdate y s.time := by
  have hfold : ∀ (l : List UInt64) (tt : TickTime),
      ∃ y, l.foldl (fun tt x => tickTimeUpdate x tt) tt = tickTimeUpdate y tt := by
    intro l
    induction l with
    | nil => exact fun tt => ⟨tt.tsc, rfl⟩
    | cons x l ih =>
        intro tt
        obtain ⟨y, hy⟩ := ih (tickTimeUpdate x tt)
        exact ⟨y, hy⟩
  exact hfold rxTsc s.time

/-- A turn of `client_loop`. -/
lemma clientLoop_advance (t : ClientTurn) (h : s.status = .running) :
    Advance fuel t.tsc t.exit s (clientLoop fuel t s) := by
  obtain ⟨y, hy⟩ := clientRecvMbuf_time t.rxTsc s
  rw [clientLoop, hy, tickTimeUpdate, tickTimeUpdate]
  dsimp only
  rcases htick : tscTimeGo t.tsc fuel s.time.tick with _ | ⟨ticks, tick⟩
  · exact .of_none htick rfl rfl
  dsimp only
  by_cases hpass : 0 < ticks
  · rw [if_pos hpass]
    refine Advance.update ?_ t.timerTsc
    refine (slowTimerRun_step ?_).advance htick hpass h rfl rfl rfl
    exact h
  · rw [if_neg hpass]
    exact .of_quiet htick hpass h rfl rfl rfl

end Turns

end Dperf
