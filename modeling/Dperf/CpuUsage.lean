import Dperf.CpuLoad

/-!
The calls of `cpuload_cal_cpusage` over whole runs of `server_loop` and `client_loop`.

* `cpusageTurns`: the turns with a call. They are determined by the counters, which are asked in
  turn: the tick at every turn, the tenths at those where the tick passes, the seconds at those
  where a tenth passes.
* `CallsApart`: no two calls follow each other within 128 cycles.
* `runLoop_crashed_iff`: a run of either loop divides by zero if and only if two calls are not
  apart.
* `secondTurns_eq`, `callsApart_iff`: the calls are at the readings in a later tick, tenth and
  second, unless the sums leave their 64 bits.
* `callsApart_of_within`: if no turn takes most of a second, the calls are apart.
* `loops_right_iff`: what this says of both loops, from the start of a worker on.
-/

namespace Dperf

open Periods

/-! ### The turns with a call -/

section Calls

variable {τ : Type} (tsc : τ → UInt64) (exit : τ → Bool) (fuel : ℕ)

/-- The turns up to the first after which the loop is left. -/
def untilExit : List τ → List τ
  | [] => []
  | t :: l => if exit t then [t] else t :: untilExit l

/-- The turns at which all counters pass. -/
def secondTurns (tt : TickTime) (l : List τ) : List τ :=
  passing tsc fuel tt.second (passing tsc fuel tt.ms100 (passing tsc fuel tt.tick l))

/-- The turns with a call of `cpuload_cal_cpusage`. -/
def cpusageTurns (tt : TickTime) (l : List τ) : List τ := untilExit exit (secondTurns tsc fuel tt l)

/-- Each call comes at least 128 cycles after the one before it, the first after the load is set
up. -/
def CallsApart (s : LoopState) (l : List τ) : Prop :=
  (s.load.initTsc.toNat ::
    (cpusageTurns tsc exit fuel s.time l).map fun t => (tsc t).toNat).IsChain (Apart 128)

variable {tsc exit fuel} {tt : TickTime} {t : τ} {l : List τ}

lemma untilExit_sublist (l : List τ) : (untilExit exit l).Sublist l := by
  induction l with
  | nil => exact List.Sublist.slnil
  | cons t l ih =>
      rw [untilExit]
      split_ifs
      · exact (List.nil_sublist l).cons_cons t
      · exact ih.cons_cons t

lemma secondTurns_cons (tt : TickTime) (t : τ) (l : List τ) :
    secondTurns tsc fuel tt (t :: l) =
      ((tickTimeUpdate (tsc t) tt).allPass fuel).elim [] fun r =>
        if r.1 then t :: secondTurns tsc fuel r.2 l else secondTurns tsc fuel r.2 l := by
  rw [TickTime.allPass, tickTimeUpdate, secondTurns]
  dsimp only
  rcases htick : tscTimeGo (tsc t) fuel tt.tick with _ | ⟨ticks, tick⟩
  · rw [passing_none htick]
    rfl
  rw [passing_some htick, Option.bind_some]
  dsimp only
  by_cases hticks : 0 < ticks
  swap
  · rw [if_neg hticks, if_neg hticks]
    rfl
  rw [if_pos hticks, if_pos hticks, TickTime.slowPass]
  dsimp only
  rcases hms : tscTimeGo (tsc t) fuel tt.ms100 with _ | ⟨ms, ms100⟩
  · rw [passing_none hms]
    rfl
  rw [passing_some hms, Option.bind_some]
  dsimp only
  by_cases hpass : 0 < ms
  swap
  · rw [if_neg hpass, if_neg hpass]
    rfl
  rw [if_pos hpass, if_pos hpass]
  rcases hsec : tscTimeGo (tsc t) fuel tt.second with _ | ⟨seconds, second⟩
  · rw [passing_none hsec]
    rfl
  rw [passing_some hsec, Option.map_some, Option.elim_some]
  dsimp only
  by_cases hsecond : 0 < seconds
  · rw [if_pos hsecond, if_pos (decide_eq_true hsecond)]
    rfl
  · rw [if_neg hsecond, if_neg (by simp [hsecond])]
    rfl

lemma cpusageTurns_none (h : (tickTimeUpdate (tsc t) tt).allPass fuel = none) :
    cpusageTurns tsc exit fuel tt (t :: l) = [] := by
  rw [cpusageTurns, secondTurns_cons, h]
  rfl

lemma cpusageTurns_false {tt' : TickTime}
    (h : (tickTimeUpdate (tsc t) tt).allPass fuel = some (false, tt')) :
    cpusageTurns tsc exit fuel tt (t :: l) = cpusageTurns tsc exit fuel tt' l := by
  rw [cpusageTurns, secondTurns_cons, h]
  rfl

lemma cpusageTurns_true {tt' : TickTime}
    (h : (tickTimeUpdate (tsc t) tt).allPass fuel = some (true, tt')) :
    cpusageTurns tsc exit fuel tt (t :: l) =
      if exit t then [t] else t :: cpusageTurns tsc exit fuel tt' l := by
  rw [cpusageTurns, secondTurns_cons, h]
  rfl

end Calls

/-! ### Runs -/

section Run

variable {τ : Type} {turn : τ → LoopState → LoopState} {tsc : τ → UInt64} {exit : τ → Bool}
  {fuel : ℕ} {s : LoopState}

/-- A loop that has ended does nothing more. -/
lemma runLoop_ended (h : s.status ≠ .running) (l : List τ) : runLoop turn s l = s := by
  induction l with
  | nil => rfl
  | cons t l ih =>
      rw [runLoop, List.foldl_cons, if_neg h]
      exact ih

lemma runLoop_cons (h : s.status = .running) (t : τ) (l : List τ) :
    runLoop turn s (t :: l) = runLoop turn (turn t s) l := by
  rw [runLoop, List.foldl_cons, if_pos h]
  rfl

/-- Every call that comes back returns a percentage. -/
lemma runLoop_usages_le
    (hturn : ∀ t s, s.status = .running → Advance fuel (tsc t) (exit t) s (turn t s))
    (l : List τ) : ∀ {s : LoopState}, (∀ u ∈ s.usages, u ≤ 100) →
      ∀ u ∈ (runLoop turn s l).usages, u ≤ 100 := by
  induction l with
  | nil => exact fun h => h
  | cons t l ih =>
      intro s husage
      by_cases hrun : s.status = .running
      swap
      · rwa [runLoop_ended hrun]
      rw [runLoop_cons hrun]
      refine ih ?_
      have hadvance := hturn t s hrun
      generalize turn t s = s' at hadvance ⊢
      cases hadvance with
      | stuck _ _ hu => rwa [hu]
      | quiet _ _ hu _ _ => rwa [hu]
      | crashed _ _ _ hu => rwa [hu]
      | called _ hcal _ hu _ =>
          intro u hmem
          rw [hu, List.mem_append, List.mem_singleton] at hmem
          rcases hmem with hmem | rfl
          · exact husage u hmem
          · exact (cpuloadCalCpusage_le hcal).1

/-- A run of a loop, turn by turn: the counters decide whether there is a call, and the time since
the last call decides whether it divides by zero. -/
theorem runLoop_crashed_iff
    (hturn : ∀ t s, s.status = .running → Advance fuel (tsc t) (exit t) s (turn t s))
    (l : List τ) : ∀ {s : LoopState}, s.status = .running → s.load.Loaded →
      (s.load.startTsc :: l.map tsc).IsChain (· ≤ ·) →
      ((runLoop turn s l).status = .crashed ↔ ¬ CallsApart tsc exit fuel s l) := by
  induction l with
  | nil =>
      intro s hrun _ _
      refine iff_of_false ?_ (not_not_intro (List.isChain_singleton _))
      rw [runLoop, List.foldl_nil, hrun]
      decide
  | cons t l ih =>
      intro s hrun hload hchain
      obtain ⟨hle, hl⟩ := List.isChain_cons_cons.mp hchain
      rw [runLoop_cons hrun, CallsApart]
      have hadvance := hturn t s hrun
      generalize turn t s = s' at hadvance ⊢
      cases hadvance with
      | stuck hnone hs _ =>
          rw [runLoop_ended (by rw [hs]; decide), cpusageTurns_none hnone]
          exact iff_of_false (by rw [hs]; decide) (not_not_intro (List.isChain_singleton _))
      | @quiet tt y work hfalse hs _ ht hadd =>
          have hinit : s'.load.initTsc = s.load.initTsc := by rw [hadd]; rfl
          have hstart : s'.load.startTsc = tsc t := by rw [hadd]; rfl
          have hrest := ih hs (by rw [hadd]; exact hload.addTsc hle work) (by rwa [hstart])
          rw [hrest, CallsApart, hinit, ht, cpusageTurns_false hfalse]
          rfl
      | @crashed tt work htrue hcal hs _ =>
          have hclose := (cpuloadCalCpusage_eq_none_iff (hload.addTsc hle work) rfl).mp hcal
          rw [runLoop_ended (by rw [hs]; decide), cpusageTurns_true htrue]
          refine iff_of_true hs fun hapart => hclose ?_
          split_ifs at hapart
          · exact (List.isChain_cons_cons.mp hapart).1
          · exact (List.isChain_cons_cons.mp hapart).1
      | @called tt y work usage htrue hcal hs _ ht =>
          have hnew := (cpuloadCalCpusage_le hcal).2
          have hapart : Apart 128 s.load.initTsc.toNat (tsc t).toNat := by
            by_contra hclose
            have hnone : cpuloadCalCpusage (cpuloadAddTsc s.load (tsc t) work) (tsc t) = none :=
              (cpuloadCalCpusage_eq_none_iff (hload.addTsc hle work) rfl).mpr hclose
            rw [hnone] at hcal
            cases hcal
          rw [cpusageTurns_true htrue]
          by_cases hexit : exit t = true
          · rw [if_pos hexit] at hs ⊢
            rw [runLoop_ended (by rw [hs]; decide)]
            refine iff_of_false (by rw [hs]; decide) (not_not_intro ?_)
            exact List.isChain_cons_cons.mpr ⟨hapart, List.isChain_singleton _⟩
          · rw [if_neg hexit] at hs ⊢
            have hrest := ih hs (by rw [hnew]; exact cpuloadInit_loaded _) (by rw [hnew]; exact hl)
            rw [hrest, CallsApart, hnew, ht, List.map_cons]
            exact not_congr ((List.isChain_cons_cons).trans (and_iff_right hapart)).symm

/-- A run is right if and only if its calls are apart. -/
lemma runLoop_right_iff
    (hturn : ∀ t s, s.status = .running → Advance fuel (tsc t) (exit t) s (turn t s))
    {hz : UInt64} {ticksPerSec : Int32} {timeTsc loadTsc : UInt64} {l : List τ}
    (hchain : (loadTsc :: l.map tsc).IsChain (· ≤ ·)) :
    CpusageRight (runLoop turn (.start hz ticksPerSec timeTsc loadTsc) l) ↔
      CallsApart tsc exit fuel (.start hz ticksPerSec timeTsc loadTsc) l := by
  have hcrashed := runLoop_crashed_iff hturn l (s := .start hz ticksPerSec timeTsc loadTsc) rfl
    (cpuloadInit_loaded loadTsc) hchain
  have husage := runLoop_usages_le hturn l (s := .start hz ticksPerSec timeTsc loadTsc)
    fun u hu => absurd hu List.not_mem_nil
  exact ⟨fun hright => not_not.mp (mt hcrashed.mpr hright.running),
    fun hapart => ⟨mt hcrashed.mp (not_not_intro hapart), husage⟩⟩

end Run

/-! ### Readings -/

/-- What is taken from the readings in their order is in order. -/
lemma readings_chain {timeTsc loadTsc : UInt64} {l l' : List UInt64} (hsub : l'.Sublist l)
    (h : (timeTsc :: loadTsc :: l).IsChain (· ≤ ·)) : (loadTsc :: l').IsChain (· ≤ ·) :=
  (List.isChain_cons_cons.mp h).2.sublist (hsub.cons_cons loadTsc)

lemma ClientTurn.map_tsc_sublist (turns : List ClientTurn) :
    (turns.map ClientTurn.tsc).Sublist (turns.flatMap ClientTurn.readings) := by
  induction turns with
  | nil => exact List.Sublist.slnil
  | cons t turns ih =>
      rw [List.map_cons, List.flatMap_cons]
      have hturn : [t.tsc].Sublist t.readings :=
        (List.singleton_sublist.mpr List.mem_cons_self).trans (List.sublist_append_right _ _)
      exact hturn.append ih

section Later

variable {τ : Type} (tsc : τ → UInt64) {exit : τ → Bool} {fuel g : ℕ}
  {tscPerSecond tscPerTick timeTsc loadTsc : UInt64} {l : List τ}

/-- The turns in a later period of length `p` than the turn before them, from the time `o` on. -/
def laterTurns (o : UInt64) (p : ℕ) (l : List τ) : List τ :=
  entering (fun t => (tsc t).toNat) o.toNat p o.toNat l

lemma laterTurns_sublist (o : UInt64) (p : ℕ) (l : List τ) : (laterTurns tsc o p l).Sublist l :=
  entering_sublist _ _ _ _ _

variable {tsc}

/-- The turns at which a counter passes that starts at the time `o`. -/
lemma passing_tscTimeInit {o interval : UInt64} (hfuel : 2 ^ 64 ≤ fuel) (hpos : 0 < interval)
    (hchain : (o.toNat :: l.map fun t => (tsc t).toNat).IsChain (· ≤ ·))
    (hlt : ∀ t ∈ l, (tsc t).toNat + interval.toNat < 2 ^ 64) :
    passing tsc fuel (tscTimeInit o interval) l = laterTurns tsc o interval.toNat l :=
  passing_eq_entering (UInt64.lt_iff_toNat_lt.mp hpos) hfuel (tracks_init o interval) le_rfl
    hchain hlt

/-- The turns at which all counters pass: those in a later tick, of these those in a later tenth,
and of these those in a later second. -/
theorem secondTurns_eq (hfuel : 2 ^ 64 ≤ fuel) (htick : 0 < tscPerTick)
    (hle : tscPerTick ≤ tscPerSecond) (hsec : 10 ≤ tscPerSecond)
    (hchain : (timeTsc.toNat :: l.map fun t => (tsc t).toNat).IsChain (· ≤ ·))
    (hlt : ∀ t ∈ l, (tsc t).toNat + tscPerSecond.toNat < 2 ^ 64) :
    secondTurns tsc fuel (tickTimeInit tscPerSecond tscPerTick timeTsc) l =
      laterTurns tsc timeTsc tscPerSecond.toNat (laterTurns tsc timeTsc (tscPerSecond.toNat / 10)
        (laterTurns tsc timeTsc tscPerTick.toNat l)) := by
  rw [UInt64.le_iff_toNat_le] at hle hsec
  have htenth : (tscPerSecond / 10).toNat = tscPerSecond.toNat / 10 := UInt64.toNat_div _ _
  have hten : 10 ≤ tscPerSecond.toNat := hsec
  -- every counter is asked at some of the turns, with an interval of a second at most
  have hpass : ∀ {l' : List τ} {interval : UInt64}, l'.Sublist l → 0 < interval →
      interval.toNat ≤ tscPerSecond.toNat →
      passing tsc fuel (tscTimeInit timeTsc interval) l' =
        laterTurns tsc timeTsc interval.toNat l' := by
    intro l' interval hsub hpos hsecond
    refine passing_tscTimeInit hfuel hpos ?_ fun t ht => ?_
    · exact hchain.sublist ((hsub.map _).cons_cons _)
    · exact (Nat.add_le_add_left hsecond _).trans_lt (hlt t (hsub.subset ht))
  have hticks := laterTurns_sublist tsc timeTsc tscPerTick.toNat l
  have htenths := laterTurns_sublist tsc timeTsc (tscPerSecond.toNat / 10)
    (laterTurns tsc timeTsc tscPerTick.toNat l)
  rw [secondTurns, tickTimeInit]
  dsimp only
  rw [hpass (List.Sublist.refl l) htick hle, hpass hticks, htenth,
    hpass (htenths.trans hticks) _ le_rfl]
  · rw [UInt64.lt_iff_toNat_lt]
    change 0 < tscPerSecond.toNat
    omega
  · rw [UInt64.lt_iff_toNat_lt, htenth]
    change 0 < tscPerSecond.toNat / 10
    omega
  · rw [htenth]
    omega

/-- The calls are apart if and only if the readings in a later tick, tenth and second are. -/
theorem callsApart_iff {hz : UInt64} {ticksPerSec : Int32} (hfuel : 2 ^ 64 ≤ fuel)
    (htick : 0 < (tickInit hz ticksPerSec).2) (hsec : 10 ≤ hz)
    (hchain : (timeTsc.toNat :: l.map fun t => (tsc t).toNat).IsChain (· ≤ ·))
    (hlt : ∀ t ∈ l, (tsc t).toNat + hz.toNat < 2 ^ 64) :
    CallsApart tsc exit fuel (.start hz ticksPerSec timeTsc loadTsc) l ↔
      (loadTsc.toNat :: (untilExit exit (laterTurns tsc timeTsc hz.toNat
        (laterTurns tsc timeTsc (hz.toNat / 10)
          (laterTurns tsc timeTsc (tickInit hz ticksPerSec).2.toNat l)))).map
            fun t => (tsc t).toNat).IsChain (Apart 128) := by
  have hle : (tickInit hz ticksPerSec).2 ≤ hz := by
    rw [tickInit, UInt64.le_iff_toNat_le, UInt64.toNat_div]
    exact Nat.div_le_self _ _
  have hcalls := congrArg (untilExit exit) (secondTurns_eq hfuel htick hle hsec hchain hlt)
  change cpusageTurns tsc exit fuel (LoopState.start hz ticksPerSec timeTsc loadTsc).time l = _
    at hcalls
  rw [CallsApart, hcalls]
  rfl

/-- Of turns that follow each other within `g` cycles, those in a later period follow each other
within a period more. -/
lemma laterTurns_within {o : UInt64} {p : ℕ} (hp : 0 < p)
    (h : (o.toNat :: l.map fun t => (tsc t).toNat).IsChain (Within g)) :
    (o.toNat :: (laterTurns tsc o p l).map fun t => (tsc t).toNat).IsChain (Within (g + p)) :=
  gaps_entering hp le_rfl le_rfl rfl h

/-- Without a stall the calls are apart: if the turns follow each other within `g` cycles, and these,
a tick and a tenth of a second are together 128 cycles less than a second. -/
theorem callsApart_of_within {hz : UInt64} {ticksPerSec : Int32} (hfuel : 2 ^ 64 ≤ fuel)
    (htick : 0 < (tickInit hz ticksPerSec).2) (hsec : 10 ≤ hz)
    (hload : loadTsc.toNat ≤ timeTsc.toNat + g)
    (hgaps : (timeTsc.toNat :: l.map fun t => (tsc t).toNat).IsChain (Within g))
    (hg : g + (tickInit hz ticksPerSec).2.toNat + hz.toNat / 10 + 128 ≤ hz.toNat)
    (hlt : ∀ t ∈ l, (tsc t).toNat + hz.toNat < 2 ^ 64) :
    CallsApart tsc exit fuel (.start hz ticksPerSec timeTsc loadTsc) l := by
  have hten : 10 ≤ hz.toNat := UInt64.le_iff_toNat_le.mp hsec
  have hticks := laterTurns_within (UInt64.lt_iff_toNat_lt.mp htick) hgaps
  have htenths := laterTurns_within (p := hz.toNat / 10) (by omega) hticks
  have hseconds := apart_entering (d := 128) (z := loadTsc.toNat) (by omega) le_rfl hg
    (by rw [period_self]; omega) htenths
  rw [callsApart_iff hfuel htick hsec (hgaps.imp fun _ _ h => h.1) hlt]
  exact hseconds.sublist (((untilExit_sublist _).map _).cons_cons _)

end Later

/-! ### The loops -/

/-- A run of either loop is right if and only if its calls are apart: the readings at which a tick,
a tenth and a second pass. -/
theorem loops_right_iff (fuel : ℕ) (hz : UInt64) (ticksPerSec : Int32) (timeTsc loadTsc : UInt64) :
    (∀ turns : List ServerTurn,
      (timeTsc :: loadTsc :: turns.map ServerTurn.tsc).IsChain (· ≤ ·) →
      (CpusageRight (runLoop (serverLoop fuel) (.start hz ticksPerSec timeTsc loadTsc) turns) ↔
        CallsApart ServerTurn.tsc ServerTurn.exit fuel (.start hz ticksPerSec timeTsc loadTsc)
          turns)) ∧
    ∀ turns : List ClientTurn,
      (timeTsc :: loadTsc :: turns.flatMap ClientTurn.readings).IsChain (· ≤ ·) →
      (CpusageRight (runLoop (clientLoop fuel) (.start hz ticksPerSec timeTsc loadTsc) turns) ↔
        CallsApart ClientTurn.tsc ClientTurn.exit fuel (.start hz ticksPerSec timeTsc loadTsc)
          turns) := by
  constructor
  · intro turns hchain
    exact runLoop_right_iff (fun t s hrun => serverLoop_advance t hrun)
      (readings_chain (List.Sublist.refl _) hchain)
  · intro turns hchain
    exact runLoop_right_iff (fun t s hrun => clientLoop_advance t hrun)
      (readings_chain (ClientTurn.map_tsc_sublist turns) hchain)

theorem loops_right_iff_two_seconds :
    CpusageRight (runLoop (serverLoop 32) (.start 2000 10 100 110)
      [{ tsc := 1000, nbRx := 3 }, { tsc := 2200 }, { tsc := 4150, exit := true }]) ∧
    CpusageRight (runLoop (clientLoop 32) (.start 2000 10 100 110)
      [{ rxTsc := [500, 700], tsc := 1000, launch := 4, timerTsc := 1010 },
        { tsc := 2200, timerTsc := 2210 }, { tsc := 4150, timerTsc := 4160 }]) :=
  ⟨((loops_right_iff 32 2000 10 100 110).1 _ (by decide)).mpr (by unfold CallsApart; decide),
    ((loops_right_iff 32 2000 10 100 110).2 _ (by decide)).mpr (by unfold CallsApart; decide)⟩

/-- At two gigahertz: a call in the last cycle of the second second, after a stall, and the next
101 cycles later. -/
theorem serverLoop_crashed_after_stall :
    ([10000000000, 10000001000, 13999999999, 14000000100] : List UInt64).IsChain (· ≤ ·) ∧
      (runLoop (serverLoop (2 ^ 64)) (.start 2000000000 0 10000000000 10000001000)
        [{ tsc := 13999999999 }, { tsc := 14000000100 }]).status = .crashed := by
  refine ⟨by decide, ?_⟩
  rw [runLoop_crashed_iff (fun t s hrun => serverLoop_advance t hrun) _ rfl
    (cpuloadInit_loaded _) (by decide)]
  rw [callsApart_iff le_rfl (by decide) (by decide) (by decide) (by decide)]
  decide

end Dperf
