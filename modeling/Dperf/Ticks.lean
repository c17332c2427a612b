import Dperf.Lib.Periods

/-!
`tick.h` and `tick.c`: the counters of ticks, of tenths of a second and of seconds, which catch up
with the time stamp counter.

* `tscTimeGo`: the loop of `tsc_time_go`, with a bound on its turns; nothing comes back where the
  bound is reached first.
* `passing`: the items at whose reading a counter passes, when it is asked once for each.
* `Tracks`: a counter that stands at the start of the period of a time.
* `passing_eq_entering`: such a counter passes at the readings that are in a later period than the
  reading before them, unless the sums leave their 64 bits.
-/

namespace Dperf

open Periods

/-- `struct tsc_time`. -/
structure TscTime where
  last : UInt64
  count : UInt64 := 0
  interval : UInt64

/-- `struct tick_time`. -/
structure TickTime where
  tsc : UInt64 := 0
  tick : TscTime
  ms100 : TscTime
  second : TscTime

/-- `TICKS_PER_SEC_DEFAULT`. -/
def ticksPerSecDefault : Int32 := 10 * 1000

/-- `tick_init`, for the frequency that `tick_get_hz` measures: `g_tsc_per_second` and
`g_tsc_per_tick`. -/
def tickInit (hz : UInt64) (ticksPerSec : Int32) : UInt64 × UInt64 :=
  let ticksPerSec := if ticksPerSec = 0 then ticksPerSecDefault else ticksPerSec
  (hz, hz / ticksPerSec.toInt64.toUInt64)

/-- `tsc_time_init`. -/
def tscTimeInit (now interval : UInt64) : TscTime := { last := now, interval := interval }

/-- `tick_time_init`; `rdtsc` is the time stamp counter. -/
def tickTimeInit (tscPerSecond tscPerTick rdtsc : UInt64) : TickTime where
  tick := tscTimeInit rdtsc tscPerTick
  ms100 := tscTimeInit rdtsc (tscPerSecond / 10)
  second := tscTimeInit rdtsc tscPerSecond

/-- `tick_time_update`. -/
def tickTimeUpdate (rdtsc : UInt64) (tt : TickTime) : TickTime := { tt with tsc := rdtsc }

/-- The loop of `tsc_time_go`, with its local `count`. -/
def tscTimeGoLoop (tscNow : UInt64) : ℕ → UInt64 → TscTime → Option (UInt64 × TscTime)
  | 0, _, _ => none
  | fuel + 1, count, tt =>
      if tt.last + tt.interval ≤ tscNow then
        tscTimeGoLoop tscNow fuel (count + 1)
          { tt with count := tt.count + 1, last := tt.last + tt.interval }
      else some (count, tt)

/-- `tsc_time_go`. -/
def tscTimeGo (tscNow : UInt64) (fuel : ℕ) (tt : TscTime) : Option (UInt64 × TscTime) :=
  tscTimeGoLoop tscNow fuel 0 tt

/-! ### Passing -/

section Passing

variable {τ : Type} (tsc : τ → UInt64) (fuel : ℕ)

/-- The items at whose reading a counter passes, up to one where it does not return. -/
def passing : TscTime → List τ → List τ
  | _, [] => []
  | tt, t :: l =>
      match tscTimeGo (tsc t) fuel tt with
      | none => []
      | some (count, tt') => if 0 < count then t :: passing tt' l else passing tt' l

variable {tsc fuel} {tt tt' : TscTime} {t : τ} {l : List τ} {count : UInt64}

lemma passing_none (h : tscTimeGo (tsc t) fuel tt = none) : passing tsc fuel tt (t :: l) = [] := by
  rw [passing, h]

lemma passing_some (h : tscTimeGo (tsc t) fuel tt = some (count, tt')) :
    passing tsc fuel tt (t :: l) =
      if 0 < count then t :: passing tsc fuel tt' l else passing tsc fuel tt' l := by
  rw [passing, h]

end Passing

/-! ### Catching up -/

/-- The loop makes as many turns as periods fit before the time. -/
lemma tscTimeGoLoop_eq {x : UInt64} {p : ℕ} (hx : x.toNat + p < 2 ^ 64) : ∀ (k fuel : ℕ)
    (count : UInt64) (tt : TscTime), k < fuel → tt.interval.toNat = p →
      tt.last.toNat + k * p ≤ x.toNat → x.toNat < tt.last.toNat + (k + 1) * p →
      ∃ tt', tscTimeGoLoop x fuel count tt = some (count + UInt64.ofNat k, tt') ∧
        tt'.interval = tt.interval ∧ tt'.last.toNat = tt.last.toNat + k * p := by
  intro k
  induction k with
  | zero =>
      intro fuel count tt hfuel hp hle hlt
      obtain ⟨fuel, rfl⟩ := Nat.exists_eq_succ_of_ne_zero hfuel.ne'
      have hsum : (tt.last + tt.interval).toNat = tt.last.toNat + p := by
        rw [UInt64.toNat_add, hp]
        exact Nat.mod_eq_of_lt (by omega)
      have hdone : ¬ tt.last + tt.interval ≤ x := by
        rw [UInt64.le_iff_toNat_le, hsum]
        omega
      rw [tscTimeGoLoop, if_neg hdone]
      exact ⟨tt, by simp, rfl, by omega⟩
  | succ k ih =>
      intro fuel count tt hfuel hp hle hlt
      obtain ⟨fuel, rfl⟩ := Nat.exists_eq_succ_of_ne_zero (Nat.ne_zero_of_lt hfuel)
      rw [Nat.succ_mul] at hle hlt
      have hsum : (tt.last + tt.interval).toNat = tt.last.toNat + p := by
        rw [UInt64.toNat_add, hp]
        exact Nat.mod_eq_of_lt (by omega)
      have hmore : tt.last + tt.interval ≤ x := by
        rw [UInt64.le_iff_toNat_le, hsum]
        omega
      rw [tscTimeGoLoop, if_pos hmore]
      obtain ⟨tt', hgo, hint, hlast⟩ := ih fuel (count + 1)
        { tt with count := tt.count + 1, last := tt.last + tt.interval } (by omega) hp
        (by dsimp only; omega) (by dsimp only; omega)
      refine ⟨tt', ?_, hint, ?_⟩
      · rw [hgo, UInt64.add_assoc, UInt64.add_comm 1, ← UInt64.ofNat_one, ← UInt64.ofNat_add]
      · rw [hlast, Nat.succ_mul]
        dsimp only
        omega

/-- The counter has the period `p` and stands at the start of the period that `y` is in. -/
structure Tracks (o p y : ℕ) (tt : TscTime) : Prop where
  interval : tt.interval.toNat = p
  last : tt.last.toNat = o + period o p y * p

lemma tracks_init (now interval : UInt64) :
    Tracks now.toNat interval.toNat now.toNat (tscTimeInit now interval) := by
  refine ⟨rfl, ?_⟩
  rw [period_self, Nat.zero_mul, Nat.add_zero]
  rfl

/-- A call of `tsc_time_go` catches up with the time; it counts something if the time is in a later
period. -/
lemma Tracks.go {o p y fuel : ℕ} {x : UInt64} {tt : TscTime} (h : Tracks o p y tt) (hp : 0 < p)
    (ho : o ≤ y) (hyx : y ≤ x.toNat) (hx : x.toNat + p < 2 ^ 64) (hfuel : 2 ^ 64 ≤ fuel) :
    ∃ count tt', tscTimeGo x fuel tt = some (count, tt') ∧ Tracks o p x.toNat tt' ∧
      (0 < count ↔ period o p y < period o p x.toNat) := by
  obtain ⟨hlow, hhigh⟩ := period_bounds hp (ho.trans hyx)
  have hmono : period o p y ≤ period o p x.toNat := period_mono hyx
  obtain ⟨k, hk⟩ := Nat.exists_eq_add_of_le hmono
  have hkx : k ≤ x.toNat := by
    have hle := Nat.le_mul_of_pos_right (period o p x.toNat) hp
    omega
  rw [hk, Nat.add_mul] at hlow
  rw [hk, Nat.add_assoc, Nat.add_mul] at hhigh
  obtain ⟨tt', hgo, hint, hlast⟩ := tscTimeGoLoop_eq hx k fuel 0 tt (by omega) h.interval
    (by rw [h.last]; omega) (by rw [h.last]; omega)
  refine ⟨_, tt', hgo, ⟨by rw [hint, h.interval], ?_⟩, ?_⟩
  · rw [hlast, h.last, hk, Nat.add_mul]
    omega
  · rw [UInt64.lt_iff_toNat_lt, UInt64.zero_add, UInt64.toNat_ofNat', Nat.mod_eq_of_lt (by omega)]
    change 0 < k ↔ _
    omega

/-- The items at whose reading a counter passes are those that enter a period. -/
theorem passing_eq_entering {τ : Type} {tsc : τ → UInt64} {o p fuel : ℕ} (hp : 0 < p)
    (hfuel : 2 ^ 64 ≤ fuel) {l : List τ} : ∀ {y : ℕ} {tt : TscTime}, Tracks o p y tt → o ≤ y →
      (y :: l.map fun t => (tsc t).toNat).IsChain (· ≤ ·) →
      (∀ t ∈ l, (tsc t).toNat + p < 2 ^ 64) →
      passing tsc fuel tt l = entering (fun t => (tsc t).toNat) o p y l := by
  induction l with
  | nil => exact fun _ _ _ _ => rfl
  | cons t l ih =>
      intro y tt h ho hchain hlt
      obtain ⟨hyx, hl⟩ := List.isChain_cons_cons.mp hchain
      obtain ⟨count, tt', hgo, htracks, hcount⟩ :=
        h.go hp ho hyx (hlt t List.mem_cons_self) hfuel
      have hrest := ih htracks (ho.trans hyx) hl fun u hu => hlt u (List.mem_cons_of_mem t hu)
      rw [passing_some hgo, entering, hrest]
      by_cases hnew : period o p y < period o p (tsc t).toNat
      · rw [if_pos (hcount.mpr hnew), if_pos hnew]
      · rw [if_neg (mt hcount.mp hnew), if_neg hnew]

end Dperf
