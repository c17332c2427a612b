import Mathlib.Data.List.Chain
import Mathlib.Tactic

/-!
Times in periods of one length, as a clock sees them that is read now and then.

* `period o p x`: the number of the period of length `p` that the time `x` is in, counted from `o`.
* `entering time o p y l`: the items of `l` whose time is in a later period than the time of the
  item before them; `y` is the time before the first.
* `gaps_entering`: where the times are not far apart, those that enter a period are not either.
* `apart_entering`: nor are they close together, if the times are much closer than the periods.
-/

namespace Periods

/-- The number of the period that a time is in. -/
def period (o p x : ℕ) : ℕ := (x - o) / p

/-- The items that are in a later period than the item before them. -/
def entering {τ : Type} (time : τ → ℕ) (o p : ℕ) : ℕ → List τ → List τ
  | _, [] => []
  | y, t :: l =>
      if period o p y < period o p (time t) then t :: entering time o p (time t) l
      else entering time o p (time t) l

/-- Not before, and not more than `g` later. -/
def Within (g a b : ℕ) : Prop := a ≤ b ∧ b ≤ a + g

instance (g a b : ℕ) : Decidable (Within g a b) := inferInstanceAs (Decidable (_ ∧ _))

/-- At least `d` later. -/
def Apart (d a b : ℕ) : Prop := a + d ≤ b

instance (d a b : ℕ) : Decidable (Apart d a b) := inferInstanceAs (Decidable (_ ≤ _))

instance (d : ℕ) : Trans (Apart d) (Apart d) (Apart d) where
  trans hab hbc := hab.trans (Nat.le_of_add_right_le hbc)

variable {τ : Type} {time : τ → ℕ} {o p g d x y z : ℕ} {l : List τ}

lemma period_self (o p : ℕ) : period o p o = 0 := by
  rw [period, Nat.sub_self, Nat.zero_div]

lemma period_mono (h : y ≤ x) : period o p y ≤ period o p x :=
  Nat.div_le_div_right (Nat.sub_le_sub_right h o)

/-- A time is in its period. -/
lemma period_bounds (hp : 0 < p) (ho : o ≤ x) :
    o + period o p x * p ≤ x ∧ x < o + (period o p x + 1) * p := by
  have hlow := Nat.div_mul_le_self (x - o) p
  have hhigh := Nat.lt_div_mul_add (a := x - o) hp
  rw [period, Nat.succ_mul]
  constructor
  · omega
  · omega

lemma entering_sublist (time : τ → ℕ) (o p y : ℕ) (l : List τ) :
    (entering time o p y l).Sublist l := by
  induction l generalizing y with
  | nil => exact List.Sublist.slnil
  | cons t l ih =>
      rw [entering]
      split_ifs
      · exact (ih (time t)).cons_cons t
      · exact (ih (time t)).cons t

/-- The times that enter a period; `z` is the last of them so far, and `y` is in its period. -/
lemma gaps_entering (hp : 0 < p) (ho : o ≤ z) (hz : z ≤ y) (hyz : period o p y = period o p z)
    (h : (y :: l.map time).IsChain (Within g)) :
    (z :: (entering time o p y l).map time).IsChain (Within (g + p)) := by
  induction l generalizing y z with
  | nil => exact List.isChain_singleton z
  | cons t l ih =>
      obtain ⟨⟨hyx, hgap⟩, hl⟩ := List.isChain_cons_cons.mp h
      rw [entering]
      split_ifs with hnew
      · have hlow := (period_bounds hp ho).1
        have hhigh := (period_bounds hp (ho.trans hz)).2
        rw [hyz, Nat.succ_mul] at hhigh
        refine List.isChain_cons_cons.mpr ⟨⟨hz.trans hyx, by omega⟩, ?_⟩
        exact ih (ho.trans (hz.trans hyx)) le_rfl rfl hl
      · have hsame : period o p (time t) = period o p z :=
          (le_antisymm (not_lt.mp hnew) (period_mono hyx)).trans hyz
        exact ih ho (hz.trans hyx) hsame hl

/-- The times that enter a period are apart by what a period is longer than a gap; `z` is so long
before the next period already. -/
lemma apart_entering (hp : 0 < p) (ho : o ≤ y) (hgd : g + d ≤ p)
    (hz : z + d ≤ o + (period o p y + 1) * p) (h : (y :: l.map time).IsChain (Within g)) :
    (z :: (entering time o p y l).map time).IsChain (Apart d) := by
  induction l generalizing y z with
  | nil => exact List.isChain_singleton z
  | cons t l ih =>
      obtain ⟨⟨hyx, hgap⟩, hl⟩ := List.isChain_cons_cons.mp h
      have hox := ho.trans hyx
      rw [entering]
      split_ifs with hnew
      · have hlow := (period_bounds hp hox).1
        have hhigh := (period_bounds hp ho).2
        have hstep : (period o p y + 1) * p ≤ period o p (time t) * p := Nat.mul_le_mul_right p hnew
        refine List.isChain_cons_cons.mpr ⟨?_, ih hox ?_ hl⟩
        · rw [Apart]
          omega
        · rw [Nat.succ_mul]
          omega
      · have hsame : period o p (time t) = period o p y :=
          le_antisymm (not_lt.mp hnew) (period_mono hyx)
        exact ih hox (by rw [hsame]; exact hz) hl

end Periods
