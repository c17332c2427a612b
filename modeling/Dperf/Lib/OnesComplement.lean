import Mathlib.Data.Int.ModEq
import Mathlib.Tactic

/-!
Sums in 16-bit one's complement arithmetic.

* `onesSum x`: the word that the sum `x` folds to. It is zero for the sum zero only, so that two
  sums fold to one word exactly if they agree modulo 65535 and both or neither is zero
  (`onesSum_eq_iff`).
* `fold_fold`: adding the carries back twice folds a sum of 32 bits.
-/

namespace OnesComplement

/-- The word that a sum folds to. -/
def onesSum (x : ℕ) : ℕ := if x = 0 then 0 else (x - 1) % 65535 + 1

lemma onesSum_le (x : ℕ) : onesSum x ≤ 65535 := by
  rw [onesSum]
  split_ifs <;> omega

lemma onesSum_modEq (x : ℕ) : onesSum x ≡ x [MOD 65535] := by
  rw [onesSum, Nat.ModEq]
  split_ifs <;> omega

lemma onesSum_eq_zero {x : ℕ} : onesSum x = 0 ↔ x = 0 := by
  by_cases h : x = 0
  · rw [onesSum, if_pos h]
    exact iff_of_true rfl h
  · rw [onesSum, if_neg h]
    exact iff_of_false (Nat.succ_ne_zero _) h

lemma onesSum_eq_iff {x y : ℕ} :
    onesSum x = onesSum y ↔ x ≡ y [MOD 65535] ∧ (x = 0 ↔ y = 0) := by
  rw [Nat.ModEq]
  constructor
  · intro h
    refine ⟨?_, ?_⟩
    · rw [← (onesSum_modEq x : _ % _ = _), ← (onesSum_modEq y : _ % _ = _), h]
    · rw [← onesSum_eq_zero, ← onesSum_eq_zero (x := y), h]
  · rintro ⟨hmod, hzero⟩
    rw [onesSum, onesSum]
    split_ifs <;> omega

/-- A sum may be folded on the way. -/
lemma onesSum_add (x y : ℕ) : onesSum (onesSum x + y) = onesSum (x + y) := by
  refine onesSum_eq_iff.mpr ⟨(onesSum_modEq x).add_right y, ?_⟩
  have h := onesSum_eq_zero (x := x)
  omega

/-- The carries of a sum of 32 bits, added back twice. -/
lemma fold_fold {x : ℕ} (h : x < 2 ^ 32) :
    (x % 65536 + x / 65536) % 65536 + (x % 65536 + x / 65536) / 65536 = onesSum x := by
  rw [onesSum]
  split_ifs <;> omega

end OnesComplement
