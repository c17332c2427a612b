import Mathlib.Tactic

/-!
Sequence numbers: the positions of a stream counted modulo `2 ^ 32` from a first number.

* `seqAt b n`: the sequence number of position `n` of a stream that begins at `b`. Positions below
  `2 ^ 32` have different ones (`seqAt_inj`), and positions that are less than `2 ^ 31` apart are
  in order by the signed difference (`seqAt_sub_nonpos`).
* `toInt_sub_ofNat`: the signed difference of two numbers below `2 ^ 31` is their difference.
* `sub_lt_of_neg`, `sub_add_sub_of_between`: what the signed differences say about distances.
-/

namespace Sequence

/-- The sequence number of position `n` of a stream that begins at `b`. -/
def seqAt (b : UInt32) (n : ℕ) : UInt32 := b + UInt32.ofNat n

variable {b : UInt32} {n m : ℕ}

@[simp] lemma seqAt_zero (b : UInt32) : seqAt b 0 = b := by simp [seqAt]

lemma seqAt_add (b : UInt32) (n m : ℕ) : seqAt b (n + m) = seqAt b n + UInt32.ofNat m := by
  rw [seqAt, seqAt, UInt32.ofNat_add]
  grind

lemma seqAt_sub (h : n ≤ m) : seqAt b m - seqAt b n = UInt32.ofNat (m - n) := by
  have hsum : seqAt b m = seqAt b n + UInt32.ofNat (m - n) := by
    rw [← seqAt_add, Nat.add_sub_cancel' h]
  rw [hsum]
  grind

lemma seqAt_inj (hn : n < 2 ^ 32) (hm : m < 2 ^ 32) : seqAt b n = seqAt b m ↔ n = m := by
  rw [seqAt, seqAt, UInt32.add_right_inj, ← UInt32.toNat_inj, UInt32.toNat_ofNat_of_lt' hn,
    UInt32.toNat_ofNat_of_lt' hm]

/-- A number taken back is its negative. -/
lemma toInt_neg_ofNat {d : ℕ} (hd : d < 2 ^ 31) :
    (0 - UInt32.ofNat d).toInt32.toInt = -(d : Int) := by
  rw [← Int32.toInt_toBitVec, UInt32.toBitVec_toInt32, UInt32.toBitVec_sub, BitVec.toInt_sub]
  simp only [UInt32.toBitVec_ofNat', UInt32.toBitVec_ofNat, BitVec.toInt_ofNat']
  simp only [Int.bmod]
  omega

/-- The signed difference of two numbers below `2 ^ 31`. -/
lemma toInt_sub_ofNat {e d : ℕ} (he : e < 2 ^ 31) (hd : d < 2 ^ 31) :
    (UInt32.ofNat e - UInt32.ofNat d).toInt32.toInt = (e : Int) - d := by
  rw [← Int32.toInt_toBitVec, UInt32.toBitVec_toInt32, UInt32.toBitVec_sub, BitVec.toInt_sub]
  simp only [UInt32.toBitVec_ofNat', BitVec.toInt_ofNat']
  simp only [Int.bmod]
  omega

lemma lt_of_toInt_pos {a : UInt32} (h : 0 < a.toInt32) : a.toNat < 2 ^ 31 := by
  have hi : 0 < a.toInt32.toInt := Int32.lt_iff_toInt_lt.mp h
  rw [← Int32.toInt_toBitVec, UInt32.toBitVec_toInt32, BitVec.toInt_eq_toNat_cond] at hi
  have hlt := a.toNat_lt
  split_ifs at hi with hsmall
  · simp at hsmall
    omega
  · simp at hi
    omega

lemma neg_ofNat_nonpos {d : ℕ} (hd : d < 2 ^ 31) : (0 - UInt32.ofNat d).toInt32 ≤ 0 := by
  have h := toInt_neg_ofNat hd
  rw [Int32.le_iff_toInt_le, h]
  simp

/-- The signed difference of numbers that are less than `2 ^ 31` apart. -/
lemma toInt_sub_of_lt {a b : UInt32} (h : (a - b).toNat < 2 ^ 31) :
    (a - b).toInt32.toInt = (a - b).toNat := by
  have hdiff : a - b = UInt32.ofNat (a - b).toNat - UInt32.ofNat 0 := by simp
  have hint := toInt_sub_ofNat h (show 0 < 2 ^ 31 by norm_num)
  rw [← hdiff] at hint
  simpa using hint

lemma sub_nonpos_of_lt {a b : UInt32} (h : (b - a).toNat < 2 ^ 31) : (a - b).toInt32 ≤ 0 := by
  have hdiff : a - b = 0 - UInt32.ofNat (b - a).toNat := by
    rw [UInt32.ofNat_toNat]
    grind
  rw [hdiff]
  exact neg_ofNat_nonpos h

/-- Positions that are less than `2 ^ 31` apart are in order. -/
lemma seqAt_sub_nonpos (h : n ≤ m) (hd : m - n < 2 ^ 31) :
    (seqAt b n - seqAt b m).toInt32 ≤ 0 := by
  refine sub_nonpos_of_lt ?_
  rw [seqAt_sub h, UInt32.toNat_ofNat_of_lt' (hd.trans (by norm_num))]
  exact hd

/-- What comes before `b + w` by the signed difference is less than `w` behind `b`. -/
lemma sub_lt_of_neg {a b w : UInt32} (h : (a - (b + w)).toInt32 < 0) (ha : (a - b).toNat < 2 ^ 31)
    (hw : w.toNat < 2 ^ 31) : (a - b).toNat < w.toNat := by
  have hdiff : a - (b + w) = UInt32.ofNat (a - b).toNat - UInt32.ofNat w.toNat := by
    rw [UInt32.ofNat_toNat, UInt32.ofNat_toNat]
    grind
  rw [hdiff, Int32.lt_iff_toInt_lt, toInt_sub_ofNat ha hw, Int32.toInt_zero] at h
  omega

/-- A number between `b` and `a` by the signed differences divides the way from `b` to `a`. -/
lemma sub_add_sub_of_between {a b c : UInt32} (hle : (c - a).toInt32 ≤ 0)
    (hgt : 0 < (c - b).toInt32) (h : (a - b).toNat < 2 ^ 31) :
    (c - b).toNat + (a - c).toNat = (a - b).toNat := by
  have hc : (c - b).toNat < 2 ^ 31 := lt_of_toInt_pos hgt
  have hdiff : c - a = UInt32.ofNat (c - b).toNat - UInt32.ofNat (a - b).toNat := by
    rw [UInt32.ofNat_toNat, UInt32.ofNat_toNat]
    grind
  rw [hdiff, Int32.le_iff_toInt_le, toInt_sub_ofNat hc h, Int32.toInt_zero] at hle
  have hrest : a - c = a - b - (c - b) := by grind
  have hsub : c - b ≤ a - b := UInt32.le_iff_toNat_le.mpr (by omega)
  rw [hrest, UInt32.toNat_sub_of_le _ _ hsub]
  omega

end Sequence
