import Mathlib.Data.Nat.Digits.Defs
import Mathlib.Tactic

/-!
Decimal numbers as bytes.

* `decimal`: a number without leading zeros; `decimal3`: its last three digits.
* `decimal_thousand`: a number in base 1000 has the same digits.
* `numberOf`: the number of a list of digits. It reads `decimal` back (`numberOf_decimal`), so that
  `decimal` is injective.
-/

namespace Decimal

/-- A decimal digit. -/
abbrev IsDecimal (c : UInt8) : Prop := 0x30 ≤ c ∧ c ≤ 0x39

/-- The byte of a digit. -/
def digit (d : ℕ) : UInt8 := UInt8.ofNat (48 + d)

/-- A number, without leading zeros. -/
def decimal (n : ℕ) : List UInt8 := (Nat.toDigits 10 n).map Char.toUInt8

/-- The last three digits of a number. -/
def decimal3 (n : ℕ) : List UInt8 := [digit (n / 100 % 10), digit (n / 10 % 10), digit (n % 10)]

/-- The number of a list of digits. -/
def numberOf (l : List UInt8) : ℕ := l.foldl (fun n c => 10 * n + (c.toNat - 48)) 0

lemma toNat_digit {d : ℕ} (h : d < 10) : (digit d).toNat = 48 + d := by
  rw [digit, UInt8.toNat_ofNat']
  omega

lemma isDigit_digit {d : ℕ} (h : d < 10) : IsDecimal (digit d) := by
  have hval := toNat_digit h
  constructor <;> rw [UInt8.le_iff_toNat_le, hval]
  · exact Nat.le_add_right 48 d
  · exact Nat.add_le_add_left (Nat.le_of_lt_succ h) 48

lemma toUInt8_digitChar {d : ℕ} (h : d < 10) : d.digitChar.toUInt8 = digit d := by
  interval_cases d <;> rfl

lemma decimal_of_lt {n : ℕ} (h : n < 10) : decimal n = [digit n] := by
  rw [decimal, Nat.toDigits_of_lt_base h, List.map_singleton, toUInt8_digitChar h]

lemma decimal_mul_add {n d : ℕ} (hn : 0 < n) (hd : d < 10) :
    decimal (10 * n + d) = decimal n ++ [digit d] := by
  rw [decimal, Nat.toDigits_of_base_le (by omega) (by omega), List.map_append, List.map_singleton]
  have hdiv : (10 * n + d) / 10 = n := by omega
  have hmod : (10 * n + d) % 10 = d := by omega
  rw [hdiv, hmod, toUInt8_digitChar hd, decimal]

/-- A number of more than three digits ends with the last three. -/
lemma decimal_thousand {n r : ℕ} (hn : 0 < n) (hr : r < 1000) :
    decimal (1000 * n + r) = decimal n ++ decimal3 r := by
  have hsum : 1000 * n + r =
      10 * (10 * (10 * n + r / 100 % 10) + r / 10 % 10) + r % 10 := by omega
  rw [hsum, decimal_mul_add (by omega) (Nat.mod_lt _ (by omega)),
    decimal_mul_add (by omega) (Nat.mod_lt _ (by omega)),
    decimal_mul_add hn (Nat.mod_lt _ (by omega)), decimal3,
    List.append_assoc, List.append_assoc]
  rfl

/-- Leading zeros up to three digits. -/
lemma replicate_append_decimal {n : ℕ} (h : n < 1000) :
    List.replicate (3 - (decimal n).length) 0x30 ++ decimal n = decimal3 n := by
  obtain hn | hn | hn : n < 10 ∨ 10 ≤ n ∧ n < 100 ∨ 100 ≤ n := by omega
  · have hzero : n / 100 % 10 = 0 ∧ n / 10 % 10 = 0 ∧ n % 10 = n := by omega
    rw [decimal_of_lt hn, decimal3, hzero.1, hzero.2.1, hzero.2.2]
    rfl
  · have hsum : n = 10 * (n / 10) + n % 10 := by omega
    have hzero : n / 100 % 10 = 0 ∧ n / 10 % 10 = n / 10 := by omega
    have hdec : decimal n = [digit (n / 10), digit (n % 10)] := by
      conv_lhs => rw [hsum]
      rw [decimal_mul_add (by omega) (by omega), decimal_of_lt (by omega)]
      rfl
    rw [hdec, decimal3, hzero.1, hzero.2]
    rfl
  · have hsum : n = 10 * (10 * (n / 100) + n / 10 % 10) + n % 10 := by omega
    have hmod : n / 100 % 10 = n / 100 := by omega
    have hdec : decimal n = [digit (n / 100), digit (n / 10 % 10), digit (n % 10)] := by
      conv_lhs => rw [hsum]
      rw [decimal_mul_add (by omega) (by omega), decimal_mul_add (by omega) (by omega),
        decimal_of_lt (by omega)]
      rfl
    rw [hdec, decimal3, hmod]
    rfl

lemma isDigit_of_mem_decimal3 {n : ℕ} {c : UInt8} (h : c ∈ decimal3 n) : IsDecimal c := by
  have hten : ∀ k : ℕ, k % 10 < 10 := fun k => Nat.mod_lt k (by omega)
  simp only [decimal3, List.mem_cons, List.not_mem_nil, or_false] at h
  rcases h with rfl | rfl | rfl <;> exact isDigit_digit (hten _)

/-- A number is that of its digits: the induction is on the number without its last digit. -/
@[elab_as_elim]
lemma tenInduction {P : ℕ → Prop} (small : ∀ n < 10, P n)
    (step : ∀ n d, 0 < n → d < 10 → P n → P (10 * n + d)) (n : ℕ) : P n := by
  induction n using Nat.strong_induction_on with
  | _ n ih =>
      by_cases hn : n < 10
      · exact small n hn
      · have hsum : 10 * (n / 10) + n % 10 = n := by omega
        rw [← hsum]
        exact step (n / 10) (n % 10) (by omega) (by omega) (ih (n / 10) (by omega))

lemma isDigit_of_mem_decimal {n : ℕ} : ∀ c ∈ decimal n, IsDecimal c := by
  induction n using tenInduction with
  | small n hn =>
      rw [decimal_of_lt hn]
      intro c hc
      rw [List.mem_singleton.mp hc]
      exact isDigit_digit hn
  | step n d hn hd ih =>
      rw [decimal_mul_add hn hd]
      intro c hc
      rcases List.mem_append.mp hc with hc | hc
      · exact ih c hc
      · rw [List.mem_singleton.mp hc]
        exact isDigit_digit hd

lemma decimal_ne_nil (n : ℕ) : decimal n ≠ [] := by
  rw [decimal, ne_eq, List.map_eq_nil_iff]
  exact Nat.toDigits_ne_nil

lemma numberOf_append_singleton (l : List UInt8) (c : UInt8) :
    numberOf (l ++ [c]) = 10 * numberOf l + (c.toNat - 48) := by
  rw [numberOf, List.foldl_append]
  rfl

/-- A number is read back. -/
lemma numberOf_decimal (n : ℕ) : numberOf (decimal n) = n := by
  induction n using tenInduction with
  | small n hn =>
      rw [decimal_of_lt hn, numberOf, List.foldl_cons, List.foldl_nil, toNat_digit hn]
      omega
  | step n d hn hd ih =>
      rw [decimal_mul_add hn hd, numberOf_append_singleton, ih, toNat_digit hd]
      omega

lemma decimal_injective : Function.Injective decimal :=
  Function.LeftInverse.injective numberOf_decimal

lemma length_decimal_le_iff {n k : ℕ} (hk : 0 < k) : (decimal n).length ≤ k ↔ n < 10 ^ k := by
  rw [decimal, List.length_map, Nat.length_toDigits_le_iff (by omega) hk]

end Decimal
