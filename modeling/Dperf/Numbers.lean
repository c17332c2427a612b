import Dperf.ConfigHandlers
import Dperf.HeaderLines
import Dperf.Lib.Decimal
import Mathlib.Data.Rat.Floor

/-!
The numbers of the configuration: `config_parse_number`, against the numbers that a string denotes.

* `Numeral`: digits with a point or without. `splitNumeral`: the numeral a string begins with.
* `DenotesNumber`: the grammar, a numeral with a digit and a suffix, and the number.
* `Atof.Exact`: `atof` and the conversion to `int`, without rounding.
* `parsesNumber_iff`: when `config_parse_number` returns the number, or `-1` if there is none.
-/

namespace Dperf.Keywords

open Decimal

/-! ### Numerals -/

/-- Digits, and those behind the point if there is one. -/
structure Numeral where
  whole : List UInt8
  fraction : Option (List UInt8)

namespace Numeral

variable (n : Numeral)

/-- The digits behind the point. -/
def places : List UInt8 := n.fraction.getD []

def digits : List UInt8 := n.whole ++ n.places

def text : List UInt8 :=
  n.whole ++ match n.fraction with
    | none => []
    | some frac => 0x2e :: frac

/-- The number. -/
def value : ℚ := numberOf n.digits / 10 ^ n.places.length

/-- A point needs `float_enable`. -/
structure Valid (floatEnable : Bool) : Prop where
  whole : ∀ c ∈ n.whole, IsDecimal c
  places : ∀ c ∈ n.places, IsDecimal c
  point : n.fraction ≠ none → floatEnable = true

/-- The numeral is not continued. -/
structure Stops (floatEnable : Bool) (rest : List UInt8) : Prop where
  digit : ∀ c ∈ rest.head?, ¬ IsDecimal c
  point : n.fraction = none → floatEnable = true → rest.head? ≠ some 0x2e

variable {n}

lemma Valid.fraction_eq_none (h : n.Valid false) : n.fraction = none := by
  by_contra hpoint
  cases h.point hpoint

lemma Valid.text_eq_whole (h : n.Valid false) : n.text = n.whole := by
  rw [text, h.fraction_eq_none, List.append_nil]

end Numeral

/-- The numeral at the start of a string, and what stands behind it. -/
def splitNumeral (floatEnable : Bool) (str : List UInt8) : Numeral × List UInt8 :=
  let whole := str.takeWhile (IsDecimal ·)
  match str.dropWhile (IsDecimal ·) with
  | [] => (⟨whole, none⟩, [])
  | c :: t =>
      if floatEnable ∧ c = 0x2e then
        (⟨whole, some (t.takeWhile (IsDecimal ·))⟩, t.dropWhile (IsDecimal ·))
      else (⟨whole, none⟩, c :: t)

/-- A suffix, and its factor. -/
inductive Suffix (rateEnable : Bool) : List UInt8 → ℕ → Prop
  | none : Suffix rateEnable [] 1
  | kilo (c : UInt8) (hrate : rateEnable = true) (hc : c = 0x6b ∨ c = 0x4b) :
      Suffix rateEnable [c] 1000
  | mega (c : UInt8) (hrate : rateEnable = true) (hc : c = 0x6d ∨ c = 0x4d) :
      Suffix rateEnable [c] 1000000

/-- The string is a numeral with a suffix. -/
structure Spelled (floatEnable rateEnable : Bool) (str : List UInt8) (n : Numeral)
    (suffix : List UInt8) (rate : ℕ) : Prop where
  valid : n.Valid floatEnable
  ends : Suffix rateEnable suffix rate
  text : str = n.text ++ suffix

/-- The string denotes a number. -/
def DenotesNumber (floatEnable rateEnable : Bool) (str : List UInt8) (q : ℚ) : Prop :=
  ∃ n suffix rate, Spelled floatEnable rateEnable str n suffix rate ∧ n.digits ≠ [] ∧
    q = n.value * rate

/-- A result is the number that the string denotes, cut to an integer, or `-1` if there is none
or it is not an `int`. -/
structure ParsesNumber (floatEnable rateEnable : Bool) (str : List UInt8) (result : Int32) :
    Prop where
  value : ∀ v : ℤ, 0 ≤ v → (result.toInt = v ↔
    ∃ q, DenotesNumber floatEnable rateEnable str q ∧ ⌊q⌋ = v ∧ v ≤ 2147483647)
  reject : (∀ q, DenotesNumber floatEnable rateEnable str q → 2147483647 < ⌊q⌋) → result = -1

/-! ### Splitting -/

section Split

variable {floatEnable rateEnable : Bool} {str rest suffix : List UInt8} {n : Numeral} {rate : ℕ}

lemma takeWhile_digits {body : List UInt8} (h : ∀ c ∈ body, IsDecimal c)
    (hrest : ∀ c ∈ rest.head?, ¬ IsDecimal c) :
    (body ++ rest).takeWhile (IsDecimal ·) = body ∧
      (body ++ rest).dropWhile (IsDecimal ·) = rest := by
  have hall : ∀ c ∈ body, decide (IsDecimal c) = true := fun c hc => decide_eq_true (h c hc)
  rw [List.takeWhile_append_of_pos hall, List.dropWhile_append_of_pos hall]
  cases rest with
  | nil => exact ⟨List.append_nil body, rfl⟩
  | cons c t =>
      have hc : ¬ decide (IsDecimal c) = true := fun hd => hrest c rfl (of_decide_eq_true hd)
      rw [List.takeWhile_cons, List.dropWhile_cons, if_neg hc, if_neg hc]
      exact ⟨List.append_nil body, rfl⟩

lemma not_isDecimal_point : ¬ IsDecimal 0x2e := by decide

/-- A numeral that is not continued is the one that is split off. -/
lemma splitNumeral_text (hv : n.Valid floatEnable) (hs : n.Stops floatEnable rest) :
    splitNumeral floatEnable (n.text ++ rest) = (n, rest) := by
  obtain ⟨whole, fraction⟩ := n
  cases fraction with
  | none =>
      obtain ⟨htake, hdrop⟩ := takeWhile_digits hv.whole hs.digit
      rw [Numeral.text, splitNumeral, List.append_nil, htake, hdrop]
      cases rest with
      | nil => rfl
      | cons c t =>
          have hpoint : ¬ (floatEnable = true ∧ c = 0x2e) := fun hc =>
            hs.point rfl hc.1 (by rw [hc.2]; rfl)
          dsimp only
          rw [if_neg hpoint]
  | some frac =>
      have hstop : ∀ c ∈ (0x2e :: (frac ++ rest)).head?, ¬ IsDecimal c := by
        intro c hc
        obtain rfl := Option.some.inj hc
        exact not_isDecimal_point
      obtain ⟨htake, hdrop⟩ := takeWhile_digits hv.whole hstop
      obtain ⟨htake', hdrop'⟩ := takeWhile_digits hv.places hs.digit
      rw [Numeral.text, splitNumeral, List.append_assoc, List.cons_append, htake, hdrop]
      dsimp only
      rw [if_pos ⟨hv.point (Option.some_ne_none frac), rfl⟩]
      exact congrArg₂ _ (congrArg _ (congrArg _ htake')) hdrop'

/-- Every string starts with a numeral, which may have no digit. -/
lemma splitNumeral_spec (floatEnable : Bool) (str : List UInt8) : ∃ (n : Numeral)
    (rest : List UInt8), str = n.text ++ rest ∧ n.Valid floatEnable ∧ n.Stops floatEnable rest := by
  have hsplit : ∀ l : List UInt8, ∃ body rest, l = body ++ rest ∧ (∀ c ∈ body, IsDecimal c) ∧
      ∀ c ∈ rest.head?, ¬ IsDecimal c := by
    intro l
    refine ⟨l.takeWhile (IsDecimal ·), l.dropWhile (IsDecimal ·),
      List.takeWhile_append_dropWhile.symm, fun c hc => ?_, fun c hc hd => ?_⟩
    · simpa using List.all_eq_true.mp List.all_takeWhile c hc
    · have hhead := List.head?_dropWhile_not (fun c => decide (IsDecimal c)) l
      rw [hc] at hhead
      simp [hd] at hhead
  obtain ⟨whole, rest, rfl, hwhole, hrest⟩ := hsplit str
  have hnone : ∀ h : floatEnable = true → rest.head? ≠ some 0x2e, ∃ n rest',
      whole ++ rest = Numeral.text n ++ rest' ∧ n.Valid floatEnable ∧
        n.Stops floatEnable rest' := fun h =>
    ⟨⟨whole, none⟩, rest, by simp [Numeral.text], ⟨hwhole, nofun, fun hne => absurd rfl hne⟩,
      hrest, fun _ => h⟩
  by_cases hpoint : floatEnable = true ∧ rest.head? = some 0x2e
  · obtain ⟨hfloat, hhead⟩ := hpoint
    obtain ⟨t, rfl⟩ := List.head?_eq_some_iff.mp hhead
    obtain ⟨frac, rest', rfl, hfrac, hrest'⟩ := hsplit t
    exact ⟨⟨whole, some frac⟩, rest', by simp [Numeral.text], ⟨hwhole, hfrac, fun _ => hfloat⟩,
      hrest', nofun⟩
  · exact hnone fun hfloat hhead => hpoint ⟨hfloat, hhead⟩

/-- A suffix does not continue a numeral. -/
lemma Suffix.stops (h : Suffix rateEnable suffix rate) (n : Numeral) :
    n.Stops floatEnable suffix := by
  have hletter : ∀ c : UInt8, (c = 0x6b ∨ c = 0x4b) ∨ c = 0x6d ∨ c = 0x4d →
      n.Stops floatEnable [c] := by
    intro c hc
    constructor
    · intro d hd
      obtain rfl := Option.some.inj hd
      rcases hc with (rfl | rfl) | rfl | rfl <;> decide
    · intro _ _ hd
      have hpoint := Option.some.inj hd
      rcases hc with (rfl | rfl) | rfl | rfl <;> cases hpoint
  cases h with
  | none => exact ⟨nofun, fun _ _ => nofun⟩
  | kilo c hrate hc => exact hletter c (.inl hc)
  | mega c hrate hc => exact hletter c (.inr hc)

lemma Suffix.unique {rate' : ℕ} (h : Suffix rateEnable suffix rate)
    (h' : Suffix rateEnable suffix rate') : rate = rate' := by
  cases h with
  | none =>
      cases h'
      rfl
  | kilo c hrate hc =>
      cases h' with
      | kilo => rfl
      | mega _ _ hc' => rcases hc with rfl | rfl <;> rcases hc' with hc' | hc' <;> cases hc'
  | mega c hrate hc =>
      cases h' with
      | kilo _ _ hc' => rcases hc with rfl | rfl <;> rcases hc' with hc' | hc' <;> cases hc'
      | mega => rfl

/-- Nor does a second point. -/
lemma Numeral.stops_point (h : n.fraction ≠ none) : n.Stops floatEnable (0x2e :: rest) := by
  refine ⟨fun c hc => ?_, fun hnone => absurd hnone h⟩
  obtain rfl := Option.some.inj hc
  exact not_isDecimal_point

/-- A numeral that is not continued is the one of every spelling. -/
lemma Spelled.eq_split {m : Numeral} (hv : n.Valid floatEnable) (hs : n.Stops floatEnable rest)
    (h : Spelled floatEnable rateEnable (n.text ++ rest) m suffix rate) :
    m = n ∧ suffix = rest := by
  have hsplit := splitNumeral_text h.valid (h.ends.stops m)
  rw [← h.text, splitNumeral_text hv hs] at hsplit
  obtain ⟨rfl, rfl⟩ := Prod.mk.inj hsplit
  exact ⟨rfl, rfl⟩

/-- A second point stands behind the numeral which is split off. -/
lemma eq_split_of_point {m : Numeral} {t : List UInt8} (hv : n.Valid floatEnable)
    (hs : n.Stops floatEnable rest) (hm : m.Valid floatEnable) (hfrac : m.fraction ≠ none)
    (htext : n.text ++ rest = m.text ++ 0x2e :: t) : m = n ∧ rest = 0x2e :: t := by
  have hstops : m.Stops floatEnable (0x2e :: t) := Numeral.stops_point hfrac
  have hsplit := splitNumeral_text hm hstops
  rw [← htext, splitNumeral_text hv hs] at hsplit
  obtain ⟨rfl, rfl⟩ := Prod.mk.inj hsplit
  exact ⟨rfl, rfl⟩

/-- A string is spelled in one way. -/
lemma Spelled.unique {n' : Numeral} {suffix' : List UInt8} {rate' : ℕ}
    (h : Spelled floatEnable rateEnable str n suffix rate)
    (h' : Spelled floatEnable rateEnable str n' suffix' rate') :
    n = n' ∧ suffix = suffix' ∧ rate = rate' := by
  obtain ⟨hv, hends, rfl⟩ := h
  obtain ⟨rfl, rfl⟩ := h'.eq_split hv (hends.stops n)
  exact ⟨rfl, rfl, hends.unique h'.ends⟩

lemma Spelled.denotes_iff (h : Spelled floatEnable rateEnable str n suffix rate) {q : ℚ} :
    DenotesNumber floatEnable rateEnable str q ↔ n.digits ≠ [] ∧ q = n.value * rate := by
  constructor
  · rintro ⟨n', suffix', rate', h', hdigits, hq⟩
    obtain ⟨rfl, -, rfl⟩ := h.unique h'
    exact ⟨hdigits, hq⟩
  · exact fun hq => ⟨n, suffix, rate, h, hq⟩

/-! ### Scanning -/

lemma isDigit_iff {c : UInt8} : isDigit c = true ↔ IsDecimal c := by
  rw [isDigit, Bool.and_eq_true, decide_eq_true_eq, decide_eq_true_eq]

lemma configStrFindNondigit_digits {body : List UInt8} (h : ∀ c ∈ body, IsDecimal c) (point : ℕ) :
    configStrFindNondigit floatEnable point (body ++ rest) =
      configStrFindNondigit floatEnable point rest := by
  induction body with
  | nil => rfl
  | cons c body ih =>
      rw [List.cons_append, configStrFindNondigit, if_pos (isDigit_iff.mpr (h c List.mem_cons_self)),
        ih fun d hd => h d (List.mem_cons_of_mem c hd)]

/-- The scan ends behind the numeral, and finds nothing if a second point stands there. -/
lemma configStrFindNondigit_text (hv : n.Valid floatEnable) (hs : n.Stops floatEnable rest) :
    configStrFindNondigit floatEnable 0 (n.text ++ rest) =
      if rest = [] ∨ n.fraction ≠ none ∧ rest.head? = some 0x2e then none else some rest := by
  obtain ⟨whole, fraction⟩ := n
  have hstop : ∀ {c : UInt8} {t : List UInt8}, rest = c :: t → ¬ isDigit c = true := by
    rintro c t rfl hc
    exact hs.digit c rfl (isDigit_iff.mp hc)
  cases fraction with
  | none =>
      rw [Numeral.text, List.append_nil, configStrFindNondigit_digits hv.whole]
      cases rest with
      | nil => rfl
      | cons c t =>
          have hpoint : ¬ (floatEnable && c == 0x2e) = true := by
            intro hc
            obtain ⟨hfloat, hc⟩ := Bool.and_eq_true_iff.mp hc
            exact hs.point rfl hfloat (by rw [eq_of_beq hc]; rfl)
          rw [configStrFindNondigit, if_neg (hstop rfl), if_neg hpoint, if_neg (by simp)]
  | some frac =>
      have hfloat := hv.point (Option.some_ne_none frac)
      have hpoint : (floatEnable && (0x2e : UInt8) == 0x2e) = true := by rw [hfloat]; rfl
      have hone : ¬ isDigit 0x2e = true := by decide
      have hplaces : ∀ c ∈ frac, IsDecimal c := hv.places
      rw [Numeral.text, List.append_assoc, configStrFindNondigit_digits hv.whole,
        List.cons_append, configStrFindNondigit, if_neg hone, if_pos hpoint,
        if_neg (Nat.lt_irrefl 1), configStrFindNondigit_digits hplaces]
      cases rest with
      | nil => rfl
      | cons c t =>
          rw [configStrFindNondigit, if_neg (hstop rfl)]
          by_cases hc : c = 0x2e
          · rw [hc, if_pos hpoint, if_pos (by decide), if_pos (by simp)]
          · rw [if_neg (by simp [hc]), if_neg (by simp [hc])]

end Split

/-! ### Reading -/

/-- `atof` as the number that a string begins with, and the conversion of a `double` to an `int`,
which cuts off the fraction of what fits. The string is one that `strtod` does not read on in: it
starts with the numeral, and no exponent or hexadecimal digits follow. -/
structure Atof.Exact (atof : Atof) (conv : ℚ → Int32) : Prop where
  scaled : ∀ (n : Numeral) (rest : List UInt8) (rate : Int32), n.Valid true →
    n.Stops true rest → (n.text ++ rest = [] ∨ n.text ≠ []) →
    (∀ c ∈ rest.head?, c ≠ 0x65 ∧ c ≠ 0x45 ∧ c ≠ 0x78 ∧ c ≠ 0x58) →
    atof.scaled (n.text ++ rest) rate = conv (n.value * rate.toInt)
  conv : ∀ q : ℚ, 0 ≤ q → q < 2 ^ 31 → (conv q).toInt = ⌊q⌋

/-- The `int` that a numeral with a factor is read as. -/
def reading (conv : ℚ → Int32) (floatEnable : Bool) (n : Numeral) (rate : ℕ) : Int32 :=
  if floatEnable then conv (n.value * rate)
  else (Int64.ofInt (min (numberOf n.whole : ℤ) (2 ^ 63 - 1))).toInt32 * Int32.ofNat rate

section Reading

variable {atof : Atof} {conv : ℚ → Int32} {floatEnable rateEnable : Bool}
  {str rest suffix : List UInt8} {n : Numeral} {rate : ℕ}

lemma Numeral.value_nonneg (n : Numeral) : 0 ≤ n.value :=
  div_nonneg (Nat.cast_nonneg _) (pow_nonneg (by norm_num) _)

/-- `atoi` of digits. -/
lemma atoi_digits {body : List UInt8} (h : ∀ c ∈ body, IsDecimal c)
    (hrest : ∀ c ∈ rest.head?, ¬ IsDecimal c) (hne : body ++ rest = [] ∨ body ≠ []) :
    atoi (body ++ rest) = (Int64.ofInt (min (numberOf body : ℤ) (2 ^ 63 - 1))).toInt32 := by
  rw [atoi]
  congr 1
  rcases body with _ | ⟨a, body⟩
  · obtain hnil : rest = [] := hne.resolve_right (not_not.mpr rfl)
    rw [hnil]
    rfl
  · have hrun := decimalRun_digits h hrest
    rw [List.cons_append] at hrun ⊢
    rw [← hrun]
    have hnone : ∀ c ∈ ([] : List UInt8), isSpace c = true := nofun
    exact atol_digits hnone (h a List.mem_cons_self)

/-- What is read of a string. -/
lemma value_eq_reading (hexact : atof.Exact conv) (hv : n.Valid floatEnable)
    (hs : n.Stops floatEnable rest)
    (hne : n.text ++ rest = [] ∨ n.text ≠ [])
    (hexp : ∀ c ∈ rest.head?, c ≠ 0x65 ∧ c ≠ 0x45 ∧ c ≠ 0x78 ∧ c ≠ 0x58)
    (hrate : (Int32.ofNat rate).toInt = rate) :
    (if floatEnable then atof.scaled (n.text ++ rest) (Int32.ofNat rate)
      else atoi (n.text ++ rest) * Int32.ofNat rate) = reading conv floatEnable n rate := by
  rw [reading]
  cases floatEnable with
  | true =>
      rw [if_pos rfl, if_pos rfl, hexact.scaled n rest _ hv hs hne hexp, hrate, Int.cast_natCast]
  | false =>
      rw [hv.text_eq_whole] at hne
      rw [if_neg Bool.false_ne_true, if_neg Bool.false_ne_true, hv.text_eq_whole,
        atoi_digits hv.whole hs.digit hne]

/-- What fits in an `int` is read as it is. -/
lemma toInt_reading (hexact : atof.Exact conv) (hv : n.Valid floatEnable) (hpos : 0 < rate)
    (hrate : rate < 2 ^ 31) (hlt : n.value * rate < 2 ^ 31) :
    (reading conv floatEnable n rate).toInt = ⌊n.value * rate⌋ := by
  rw [reading]
  cases floatEnable with
  | true =>
      rw [if_pos rfl]
      exact hexact.conv _ (mul_nonneg n.value_nonneg (Nat.cast_nonneg rate)) hlt
  | false =>
      have hvalue : n.value * rate = ((numberOf n.whole * rate : ℕ) : ℚ) := by
        rw [Numeral.value, Numeral.digits, Numeral.places, hv.fraction_eq_none]
        simp
      rw [hvalue] at hlt ⊢
      have hprod : numberOf n.whole * rate < 2 ^ 31 := by exact_mod_cast hlt
      have hle : numberOf n.whole ≤ numberOf n.whole * rate := Nat.le_mul_of_pos_right _ hpos
      have hlong : (Int64.ofInt (min (numberOf n.whole : ℤ) (2 ^ 63 - 1))).toInt =
          numberOf n.whole := by
        rw [min_eq_left (by omega)]
        exact Int64.toInt_ofInt_of_le (by omega) (by omega)
      have hbmod : ∀ k : ℕ, k < 2 ^ 31 → (k : ℤ).bmod (2 ^ 32) = k := fun k hk =>
        Int.bmod_eq_of_le (by omega) (by omega)
      rw [if_neg Bool.false_ne_true, Int32.toInt_mul, Int64.toInt_toInt32, hlong,
        Int32.toInt_ofNat_of_lt hrate, hbmod _ (by omega), ← Int.natCast_mul, hbmod _ hprod,
        Int.floor_natCast]

/-- The conversion makes the number negative: `atoi` cuts it to 32 bits, as the multiplication
does. -/
def TurnsNegative (conv : ℚ → Int32) (floatEnable : Bool) (n : Numeral) (rate : ℕ) : Prop :=
  if floatEnable then conv (n.value * rate) < 0
  else 2 ^ 31 ≤ min (numberOf n.whole) (2 ^ 63 - 1) * rate % 2 ^ 32

lemma reading_neg_iff (hrate : rate < 2 ^ 31) :
    reading conv floatEnable n rate < 0 ↔ TurnsNegative conv floatEnable n rate := by
  rw [reading, TurnsNegative]
  cases floatEnable with
  | true => rw [if_pos rfl, if_pos rfl]
  | false =>
      have hmin : min (numberOf n.whole : ℤ) (2 ^ 63 - 1) =
          ((min (numberOf n.whole) (2 ^ 63 - 1) : ℕ) : ℤ) := by
        push_cast
        rfl
      rw [if_neg Bool.false_ne_true, if_neg Bool.false_ne_true, hmin]
      generalize hk : min (numberOf n.whole) (2 ^ 63 - 1) = k
      have hlong : (Int64.ofInt (k : ℤ)).toInt = k := Int64.toInt_ofInt_of_le (by omega) (by omega)
      have hzero : (0 : Int32).toInt = 0 := rfl
      rw [Int32.lt_iff_toInt_lt, Int32.toInt_mul, Int64.toInt_toInt32, hlong,
        Int32.toInt_ofNat_of_lt hrate, hzero, Int.bmod_mul_bmod, ← Int.natCast_mul]
      generalize k * rate = v
      rw [Int.bmod_def]
      split_ifs <;> omega

lemma Suffix.rate_pos (h : Suffix rateEnable suffix rate) : 0 < rate ∧ rate ≤ 1000000 ∧
    (Int32.ofNat rate).toInt = rate := by
  cases h <;> exact ⟨by norm_num, by norm_num, rfl⟩

/-- The letters of a suffix. -/
lemma Suffix.rateOf_eq (h : Suffix rateEnable suffix rate) (hne : suffix ≠ []) :
    rateOf suffix = some (Int32.ofNat rate) ∧ rateEnable = true ∧
      ∀ c ∈ suffix.head?, c ≠ 0x2e ∧ c ≠ 0x65 ∧ c ≠ 0x45 ∧ c ≠ 0x78 ∧ c ≠ 0x58 := by
  cases h with
  | none => exact absurd rfl hne
  | kilo c hrate hc =>
      refine ⟨by rcases hc with rfl | rfl <;> rfl, hrate, fun d hd => ?_⟩
      obtain rfl := Option.some.inj hd
      rcases hc with rfl | rfl <;> decide
  | mega c hrate hc =>
      refine ⟨by rcases hc with rfl | rfl <;> rfl, hrate, fun d hd => ?_⟩
      obtain rfl := Option.some.inj hd
      rcases hc with rfl | rfl <;> decide

lemma exists_suffix_of_rateOf {p : List UInt8} {r : Int32} (hrate : rateEnable = true)
    (h : rateOf p = some r) : ∃ rate, Suffix rateEnable p rate := by
  rw [rateOf] at h
  split_ifs at h with hkilo hmega
  · rcases hkilo with rfl | rfl
    · exact ⟨_, .kilo 0x6b hrate (.inl rfl)⟩
    · exact ⟨_, .kilo 0x4b hrate (.inr rfl)⟩
  · rcases hmega with rfl | rfl
    · exact ⟨_, .mega 0x6d hrate (.inl rfl)⟩
    · exact ⟨_, .mega 0x4d hrate (.inr rfl)⟩

/-- `config_parse_number` after the conversion. -/
def clamp (val : Int32) : Int32 := if val < 0 then -1 else val

lemma text_eq_nil_iff : n.text = [] ↔ n.digits = [] ∧ n.fraction = none := by
  obtain ⟨whole, fraction⟩ := n
  cases fraction <;> simp [Numeral.text, Numeral.digits, Numeral.places]

/-- A string that is spelled as a number; a suffix alone is refused. -/
lemma configParseNumber_spelled (hexact : atof.Exact conv)
    (h : Spelled floatEnable rateEnable str n suffix rate) :
    configParseNumber atof str floatEnable rateEnable =
      if n.text = [] ∧ suffix ≠ [] then -1 else clamp (reading conv floatEnable n rate) := by
  obtain ⟨hv, hsuffix, rfl⟩ := h
  have hstops : n.Stops floatEnable suffix := hsuffix.stops n
  obtain ⟨-, -, hint⟩ := hsuffix.rate_pos
  rw [configParseNumber, configStrFindNondigit_text hv hstops]
  by_cases hnil : suffix = []
  · subst hnil
    obtain rfl := hsuffix.unique .none
    have hvalue := value_eq_reading hexact hv hstops
      ((em (n.text = [])).imp (fun h => by rw [h]; rfl) id) nofun hint
    rw [if_pos (.inl rfl), if_neg (by simp)]
    exact congrArg clamp hvalue
  · obtain ⟨hrateOf, henable, hletter⟩ := hsuffix.rateOf_eq hnil
    have hscan : ¬ (suffix = [] ∨ n.fraction ≠ none ∧ suffix.head? = some 0x2e) := by
      rintro (h | ⟨-, h⟩)
      · exact hnil h
      · exact (hletter _ h).1 rfl
    rw [if_neg hscan]
    dsimp only
    rw [henable, if_neg (by simp), hrateOf, List.length_append]
    dsimp only
    by_cases htext : n.text = []
    · rw [htext, if_pos (by rw [List.length_nil, Nat.zero_add]), if_pos ⟨rfl, hnil⟩]
    · have hlen := List.length_pos_iff.mpr htext
      have hvalue := value_eq_reading hexact hv hstops (.inr htext)
        (fun c hc => (hletter c hc).2) hint
      have hlonger : ¬ suffix.length = n.text.length + suffix.length := by omega
      have haccepted : ¬ (n.text = [] ∧ suffix ≠ []) := fun h => htext h.1
      rw [if_neg hlonger, if_neg haccepted]
      exact congrArg clamp hvalue

/-- A second point ends the scan as if the string ended there. -/
lemma configParseNumber_point (hexact : atof.Exact conv) (hv : n.Valid floatEnable)
    (hpoint : n.fraction ≠ none) (hstr : str = n.text ++ 0x2e :: rest) :
    configParseNumber atof str floatEnable rateEnable = clamp (reading conv floatEnable n 1) := by
  have hstops : n.Stops floatEnable (0x2e :: rest) := Numeral.stops_point hpoint
  have htext : n.text ≠ [] := fun hnil => hpoint (text_eq_nil_iff.mp hnil).2
  have hplain : ∀ c ∈ (0x2e :: rest).head?, c ≠ 0x65 ∧ c ≠ 0x45 ∧ c ≠ 0x78 ∧ c ≠ 0x58 := by
    intro c hc
    obtain rfl := Option.some.inj hc
    decide
  have hone : (Int32.ofNat 1).toInt = (1 : ℕ) := rfl
  have hvalue := value_eq_reading hexact hv hstops (.inr htext) hplain hone
  rw [hstr, configParseNumber, configStrFindNondigit_text hv hstops, if_pos (.inr ⟨hpoint, rfl⟩)]
  exact congrArg clamp hvalue

/-- Every other string is refused. -/
lemma configParseNumber_other (hv : n.Valid floatEnable) (hs : n.Stops floatEnable rest)
    (hne : rest ≠ []) (hpoint : ¬ (n.fraction ≠ none ∧ rest.head? = some 0x2e))
    (hsuffix : ∀ rate, ¬ Suffix rateEnable rest rate) :
    configParseNumber atof (n.text ++ rest) floatEnable rateEnable = -1 := by
  rw [configParseNumber, configStrFindNondigit_text hv hs, if_neg (by tauto)]
  dsimp only
  by_cases henable : rateEnable = false
  · rw [if_pos henable]
  · rw [if_neg henable]
    rw [Bool.not_eq_false] at henable
    rcases hrate : rateOf rest with _ | r
    · rfl
    · obtain ⟨rate, h⟩ := exists_suffix_of_rateOf henable hrate
      exact absurd h (hsuffix rate)

end Reading

/-! ### When a number is parsed -/

/-- What the string has to be for `config_parse_number`: no second point, a digit, and no value
above an `int`; a value above is refused too where the conversion makes it negative. -/
structure NumberReads (conv : ℚ → Int32) (floatEnable rateEnable : Bool) (str : List UInt8) :
    Prop where
  one_point : ∀ (n : Numeral) rest, n.Valid floatEnable → n.fraction ≠ none →
    str = n.text ++ 0x2e :: rest → TurnsNegative conv floatEnable n 1
  some_digit : ∀ n suffix rate, Spelled floatEnable rateEnable str n suffix rate →
    n.digits = [] → n.text = [] ∧ suffix ≠ []
  fits : ∀ n suffix rate, Spelled floatEnable rateEnable str n suffix rate → n.digits ≠ [] →
    2 ^ 31 ≤ n.value * rate → TurnsNegative conv floatEnable n rate

section Parses

variable {conv : ℚ → Int32} {floatEnable rateEnable : Bool} {str : List UInt8} {x : Int32}

lemma clamp_eq_neg_one_iff : clamp x = -1 ↔ x < 0 := by
  rw [clamp]
  split_ifs with h
  · exact ⟨fun _ => h, fun _ => rfl⟩
  · refine ⟨fun hx => ?_, fun hx => absurd hx h⟩
    rw [hx] at h
    exact absurd (by decide) h

lemma toInt_clamp_of_not_neg (h : ¬ x < 0) : (clamp x).toInt = x.toInt ∧ 0 ≤ x.toInt := by
  rw [Int32.lt_iff_toInt_lt] at h
  rw [clamp, if_neg (by rwa [Int32.lt_iff_toInt_lt])]
  exact ⟨rfl, not_lt.mp h⟩

/-- If the string denotes nothing, the result has to be `-1`. -/
lemma parsesNumber_of_nothing (h : ∀ q, ¬ DenotesNumber floatEnable rateEnable str q) :
    ParsesNumber floatEnable rateEnable str x ↔ x = -1 := by
  constructor
  · exact fun hparse => hparse.reject fun q hq => absurd hq (h q)
  · rintro rfl
    refine ⟨fun v hv => ⟨fun hneg => ?_, fun ⟨q, hq, _⟩ => absurd hq (h q)⟩, fun _ => rfl⟩
    have hval : (-1 : Int32).toInt = -1 := rfl
    omega

/-- If the string denotes one number, the result has to be that number, or `-1` if it is above an
`int`. -/
lemma parsesNumber_of_one {q : ℚ} (hnonneg : 0 ≤ q)
    (h : ∀ p, DenotesNumber floatEnable rateEnable str p ↔ p = q) :
    ParsesNumber floatEnable rateEnable str x ↔
      if ⌊q⌋ ≤ 2147483647 then x.toInt = ⌊q⌋ else x = -1 := by
  have hfloor : 0 ≤ ⌊q⌋ := Int.floor_nonneg.mpr hnonneg
  have hone : (-1 : Int32).toInt = -1 := rfl
  by_cases hfits : ⌊q⌋ ≤ 2147483647
  · rw [if_pos hfits]
    constructor
    · exact fun hparse => (hparse.value _ hfloor).mpr ⟨q, (h q).mpr rfl, rfl, hfits⟩
    · intro hx
      refine ⟨fun v hv => ⟨fun hv' => ⟨q, (h q).mpr rfl, by omega, by omega⟩, ?_⟩, fun hbig => ?_⟩
      · rintro ⟨p, hp, hfloor', -⟩
        rw [(h p).mp hp] at hfloor'
        omega
      · have := hbig q ((h q).mpr rfl)
        omega
  · rw [if_neg hfits]
    constructor
    · refine fun hparse => hparse.reject fun p hp => ?_
      rw [(h p).mp hp]
      omega
    · rintro rfl
      refine ⟨fun v hv => ⟨fun hneg => by omega, ?_⟩, fun _ => rfl⟩
      rintro ⟨p, hp, hfloor', hle⟩
      rw [(h p).mp hp] at hfloor'
      omega

end Parses

section Cases

variable {atof : Atof} {conv : ℚ → Int32} {floatEnable rateEnable : Bool}
  {rest : List UInt8} {n : Numeral} {rate : ℕ}

lemma floor_fits_iff {q : ℚ} : ⌊q⌋ ≤ 2147483647 ↔ q < 2 ^ 31 := by
  rw [← Int.lt_add_one_iff, Int.floor_lt]
  norm_num

/-- No digit is read as 0. -/
lemma reading_of_no_digit (hexact : atof.Exact conv) (hv : n.Valid floatEnable) (hpos : 0 < rate)
    (hrate : rate < 2 ^ 31) (hdigits : n.digits = []) : reading conv floatEnable n rate = 0 := by
  have hvalue : n.value = 0 := by
    rw [Numeral.value, hdigits]
    exact zero_div _
  have hint := toInt_reading hexact hv hpos hrate (by rw [hvalue, zero_mul]; norm_num)
  rw [hvalue, zero_mul, Int.floor_zero] at hint
  exact Int32.toInt_inj.mp hint

/-- No second point stands in a string that is spelled as a number. -/
lemma Spelled.no_point {m : Numeral} {t : List UInt8}
    (h : Spelled floatEnable rateEnable (n.text ++ rest) n rest rate) (hm : m.Valid floatEnable)
    (hfrac : m.fraction ≠ none) : n.text ++ rest ≠ m.text ++ 0x2e :: t := by
  intro htext
  obtain ⟨-, rfl⟩ := eq_split_of_point h.valid (h.ends.stops n) hm hfrac htext
  exact ((h.ends.rateOf_eq nofun).2.2 _ rfl).1 rfl

/-- Without a digit nothing is denoted. -/
lemma parsesNumber_no_digit (hexact : atof.Exact conv)
    (h : Spelled floatEnable rateEnable (n.text ++ rest) n rest rate) (hdigits : n.digits = []) :
    ParsesNumber floatEnable rateEnable (n.text ++ rest)
        (configParseNumber atof (n.text ++ rest) floatEnable rateEnable) ↔
      NumberReads conv floatEnable rateEnable (n.text ++ rest) := by
  obtain ⟨hpos, hmax, -⟩ := h.ends.rate_pos
  rw [configParseNumber_spelled hexact h,
    parsesNumber_of_nothing fun q hq => (h.denotes_iff.mp hq).1 hdigits]
  have hclamp : clamp (reading conv floatEnable n rate) ≠ -1 := by
    rw [reading_of_no_digit hexact h.valid hpos (by omega) hdigits]
    decide
  constructor
  · intro hone
    have hrefused : n.text = [] ∧ rest ≠ [] := by
      by_contra hnot
      rw [if_neg hnot] at hone
      exact hclamp hone
    refine ⟨fun m t hm hfrac htext => absurd htext (h.no_point hm hfrac), fun m t r hm _ => ?_,
      fun m t r hm hne => ?_⟩
    · obtain ⟨rfl, rfl, -⟩ := h.unique hm
      exact hrefused
    · obtain ⟨rfl, -, -⟩ := h.unique hm
      exact absurd hdigits hne
  · intro hreads
    rw [if_pos (hreads.some_digit _ _ _ h hdigits)]

/-- With a digit one number is denoted. -/
lemma parsesNumber_digits (hexact : atof.Exact conv)
    (h : Spelled floatEnable rateEnable (n.text ++ rest) n rest rate) (hdigits : n.digits ≠ []) :
    ParsesNumber floatEnable rateEnable (n.text ++ rest)
        (configParseNumber atof (n.text ++ rest) floatEnable rateEnable) ↔
      NumberReads conv floatEnable rateEnable (n.text ++ rest) := by
  obtain ⟨hpos, hmax, -⟩ := h.ends.rate_pos
  have htext : ¬ (n.text = [] ∧ rest ≠ []) := fun hnil => hdigits (text_eq_nil_iff.mp hnil.1).1
  have hnonneg : 0 ≤ n.value * rate := mul_nonneg n.value_nonneg (Nat.cast_nonneg rate)
  have hreads : NumberReads conv floatEnable rateEnable (n.text ++ rest) ↔
      (2 ^ 31 ≤ n.value * rate → reading conv floatEnable n rate < 0) := by
    rw [reading_neg_iff (by omega)]
    constructor
    · exact fun hr => hr.fits _ _ _ h hdigits
    · intro hr
      refine ⟨fun m t hm hfrac ht => absurd ht (h.no_point hm hfrac), fun m t r hm hnil => ?_,
        fun m t r hm _ => ?_⟩
      · obtain ⟨rfl, -, -⟩ := h.unique hm
        exact absurd hnil hdigits
      · obtain ⟨rfl, -, rfl⟩ := h.unique hm
        exact hr
  rw [configParseNumber_spelled hexact h, if_neg htext, hreads,
    parsesNumber_of_one hnonneg fun p => h.denotes_iff.trans (and_iff_right hdigits)]
  by_cases hlt : n.value * rate < 2 ^ 31
  · have hint := toInt_reading hexact h.valid hpos (by omega) hlt
    have hneg : ¬ reading conv floatEnable n rate < 0 := by
      rw [Int32.lt_iff_toInt_lt, hint]
      exact not_lt.mpr (Int.floor_nonneg.mpr hnonneg)
    rw [if_pos (floor_fits_iff.mpr hlt), (toInt_clamp_of_not_neg hneg).1, hint]
    exact ⟨fun _ hle => absurd hlt (not_lt.mpr hle), fun _ => rfl⟩
  · rw [if_neg (mt floor_fits_iff.mp hlt), clamp_eq_neg_one_iff]
    exact ⟨fun hr _ => hr, fun hr => hr (not_lt.mp hlt)⟩

/-- A string that is not spelled as a number denotes nothing. -/
lemma parsesNumber_unspelled (hexact : atof.Exact conv) (hv : n.Valid floatEnable)
    (hs : n.Stops floatEnable rest) (hsuffix : ∀ rate, ¬ Suffix rateEnable rest rate) :
    ParsesNumber floatEnable rateEnable (n.text ++ rest)
        (configParseNumber atof (n.text ++ rest) floatEnable rateEnable) ↔
      NumberReads conv floatEnable rateEnable (n.text ++ rest) := by
  have hunspelled : ∀ {m : Numeral} {suffix : List UInt8} {rate : ℕ},
      ¬ Spelled floatEnable rateEnable (n.text ++ rest) m suffix rate := by
    intro m suffix rate hm
    obtain ⟨rfl, rfl⟩ := hm.eq_split hv hs
    exact hsuffix rate hm.ends
  rw [parsesNumber_of_nothing fun _ ⟨_, _, _, hm, _⟩ => hunspelled hm]
  by_cases hpoint : n.fraction ≠ none ∧ rest.head? = some 0x2e
  · obtain ⟨hfrac, hhead⟩ := hpoint
    obtain ⟨t, rfl⟩ := List.head?_eq_some_iff.mp hhead
    rw [configParseNumber_point hexact hv hfrac rfl, clamp_eq_neg_one_iff,
      reading_neg_iff (by norm_num)]
    constructor
    · intro hneg
      refine ⟨fun m t' hm hfrac' htext => ?_, fun m t r hm => absurd hm hunspelled,
        fun m t r hm => absurd hm hunspelled⟩
      obtain ⟨rfl, -⟩ := eq_split_of_point hv hs hm hfrac' htext
      exact hneg
    · exact fun hreads => hreads.one_point n t hv hfrac rfl
  · have hne : rest ≠ [] := by
      rintro rfl
      exact hsuffix 1 .none
    rw [configParseNumber_other hv hs hne hpoint hsuffix]
    refine ⟨fun _ => ⟨fun m t hm hfrac htext => ?_, fun m t r hm => absurd hm hunspelled,
      fun m t r hm => absurd hm hunspelled⟩, fun _ => rfl⟩
    obtain ⟨rfl, hrest⟩ := eq_split_of_point hv hs hm hfrac htext
    exact absurd ⟨hfrac, by rw [hrest]; rfl⟩ hpoint

end Cases

/-- **The grammar of numbers.** With an exact `atof`, `config_parse_number` returns the number that
a string denotes, and `-1` for all others, exactly if the string has no second point, has a digit
if it is not a suffix alone, and is not above an `int`; but for the values that are converted to a
negative `int`. -/
theorem parsesNumber_iff {atof : Atof} {conv : ℚ → Int32} (hexact : atof.Exact conv)
    (str : List UInt8) (floatEnable rateEnable : Bool) :
    ParsesNumber floatEnable rateEnable str (configParseNumber atof str floatEnable rateEnable) ↔
      NumberReads conv floatEnable rateEnable str := by
  obtain ⟨n, rest, rfl, hv, hs⟩ := splitNumeral_spec floatEnable str
  by_cases hsuffix : ∃ rate, Suffix rateEnable rest rate
  · obtain ⟨rate, hrate⟩ := hsuffix
    have hspelled : Spelled floatEnable rateEnable (n.text ++ rest) n rest rate := ⟨hv, hrate, rfl⟩
    by_cases hdigits : n.digits = []
    · exact parsesNumber_no_digit hexact hspelled hdigits
    · exact parsesNumber_digits hexact hspelled hdigits
  · exact parsesNumber_unspelled hexact hv hs fun rate hrate => hsuffix ⟨rate, hrate⟩

lemma isDecimal_of_all {l : List UInt8} (h : l.all (IsDecimal ·) = true) : ∀ c ∈ l, IsDecimal c :=
  fun c hc => of_decide_eq_true (List.all_eq_true.mp h c hc)

/-- The conversion of `x86_64`: what does not fit becomes the least `int`. -/
def cvttsd2si (q : ℚ) : Int32 := if 0 ≤ q ∧ q < 2 ^ 31 then Int32.ofInt ⌊q⌋ else Int32.minValue

/-- An `atof` without rounding. -/
def Atof.exact : Atof where
  scaled str rate := cvttsd2si ((splitNumeral true str).1.value * rate.toInt)
  negative str := str.head? == some 0x2d

lemma Atof.exact_exact : Atof.exact.Exact cvttsd2si := by
  refine ⟨fun n rest rate hv hs _ _ => ?_, fun q h0 hlt => ?_⟩
  · rw [Atof.exact]
    dsimp only
    rw [splitNumeral_text hv hs]
  · have hfloor : ⌊q⌋ < 2 ^ 31 := by
      rw [Int.floor_lt]
      exact_mod_cast hlt
    have hnonneg := Int.floor_nonneg.mpr h0
    rw [cvttsd2si, if_pos ⟨h0, hlt⟩]
    exact Int32.toInt_ofInt_of_le (by omega) (by omega)

/-- The suffix of `12k`. -/
theorem parsesNumber_twelve_k :
    ParsesNumber true true (ascii "12k") (configParseNumber .exact (ascii "12k") true true) := by
  have hs : Spelled true true (ascii "12k") ⟨ascii "12", none⟩ (ascii "k") 1000 :=
    ⟨⟨isDecimal_of_all rfl, nofun, fun h => absurd rfl h⟩, .kilo 0x6b rfl (.inl rfl), rfl⟩
  refine (parsesNumber_iff Atof.exact_exact _ _ _).mpr ⟨fun n rest _ _ htext => ?_,
    fun n suffix rate h hnil => ?_, fun n suffix rate h _ hbig => ?_⟩
  · have hpoint : (0x2e : UInt8) ∈ ascii "12k" := by
      rw [htext]
      exact List.mem_append_right _ List.mem_cons_self
    simp [show ascii "12k" = [0x31, 0x32, 0x6b] from rfl] at hpoint
  · obtain ⟨rfl, -, -⟩ := hs.unique h
    cases hnil
  · obtain ⟨rfl, -, rfl⟩ := hs.unique h
    have hvalue : Numeral.value ⟨ascii "12", none⟩ = 12 := by
      rw [Numeral.value, show numberOf _ = 12 from rfl]
      simp [Numeral.places]
    rw [hvalue] at hbig
    norm_num at hbig

/-- A number of 33 bits is taken for 1, and a second point is not seen. -/
theorem parsesNumber_fails :
    configParseNumber .exact (ascii "4294967297") false false = 1 ∧
    ¬ ParsesNumber false false (ascii "4294967297") 1 ∧
    ¬ ParsesNumber true false (ascii "1.2.3")
      (configParseNumber .exact (ascii "1.2.3") true false) := by
  refine ⟨rfl, fun h => ?_, fun h => ?_⟩
  · have hs : Spelled false false (ascii "4294967297") ⟨ascii "4294967297", none⟩ [] 1 := by
      exact ⟨⟨isDecimal_of_all rfl, nofun, fun h => absurd rfl h⟩, .none, rfl⟩
    obtain ⟨q, hq, hfloor, -⟩ := (h.value 1 (by omega)).mp rfl
    obtain ⟨-, rfl⟩ := hs.denotes_iff.mp hq
    have hvalue : Numeral.value ⟨ascii "4294967297", none⟩ = 4294967297 := by
      rw [Numeral.value, show numberOf _ = 4294967297 from rfl]
      simp [Numeral.places]
    rw [hvalue] at hfloor
    norm_num at hfloor
  · -- the number before the second point is returned
    have hv : Numeral.Valid ⟨ascii "1", some (ascii "2")⟩ true :=
      ⟨isDecimal_of_all rfl, isDecimal_of_all (l := ascii "2") rfl, fun _ => rfl⟩
    have hresult : configParseNumber .exact (ascii "1.2.3") true false = _ :=
      configParseNumber_point Atof.exact_exact hv nofun
        (rfl : ascii "1.2.3" = ascii "1.2" ++ 0x2e :: ascii "3")
    have hvalue : Numeral.value ⟨ascii "1", some (ascii "2")⟩ = 12 / 10 := by
      rw [Numeral.value, show numberOf _ = 12 from rfl]
      norm_num [Numeral.places, show (ascii "2").length = 1 from rfl]
    have hsmall : Numeral.value ⟨ascii "1", some (ascii "2")⟩ * (1 : ℕ) < 2 ^ 31 := by
      rw [hvalue]
      norm_num
    have hread := toInt_reading Atof.exact_exact hv one_pos (by norm_num) hsmall
    have hone : ⌊(12 / 10 : ℚ) * (1 : ℕ)⌋ = 1 := by
      rw [Int.floor_eq_iff]
      norm_num
    rw [hvalue, hone] at hread
    have hneg : ¬ reading cvttsd2si true ⟨ascii "1", some (ascii "2")⟩ 1 < 0 := by
      rw [Int32.lt_iff_toInt_lt, hread]
      decide
    have hclamp := (toInt_clamp_of_not_neg hneg).1.trans hread
    rw [hresult] at h
    obtain ⟨q, ⟨m, suffix, rate, hm, hdigits, rfl⟩, -⟩ := (h.value 1 (by omega)).mp hclamp
    have htext : ascii "1.2.3" = Numeral.text ⟨ascii "1", some (ascii "2")⟩ ++ 0x2e :: ascii "3" :=
      rfl
    rw [htext] at hm
    obtain ⟨-, rfl⟩ := hm.eq_split hv (Numeral.stops_point nofun)
    have hends := hm.ends
    cases hends

end Dperf.Keywords
