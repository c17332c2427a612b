import Dperf.Duplicates
import Dperf.Numbers

/-!
Numbers of the configuration in fields of other types: the keepalive interval, which is multiplied
as an `int` and stored in 64 bits, and `tx_burst`, which is stored in 8 bits.

* `configSetTsc`: the interval in cycles. `configSetTsc_bounds`: how much of it is cut off.
* `configParseKeepalive_interval`, `configParseTxBurst_stored`: what an accepted argument stores.
* `storedNumbers_iff`: an interval is kept if and only if it fits in an `int`, a burst if and only
  if it fits in 8 bits.
-/

namespace Dperf.Keywords

open Decimal

/-! ### Cycles -/

/-- `config_set_tsc`: `keepalive_request_interval` and `retransmit_timeout`. -/
def configSetTsc (us : UInt64) (retransmitTimeoutSec : UInt32) (hz : UInt64) : UInt64 × UInt64 :=
  let tsc := if us % 1000 = 0 then us / 1000 * (hz / 1000) else us * (hz / 1000) / 1000
  (tsc, hz * retransmitTimeoutSec.toUInt64)

/-- Without overflow the cycles are those of the interval, but for what the divisions cut off. -/
lemma configSetTsc_bounds {us hz : UInt64} (sec : UInt32)
    (h : us.toNat * (hz.toNat / 1000) < 2 ^ 64) :
    1000000 * (configSetTsc us sec hz).1.toNat ≤ us.toNat * hz.toNat ∧
      us.toNat * hz.toNat ≤ 1000000 * (configSetTsc us sec hz).1.toNat + 1000 * us.toNat
        + 1000000 := by
  have hthousand : (1000 : UInt64).toNat = 1000 := rfl
  have hrest : us.toNat * (hz.toNat % 1000) ≤ us.toNat * 999 :=
    Nat.mul_le_mul_left _ (by omega)
  have hsplit : us.toNat * hz.toNat =
      1000 * (us.toNat * (hz.toNat / 1000)) + us.toNat * (hz.toNat % 1000) := by
    calc us.toNat * hz.toNat
        = us.toNat * (1000 * (hz.toNat / 1000) + hz.toNat % 1000) := by rw [Nat.div_add_mod]
      _ = 1000 * (us.toNat * (hz.toNat / 1000)) + us.toNat * (hz.toNat % 1000) := by ring
  rw [configSetTsc]
  dsimp only
  split_ifs with hms
  · -- whole milliseconds
    have hmod : us.toNat % 1000 = 0 := by
      rw [← UInt64.toNat_inj, UInt64.toNat_mod] at hms
      exact hms
    have hprod : us.toNat * (hz.toNat / 1000) =
        1000 * (us.toNat / 1000 * (hz.toNat / 1000)) := by
      conv_lhs => rw [← Nat.div_add_mod us.toNat 1000, hmod]
      ring
    rw [UInt64.toNat_mul, UInt64.toNat_div, UInt64.toNat_div, hthousand]
    generalize us.toNat / 1000 * (hz.toNat / 1000) = tsc at hprod ⊢
    rw [Nat.mod_eq_of_lt (by omega)]
    omega
  · rw [UInt64.toNat_div, UInt64.toNat_mul, UInt64.toNat_div, hthousand, Nat.mod_eq_of_lt h]
    omega

/-! ### The keepalive interval -/

/-- The units of an interval, in microseconds. -/
def keepaliveUnits : List (List UInt8 × ℕ) :=
  [(ascii "us", 1), (ascii "ms", 1000), (ascii "s", 1000000)]

/-- The interval is the number of units, and `config_set_tsc` turns it into its cycles. -/
structure IntervalKept (stored : ℤ) (number unit : ℕ) : Prop where
  kept : stored = number * unit
  tsc : ∀ sec hz, hz.toNat ≤ 10 ^ 10 →
    0 ≤ (stored * hz.toNat : ℚ) / 10 ^ 6 -
      (configSetTsc (UInt64.ofNat stored.toNat) sec hz).1.toNat ∧
    (stored * hz.toNat : ℚ) / 10 ^ 6 -
      (configSetTsc (UInt64.ofNat stored.toNat) sec hz).1.toNat ≤ stored / 1000 + 1

section Keepalive

variable {atof : Atof} {argv : Argv} {cfg cfg' : KeywordConfig} {digits unit : List UInt8}
  {factor : ℕ}

/-- `atoi` of a number of digits. -/
lemma toInt_atoi {rest : List UInt8} (h : ∀ c ∈ digits, IsDecimal c)
    (hrest : ∀ c ∈ rest.head?, ¬ IsDecimal c) (hne : digits ++ rest = [] ∨ digits ≠ []) :
    (atoi (digits ++ rest)).toInt = Int.bmod (min (numberOf digits) (2 ^ 63 - 1) : ℕ) (2 ^ 32) := by
  have hmin : min (numberOf digits : ℤ) (2 ^ 63 - 1) =
      ((min (numberOf digits) (2 ^ 63 - 1) : ℕ) : ℤ) := by
    push_cast
    rfl
  rw [atoi_digits h hrest hne, Int64.toInt_toInt32, hmin, Int64.toInt_ofInt_of_le (by omega)
    (by omega)]

/-- A number that does not come out negative is cut to 32 bits, and not at the bound of `long`. -/
lemma toInt_atoi_of_nonneg {rest : List UInt8} (h : ∀ c ∈ digits, IsDecimal c)
    (hrest : ∀ c ∈ rest.head?, ¬ IsDecimal c) (hne : digits ++ rest = [] ∨ digits ≠ [])
    (hnonneg : 0 ≤ (atoi (digits ++ rest)).toInt) :
    (atoi (digits ++ rest)).toInt = Int.bmod (numberOf digits) (2 ^ 32) := by
  have hatoi := toInt_atoi h hrest hne
  have hmin : min (numberOf digits) (2 ^ 63 - 1) = numberOf digits := by
    by_contra hbig
    have hmax : min (numberOf digits) (2 ^ 63 - 1) = 2 ^ 63 - 1 := by omega
    rw [hmax] at hatoi
    rw [hatoi] at hnonneg
    exact absurd hnonneg (by decide)
  rw [hatoi, hmin]

lemma keepaliveRate_unit (h : (unit, factor) ∈ keepaliveUnits) :
    ∃ rate : Int32, keepaliveRate unit = some rate ∧ rate.toInt = factor ∧ 0 < factor ∧
      ∀ c ∈ unit.head?, ¬ IsDecimal c := by
  simp only [keepaliveUnits, List.mem_cons, List.not_mem_nil, or_false, Prod.mk.injEq] at h
  rcases h with ⟨rfl, rfl⟩ | ⟨rfl, rfl⟩ | ⟨rfl, rfl⟩
  · exact ⟨1, rfl, rfl, one_pos, fun c hc => by obtain rfl := Option.some.inj hc; decide⟩
  · exact ⟨1000, rfl, rfl, by norm_num, fun c hc => by obtain rfl := Option.some.inj hc; decide⟩
  · exact ⟨1000 * 1000, rfl, rfl, by norm_num,
      fun c hc => by obtain rfl := Option.some.inj hc; decide⟩

/-- The handler stores what `config_parse_keepalive_request_interval` gives. -/
lemma configParseKeepalive_ok (h : (configParseKeepalive atof).run argv cfg = .ok cfg') :
    ∃ interval, configParseKeepaliveRequestInterval (arg argv 1) = .ok interval ∧
      cfg'.num .keepaliveRequestIntervalUs = interval.toInt % 2 ^ 64 := by
  obtain ⟨-, -, ws, hbody, rfl⟩ := Once.run_eq_ok_iff.mp h
  rw [configParseKeepalive] at hbody
  dsimp only at hbody
  rcases hinterval : configParseKeepaliveRequestInterval (arg argv 1) with e | interval
  · rw [hinterval] at hbody
    cases hbody
  rw [hinterval] at hbody
  dsimp only at hbody
  rcases hnum : keepaliveNum atof argv with e | num
  · rw [hnum] at hbody
    cases hbody
  rw [hnum] at hbody
  dsimp only at hbody
  split_ifs at hbody
  obtain rfl := Except.ok.inj hbody
  refine ⟨interval, rfl, ?_⟩
  cases num <;> rfl

/-- An accepted interval, as it is multiplied. -/
lemma configParseKeepalive_interval (h : (configParseKeepalive atof).run argv cfg = .ok cfg')
    (harg : arg argv 1 = digits ++ unit) (hdigits : ∀ c ∈ digits, IsDecimal c) (hne : digits ≠ [])
    (hunit : (unit, factor) ∈ keepaliveUnits) :
    cfg'.num .keepaliveRequestIntervalUs =
      Int.bmod (numberOf digits * factor : ℕ) (2 ^ 32) % 2 ^ 64 := by
  obtain ⟨interval, hinterval, hstored⟩ := configParseKeepalive_ok h
  obtain ⟨rate, hrate, hfactor, -, hletter⟩ := keepaliveRate_unit hunit
  have hv : Numeral.Valid ⟨digits, none⟩ false := ⟨hdigits, nofun, fun h => absurd rfl h⟩
  have hs : Numeral.Stops ⟨digits, none⟩ false unit := ⟨hletter, nofun⟩
  have hscan := configStrFindNondigit_text hv hs
  have htext : Numeral.text ⟨digits, none⟩ = digits := List.append_nil digits
  have hunit' : ¬ (unit = [] ∨ (none : Option (List UInt8)) ≠ none ∧ unit.head? = some 0x2e) := by
    rintro (rfl | ⟨hnone, -⟩)
    · cases hrate
    · exact hnone rfl
  rw [htext, if_neg hunit'] at hscan
  rw [harg, configParseKeepaliveRequestInterval, hscan, Option.bind_some, hrate] at hinterval
  dsimp only at hinterval
  split_ifs at hinterval with hneg
  obtain rfl := Except.ok.inj hinterval
  rw [Int32.lt_iff_toInt_lt, not_lt] at hneg
  have hatoi := toInt_atoi_of_nonneg hdigits hletter (.inr hne) hneg
  rw [hstored, Int32.toInt_mul, hatoi, hfactor, Int.bmod_mul_bmod]
  push_cast
  rfl

/-- An interval that is an `int` is kept. -/
lemma intervalKept_of_lt {number : ℕ} (hlt : number * factor < 2 ^ 31) :
    IntervalKept (number * factor : ℕ) number factor := by
  generalize hprod : number * factor = us at hlt ⊢
  refine ⟨by rw [← hprod]; push_cast; rfl, fun sec hz hhz => ?_⟩
  have hus : (UInt64.ofNat (us : ℤ).toNat).toNat = us := by
    rw [Int.toNat_natCast, UInt64.toNat_ofNat']
    exact Nat.mod_eq_of_lt (by omega)
  have hroom : us * (hz.toNat / 1000) < 2 ^ 64 :=
    calc us * (hz.toNat / 1000) ≤ 2 ^ 31 * 10 ^ 7 :=
          Nat.mul_le_mul hlt.le (by omega)
      _ < 2 ^ 64 := by norm_num
  have hfits : (UInt64.ofNat (us : ℤ).toNat).toNat * (hz.toNat / 1000) < 2 ^ 64 := by
    rw [hus]
    exact hroom
  have hbounds := configSetTsc_bounds sec hfits
  rw [hus] at hbounds
  generalize (configSetTsc (UInt64.ofNat (us : ℤ).toNat) sec hz).1.toNat = tsc at hbounds ⊢
  have hlow : (1000000 * tsc : ℚ) ≤ us * hz.toNat := by exact_mod_cast hbounds.1
  have hhigh : (us * hz.toNat : ℚ) ≤ 1000000 * tsc + 1000 * us + 1000000 := by
    exact_mod_cast hbounds.2
  push_cast
  constructor
  · rw [sub_nonneg, le_div_iff₀ (by norm_num)]
    linarith
  · rw [sub_le_iff_le_add, div_le_iff₀ (by norm_num)]
    linarith

/-- A large interval is not kept: it has more cycles than 64 bits. -/
lemma not_intervalKept_of_le {us : ℕ} {stored : ℤ} (hstored : stored = us)
    (hle : 2 ^ 64 - 2 ^ 31 ≤ us) {number : ℕ} : ¬ IntervalKept stored number factor := by
  subst hstored
  intro hkept
  have hhz : (10000000000 : UInt64).toNat = 10000000000 := rfl
  have hupper := (hkept.tsc 0 10000000000 (by rw [hhz]; norm_num)).2
  have hcycles := (configSetTsc (UInt64.ofNat (us : ℤ).toNat) 0 10000000000).1.toNat_lt
  rw [hhz] at hupper
  generalize (configSetTsc (UInt64.ofNat (us : ℤ).toNat) 0 10000000000).1.toNat = tsc
    at hupper hcycles
  have hcycles' : (tsc : ℚ) < 2 ^ 64 := by exact_mod_cast hcycles
  have hus : (2 ^ 64 - 2 ^ 31 : ℚ) ≤ us := by
    have hcast : ((2 ^ 64 - 2 ^ 31 : ℕ) : ℚ) ≤ us := by exact_mod_cast hle
    norm_num at hcast ⊢
    exact hcast
  push_cast at hupper
  linarith

/-- The interval is kept exactly if it is an `int`. -/
lemma intervalKept_iff (h : (configParseKeepalive atof).run argv cfg = .ok cfg')
    (harg : arg argv 1 = digits ++ unit) (hdigits : ∀ c ∈ digits, IsDecimal c) (hne : digits ≠ [])
    (hunit : (unit, factor) ∈ keepaliveUnits) :
    IntervalKept (cfg'.num .keepaliveRequestIntervalUs) (numberOf digits) factor ↔
      numberOf digits * factor < 2 ^ 31 := by
  rw [configParseKeepalive_interval h harg hdigits hne hunit]
  generalize numberOf digits = number
  have hbmod : ∀ us : ℕ, Int.bmod us (2 ^ 32) = if (us : ℤ) % 2 ^ 32 < 2 ^ 31 then
      (us : ℤ) % 2 ^ 32 else (us : ℤ) % 2 ^ 32 - 2 ^ 32 := by
    intro us
    rw [Int.bmod_def]
    split_ifs <;> omega
  constructor
  · intro hkept
    by_contra hbig
    have hstored := hkept.kept
    rw [← Int.natCast_mul] at hstored
    -- such a product is sign-extended to itself only near `2 ^ 64`
    have hlarge : 2 ^ 64 - 2 ^ 31 ≤ number * factor := by
      rw [hbmod] at hstored
      split_ifs at hstored <;> omega
    exact not_intervalKept_of_le hstored hlarge hkept
  · intro hlt
    have hself : Int.bmod (number * factor : ℕ) (2 ^ 32) % 2 ^ 64 = (number * factor : ℕ) := by
      rw [hbmod]
      split_ifs <;> omega
    rw [hself]
    exact intervalKept_of_lt hlt

end Keepalive

/-! ### The burst -/

/-- `TX_BURST_DEFAULT`. -/
def txBurstDefault : ℤ := 8

/-- `tx_queue.tx_burst` of a work space, 16 bits: the configured value, or the default that
`config_parse` puts in the place of zero. -/
def txQueueTxBurst (cfg : KeywordConfig) : ℤ :=
  (if cfg.num .txBurst = 0 then txBurstDefault else cfg.num .txBurst) % 2 ^ 16

section TxBurst

variable {atof : Atof} {argv : Argv} {cfg cfg' : KeywordConfig}

/-- Without points and suffixes, a number that is not refused is a run of digits. -/
lemma configParseNumber_plain {str : List UInt8}
    (h : 0 ≤ (configParseNumber atof str false false).toInt) :
    (∀ c ∈ str, IsDecimal c) ∧
      (configParseNumber atof str false false).toInt = Int.bmod (numberOf str) (2 ^ 32) := by
  obtain ⟨n, rest, rfl, hv, hs⟩ := splitNumeral_spec false str
  have hrest : rest = [] := by
    by_contra hne
    have hsuffix : ∀ rate, ¬ Suffix false rest rate := fun rate hsuffix => by
      cases (hsuffix.rateOf_eq hne).2.1
    have hother : configParseNumber atof (n.text ++ rest) false false = -1 :=
      configParseNumber_other hv hs hne (fun hpoint => hpoint.1 hv.fraction_eq_none) hsuffix
    rw [hother] at h
    exact absurd h (by decide)
  subst hrest
  have hscan := configStrFindNondigit_text hv hs
  rw [if_pos (.inl rfl)] at hscan
  rw [hv.text_eq_whole] at hscan h ⊢
  have hempty : n.whole ++ [] = [] ∨ n.whole ≠ [] := by
    rw [List.append_nil]
    exact em _
  rw [configParseNumber, hscan] at h ⊢
  dsimp only at h ⊢
  rw [if_neg Bool.false_ne_true, Int32.mul_one] at h ⊢
  by_cases hneg : atoi (n.whole ++ []) < 0
  · rw [if_pos hneg] at h
    exact absurd h (by decide)
  · rw [if_neg hneg] at h ⊢
    rw [toInt_atoi_of_nonneg hv.whole hs.digit hempty h, List.append_nil]
    exact ⟨hv.whole, rfl⟩

/-- An accepted burst is a number of digits, which is cut to 32 bits, compared with the bounds and
cut to 8 bits. -/
lemma configParseTxBurst_stored (h : (configParseTxBurst atof).run argv cfg = .ok cfg') :
    (∀ c ∈ arg argv 1, IsDecimal c) ∧ ∃ v : ℕ, 1 ≤ v ∧ v ≤ 1024 ∧
      numberOf (arg argv 1) % 2 ^ 32 = v ∧ cfg'.num .txBurst = (v : ℤ) % 2 ^ 8 := by
  obtain ⟨-, -, ws, hbody, rfl⟩ := Once.run_eq_ok_iff.mp h
  rw [configParseTxBurst, numberKeyword] at hbody
  dsimp only at hbody
  rcases hval : inRange 1 1024 (configParseNumber atof (arg argv 1) false false) with _ | val
  · rw [hval] at hbody
    cases hbody
  rw [hval] at hbody
  obtain rfl := Except.ok.inj hbody
  obtain ⟨rfl, hmin, hmax⟩ := inRange_eq_some hval
  have hbounds : (1 : Int32).toInt = 1 ∧ (1024 : Int32).toInt = 1024 := ⟨rfl, rfl⟩
  rw [hbounds.1] at hmin
  rw [hbounds.2] at hmax
  have hnonneg : 0 ≤ (configParseNumber atof (arg argv 1) false false).toInt := by omega
  obtain ⟨hdigits, hnumber⟩ := configParseNumber_plain hnonneg
  rw [Int.bmod_def] at hnumber
  refine ⟨hdigits, (configParseNumber atof (arg argv 1) false false).toInt.toNat, by omega,
    by omega, ?_, ?_⟩
  · split_ifs at hnumber <;> omega
  · rw [List.foldl_cons, List.foldl_nil, KeywordConfig.write]
    dsimp only
    rw [Function.update_self, Int.toNat_of_nonneg (by omega)]
    rfl

/-- The burst is the number that is given exactly if that is below 256. -/
lemma txQueueTxBurst_iff (h : (configParseTxBurst atof).run argv cfg = .ok cfg') :
    txQueueTxBurst cfg' = numberOf (arg argv 1) ↔ numberOf (arg argv 1) < 256 := by
  obtain ⟨-, v, hlow, hhigh, hmod, hstored⟩ := configParseTxBurst_stored h
  rw [txQueueTxBurst, hstored, txBurstDefault]
  split_ifs <;> omega

end TxBurst

/-! ### Both -/

/-- **Stored numbers.** An accepted keepalive interval is kept, also in cycles, if and only if it
is below `2 ^ 31` microseconds; an accepted `tx_burst` is the burst that is used if and only if it
is below 256. -/
theorem storedNumbers_iff (atof : Atof) (argv : Argv) (cfg cfg' : KeywordConfig) :
    ((configParseKeepalive atof).run argv cfg = .ok cfg' →
      ∀ digits unit factor, (∀ c ∈ digits, IsDecimal c) → digits ≠ [] →
        (unit, factor) ∈ keepaliveUnits → arg argv 1 = digits ++ unit →
          (IntervalKept (cfg'.num .keepaliveRequestIntervalUs) (numberOf digits) factor ↔
            numberOf digits * factor < 2 ^ 31)) ∧
    ((configParseTxBurst atof).run argv cfg = .ok cfg' → (∀ c ∈ arg argv 1, IsDecimal c) ∧
      (txQueueTxBurst cfg' = numberOf (arg argv 1) ↔ numberOf (arg argv 1) < 256)) :=
  ⟨fun h _ _ _ hdigits hne hunit harg => intervalKept_iff h harg hdigits hne hunit,
    fun h => ⟨(configParseTxBurst_stored h).1, txQueueTxBurst_iff h⟩⟩

/-- 20 seconds, and a burst of 32 packets. -/
theorem storedNumbers_small : ∃ cfg cfg',
    (configParseKeepalive .exact).run [ascii "keepalive", ascii "20s"] KeywordConfig.zero = .ok cfg ∧
    IntervalKept (cfg.num .keepaliveRequestIntervalUs) 20 1000000 ∧
    (configParseTxBurst .exact).run [ascii "tx_burst", ascii "32"] KeywordConfig.zero = .ok cfg' ∧
    txQueueTxBurst cfg' = 32 := by
  obtain ⟨cfg, h⟩ : ∃ cfg, (configParseKeepalive .exact).run [ascii "keepalive", ascii "20s"]
      KeywordConfig.zero = .ok cfg := ⟨_, rfl⟩
  obtain ⟨cfg', h'⟩ : ∃ cfg, (configParseTxBurst .exact).run [ascii "tx_burst", ascii "32"]
      KeywordConfig.zero = .ok cfg := ⟨_, rfl⟩
  exact ⟨cfg, cfg', h, ((storedNumbers_iff _ _ _ _).1 h (ascii "20") (ascii "s") 1000000
      (isDecimal_of_all rfl) nofun (by simp [keepaliveUnits]) rfl).mpr (by decide),
    h', ((storedNumbers_iff _ _ _ _).2 h').2.mpr (by decide)⟩

/-- 3000 seconds are above an `int` of microseconds, and a burst of 300 packets becomes 44. -/
theorem storedNumbers_large : ∃ cfg cfg',
    (configParseKeepalive .exact).run [ascii "keepalive", ascii "3000s"] KeywordConfig.zero =
      .ok cfg ∧
    ¬ IntervalKept (cfg.num .keepaliveRequestIntervalUs) 3000 1000000 ∧
    (configParseTxBurst .exact).run [ascii "tx_burst", ascii "300"] KeywordConfig.zero = .ok cfg' ∧
    txQueueTxBurst cfg' = 44 := by
  obtain ⟨cfg, h⟩ : ∃ cfg, (configParseKeepalive .exact).run [ascii "keepalive", ascii "3000s"]
      KeywordConfig.zero = .ok cfg := ⟨_, rfl⟩
  obtain ⟨cfg', h'⟩ : ∃ cfg, (configParseTxBurst .exact).run [ascii "tx_burst", ascii "300"]
      KeywordConfig.zero = .ok cfg := ⟨_, rfl⟩
  refine ⟨cfg, cfg', h, fun hkept => ?_, h', ?_⟩
  · have hunit : (ascii "s", 1000000) ∈ keepaliveUnits := by
      simp [keepaliveUnits]
    have hlt := (intervalKept_iff h rfl (isDecimal_of_all (l := ascii "3000") rfl) nofun
      hunit).mp hkept
    exact absurd hlt (by decide)
  · obtain rfl := Except.ok.inj h'
    rfl

end Dperf.Keywords
