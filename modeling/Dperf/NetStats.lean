import Dperf.Keywords
import Dperf.Lib.Decimal
import Dperf.Payloads

/-!
The numbers of `net_stats.c`: `net_stats_format_print2` cuts a value into groups of three digits,
`net_stats_format_print3` adds colours and blanks in a buffer.

* `snprintfAt`: the buffer after `snprintf`.
* `deleteCommas_grouped`: without its commas a printed value is the value modulo `10 ^ 15`.
* `netStatsFormatPrint3_eq`: what the buffer holds at the end, and its terminating NUL.
* `printedExactly_iff`: a value is printed exactly if and only if it is below `10 ^ 15`.
-/

namespace Dperf

open Decimal

/-! ### Buffers -/

/-- `snprintf` of a text into a buffer, the bytes of which are given. -/
def snprintfAt (buf text : List UInt8) : List UInt8 :=
  if buf = [] then [] else
    text.take (buf.length - 1) ++ 0 :: buf.drop (min text.length (buf.length - 1) + 1)

/-- `NET_STATS_CLOUR_ON`. -/
def netStatsClourOn : List UInt8 := 0x1b :: ascii "[41;37m"
/-- `NET_STATS_CLOUR_OFF`. -/
def netStatsClourOff : List UInt8 := 0x1b :: ascii "[0m"
/-- `STATS_BUF_LEN`. -/
def statsBufLen : ℕ := 64

/-- `%lu`. -/
def formatLu (val : UInt64) : List UInt8 := decimal val.toNat

/-- `%03lu`. -/
def format03lu (val : UInt64) : List UInt8 :=
  List.replicate (3 - (formatLu val).length) 0x30 ++ formatLu val

/-- `values[i]` of `net_stats_format_print2`. -/
def netStatsValues : ℕ → UInt64 → UInt64
  | 0, val => val % 1000
  | i + 1, val => netStatsValues i (val / 1000)

/-- The text of `net_stats_format_print2`. -/
def grouped (val : UInt64) : List UInt8 :=
  let values := fun i => netStatsValues i val
  if values 4 ≠ 0 then
    formatLu (values 4) ++ ascii "," ++ format03lu (values 3) ++ ascii "," ++ format03lu (values 2)
      ++ ascii "," ++ format03lu (values 1) ++ ascii "," ++ format03lu (values 0)
  else if values 3 ≠ 0 then
    formatLu (values 3) ++ ascii "," ++ format03lu (values 2) ++ ascii "," ++ format03lu (values 1)
      ++ ascii "," ++ format03lu (values 0)
  else if values 2 ≠ 0 then
    formatLu (values 2) ++ ascii "," ++ format03lu (values 1) ++ ascii "," ++ format03lu (values 0)
  else if values 1 ≠ 0 then formatLu (values 1) ++ ascii "," ++ format03lu (values 0)
  else formatLu (values 0)

/-- `net_stats_format_print2`. -/
def netStatsFormatPrint2 (val : UInt64) (buf : List UInt8) : List UInt8 :=
  snprintfAt buf (grouped val)

/-- The loop of `net_stats_format_print3`, `n` turns at most: where `p` ends, and the buffer. -/
def padBlanks (last : ℕ) : ℕ → ℕ → List UInt8 → ℕ × List UInt8
  | 0, p, buf => (p, buf)
  | n + 1, p, buf => if p ≤ last then padBlanks last n (p + 1) (buf.set p 0x20) else (p, buf)

/-- The blanks of `net_stats_format_print3`, and the NUL behind them. -/
def padTo (n : ℕ) (buf : List UInt8) : List UInt8 :=
  let last := buf.length - 1
  let r := padBlanks last n (cString buf).length buf
  if r.1 ≤ last then r.2.set r.1 0 else r.2.set last 0

/-- `net_stats_format_print3`. -/
def netStatsFormatPrint3 (val : UInt64) (buf : List UInt8) (space err : ℤ) : List UInt8 :=
  let str := cString (netStatsFormatPrint2 val (List.replicate statsBufLen 0))
  let buf :=
    if err = 0 ∨ val = 0 then snprintfAt buf str
    else snprintfAt buf (netStatsClourOn ++ str ++ netStatsClourOff)
  let n := space - str.length
  if n ≤ 0 then buf else padTo n.toNat buf

/-! ### The digits -/

/-- The text without its commas. -/
def deleteCommas (text : List UInt8) : List UInt8 := text.filter (· ≠ 0x2c)

lemma deleteCommas_append (a b : List UInt8) :
    deleteCommas (a ++ b) = deleteCommas a ++ deleteCommas b :=
  List.filter_append a b

lemma deleteCommas_of_digits {text : List UInt8} (h : ∀ c ∈ text, IsDecimal c) :
    deleteCommas text = text := by
  refine List.filter_eq_self.mpr fun c hc => decide_eq_true fun hcomma => ?_
  have hdigit := (h c hc).1
  rw [hcomma] at hdigit
  exact absurd hdigit (by decide)

lemma deleteCommas_comma : deleteCommas (ascii ",") = [] := rfl

lemma toNat_netStatsValues (i : ℕ) (val : UInt64) :
    (netStatsValues i val).toNat = val.toNat / 1000 ^ i % 1000 := by
  induction i generalizing val with
  | zero => rw [netStatsValues, UInt64.toNat_mod, pow_zero, Nat.div_one]; rfl
  | succ i ih =>
      have hdiv : (val / 1000).toNat = val.toNat / 1000 := UInt64.toNat_div val 1000
      rw [netStatsValues, ih, hdiv, Nat.div_div_eq_div_mul, pow_succ']

lemma netStatsValues_ne_zero_iff {i : ℕ} {val : UInt64} :
    netStatsValues i val ≠ 0 ↔ 0 < val.toNat / 1000 ^ i % 1000 := by
  rw [← toNat_netStatsValues, Nat.pos_iff_ne_zero, ne_eq, ne_eq, ← UInt64.toNat_inj]
  rfl

lemma format03lu_netStatsValues (i : ℕ) (val : UInt64) :
    format03lu (netStatsValues i val) = decimal3 (val.toNat / 1000 ^ i % 1000) := by
  rw [format03lu, formatLu, toNat_netStatsValues]
  exact replicate_append_decimal (Nat.mod_lt _ (by omega))

lemma deleteCommas_decimal (n : ℕ) : deleteCommas (decimal n) = decimal n :=
  deleteCommas_of_digits isDigit_of_mem_decimal

lemma deleteCommas_decimal3 (n : ℕ) : deleteCommas (decimal3 n) = decimal3 n :=
  deleteCommas_of_digits fun _ => isDigit_of_mem_decimal3

/-- Five groups of three digits are printed. -/
lemma deleteCommas_grouped (val : UInt64) :
    deleteCommas (grouped val) = decimal (val.toNat % 10 ^ 15) := by
  have hgroup : ∀ n r, 0 < n → decimal n ++ decimal3 (r % 1000) = decimal (1000 * n + r % 1000) :=
    fun n r hn => (decimal_thousand hn (Nat.mod_lt r (by omega))).symm
  rw [grouped]
  simp only [netStatsValues_ne_zero_iff, formatLu, toNat_netStatsValues, format03lu_netStatsValues,
    Nat.reducePow, Nat.div_one]
  -- the first group that is not zero decides how many there are
  split_ifs with h4 h3 h2 h1 <;>
    simp only [deleteCommas_append, deleteCommas_comma, List.append_nil, deleteCommas_decimal,
      deleteCommas_decimal3]
  · rw [hgroup _ _ h4, hgroup _ _ (by omega), hgroup _ _ (by omega), hgroup _ _ (by omega)]
    congr 1
    omega
  · rw [hgroup _ _ h3, hgroup _ _ (by omega), hgroup _ _ (by omega)]
    congr 1
    omega
  · rw [hgroup _ _ h2, hgroup _ _ (by omega)]
    congr 1
    omega
  · rw [hgroup _ _ h1]
    congr 1
    omega
  · congr 1
    omega

/-! ### The buffer -/

section Buffer

variable {text buf : List UInt8}

lemma cString_append_nul (h : ∀ c ∈ text, c ≠ 0) (tail : List UInt8) :
    cString (text ++ 0 :: tail) = text := by
  rw [cString, List.takeWhile_append_of_pos fun c hc => by simpa using h c hc]
  simp

lemma snprintfAt_eq (hbuf : buf ≠ []) (text : List UInt8) : ∃ tail,
    snprintfAt buf text = text.take (buf.length - 1) ++ 0 :: tail ∧
      (text.take (buf.length - 1)).length + 1 + tail.length = buf.length := by
  have hpos := List.length_pos_iff.mpr hbuf
  refine ⟨buf.drop (min text.length (buf.length - 1) + 1), if_neg hbuf, ?_⟩
  rw [List.length_take, List.length_drop]
  omega

/-- The blanks fill the rest of the buffer as far as it goes. -/
lemma padBlanks_append (last n : ℕ) (s rest : List UInt8) (h : s.length + rest.length = last + 1) :
    padBlanks last n s.length (s ++ rest) =
      (s.length + min n rest.length,
        s ++ List.replicate (min n rest.length) 0x20 ++ rest.drop (min n rest.length)) := by
  induction n generalizing s rest with
  | zero => simp [padBlanks]
  | succ n ih =>
      rw [padBlanks]
      cases rest with
      | nil =>
          rw [List.length_nil] at h
          rw [if_neg (by omega)]
          simp
      | cons x rest =>
          rw [List.length_cons] at h
          have hset : (s ++ x :: rest).set s.length 0x20 = (s ++ [0x20]) ++ rest := by simp
          have hlen : s.length + 1 = (s ++ [0x20]).length := by simp
          rw [if_pos (by omega), hset, hlen, ih _ _ (by rw [← hlen]; omega), ← hlen]
          simp only [List.length_cons, Nat.add_min_add_right, List.replicate_succ,
            List.append_assoc, List.nil_append, List.cons_append, List.drop_succ_cons]
          rw [Nat.add_right_comm, Nat.add_assoc]

lemma length_snprintfAt (buf text : List UInt8) : (snprintfAt buf text).length = buf.length := by
  rw [snprintfAt]
  split_ifs with hbuf
  · rw [hbuf]
  · have hpos := List.length_pos_iff.mpr hbuf
    rw [List.length_append, List.length_take, List.length_cons, List.length_drop]
    omega

lemma length_padBlanks (last : ℕ) (n p : ℕ) (buf : List UInt8) :
    (padBlanks last n p buf).2.length = buf.length := by
  induction n generalizing p buf with
  | zero => rfl
  | succ n ih =>
      rw [padBlanks]
      split_ifs
      · rw [ih, List.length_set]
      · rfl

lemma length_padTo (n : ℕ) (buf : List UInt8) : (padTo n buf).length = buf.length := by
  rw [padTo]
  split_ifs <;> rw [List.length_set, length_padBlanks]

/-- A text with `n` blanks, cut by the buffer, and the terminating NUL. -/
lemma padTo_snprintfAt (htext : ∀ c ∈ text, c ≠ 0) (hbuf : buf ≠ []) {n : ℕ} (hn : 0 < n) :
    ∃ tail, padTo n (snprintfAt buf text) =
      (text ++ List.replicate n 0x20).take (buf.length - 1) ++ 0 :: tail := by
  obtain ⟨tail, heq, hlen⟩ := snprintfAt_eq hbuf text
  have hcut : ∀ c ∈ text.take (buf.length - 1), c ≠ 0 := fun c hc =>
    htext c (List.mem_of_mem_take hc)
  have hblanks : (text ++ List.replicate n 0x20).take (buf.length - 1) =
      text.take (buf.length - 1) ++
        List.replicate (min (buf.length - 1 - text.length) n) 0x20 := by
    rw [List.take_append, List.take_replicate]
  have hshort := List.length_take (i := buf.length - 1) (l := text)
  rw [padTo]
  rw [heq, cString_append_nul hcut, hblanks]
  generalize hs : text.take (buf.length - 1) = s at hlen hshort ⊢
  have hall : (s ++ 0 :: tail).length = buf.length := by
    rw [List.length_append, List.length_cons]
    omega
  have hrest : (0 :: tail : List UInt8).length = buf.length - s.length := by
    rw [List.length_cons]
    omega
  rw [hall, padBlanks_append (buf.length - 1) n s (0 :: tail) (by rw [hrest]; omega), hrest]
  dsimp only
  by_cases hroom : s.length + min n (buf.length - s.length) ≤ buf.length - 1
  · -- there is room for all blanks
    have hk : min n (buf.length - s.length) = n ∧ min (buf.length - 1 - text.length) n = n := by
      omega
    rw [if_pos hroom, hk.1, hk.2]
    obtain ⟨x, rest, hdrop⟩ : ∃ x rest, (0 :: tail : List UInt8).drop n = x :: rest :=
      List.exists_cons_of_length_pos (by rw [List.length_drop, hrest]; omega)
    refine ⟨rest, ?_⟩
    have hplace : s.length + n = (s ++ List.replicate n 0x20).length := by simp
    rw [hdrop, hplace]
    simp
  · have hk : min n (buf.length - s.length) = min (buf.length - 1 - text.length) n + 1 := by omega
    have hend : (0 :: tail : List UInt8).drop (min (buf.length - 1 - text.length) n + 1) = [] :=
      List.drop_eq_nil_of_le (by omega)
    refine ⟨[], ?_⟩
    rw [if_neg hroom, hk, hend, List.replicate_succ', List.append_nil, ← List.append_assoc]
    have hplace : buf.length - 1 =
        (s ++ List.replicate (min (buf.length - 1 - text.length) n) 0x20).length := by
      rw [List.length_append, List.length_replicate]
      omega
    generalize s ++ List.replicate (min (buf.length - 1 - text.length) n) 0x20 = t at hplace ⊢
    rw [hplace]
    simp

end Buffer

/-! ### What is printed -/

lemma formatLu_chars (i : ℕ) (val : UInt64) : (∀ c ∈ formatLu (netStatsValues i val), IsDecimal c) ∧
    (formatLu (netStatsValues i val)).length ≤ 3 := by
  refine ⟨isDigit_of_mem_decimal, ?_⟩
  rw [formatLu, length_decimal_le_iff (by omega), toNat_netStatsValues]
  exact Nat.mod_lt _ (by omega)

lemma format03lu_chars (i : ℕ) (val : UInt64) :
    (∀ c ∈ format03lu (netStatsValues i val), IsDecimal c) ∧
      (format03lu (netStatsValues i val)).length = 3 := by
  rw [format03lu_netStatsValues]
  exact ⟨fun c => isDigit_of_mem_decimal3, rfl⟩

lemma length_grouped_le (val : UInt64) : (grouped val).length ≤ 19 := by
  have hlu := fun i => (formatLu_chars i val).2
  have h03 := fun i => (format03lu_chars i val).2
  have hcomma : (ascii ",").length = 1 := rfl
  rw [grouped]
  split_ifs <;> simp only [List.length_append, h03, hcomma] <;>
    linarith [hlu 0, hlu 1, hlu 2, hlu 3, hlu 4]

/-- Nothing but digits and commas is printed. -/
lemma ne_nul_of_mem_grouped {val : UInt64} : ∀ c ∈ grouped val, c ≠ 0 := by
  have hdigit : ∀ c, IsDecimal c → c ≠ 0 := by
    rintro c hc rfl
    exact absurd hc.1 (by decide)
  have hlu : ∀ i, ∀ c ∈ formatLu (netStatsValues i val), c ≠ 0 := fun i c hc =>
    hdigit c ((formatLu_chars i val).1 c hc)
  have h03 : ∀ i, ∀ c ∈ format03lu (netStatsValues i val), c ≠ 0 := fun i c hc =>
    hdigit c ((format03lu_chars i val).1 c hc)
  have hbytes : ascii "," = [0x2c] := rfl
  have hcomma : ∀ c ∈ ascii ",", c ≠ 0 := by simp [hbytes]
  intro c hc
  rw [grouped] at hc
  split_ifs at hc <;> simp only [List.mem_append] at hc <;> grind

lemma netStatsFormatPrint2_string {buf : List UInt8} (hbuf : buf.length = statsBufLen)
    (val : UInt64) : cString (netStatsFormatPrint2 val buf) = grouped val := by
  have hlen := length_grouped_le val
  have hne : buf ≠ [] := by
    rintro rfl
    cases hbuf
  obtain ⟨tail, heq, -⟩ := snprintfAt_eq hne (grouped val)
  rw [netStatsFormatPrint2, heq, hbuf, statsBufLen, List.take_of_length_le (by omega)]
  exact cString_append_nul ne_nul_of_mem_grouped tail

/-- What `net_stats_format_print3` adds to a text. -/
def decorated (val : UInt64) (space err : ℤ) (text : List UInt8) : List UInt8 :=
  (if err = 0 ∨ val = 0 then text else netStatsClourOn ++ text ++ netStatsClourOff)
    ++ List.replicate (space - text.length).toNat 0x20

/-- The buffer holds as much of the text as there is room for, and a NUL. -/
lemma netStatsFormatPrint3_eq (val : UInt64) {buf : List UInt8} (hbuf : buf ≠ [])
    (space err : ℤ) : ∃ tail, netStatsFormatPrint3 val buf space err =
      (decorated val space err (grouped val)).take (buf.length - 1) ++ 0 :: tail := by
  have hstr : cString (netStatsFormatPrint2 val (List.replicate statsBufLen 0)) = grouped val :=
    netStatsFormatPrint2_string (List.length_replicate ..) val
  have hnul : ∀ c ∈ (if err = 0 ∨ val = 0 then grouped val
      else netStatsClourOn ++ grouped val ++ netStatsClourOff), c ≠ 0 := by
    have hcodes : (∀ c ∈ netStatsClourOn, c ≠ 0) ∧ ∀ c ∈ netStatsClourOff, c ≠ 0 := by
      have hon : netStatsClourOn = [0x1b, 0x5b, 0x34, 0x31, 0x3b, 0x33, 0x37, 0x6d] := rfl
      have hoff : netStatsClourOff = [0x1b, 0x5b, 0x30, 0x6d] := rfl
      simp [hon, hoff]
    split_ifs
    · exact ne_nul_of_mem_grouped
    · intro c hc
      rcases List.mem_append.mp hc with hc | hc
      · exact (List.mem_append.mp hc).elim (hcodes.1 c) (ne_nul_of_mem_grouped c)
      · exact hcodes.2 c hc
  rw [netStatsFormatPrint3]
  rw [hstr, ← apply_ite (snprintfAt buf), decorated]
  by_cases hn : space - (grouped val).length ≤ 0
  · rw [if_pos hn, Int.toNat_of_nonpos hn, List.replicate_zero, List.append_nil]
    obtain ⟨tail, heq, -⟩ := snprintfAt_eq hbuf (if err = 0 ∨ val = 0 then grouped val
      else netStatsClourOn ++ grouped val ++ netStatsClourOff)
    exact ⟨tail, heq⟩
  · rw [if_neg hn]
    exact padTo_snprintfAt hnul hbuf (by omega)

lemma length_netStatsFormatPrint3 (val : UInt64) (buf : List UInt8) (space err : ℤ) :
    (netStatsFormatPrint3 val buf space err).length = buf.length := by
  rw [netStatsFormatPrint3]
  split_ifs <;> simp only [length_padTo, length_snprintfAt]

/-- A value is printed exactly: without its commas the text of `net_stats_format_print2` is the
decimal number, and `net_stats_format_print3` leaves such a text with its colours and blanks in
every buffer, as much as there is room for, and a NUL in the buffer. -/
structure PrintedExactly (val : UInt64) : Prop where
  print2 : ∀ buf, buf.length = statsBufLen →
    deleteCommas (cString (netStatsFormatPrint2 val buf)) = decimal val.toNat
  print3 : ∀ buf, buf ≠ [] → ∀ space err, ∃ text tail, deleteCommas text = decimal val.toNat ∧
    netStatsFormatPrint3 val buf space err =
      (decorated val space err text).take (buf.length - 1) ++ 0 :: tail ∧
    (netStatsFormatPrint3 val buf space err).length = buf.length

/-- **Printed numbers.** A value is printed exactly if and only if it is below `10 ^ 15`. -/
theorem printedExactly_iff (val : UInt64) : PrintedExactly val ↔ val.toNat < 10 ^ 15 := by
  constructor
  · intro h
    have hprint := h.print2 (List.replicate statsBufLen 0) (List.length_replicate ..)
    rw [netStatsFormatPrint2_string (List.length_replicate ..), deleteCommas_grouped] at hprint
    rw [← decimal_injective hprint]
    exact Nat.mod_lt _ (by omega)
  · intro h
    have hdigits : deleteCommas (grouped val) = decimal val.toNat := by
      rw [deleteCommas_grouped, Nat.mod_eq_of_lt h]
    refine ⟨fun buf hbuf => ?_, fun buf hbuf space err => ?_⟩
    · rw [netStatsFormatPrint2_string hbuf, hdigits]
    · obtain ⟨tail, heq⟩ := netStatsFormatPrint3_eq val hbuf space err
      exact ⟨grouped val, tail, hdigits, heq, length_netStatsFormatPrint3 val buf space err⟩

/-- Of `10 ^ 15` only the zeros of the last groups are left, and they are printed as `0`. -/
theorem printedExactly_fifteen_zeros : ¬ PrintedExactly 1000000000000000 := by
  intro h
  have hprint := h.print2 (List.replicate statsBufLen 0) (List.length_replicate ..)
  rw [netStatsFormatPrint2_string (List.length_replicate ..), deleteCommas_grouped] at hprint
  have heq := decimal_injective hprint
  have hval : (1000000000000000 : UInt64).toNat = 1000000000000000 := rfl
  rw [hval] at heq
  omega

end Dperf
