import Mathlib.Data.List.GetD
import Mathlib.Data.List.TakeWhile
import Dperf.ChunkComplete
import Dperf.Lib.Decimal
import Dperf.Payloads

/-!
One header line: how `http_parse_headers` delimits it, and how far
`http_parse_header_line` looks.

* `httpParseHeadersLoop_line`: the loop hands each line to `http_parse_header_line`.
* `LineLocal`: what comes behind a line has no effect on it. `lineLocal_iff` says when that is so:
  `atol` skips the line feed too if nothing else stands between the colon and it.
-/

namespace Dperf

/-! ### `atol` -/

/-- A decimal digit. -/
abbrev IsDigit (c : UInt8) : Prop := 0x30 ≤ c ∧ c ≤ 0x39

lemma decimalRun_append (a b : List UInt8) (h : ∀ c ∈ a, IsDigit c) :
    ∀ acc, decimalRun acc (a ++ b) = decimalRun (decimalRun acc a) b := by
  induction a with
  | nil => exact fun acc => rfl
  | cons c a ih =>
      intro acc
      have hc := h c List.mem_cons_self
      rw [List.cons_append, decimalRun, if_pos hc, ih fun d hd => h d (List.mem_cons_of_mem c hd),
        decimalRun, if_pos hc]

/-- The digits end at the first byte that is none. -/
lemma decimalRun_stop {c : UInt8} (hc : ¬ IsDigit c) (a b : List UInt8) :
    ∀ acc, decimalRun acc (a ++ c :: b) = decimalRun acc a := by
  induction a with
  | nil => exact fun acc => if_neg hc
  | cons d a ih =>
      intro acc
      rw [List.cons_append, decimalRun, decimalRun]
      split_ifs
      · exact ih _
      · rfl

/-- The number of the digits. -/
lemma decimalRun_digits {body rest : List UInt8} (h : ∀ c ∈ body, IsDigit c)
    (hrest : ∀ c ∈ rest.head?, ¬ IsDigit c) :
    decimalRun 0 (body ++ rest) = Decimal.numberOf body := by
  have hstop : ∀ acc, decimalRun acc rest = acc := by
    intro acc
    cases rest with
    | nil => rfl
    | cons c t => exact if_neg (hrest c rfl)
  have hrun : ∀ acc, decimalRun acc body =
      body.foldl (fun n c => 10 * n + (c.toNat - 48)) acc := by
    induction body with
    | nil => exact fun acc => rfl
    | cons c body ih =>
        intro acc
        rw [decimalRun, if_pos (h c List.mem_cons_self),
          ih fun d hd => h d (List.mem_cons_of_mem c hd), List.foldl_cons, Nat.mul_comm acc]
  rw [decimalRun_append _ _ h, hstop, hrun, Decimal.numberOf]

/-- `atol` of digits behind white space. -/
lemma atol_digits {blanks : List UInt8} (hb : ∀ c ∈ blanks, isSpace c = true) {a : UInt8}
    {l : List UInt8} (h : IsDigit a) :
    atol (blanks ++ a :: l) = Int64.ofInt (min (decimalRun 0 (a :: l) : Int) (2 ^ 63 - 1)) := by
  have hle := UInt8.le_iff_toNat_le.mp h.1
  change 48 ≤ a.toNat at hle
  have hspace : isSpace a = false := by
    have hne : a ≠ 0x20 := by
      rintro rfl
      exact absurd h.1 (by decide)
    have hno : ¬ a ≤ 0x0d := fun hd => by
      have := UInt8.le_iff_toNat_le.mp hd
      change a.toNat ≤ 13 at this
      omega
    simp [isSpace, hne, hno]
  have hdrop : (blanks ++ a :: l).dropWhile isSpace = a :: l := by
    rw [List.dropWhile_append_of_pos hb, List.dropWhile_cons_of_neg (by simp [hspace])]
  rw [atol, hdrop]
  split
  · rename_i heq
    cases heq
    exact absurd h.1 (by decide)
  · rename_i heq
    cases heq
    exact absurd h.1 (by decide)
  · rfl

/-- How many bytes a sign, the digits and the byte that ends them are. -/
def numberReads : List UInt8 → ℕ
  | 0x2d :: t => (t.takeWhile IsDigit).length + 2
  | 0x2b :: t => (t.takeWhile IsDigit).length + 2
  | t => (t.takeWhile IsDigit).length + 1

/-- How many bytes `atol` looks at: those behind the white space too. -/
def atolReads (s : List UInt8) : ℕ :=
  (s.takeWhile isSpace).length + numberReads (s.dropWhile isSpace)

lemma one_le_numberReads (t : List UInt8) : 1 ≤ numberReads t := by
  unfold numberReads
  split <;> omega

lemma not_isDigit_lineFeed : ¬ IsDigit 0x0a := by decide

/-- A run of digits ends before a line feed. -/
lemma length_takeWhile_digits (a rest : List UInt8) :
    ((a ++ 0x0a :: rest).takeWhile IsDigit).length ≤ a.length := by
  induction a with
  | nil => simp
  | cons c a ih =>
      rw [List.cons_append, List.takeWhile_cons]
      split
      · exact Nat.succ_le_succ ih
      · exact Nat.zero_le _

lemma numberReads_line (c : UInt8) (t rest : List UInt8) :
    numberReads (c :: (t ++ 0x0a :: rest)) ≤ t.length + 2 := by
  have hdigits := length_takeWhile_digits t rest
  have hall := length_takeWhile_digits (c :: t) rest
  rw [List.length_cons] at hall
  unfold numberReads
  split
  · rename_i heq
    obtain ⟨-, rfl⟩ := List.cons.inj heq
    omega
  · rename_i heq
    obtain ⟨-, rfl⟩ := List.cons.inj heq
    omega
  · exact Nat.succ_le_succ hall

/-- What follows the white space decides, up to the line feed. -/
lemma atol_signed {c : UInt8} {t rest : List UInt8} {s s' : List UInt8}
    (hs : s.dropWhile isSpace = c :: (t ++ 0x0a :: rest)) (hs' : s'.dropWhile isSpace = c :: t) :
    atol s = atol s' := by
  have hrun : ∀ a : List UInt8, decimalRun 0 (a ++ 0x0a :: rest) = decimalRun 0 a :=
    fun a => decimalRun_stop not_isDigit_lineFeed a rest 0
  rw [atol, atol, hs, hs']
  split
  · rename_i heq
    obtain ⟨rfl, rfl⟩ := List.cons.inj heq
    exact congrArg (fun n : ℕ => Int64.ofInt (max (-(n : Int)) (-(2 ^ 63)))) (hrun t)
  · rename_i heq
    obtain ⟨rfl, rfl⟩ := List.cons.inj heq
    exact congrArg (fun n : ℕ => Int64.ofInt (min (n : Int) (2 ^ 63 - 1))) (hrun t)
  · rename_i hminus hplus
    split
    · rename_i heq
      obtain ⟨rfl, rfl⟩ := List.cons.inj heq
      exact absurd rfl (hminus _)
    · rename_i heq
      obtain ⟨rfl, rfl⟩ := List.cons.inj heq
      exact absurd rfl (hplus _)
    · rw [← List.cons_append, hrun]

/-- `atol` of a text that is not blank does not see what is behind the line. -/
lemma atol_line {text : List UInt8} (h : ¬ ∀ c ∈ text, isSpace c = true) (rest : List UInt8) :
    atol (text ++ 0x0a :: rest) = atol text ∧
      atolReads (text ++ 0x0a :: rest) ≤ text.length + 1 := by
  obtain ⟨c, t, hdrop⟩ : ∃ c t, text.dropWhile isSpace = c :: t :=
    List.exists_cons_of_ne_nil fun hnil => h (List.dropWhile_eq_nil_iff.mp hnil)
  have hlen : text.length = (text.takeWhile isSpace).length + (t.length + 1) := by
    calc text.length = (text.takeWhile isSpace ++ text.dropWhile isSpace).length := by
          rw [List.takeWhile_append_dropWhile]
      _ = _ := by rw [List.length_append, hdrop, List.length_cons]
  have hne : (text.takeWhile isSpace).length ≠ text.length := by omega
  have htake : (text ++ 0x0a :: rest).takeWhile isSpace = text.takeWhile isSpace := by
    rw [List.takeWhile_append, if_neg hne]
  have hdrop' : (text ++ 0x0a :: rest).dropWhile isSpace = c :: (t ++ 0x0a :: rest) := by
    rw [List.dropWhile_append, hdrop]
    rfl
  refine ⟨atol_signed hdrop' hdrop, ?_⟩
  have hnumber := numberReads_line c t rest
  rw [atolReads, htake, hdrop']
  omega

/-- `atol` of a blank text goes on behind the line feed. -/
lemma atol_blank {text : List UInt8} (h : ∀ c ∈ text, isSpace c = true) (rest : List UInt8) :
    atol (text ++ 0x0a :: rest) = atol rest ∧
      text.length + 1 < atolReads (text ++ 0x0a :: rest) := by
  have hall : ∀ c ∈ text ++ [0x0a], isSpace c = true := by
    intro c hc
    rcases List.mem_append.mp hc with hc | hc
    · exact h c hc
    · rw [List.mem_singleton.mp hc]
      rfl
  have hdrop : (text ++ 0x0a :: rest).dropWhile isSpace = rest.dropWhile isSpace := by
    rw [List.append_cons, List.dropWhile_append_of_pos hall]
  have htake : (text ++ 0x0a :: rest).takeWhile isSpace =
      text ++ [0x0a] ++ rest.takeWhile isSpace := by
    rw [List.append_cons, List.takeWhile_append_of_pos hall]
  refine ⟨by rw [atol, atol, hdrop], ?_⟩
  have hnumber := one_le_numberReads (rest.dropWhile isSpace)
  rw [atolReads, htake, hdrop, List.length_append, List.length_append, List.length_singleton]
  omega

/-! ### The loop over a line -/

/-- What `name_len` is at the end of a line: behind the first colon, or `0`. -/
def nameLenOf (text : List UInt8) : ℕ := if 0x3a ∈ text then text.idxOf 0x3a + 1 else 0

lemma nameLenOf_field {name : List UInt8} (h : 0x3a ∉ name) (value : List UInt8) :
    nameLenOf (name ++ 0x3a :: value) = name.length + 1 := by
  rw [nameLenOf, if_pos (by simp), List.idxOf_append_of_notMem h, List.idxOf_cons_self]

section Loop

variable {left n : ℕ} {start p text : List UInt8} {sk : Socket}

/-- Bytes of a line that are no colon, or come behind the first one. -/
lemma httpParseHeadersLoop_text (h : ∀ c ∈ text, InLine c ∧ (n = 0 → c ≠ 0x3a)) :
    ∀ (l : ℕ) (sk : Socket),
      httpParseHeadersLoop (text.length + left) (text ++ p) start l n sk =
        httpParseHeadersLoop left p start (l + text.length) n
          (if text = [] then sk else { sk with httpParseState := .headerBegin }) := by
  induction text with
  | nil =>
      intro l sk
      rw [List.length_nil, Nat.zero_add, if_pos rfl]
      rfl
  | cons c text ih =>
      intro l sk
      obtain ⟨⟨hcr, hlf⟩, hcolon⟩ := h c List.mem_cons_self
      have ih := ih fun d hd => h d (List.mem_cons_of_mem c hd)
      have hname : ¬ (c == 0x3a && n == 0) = true := by
        rw [Bool.and_eq_true, beq_iff_eq, beq_iff_eq]
        exact fun hc => hcolon hc.2 hc.1
      rw [List.length_cons, Nat.succ_add, List.cons_append, httpParseHeadersLoop, if_neg hname,
        if_neg (by simpa using hcr), if_neg (by simpa using hlf), if_neg (List.cons_ne_nil c text)]
      have hnext : ∀ sk' : Socket, { sk' with httpParseState := .headerBegin } =
          { sk with httpParseState := .headerBegin } →
          (if text = [] then { sk with httpParseState := .headerBegin } else
            { sk' with httpParseState := .headerBegin }) =
          { sk with httpParseState := .headerBegin } := by
        intro sk' hsk
        rw [hsk, ite_self]
      split_ifs with hst
      · rw [ih, show l + 1 + text.length = l + (text.length + 1) by omega, hnext _ rfl]
      · have hsk : sk = { sk with httpParseState := .headerBegin } := by
          rw [← not_not.mp hst]
        rw [ih, show l + 1 + text.length = l + (text.length + 1) by omega]
        conv_lhs => rw [hsk]
        rw [hnext _ rfl]

/-- A line feed behind a byte of its own ends a line. -/
lemma httpParseHeadersLoop_feed (hst : sk.httpParseState = .headerBegin) (l : ℕ) :
    httpParseHeadersLoop (left + 1) (0x0a :: p) start l n sk =
      match httpParseHeaderLine sk start n (l + 1) with
      | none => (none, sk)
      | some sk' =>
        httpParseHeadersLoop left p p 0 0 { sk' with httpParseState := .headerLineEnd } := by
  have hname : ¬ ((0x0a : UInt8) == 0x3a && n == 0) = true := by
    rw [Bool.and_eq_true]
    exact fun h => absurd h.1 (by decide)
  rw [httpParseHeadersLoop, if_neg hname, if_neg (by decide), if_pos (beq_self_eq_true _)]
  exact if_pos hst

/-- The end of a line that has a byte of its own. -/
lemma httpParseHeadersLoop_crlf (h : sk.httpParseState = .headerBegin) (l : ℕ) :
    httpParseHeadersLoop (left + 2) (0x0d :: 0x0a :: p) start l n sk =
      match httpParseHeaderLine sk start n (l + 2) with
      | none => (none, sk)
      | some sk' =>
        httpParseHeadersLoop left p p 0 0 { sk' with httpParseState := .headerLineEnd } := by
  have hname : ¬ ((0x0d : UInt8) == 0x3a && n == 0) = true := by
    rw [Bool.and_eq_true]
    exact fun h => absurd h.1 (by decide)
  rw [httpParseHeadersLoop, if_neg hname, if_pos (beq_self_eq_true _)]
  exact httpParseHeadersLoop_feed h (l + 1)

/-- Each line, with its length and that of its name, goes to `http_parse_header_line`. -/
lemma httpParseHeadersLoop_line (left : ℕ) (p : List UInt8) (sk : Socket)
    (hin : ∀ c ∈ text, InLine c) (hhead : text.head? ≠ some 0x3a)
    (hne : text ≠ []) (start : List UInt8) :
    httpParseHeadersLoop (text.length + (left + 2)) (text ++ 0x0d :: 0x0a :: p) start 0 0 sk =
      match httpParseHeaderLine { sk with httpParseState := .headerBegin } start (nameLenOf text)
          (text.length + 2) with
      | none => (none, { sk with httpParseState := .headerBegin })
      | some sk' =>
        httpParseHeadersLoop left p p 0 0 { sk' with httpParseState := .headerLineEnd } := by
  by_cases hcolon : 0x3a ∈ text
  · obtain ⟨name, value, rfl, hname⟩ := List.eq_append_cons_of_mem hcolon
    have hne' : name ≠ [] := by
      rintro rfl
      exact hhead rfl
    have hin' : ∀ c ∈ name, InLine c ∧ (0 = 0 → c ≠ 0x3a) := fun c hc =>
      ⟨hin c (List.mem_append_left _ hc), fun _ h => hname (h ▸ hc)⟩
    have hvalue : ∀ c ∈ value, InLine c ∧ (name.length + 1 = 0 → c ≠ 0x3a) := fun c hc =>
      ⟨hin c (List.mem_append_right _ (List.mem_cons_of_mem _ hc)), fun h => absurd h (by omega)⟩
    have hlen : (name ++ 0x3a :: value).length + (left + 2) =
        name.length + ((value.length + (left + 2)) + 1) := by
      rw [List.length_append, List.length_cons]
      omega
    have hfirst : ((0x3a : UInt8) == 0x3a && (0 : ℕ) == 0) = true := rfl
    rw [hlen, List.append_assoc, httpParseHeadersLoop_text hin', if_neg hne', List.cons_append,
      httpParseHeadersLoop, if_pos hfirst, Nat.zero_add, httpParseHeadersLoop_text hvalue, ite_self,
      nameLenOf_field hname, httpParseHeadersLoop_crlf rfl, List.length_append, List.length_cons,
      show name.length + 1 + value.length + 2 = name.length + (value.length + 1) + 2 by omega]
  · have hin' : ∀ c ∈ text, InLine c ∧ (0 = 0 → c ≠ 0x3a) := fun c hc =>
      ⟨hin c hc, fun _ h => hcolon (h ▸ hc)⟩
    rw [httpParseHeadersLoop_text hin', if_neg hne, httpParseHeadersLoop_crlf rfl, nameLenOf,
      if_neg hcolon, Nat.zero_add]

end Loop

/-! ### The law -/

/-- `http_header_match` with the letters of `Content-Length`. -/
def isLengthName (start : List UInt8) (nameLen : ℕ) : Bool :=
  httpHeaderMatch start nameLen contentLengthSize 0x43 0x63 0x68 0x48

/-- How many bytes from `start` on `http_parse_header_line` looks at, at most. -/
def headerLineReads (start : List UInt8) (nameLen lineLen : ℕ) : ℕ :=
  if isLengthName start nameLen then contentLengthSize + atolReads (start.drop contentLengthSize)
  else if httpHeaderMatch start nameLen transferEncodingSize 0x54 0x74 0x67 0x47 then lineLen
  else nameLen

/-- Whatever comes behind the line, the result is the same, and none of it is looked at. -/
def LineLocal (sk : Socket) (line : List UInt8) (nameLen : ℕ) : Prop :=
  (∀ rest rest', httpParseHeaderLine sk (line ++ rest) nameLen line.length =
    httpParseHeaderLine sk (line ++ rest') nameLen line.length) ∧
  ∀ rest, headerLineReads (line ++ rest) nameLen line.length ≤ line.length

lemma httpHeaderMatch_append {line : List UInt8} {nameLen size : ℕ} (hn : nameLen ≤ line.length)
    (h2 : 2 ≤ size) (f0 f1 l0 l1 : UInt8) (rest : List UInt8) :
    httpHeaderMatch (line ++ rest) nameLen size f0 f1 l0 l1 =
      httpHeaderMatch line nameLen size f0 f1 l0 l1 := by
  by_cases hsize : nameLen = size
  · rw [httpHeaderMatch, httpHeaderMatch, List.getD_append _ _ _ _ (by omega),
      List.getD_append _ _ _ _ (by omega)]
  · have hno : (nameLen == size) = false := beq_false_of_ne hsize
    rw [httpHeaderMatch, httpHeaderMatch, hno]
    rfl

section Law

variable {sk : Socket} {text : List UInt8} {nameLen : ℕ}

/-- Without the blank value of a length, nothing behind the line is read. -/
lemma httpParseHeaderLine_line (sk : Socket) (hn : nameLen ≤ text.length)
    (h : isLengthName text nameLen = true → ¬ ∀ c ∈ text.drop contentLengthSize, isSpace c = true)
    (rest : List UInt8) :
    httpParseHeaderLine sk (text ++ 0x0a :: rest) nameLen (text.length + 1) =
        httpParseHeaderLine sk (text ++ [0x0a]) nameLen (text.length + 1) ∧
      headerLineReads (text ++ 0x0a :: rest) nameLen (text.length + 1) ≤ text.length + 1 := by
  have hmatch : ∀ r size f0 f1 l0 l1, 2 ≤ size →
      httpHeaderMatch (text ++ 0x0a :: r) nameLen size f0 f1 l0 l1 =
        httpHeaderMatch text nameLen size f0 f1 l0 l1 :=
    fun r size f0 f1 l0 l1 h2 => httpHeaderMatch_append hn h2 f0 f1 l0 l1 _
  have htake : ∀ r, (text ++ 0x0a :: r).take (text.length + 1) = text ++ [0x0a] := by
    intro r
    rw [List.append_cons, List.take_left' (by simp)]
  rw [isLengthName] at h
  have h15 : 2 ≤ contentLengthSize := by decide
  have h18 : 2 ≤ transferEncodingSize := by decide
  have h11 : 2 ≤ connectionSize := by decide
  rw [httpParseHeaderLine, httpParseHeaderLine, headerLineReads, isLengthName,
    hmatch _ _ _ _ _ _ h15, hmatch _ _ _ _ _ _ h15, hmatch _ _ _ _ _ _ h18,
    hmatch _ _ _ _ _ _ h18,
    hmatch _ _ _ _ _ _ h11, hmatch _ _ _ _ _ _ h11, htake, htake]
  by_cases hname : httpHeaderMatch text nameLen contentLengthSize 0x43 0x63 0x68 0x48 = true
  · have hsize : contentLengthSize ≤ text.length := by
      rw [httpHeaderMatch, Bool.and_eq_true, Bool.and_eq_true, beq_iff_eq] at hname
      exact hname.1.1 ▸ hn
    have hdrop : ∀ r, (text ++ 0x0a :: r).drop contentLengthSize =
        text.drop contentLengthSize ++ 0x0a :: r := fun r => List.drop_append_of_le_length hsize
    obtain ⟨hval, hreads⟩ := atol_line (h hname) rest
    obtain ⟨hval', -⟩ := atol_line (h hname) []
    rw [List.length_drop] at hreads
    rw [hname, hdrop, hdrop, hval, hval']
    exact ⟨rfl, by rw [if_pos rfl]; omega⟩
  · rw [if_neg hname, if_neg hname, if_neg hname]
    exact ⟨rfl, by split_ifs <;> omega⟩

/-- **Header lines are read locally.** The result of a line does not depend on what is behind it,
and none of that is read, exactly if the line is no `Content-Length` with a blank value. -/
theorem lineLocal_iff (sk : Socket) (hn : nameLen ≤ text.length) :
    LineLocal sk (text ++ [0x0a]) nameLen ↔
      ¬ (isLengthName text nameLen = true ∧
        ∀ c ∈ text.drop contentLengthSize, isSpace c = true) := by
  have hlen : (text ++ [0x0a]).length = text.length + 1 := by simp
  constructor
  · rintro ⟨-, hreads⟩ ⟨hname, hblank⟩
    have h := hreads []
    have hsize : contentLengthSize ≤ text.length := by
      rw [isLengthName, httpHeaderMatch, Bool.and_eq_true, Bool.and_eq_true, beq_iff_eq] at hname
      exact hname.1.1 ▸ hn
    obtain ⟨-, hpast⟩ := atol_blank hblank []
    have hmatch : isLengthName (text ++ [0x0a]) nameLen = true := by
      rw [← hname]
      exact httpHeaderMatch_append hn (by decide) _ _ _ _ _
    rw [List.append_nil, hlen, headerLineReads, if_pos hmatch,
      List.drop_append_of_le_length hsize] at h
    rw [List.length_drop] at hpast
    omega
  · intro h
    have hline := httpParseHeaderLine_line sk hn fun hname hblank => h ⟨hname, hblank⟩
    refine ⟨fun rest rest' => ?_, fun rest => ?_⟩
    · rw [hlen, List.append_assoc, List.append_assoc]
      exact (hline rest).1.trans (hline rest').1.symm
    · rw [hlen, List.append_assoc]
      exact (hline rest).2

/-- A length of one digit. -/
theorem lineLocal_digit : LineLocal default (ascii "Content-Length:5\r\n") contentLengthSize := by
  have hn : contentLengthSize ≤ (ascii "Content-Length:5\r").length := by decide
  refine (lineLocal_iff default hn).mpr fun h => ?_
  exact absurd (h.2 0x35 (by decide)) (by decide)

/-- A length without a value: the first byte of the body is taken for it. -/
theorem lineLocal_fails : ∃ line, line = ascii "Content-Length:\r\n" ∧
    (httpParseHeaderLine default (line ++ ascii "\r\n5") contentLengthSize line.length).map
      (fun sk => sk.httpLength) = some 5 ∧
    (httpParseHeaderLine default (line ++ ascii "\r\n7") contentLengthSize line.length).map
      (fun sk => sk.httpLength) = some 7 ∧
    ¬ LineLocal default line contentLengthSize := by
  refine ⟨_, rfl, by decide, by decide, fun h => ?_⟩
  have hsame := congrArg (Option.map fun sk : Socket => sk.httpLength)
    (h.1 (ascii "\r\n5") (ascii "\r\n7"))
  exact absurd hsame (by decide)

end Law

end Dperf
