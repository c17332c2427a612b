import Dperf.HeaderLines

/-!
Responses with a `Content-Length`, over any cut of the body into segments.

* `LengthBlock`: a header block with one `Content-Length`, as the format has it.
* `Counting`: what is left of a body. `httpParseHeaders_block` says that the header leaves the
  whole body to be counted, `Counting.run` that each segment counts it down.
* `contentLength_framed`: the parser ends with the segment that completes the body.
-/

namespace Dperf

/-! ### Header blocks -/

/-- `tolower`. -/
def lowerCase (c : UInt8) : UInt8 := if 0x41 ≤ c ∧ c ≤ 0x5a then c + 0x20 else c

lemma inLine_of_all {l : List UInt8} (h : l.all (fun c => c != 0x0d && c != 0x0a) = true) :
    ∀ c ∈ l, InLine c := by
  intro c hc
  have hc := List.all_eq_true.mp h c hc
  rw [Bool.and_eq_true, bne_iff_ne, bne_iff_ne] at hc
  exact hc

/-- A header field. -/
structure HeaderField where
  name : List UInt8
  value : List UInt8
  nameSome : name ≠ []
  nameIn : ∀ c ∈ name, InLine c
  noColon : 0x3a ∉ name
  valueIn : ∀ c ∈ value, InLine c

/-- The text of a header field, without the line end. -/
def HeaderField.text (f : HeaderField) : List UInt8 := f.name ++ 0x3a :: f.value

/-- The bytes of a header field. -/
def HeaderField.bytes (f : HeaderField) : List UInt8 := f.text ++ [0x0d, 0x0a]

/-- A field that says nothing about the length: its name has not the length and the letters of
`Content-Length`, and if it has those of `Transfer-Encoding`, the value is not taken for
`chunked`. -/
structure HeaderField.Neutral (f : HeaderField) : Prop where
  noLength : isLengthName f.text (f.name.length + 1) = false
  noChunked : httpHeaderMatch f.text (f.name.length + 1) transferEncodingSize 0x54 0x74 0x67 0x47 =
    true → ∀ c ∈ f.value, c ≠ 0x6b ∧ c ≠ 0x4b

/-- A header block with one `Content-Length`: a decimal number, with blanks around it. -/
structure LengthBlock (n : ℕ) where
  status : List UInt8
  before : List HeaderField
  length : HeaderField
  after : List HeaderField
  blanks : List UInt8
  digits : List UInt8
  trailing : List UInt8
  statusIn : ∀ c ∈ status, InLine c
  neutral : ∀ f ∈ before ++ after, f.Neutral
  isName : length.name.map lowerCase = ascii "content-length"
  isValue : length.value = blanks ++ (digits ++ trailing)
  isBlank : ∀ c ∈ blanks ++ trailing, c = 0x20 ∨ c = 0x09
  digitsSome : digits ≠ []
  isDigit : ∀ c ∈ digits, IsDigit c
  number : decimalRun 0 digits = n

/-- The status line. -/
def LengthBlock.statusText {n : ℕ} (b : LengthBlock n) : List UInt8 := ascii "HTTP/" ++ b.status

/-- The bytes of a header block. -/
def LengthBlock.bytes {n : ℕ} (b : LengthBlock n) : List UInt8 :=
  (b.statusText ++ [0x0d, 0x0a]) ++ (b.before.flatMap HeaderField.bytes ++ (b.length.bytes ++
    (b.after.flatMap HeaderField.bytes ++ [0x0d, 0x0a])))

/-! ### Segments -/

/-- A segment of a response: the memory from its payload on, and the length of the payload. -/
structure HttpSegment where
  data : List UInt8
  len : UInt16
  le : len.toNat ≤ data.length

/-- The payload. -/
def HttpSegment.bytes (s : HttpSegment) : List UInt8 := s.data.take s.len.toNat

lemma HttpSegment.length_bytes (s : HttpSegment) : s.bytes.length = s.len.toNat :=
  List.length_take_of_le s.le

/-- `http_parse_run` on one segment after the other. -/
def httpParseSegments (v : View) (segs : List HttpSegment) : View :=
  segs.foldl (fun v s => (httpParseRun s.data s.len v).2) v

/-- The bytes of all segments. -/
def fedBytes (segs : List HttpSegment) : ℕ := (segs.map fun s => s.len.toNat).sum

/-- The return value after `fed` of `n` bytes. -/
def framing (n fed : ℕ) : HttpRet := if fed < n then .ok else if fed = n then .done else .err

/-- The return value is that of the bytes fed, and the countdown ends at zero. -/
structure Delimits (n fed : ℕ) (r : HttpRet × View) : Prop where
  ret : r.1 = framing n fed
  zero : fed = n → r.2.sk.httpLength = 0

/-! ### The header -/

/-- `m` bytes of the body are to come. -/
structure Counting (m : ℕ) (sk : Socket) : Prop where
  flag : hasFlag sk.httpFlags httpFContentLength = true
  left : sk.httpLength.toInt = m
  lt : m < 2 ^ 63
  inBody : ¬ sk.httpParseState.num < HttpState.headerDone.num

section Fields

variable {f : HeaderField} {sk sk' : Socket}

lemma HeaderField.nameLenOf_text (f : HeaderField) : nameLenOf f.text = f.name.length + 1 :=
  nameLenOf_field f.noColon f.value

lemma HeaderField.length_text (f : HeaderField) :
    f.text.length = f.name.length + 1 + f.value.length := by
  rw [HeaderField.text, List.length_append, List.length_cons]
  omega

lemma HeaderField.inLine (f : HeaderField) : ∀ c ∈ f.text, InLine c := by
  intro c hc
  rcases List.mem_append.mp hc with hc | hc
  · exact f.nameIn c hc
  · rcases List.mem_cons.mp hc with rfl | hc
    · exact ⟨by decide, by decide⟩
    · exact f.valueIn c hc

lemma HeaderField.head (f : HeaderField) : f.text.head? ≠ some 0x3a := by
  obtain ⟨c, name, hname⟩ := List.exists_cons_of_ne_nil f.nameSome
  have hc := f.noColon
  rw [hname] at hc
  rw [HeaderField.text, hname, List.cons_append, List.head?_cons]
  exact fun h => hc (Option.some.inj h ▸ List.mem_cons_self)

/-- What the fields before and after the length keep. -/
structure SameLength (sk sk' : Socket) : Prop where
  len : sk'.httpLength = sk.httpLength
  length : hasFlag sk'.httpFlags httpFContentLength = hasFlag sk.httpFlags httpFContentLength
  encoding : hasFlag sk'.httpFlags httpFTransferEncoding = hasFlag sk.httpFlags httpFTransferEncoding

lemma SameLength.refl (sk : Socket) : SameLength sk sk := ⟨rfl, rfl, rfl⟩

lemma SameLength.trans {a b c : Socket} (h : SameLength a b) (h' : SameLength b c) :
    SameLength a c :=
  ⟨h'.len.trans h.len, h'.length.trans h.length, h'.encoding.trans h.encoding⟩

/-- A field that is neutral is taken, and says nothing. -/
lemma HeaderField.Neutral.line (h : f.Neutral) (sk : Socket) (p : List UInt8) :
    ∃ sk', httpParseHeaderLine sk (f.bytes ++ p) (f.name.length + 1) (f.text.length + 2) =
      some sk' ∧ SameLength sk sk' := by
  have hlen := f.length_text
  have hbytes : f.bytes ++ p = f.text ++ (0x0d :: 0x0a :: p) := by
    rw [HeaderField.bytes, List.append_assoc]
    rfl
  have hmatch : ∀ size f0 f1 l0 l1, 2 ≤ size →
      httpHeaderMatch (f.bytes ++ p) (f.name.length + 1) size f0 f1 l0 l1 =
        httpHeaderMatch f.text (f.name.length + 1) size f0 f1 l0 l1 := by
    intro size f0 f1 l0 l1 h2
    rw [hbytes]
    exact httpHeaderMatch_append (by omega) h2 f0 f1 l0 l1 _
  have hno := h.noLength
  rw [isLengthName] at hno
  -- the value of an encoding has no letter `k`
  have hvalue : ((f.bytes ++ p).take (f.text.length + 2)).drop (f.name.length + 1) =
      f.value ++ [0x0d, 0x0a] := by
    rw [List.take_left' (by simp [HeaderField.bytes]), HeaderField.bytes, HeaderField.text,
      List.append_assoc, List.cons_append, List.append_cons, List.drop_left' (by simp)]
  have hletters : httpHeaderMatch f.text (f.name.length + 1) transferEncodingSize 0x54 0x74 0x67
      0x47 = true → ¬ ((f.value ++ [0x0d, 0x0a]).any fun c => c == 0x6b || c == 0x4b) = true := by
    intro henc hany
    obtain ⟨c, hc, hck⟩ := List.any_eq_true.mp hany
    rw [Bool.or_eq_true, beq_iff_eq, beq_iff_eq] at hck
    rcases List.mem_append.mp hc with hc | hc
    · obtain ⟨h6, h4⟩ := h.noChunked henc c hc
      exact hck.elim h6 h4
    · have hends : ∀ c : UInt8, c ∈ [0x0d, 0x0a] → ¬ (c = 0x6b ∨ c = 0x4b) := by simp
      exact hends c hc hck
  have hclose : ∀ m, hasFlag httpFClose m = false →
      hasFlag (sk.httpFlags ||| httpFClose) m = hasFlag sk.httpFlags m := by
    intro m hm
    rw [hasFlag_or, hm, Bool.or_false]
  rw [httpParseHeaderLine, hmatch _ _ _ _ _ (by decide), hno, if_neg Bool.false_ne_true,
    hmatch _ _ _ _ _ (by decide), hvalue]
  split_ifs with henc hk hflag
  · exact absurd hk (hletters henc)
  · exact absurd hk (hletters henc)
  · exact ⟨sk, rfl, .refl sk⟩
  · exact ⟨_, rfl, rfl, hclose _ rfl, hclose _ rfl⟩
  · exact ⟨sk, rfl, .refl sk⟩
  · exact ⟨sk, rfl, .refl sk⟩

/-- The loop over one field that is taken. -/
lemma HeaderField.loop (f : HeaderField) {left : ℕ} {p : List UInt8}
    (h : httpParseHeaderLine { sk with httpParseState := .headerBegin } (f.bytes ++ p)
      (f.name.length + 1) (f.text.length + 2) = some sk') :
    httpParseHeadersLoop (f.bytes.length + left) (f.bytes ++ p) (f.bytes ++ p) 0 0 sk =
      httpParseHeadersLoop left p p 0 0 { sk' with httpParseState := .headerLineEnd } := by
  have hne : f.text ≠ [] := by simp [HeaderField.text]
  have hlen : f.bytes.length + left = f.text.length + (left + 2) := by
    rw [HeaderField.bytes, List.length_append, List.length_cons, List.length_singleton]
    omega
  have hbytes : f.bytes ++ p = f.text ++ 0x0d :: 0x0a :: p := by
    rw [HeaderField.bytes, List.append_assoc]
    rfl
  have hline := httpParseHeadersLoop_line left p sk f.inLine f.head hne (f.bytes ++ p)
  rw [f.nameLenOf_text, h, ← hbytes] at hline
  rw [hlen, hline]

/-- The loop over neutral fields. -/
lemma loop_neutral : ∀ {fs : List HeaderField}, (∀ f ∈ fs, f.Neutral) → ∀ (left : ℕ)
    (p : List UInt8) (sk : Socket), sk.httpParseState = .headerLineEnd →
    ∃ sk', SameLength sk sk' ∧ sk'.httpParseState = .headerLineEnd ∧
      httpParseHeadersLoop ((fs.flatMap HeaderField.bytes).length + left)
          (fs.flatMap HeaderField.bytes ++ p) (fs.flatMap HeaderField.bytes ++ p) 0 0 sk =
        httpParseHeadersLoop left p p 0 0 sk' := by
  intro fs
  induction fs with
  | nil =>
      intro _ left p sk hst
      refine ⟨sk, .refl sk, hst, ?_⟩
      rw [List.flatMap_nil, List.length_nil, Nat.zero_add, List.nil_append]
  | cons f fs ih =>
      intro hf left p sk hst
      obtain ⟨sk₁, hline, hsame⟩ := (hf f List.mem_cons_self).line
        { sk with httpParseState := .headerBegin } (fs.flatMap HeaderField.bytes ++ p)
      obtain ⟨sk', hsame', hst', hloop⟩ := ih (fun g hg => hf g (List.mem_cons_of_mem f hg)) left p
        { sk₁ with httpParseState := .headerLineEnd } rfl
      refine ⟨sk', ?_, hst', ?_⟩
      · have hfirst : SameLength sk { sk₁ with httpParseState := .headerLineEnd } :=
          ⟨hsame.len, hsame.length, hsame.encoding⟩
        exact hfirst.trans hsame'
      · rw [List.flatMap_cons, List.append_assoc, List.length_append, Nat.add_assoc, f.loop hline,
          hloop]

end Fields

section Block

variable {n : ℕ} {b : LengthBlock n} {sk : Socket}

/-- The status line is no field. -/
lemma httpParseHeaderLine_status (start : List UInt8) (nameLen lineLen : ℕ)
    (h : start.getD 0 0 = 0x48) : httpParseHeaderLine sk start nameLen lineLen = some sk := by
  have hno : ∀ size f0 f1 l0 l1, (0x48 : UInt8) ≠ f0 → (0x48 : UInt8) ≠ f1 →
      httpHeaderMatch start nameLen size f0 f1 l0 l1 = false := by
    intro size f0 f1 l0 l1 h0 h1
    rw [httpHeaderMatch, h, beq_false_of_ne h0, beq_false_of_ne h1]
    simp
  rw [httpParseHeaderLine, hno _ _ _ _ _ (by decide) (by decide), if_neg Bool.false_ne_true,
    hno _ _ _ _ _ (by decide) (by decide), if_neg Bool.false_ne_true,
    hno _ _ _ _ _ (by decide) (by decide), if_neg Bool.false_ne_true]

lemma lowerCase_eq {c d : UInt8} (h : lowerCase c = d) : c = d ∨ c = d - 0x20 := by
  rw [lowerCase] at h
  split_ifs at h
  · right
    grind
  · exact .inl h

/-- The name of the length. -/
lemma LengthBlock.isLengthName (b : LengthBlock n) (r : List UInt8) :
    isLengthName (b.length.name ++ r) (b.length.name.length + 1) = true := by
  have hlen : b.length.name.length = 14 := by
    calc b.length.name.length = (b.length.name.map lowerCase).length := by rw [List.length_map]
      _ = 14 := by rw [b.isName]; rfl
  have hletter : ∀ i, i < 14 → (b.length.name ++ r).getD i 0 = (ascii "content-length").getD i 0 ∨
      (b.length.name ++ r).getD i 0 = (ascii "content-length").getD i 0 - 0x20 := by
    intro i hi
    refine lowerCase_eq ?_
    have hmap : lowerCase (b.length.name.getD i 0) = (b.length.name.map lowerCase).getD i 0 :=
      (List.getD_map _ 0 lowerCase).symm
    rw [List.getD_append _ _ _ _ (by omega), hmap, b.isName]
  have hfirst : ∀ c : UInt8, c = (ascii "content-length").getD 0 0 ∨
      c = (ascii "content-length").getD 0 0 - 0x20 → (c == 0x43 || c == 0x63) = true := by
    rintro c (rfl | rfl) <;> rfl
  have hlast : ∀ c : UInt8, c = (ascii "content-length").getD 13 0 ∨
      c = (ascii "content-length").getD 13 0 - 0x20 → (c == 0x68 || c == 0x48) = true := by
    rintro c (rfl | rfl) <;> rfl
  rw [Dperf.isLengthName, httpHeaderMatch, hlen, contentLengthSize, hfirst _ (hletter 0 (by omega)),
    hlast _ (hletter 13 (by omega))]
  rfl

/-- The value of the length. -/
lemma LengthBlock.atol_value (b : LengthBlock n) (hn : n < 2 ^ 63) (p : List UInt8) :
    (atol (b.length.value ++ 0x0d :: p)).toInt = n := by
  have hblanks : ∀ c ∈ b.blanks, isSpace c = true := by
    intro c hc
    rcases b.isBlank c (List.mem_append_left _ hc) with rfl | rfl <;> rfl
  have hstop : ∀ acc, decimalRun acc (b.trailing ++ 0x0d :: p) = acc := by
    intro acc
    cases htrail : b.trailing with
    | nil => exact if_neg (by decide)
    | cons c t =>
        have hc := b.isBlank c (List.mem_append_right _ (htrail ▸ List.mem_cons_self))
        exact if_neg (by rcases hc with rfl | rfl <;> decide)
  have hnum := b.number
  have hdigit := b.isDigit
  rw [b.isValue, List.append_assoc, List.append_assoc]
  obtain ⟨a, l, hdigits⟩ := List.exists_cons_of_ne_nil b.digitsSome
  have hrun : decimalRun 0 (a :: (l ++ (b.trailing ++ 0x0d :: p))) = n := by
    rw [← List.cons_append, ← hdigits, decimalRun_append _ _ hdigit, hstop, hnum]
  have hfirst := hdigit a (hdigits ▸ List.mem_cons_self)
  rw [hdigits, List.cons_append, atol_digits hblanks hfirst, hrun,
    Int64.toInt_ofInt_of_le (by omega) (by omega)]
  omega

/-- The length is taken. -/
lemma LengthBlock.line (b : LengthBlock n) (sk : Socket) (hn : n < 2 ^ 63) (p : List UInt8)
    (henc : hasFlag sk.httpFlags httpFTransferEncoding = false) :
    ∃ sk', httpParseHeaderLine sk (b.length.bytes ++ p) (b.length.name.length + 1)
        (b.length.text.length + 2) = some sk' ∧ sk'.httpLength.toInt = n ∧
      hasFlag sk'.httpFlags httpFContentLength = true := by
  have hname : b.length.name.length + 1 = contentLengthSize := by
    have h := b.isLengthName []
    rw [Dperf.isLengthName, httpHeaderMatch, Bool.and_eq_true, Bool.and_eq_true, beq_iff_eq] at h
    exact h.1.1
  have hbytes : b.length.bytes ++ p =
      b.length.name ++ 0x3a :: (b.length.value ++ 0x0d :: 0x0a :: p) := by
    rw [HeaderField.bytes, HeaderField.text, List.append_assoc, List.append_assoc]
    rfl
  have hdrop : (b.length.bytes ++ p).drop contentLengthSize =
      b.length.value ++ 0x0d :: 0x0a :: p := by
    rw [hbytes, ← hname, List.append_cons, List.drop_left' (by simp)]
  have hmatch := b.isLengthName (0x3a :: (b.length.value ++ 0x0d :: 0x0a :: p))
  have hval := b.atol_value hn (0x0a :: p)
  have hpos : ¬ atol (b.length.value ++ 0x0d :: 0x0a :: p) < 0 := by
    rw [Int64.lt_iff_toInt_lt, hval]
    exact not_lt.mpr (Int.natCast_nonneg n)
  rw [← hbytes, Dperf.isLengthName] at hmatch
  rw [httpParseHeaderLine, if_pos hmatch, hdrop, henc]
  dsimp only
  rw [if_neg hpos, if_neg Bool.false_ne_true]
  exact ⟨_, rfl, hval, by rw [hasFlag_or, Bool.or_eq_true]; exact .inr rfl⟩

/-- The empty line behind the fields. -/
lemma loop_end {left : ℕ} {p start : List UInt8} (hst : sk.httpParseState = .headerLineEnd)
    (hflags : sk.httpFlags ≠ 0) :
    httpParseHeadersLoop (left + 2) (0x0d :: 0x0a :: p) start 0 0 sk =
      (some left, { sk with httpParseState := .headerDone }) := by
  have hname : ∀ c : UInt8, c ≠ 0x3a → ¬ (c == 0x3a && (0 : ℕ) == 0) = true := by
    intro c hc
    rw [Bool.and_eq_true, beq_iff_eq]
    exact fun h => hc h.1
  have hne : ¬ sk.httpParseState = .headerBegin := by
    rw [hst]
    exact HttpState.noConfusion
  rw [httpParseHeadersLoop, if_neg (hname _ (by decide)), if_pos (beq_self_eq_true _),
    httpParseHeadersLoop, if_neg (hname _ (by decide)), if_neg (by decide),
    if_pos (beq_self_eq_true _), if_neg hne]
  exact Prod.ext rfl (if_neg hflags)

/-- The header leaves the whole body to be counted. -/
lemma httpParseHeaders_block (b : LengthBlock n) (sk : Socket) (hn : n < 2 ^ 63)
    (hflags : sk.httpFlags = 0) (left : ℕ) (p : List UInt8) :
    ∃ sk', httpParseHeaders sk (b.bytes ++ p) (b.bytes.length + left) = (some left, sk') ∧
      Counting n sk' := by
  have hin : ∀ c ∈ b.statusText, InLine c := by
    intro c hc
    exact (List.mem_append.mp hc).elim (inLine_of_all rfl c) (b.statusIn c)
  have hhead : b.statusText.head? = some 0x48 := rfl
  have hne : b.statusText ≠ [] := List.cons_ne_nil _ _
  have hcolon : b.statusText.head? ≠ some 0x3a := by
    rw [hhead]
    simp
  -- what follows the status line, and the lines after it
  let q₃ := b.after.flatMap HeaderField.bytes ++ 0x0d :: 0x0a :: p
  let q₂ := b.length.bytes ++ q₃
  let q₁ := b.before.flatMap HeaderField.bytes ++ q₂
  let l₃ := (b.after.flatMap HeaderField.bytes).length + (left + 2)
  let l₂ := b.length.bytes.length + l₃
  let l₁ := (b.before.flatMap HeaderField.bytes).length + l₂
  have hbytes : b.bytes ++ p = b.statusText ++ 0x0d :: 0x0a :: q₁ := by
    simp [LengthBlock.bytes, q₁, q₂, q₃]
  have hlen : b.bytes.length + left = b.statusText.length + (l₁ + 2) := by
    simp only [LengthBlock.bytes, List.length_append, List.length_cons, List.length_nil, l₁, l₂, l₃]
    omega
  have hstart : (b.bytes ++ p).getD 0 0 = 0x48 := by
    rw [hbytes]
    rfl
  have hstatus := httpParseHeadersLoop_line l₁ q₁ sk hin hcolon hne (b.bytes ++ p)
  rw [httpParseHeaderLine_status _ _ _ hstart, ← hbytes] at hstatus
  obtain ⟨sk₁, hsame₁, hst₁, hloop₁⟩ := loop_neutral
    (fun f hf => b.neutral f (List.mem_append_left _ hf)) l₂ q₂
    { sk with httpParseState := .headerLineEnd } rfl
  have henc : hasFlag sk₁.httpFlags httpFTransferEncoding = false := by
    rw [hsame₁.encoding]
    show hasFlag sk.httpFlags httpFTransferEncoding = false
    rw [hflags]
    rfl
  obtain ⟨sk₂, hline, hval, hflag⟩ :=
    b.line { sk₁ with httpParseState := .headerBegin } hn q₃ henc
  obtain ⟨sk₃, hsame₃, hst₃, hloop₃⟩ := loop_neutral
    (fun f hf => b.neutral f (List.mem_append_right _ hf)) (left + 2) (0x0d :: 0x0a :: p)
    { sk₂ with httpParseState := .headerLineEnd } rfl
  have hflag₃ : hasFlag sk₃.httpFlags httpFContentLength = true := hsame₃.length.trans hflag
  have hne₃ : sk₃.httpFlags ≠ 0 := by
    intro h0
    rw [h0] at hflag₃
    exact Bool.false_ne_true hflag₃
  refine ⟨{ sk₃ with httpParseState := .headerDone }, ?_, ⟨hflag₃, ?_, hn, lt_irrefl _⟩⟩
  · calc httpParseHeaders sk (b.bytes ++ p) (b.bytes.length + left)
        = httpParseHeadersLoop l₁ q₁ q₁ 0 0 { sk with httpParseState := .headerLineEnd } := by
          rw [httpParseHeaders, hlen]
          exact hstatus
      _ = httpParseHeadersLoop l₂ q₂ q₂ 0 0 sk₁ := hloop₁
      _ = httpParseHeadersLoop l₃ q₃ q₃ 0 0 { sk₂ with httpParseState := .headerLineEnd } :=
          b.length.loop hline
      _ = httpParseHeadersLoop (left + 2) (0x0d :: 0x0a :: p) (0x0d :: 0x0a :: p) 0 0 sk₃ := hloop₃
      _ = _ := loop_end hst₃ hne₃
  · exact (congrArg Int64.toInt hsame₃.len).trans hval

end Block

/-! ### The body -/

section Body

variable {m : ℕ} {sk : Socket}

/-- One part of the body. -/
lemma Counting.body (h : Counting m sk) (data : List UInt8) :
    (httpParseBody sk data).1 = framing m data.length ∧
      (data.length = m → (httpParseBody sk data).2.httpLength = 0) ∧
      (data.length ≤ m → Counting (m - data.length) (httpParseBody sk data).2) := by
  have hlt := h.lt
  rw [httpParseBody, if_pos h.flag, h.left, framing]
  by_cases hless : data.length < m
  · have hlen : (Int64.ofNat data.length).toInt = data.length :=
      Int64.toInt_ofNat_of_lt (by omega)
    have hsub : (sk.httpLength - Int64.ofNat data.length).toInt = (m - data.length : ℕ) := by
      rw [Int64.toInt_sub, h.left, hlen, Int.bmod_eq_of_le (by omega) (by omega)]
      omega
    rw [if_pos (by omega), if_pos hless]
    exact ⟨rfl, fun heq => absurd hless (by omega), fun _ => ⟨h.flag, hsub, by omega, h.inBody⟩⟩
  · by_cases heq : data.length = m
    · rw [if_neg (by omega), if_pos (by omega), if_neg hless, if_pos heq]
      refine ⟨rfl, fun _ => rfl, fun _ => ⟨h.flag, ?_, by omega, ?_⟩⟩
      · rw [heq, Nat.sub_self]
        rfl
      · show ¬ HttpState.bodyDone.num < HttpState.headerDone.num
        decide
    · rw [if_neg (by omega), if_neg (by omega), if_neg hless, if_neg heq]
      exact ⟨rfl, fun h => absurd h heq, fun hle => absurd hle (by omega)⟩

/-- Behind the header a segment is all body. -/
lemma httpParseRun_body {v : View}
    (h : ¬ v.sk.httpParseState.num < HttpState.headerDone.num) (data : List UInt8)
    (dataLen : UInt16) : httpParseRun data dataLen v =
      ((httpParseBody v.sk (data.take dataLen.toNat)).1,
        { v with sk := (httpParseBody v.sk (data.take dataLen.toNat)).2 }) := by
  have hinit : ¬ v.sk.httpParseState = .init := by
    intro h0
    refine h ?_
    rw [h0]
    decide
  rw [httpParseRun, if_neg hinit]
  dsimp only
  rw [if_neg h]

/-- One segment of the body. -/
lemma Counting.run {v : View} (h : Counting m v.sk) (s : HttpSegment) :
    (httpParseRun s.data s.len v).1 = framing m s.len.toNat ∧
      (s.len.toNat = m → (httpParseRun s.data s.len v).2.sk.httpLength = 0) ∧
      (s.len.toNat ≤ m → Counting (m - s.len.toNat) (httpParseRun s.data s.len v).2.sk) := by
  have hbody := h.body s.bytes
  rw [s.length_bytes] at hbody
  rw [httpParseRun_body h.inBody]
  exact hbody

/-- The segments up to some point of the body. -/
lemma Counting.segments : ∀ {segs : List HttpSegment} {m : ℕ} {v : View}, Counting m v.sk →
    fedBytes segs ≤ m → Counting (m - fedBytes segs) (httpParseSegments v segs).sk := by
  intro segs
  induction segs with
  | nil => exact fun h _ => h
  | cons s segs ih =>
      intro m v h hle
      have hsum : fedBytes (s :: segs) = s.len.toNat + fedBytes segs := List.sum_cons
      obtain ⟨-, -, hnext⟩ := h.run s
      have h' := ih (hnext (by omega)) (by omega)
      rw [hsum, Nat.sub_add_eq]
      exact h'

end Body

/-! ### The law -/

/-- The first segment has the whole header. -/
lemma httpParseRun_block {n : ℕ} (b : LengthBlock n) (hn : n < 2 ^ 63) {v : View}
    (hinit : v.sk.httpParseState = .init) (hflags : v.sk.httpFlags = 0) {first : HttpSegment}
    {part : List UInt8} (hfirst : first.bytes = b.bytes ++ part) :
    ∃ sk', Counting n sk' ∧
      (httpParseRun first.data first.len v).1 = (httpParseBody sk' part).1 ∧
      (httpParseRun first.data first.len v).2.sk = (httpParseBody sk' part).2 := by
  have hlen : first.len.toNat = b.bytes.length + part.length := by
    rw [← first.length_bytes, hfirst, List.length_append]
  have hdata : first.data = b.bytes ++ (part ++ first.data.drop first.len.toNat) := by
    calc first.data = first.bytes ++ first.data.drop first.len.toNat :=
          (List.take_append_drop _ _).symm
      _ = _ := by rw [hfirst, List.append_assoc]
  let w : View := { v.count (httpParseResponse first.data first.len) with
    sk.httpParseState := .headerBegin }
  obtain ⟨sk', hheaders, hcount⟩ := httpParseHeaders_block b w.sk hn hflags part.length
    (part ++ first.data.drop first.len.toNat)
  rw [← hdata, ← hlen] at hheaders
  have hrest : (first.data.take first.len.toNat).drop (first.len.toNat - part.length) = part := by
    rw [show first.data.take first.len.toNat = _ from hfirst, hlen, Nat.add_sub_cancel,
      List.drop_left]
  have hbegin : HttpState.headerBegin.num < HttpState.headerDone.num := by decide
  refine ⟨sk', hcount, ?_⟩
  rw [httpParseRun, if_pos hinit]
  dsimp only
  rw [if_pos hbegin, hheaders]
  dsimp only
  rw [hrest]
  exact ⟨rfl, rfl⟩

/-- **Content-Length framing.** A response whose first segment has the whole header, over any cut
of what follows: the parser wants more while bytes of the body are to come, ends with the segment
that completes the body, and refuses one that exceeds it. -/
theorem contentLength_framed {n : ℕ} (b : LengthBlock n) (hn : n ≤ 2 ^ 63 - 1) {v : View}
    (hinit : v.sk.httpParseState = .init) (hflags : v.sk.httpFlags = 0) {first : HttpSegment}
    {part : List UInt8} (hfirst : first.bytes = b.bytes ++ part) :
    Delimits n part.length (httpParseRun first.data first.len v) ∧
    ∀ (segs : List HttpSegment) (seg : HttpSegment), part.length + fedBytes segs ≤ n →
      Delimits n (part.length + fedBytes segs + seg.len.toNat)
        (httpParseRun seg.data seg.len (httpParseSegments v (first :: segs))) := by
  obtain ⟨sk', hcount, hret, hsk⟩ := httpParseRun_block b (by omega) hinit hflags hfirst
  obtain ⟨hverdict, hzero, hnext⟩ := hcount.body part
  refine ⟨⟨hret.trans hverdict, fun heq => (congrArg Socket.httpLength hsk).trans (hzero heq)⟩, ?_⟩
  intro segs seg hle
  have hafter : Counting (n - part.length) (httpParseRun first.data first.len v).2.sk := by
    rw [hsk]
    exact hnext (by omega)
  obtain ⟨hret', hzero', -⟩ := (hafter.segments (by omega : fedBytes segs ≤ _)).run seg
  have hframing : framing (n - part.length - fedBytes segs) seg.len.toNat =
      framing n (part.length + fedBytes segs + seg.len.toNat) := by
    unfold framing
    split_ifs <;> first | rfl | omega
  exact ⟨hret'.trans hframing, fun heq => hzero' (by omega)⟩

/-- A header with a length of three bytes. -/
def LengthBlock.three : LengthBlock 3 where
  status := ascii "1.1 200 OK"
  before := []
  length :=
    { name := ascii "Content-Length"
      value := ascii " 3"
      nameSome := List.cons_ne_nil _ _
      nameIn := inLine_of_all rfl
      noColon := by decide
      valueIn := inLine_of_all rfl }
  after := []
  blanks := [0x20]
  digits := [0x33]
  trailing := []
  statusIn := inLine_of_all rfl
  neutral := fun _ hf => absurd hf List.not_mem_nil
  isName := rfl
  isValue := rfl
  isBlank := fun _ hc => .inl (List.mem_singleton.mp hc)
  digitsSome := List.cons_ne_nil _ _
  isDigit := fun c hc => List.mem_singleton.mp hc ▸ by decide
  number := rfl

/-- Two bytes with the header, and the third in a segment of its own. -/
theorem contentLength_two_segments : ∃ first last : HttpSegment,
    first.bytes = LengthBlock.three.bytes ++ ascii "ab" ∧ last.bytes = ascii "c" ∧
    (httpParseRun first.data first.len { sk := default }).1 = .ok ∧
    (httpParseRun last.data last.len (httpParseSegments { sk := default } [first])).1 = .done := by
  let first : HttpSegment := ⟨LengthBlock.three.bytes ++ ascii "ab", 40, by decide⟩
  let last : HttpSegment := ⟨ascii "c", 1, by decide⟩
  have hfirst : first.bytes = LengthBlock.three.bytes ++ ascii "ab" := by decide
  obtain ⟨hpart, hsegs⟩ := contentLength_framed .three (by decide) (v := { sk := default }) rfl rfl
    hfirst
  exact ⟨first, last, hfirst, by decide, hpart.ret, (hsegs [] last (by decide)).ret⟩

end Dperf
