import Dperf.ContentLength
import Dperf.HttpChunk

/-!
Headers that are cut into segments. The parser keeps its state from one segment to the next, but
not the line it is in: a line is read from the cut on.

* `lineScan`, `HeaderEnded`: the empty line that ends a header.
* `Framing`: what the lines of a header say about the body. `Reading.loop` says that the parser
  inside a header has read the lines of the pieces.
* `httpParseStream`: the parser over all segments. `httpParseStream_cuts` says where alone a cut in
  the header makes a difference.
-/

namespace Dperf

open Streams

/-! ### The end of a header -/

/-- One byte, looking for a line after the first that has only bytes of a kind: whether one has
ended, and whether the current one is such a line so far. -/
def lineStep (kind : UInt8 → Bool) (s : Bool × Bool) (c : UInt8) : Bool × Bool :=
  if c = 0x0a then (s.1 || s.2, true) else (s.1, s.2 && kind c)

/-- The same for a text. -/
def lineScan (kind : UInt8 → Bool) (s : List UInt8) : Bool × Bool :=
  s.foldl (lineStep kind) (false, false)

/-- The bytes of an empty line. -/
def isReturn (c : UInt8) : Bool := c == 0x0d

/-- The bytes that do not begin a line for the parser: a first colon is taken for the end of a
name. -/
def isReturnOrColon (c : UInt8) : Bool := c == 0x0d || c == 0x3a

/-- The empty line has come. -/
def HeaderEnded (s : List UInt8) : Prop := (lineScan isReturn s).1 = true

instance (s : List UInt8) : Decidable (HeaderEnded s) :=
  inferInstanceAs (Decidable ((lineScan isReturn s).1 = true))

/-- No line of the header is made of colons only. -/
def NoColonLine (s : List UInt8) : Prop :=
  ∀ a, a <+: s → (lineScan isReturnOrColon a).1 = true → HeaderEnded a

section Lines

variable {kind : UInt8 → Bool} {s t : List UInt8} {c : UInt8}

lemma lineScan_append (kind : UInt8 → Bool) (s t : List UInt8) :
    lineScan kind (s ++ t) = t.foldl (lineStep kind) (lineScan kind s) :=
  List.foldl_append

lemma lineScan_feed (kind : UInt8 → Bool) (s : List UInt8) : lineScan kind (s ++ [0x0a]) =
    ((lineScan kind s).1 || (lineScan kind s).2, true) := by
  rw [lineScan_append]
  rfl

lemma lineScan_byte (h : c ≠ 0x0a) : lineScan kind (s ++ [c]) =
    ((lineScan kind s).1, (lineScan kind s).2 && kind c) := by
  rw [lineScan_append, List.foldl_cons, List.foldl_nil, lineStep, if_neg h]

/-- A line that has ended stays so. -/
lemma lineScan_mono : ∀ (t s : List UInt8), (lineScan kind s).1 = true →
    (lineScan kind (s ++ t)).1 = true := by
  intro t
  induction t with
  | nil =>
      intro s h
      rwa [List.append_nil]
  | cons c t ih =>
      intro s h
      have hc : (lineScan kind (s ++ [c])).1 = true := by
        by_cases hlf : c = 0x0a
        · rw [hlf, lineScan_feed, h, Bool.true_or]
        · rw [lineScan_byte hlf, h]
      rw [List.append_cons]
      exact ih _ hc

lemma not_headerEnded_of_append (h : ¬ HeaderEnded (s ++ t)) : ¬ HeaderEnded s :=
  fun hs => h (lineScan_mono t s hs)

lemma NoColonLine.of_prefix (h : NoColonLine t) (hs : s <+: t) : NoColonLine s :=
  fun a ha => h a (ha.trans hs)

lemma noColonLine_of (h : (lineScan isReturnOrColon s).1 = false) : NoColonLine s := by
  rintro a ⟨r, rfl⟩ ha
  exact absurd (lineScan_mono r a ha) (h ▸ Bool.false_ne_true)

/-- The empty line, spelled out. -/
lemma lineScan_iff (kind : UInt8 → Bool) (s : List UInt8) :
    ((lineScan kind s).1 = true ↔
      ∃ a t r, s = a ++ 0x0a :: (t ++ 0x0a :: r) ∧ ∀ c ∈ t, kind c = true) ∧
    ((lineScan kind s).2 = true ↔ ∃ a t, s = a ++ 0x0a :: t ∧ ∀ c ∈ t, kind c = true) := by
  induction s using List.reverseRecOn with
  | nil =>
      have hno : ∀ {P : Prop}, ((false = true) ↔ P) ↔ ¬ P := by simp
      rw [lineScan, List.foldl_nil, hno, hno]
      refine ⟨?_, ?_⟩
      · rintro ⟨a, t, r, h, -⟩
        simp at h
      · rintro ⟨a, t, h, -⟩
        simp at h
  | append_singleton s c ih =>
      obtain ⟨ihEnded, ihSo⟩ := ih
      by_cases hlf : c = 0x0a
      · rw [hlf, lineScan_feed, Bool.or_eq_true, ihEnded, ihSo]
        refine ⟨⟨?_, ?_⟩, ⟨fun _ => ⟨s, [], rfl, by simp⟩, fun _ => rfl⟩⟩
        · rintro (⟨a, t, r, rfl, ht⟩ | ⟨a, t, rfl, ht⟩)
          · exact ⟨a, t, r ++ [0x0a], by simp, ht⟩
          · exact ⟨a, t, [], by simp, ht⟩
        · rintro ⟨a, t, r, h, ht⟩
          induction r using List.reverseRecOn with
          | nil => 
              have h : s ++ [0x0a] = (a ++ 0x0a :: t) ++ [0x0a] := by simpa using h
              exact .inr ⟨a, t, List.append_cancel_right h, ht⟩
          | append_singleton r d _ =>
              have h : s ++ [0x0a] = (a ++ 0x0a :: (t ++ 0x0a :: r)) ++ [d] := by simpa using h
              exact .inl ⟨a, t, r, (List.append_inj' h rfl).1, ht⟩
      · have hne : ∀ l r : List UInt8, s ++ [c] ≠ l ++ 0x0a :: r ∨ ∃ r', r = r' ++ [c] := by
          intro l r
          induction r using List.reverseRecOn with
          | nil => exact .inl fun h => hlf (List.singleton_inj.mp (List.append_inj' h rfl).2)
          | append_singleton r d _ =>
              by_cases hd : d = c
              · exact .inr ⟨r, hd ▸ rfl⟩
              · refine .inl fun h => hd ?_
                have h : s ++ [c] = (l ++ 0x0a :: r) ++ [d] := by simpa using h
                exact (List.singleton_inj.mp (List.append_inj' h rfl).2).symm
        rw [lineScan_byte hlf, Bool.and_eq_true, ihEnded, ihSo]
        refine ⟨⟨?_, ?_⟩, ⟨?_, ?_⟩⟩
        · rintro ⟨a, t, r, rfl, ht⟩
          exact ⟨a, t, r ++ [c], by simp, ht⟩
        · rintro ⟨a, t, r, h, ht⟩
          obtain hno | ⟨r', rfl⟩ := hne (a ++ 0x0a :: t) r
          · exact absurd (by simpa using h) hno
          · have h : s ++ [c] = (a ++ 0x0a :: (t ++ 0x0a :: r')) ++ [c] := by simpa using h
            exact ⟨a, t, r', List.append_cancel_right h, ht⟩
        · rintro ⟨⟨a, t, rfl, ht⟩, hc⟩
          exact ⟨a, t ++ [c], by simp, by simpa [or_imp, forall_and] using ⟨ht, hc⟩⟩
        · rintro ⟨a, t, h, ht⟩
          obtain hno | ⟨t', rfl⟩ := hne a t
          · exact absurd h hno
          · have h : s ++ [c] = (a ++ 0x0a :: t') ++ [c] := by simpa using h
            exact ⟨⟨a, t', List.append_cancel_right h, fun d hd => ht d (List.mem_append_left _ hd)⟩,
              ht c (List.mem_append_right _ (List.mem_singleton_self c))⟩

/-- A header has ended with a line of its own that is empty. -/
lemma headerEnded_iff : HeaderEnded s ↔
    ∃ a t r, s = a ++ 0x0a :: (t ++ 0x0a :: r) ∧ ∀ c ∈ t, c = 0x0d := by
  rw [HeaderEnded, (lineScan_iff isReturn s).1]
  simp only [isReturn, beq_iff_eq]

end Lines

/-! ### What a header says -/

/-- What the lines of a header say about the body. -/
inductive Framing where
  | plain
  | length (n : Int64)
  | chunked
  deriving DecidableEq, Repr

/-- An encoding goes with no length. -/
def Framing.encode : Framing → Option Framing
  | .plain => some .chunked
  | .length _ => none
  | .chunked => some .chunked

/-- What a line adds; `none` for a line that is refused. -/
def Framing.line (f : Framing) (start : List UInt8) (nameLen lineLen : ℕ) : Option Framing :=
  if isLengthName start nameLen then
    let n := atol (start.drop contentLengthSize)
    if n < 0 ∨ f = .chunked then none else some (.length n)
  else if httpHeaderMatch start nameLen transferEncodingSize 0x54 0x74 0x67 0x47 &&
      ((start.take lineLen).drop nameLen).any fun c => c == 0x6b || c == 0x4b then
    f.encode
  else some f

/-- A line, or what a cut leaves of it: the memory from there on, and the bytes before the line
feed. -/
structure LinePiece where
  start : List UInt8
  text : List UInt8

/-- The lines that end in a text; `behind` is the memory behind it and `l` the line so far. -/
def linePieces (behind : List UInt8) : LinePiece → List UInt8 → List LinePiece
  | _, [] => []
  | l, c :: s =>
      if c = 0x0a then l :: linePieces behind ⟨s ++ behind, []⟩ s
      else linePieces behind ⟨l.start, l.text ++ [c]⟩ s

/-- The line that the text ends in. -/
def lastPiece (behind : List UInt8) : LinePiece → List UInt8 → LinePiece
  | l, [] => l
  | l, c :: s =>
      if c = 0x0a then lastPiece behind ⟨s ++ behind, []⟩ s
      else lastPiece behind ⟨l.start, l.text ++ [c]⟩ s

/-- What lines say, one after the other. -/
def Framing.lines (f : Framing) (ls : List LinePiece) : Option Framing :=
  ls.foldlM (fun f l => f.line l.start (nameLenOf l.text) (l.text.length + 1)) f

/-- What the first bytes of some memory say. -/
def Framing.text (f : Framing) (s behind : List UInt8) : Option Framing :=
  f.lines (linePieces behind ⟨s ++ behind, []⟩ s)

/-- What the segments say, each from its first byte on. -/
def Framing.segments (f : Framing) (segs : List HttpSegment) : Option Framing :=
  segs.foldlM (fun f s => f.text s.bytes (s.data.drop s.len.toNat)) f

/-- The answer at a cut in the header: the body is parsed with what has been said so far. -/
def Framing.atCut : Option Framing → HttpRet
  | none => .err
  | some .plain => .ok
  | some (.length n) => if n = 0 then .done else .ok
  | some .chunked => .err

section Framing

variable {f f' : Framing} {s : HttpSegment}

lemma Framing.atCut_done : ∀ {f : Option Framing}, atCut f = .done → f = some (.length 0)
  | some (.length n), h => by
      rw [atCut] at h
      split_ifs at h with h0
      rw [h0]

lemma Framing.atCut_err : ∀ {f : Option Framing}, atCut f = .err → f = none ∨ f = some .chunked
  | none, _ => .inl rfl
  | some .chunked, _ => .inr rfl
  | some (.length n), h => by
      rw [atCut] at h
      split_ifs at h

lemma Framing.segments_cons (h : f.text s.bytes (s.data.drop s.len.toNat) = some f')
    (segs : List HttpSegment) : f.segments (s :: segs) = f'.segments segs := by
  rw [segments, List.foldlM_cons, h]
  rfl

lemma Framing.segments_refused {segs : List HttpSegment}
    (h : f.text s.bytes (s.data.drop s.len.toNat) = none) : f.segments (s :: segs) = none := by
  rw [segments, List.foldlM_cons, h]
  rfl

end Framing

/-- The socket has taken in what the lines have said; `b` was its length before. -/
def Says (b : Int64) (sk : Socket) : Framing → Prop
  | .plain => hasFlag sk.httpFlags httpFContentLength = false ∧
      hasFlag sk.httpFlags httpFTransferEncoding = false ∧ sk.httpLength = b
  | .length n => hasFlag sk.httpFlags httpFContentLength = true ∧
      hasFlag sk.httpFlags httpFTransferEncoding = false ∧ sk.httpLength = n ∧ ¬ n < 0
  | .chunked => hasFlag sk.httpFlags httpFContentLength = false ∧
      hasFlag sk.httpFlags httpFTransferEncoding = true ∧ sk.httpLength = b

section Line

variable {b : Int64} {sk : Socket} {f : Framing}

/-- A flag set does not change another one. -/
lemma hasFlag_mark (flags : UInt8) {g m : UInt8} (h : hasFlag g m = false) :
    hasFlag (flags ||| g) m = hasFlag flags m := by
  rw [hasFlag_or, h, Bool.or_false]

lemma Says.of_eq {sk' : Socket} (h : Says b sk f)
    (hlen : hasFlag sk'.httpFlags httpFContentLength = hasFlag sk.httpFlags httpFContentLength)
    (henc : hasFlag sk'.httpFlags httpFTransferEncoding =
      hasFlag sk.httpFlags httpFTransferEncoding)
    (hleft : sk'.httpLength = sk.httpLength) : Says b sk' f := by
  cases f with
  | plain => exact ⟨hlen.trans h.1, henc.trans h.2.1, hleft.trans h.2.2⟩
  | length n => exact ⟨hlen.trans h.1, henc.trans h.2.1, hleft.trans h.2.2.1, h.2.2.2⟩
  | chunked => exact ⟨hlen.trans h.1, henc.trans h.2.1, hleft.trans h.2.2⟩

lemma Says.plain_of_zero (h : Says b sk f) (h0 : sk.httpFlags = 0) : f = .plain := by
  cases f with
  | plain => rfl
  | length n => exact absurd h.1 (by rw [h0]; decide)
  | chunked => exact absurd h.2.1 (by rw [h0]; decide)

lemma Says.encoding (h : Says b sk f) :
    hasFlag sk.httpFlags httpFTransferEncoding = true ↔ f = .chunked := by
  cases f with
  | plain => simp [h.2.1]
  | length n => simp [h.2.1]
  | chunked => simp [h.2.1]

/-- A line of the header. -/
lemma Says.line (h : Says b sk f) (start : List UInt8) (nameLen lineLen : ℕ) :
    httpParseHeaderLine sk start nameLen lineLen = none ∧ f.line start nameLen lineLen = none ∨
    ∃ sk' f', httpParseHeaderLine sk start nameLen lineLen = some sk' ∧
      f.line start nameLen lineLen = some f' ∧ Says b sk' f' := by
  have hmarked : hasFlag (sk.httpFlags ||| httpFTransferEncoding) httpFTransferEncoding = true := by
    rw [hasFlag_or, Bool.or_eq_true]
    exact .inr rfl
  rw [httpParseHeaderLine, Framing.line, isLengthName]
  by_cases hlen : httpHeaderMatch start nameLen contentLengthSize 0x43 0x63 0x68 0x48 = true
  · rw [if_pos hlen, if_pos hlen]
    dsimp only
    by_cases hneg : atol (start.drop contentLengthSize) < 0
    · exact .inl ⟨if_pos hneg, if_pos (.inl hneg)⟩
    · rw [if_neg hneg]
      by_cases henc : f = .chunked
      · exact .inl ⟨if_pos (h.encoding.mpr henc), if_pos (.inr henc)⟩
      · have hflag := mt h.encoding.mp henc
        refine .inr ⟨_, .length _, if_neg hflag, if_neg (not_or.mpr ⟨hneg, henc⟩), ?_, ?_, rfl, hneg⟩
        · rw [hasFlag_or, Bool.or_eq_true]
          exact .inr rfl
        · exact (hasFlag_mark _ rfl).trans (Bool.eq_false_of_not_eq_true hflag)
  · rw [if_neg hlen, if_neg hlen]
    by_cases henc : httpHeaderMatch start nameLen transferEncodingSize 0x54 0x74 0x67 0x47 = true
    · rw [if_pos henc, henc, Bool.true_and]
      by_cases hk : (((start.take lineLen).drop nameLen).any fun c => c == 0x6b || c == 0x4b) = true
      · rw [if_pos hk, if_pos hk]
        cases f with
        | plain =>
            obtain ⟨hlength, -, hb⟩ := h
            exact .inr ⟨_, .chunked, if_neg (hlength ▸ Bool.false_ne_true), rfl,
              (hasFlag_mark _ rfl).trans hlength, hmarked, hb⟩
        | length n => exact .inl ⟨if_pos h.1, rfl⟩
        | chunked =>
            obtain ⟨hlength, -, hb⟩ := h
            exact .inr ⟨_, .chunked, if_neg (hlength ▸ Bool.false_ne_true), rfl,
              (hasFlag_mark _ rfl).trans hlength, hmarked, hb⟩
      · rw [if_neg hk, if_neg hk]
        exact .inr ⟨sk, f, rfl, rfl, h⟩
    · have hno : ¬ (httpHeaderMatch start nameLen transferEncodingSize 0x54 0x74 0x67 0x47 &&
          ((start.take lineLen).drop nameLen).any fun c => c == 0x6b || c == 0x4b) = true := by
        rw [Bool.and_eq_true]
        exact fun hand => henc hand.1
      rw [if_neg henc, if_neg hno]
      split_ifs
      · exact .inr ⟨_, f, rfl, rfl, h.of_eq (hasFlag_mark _ rfl) (hasFlag_mark _ rfl) rfl⟩
      · exact .inr ⟨sk, f, rfl, rfl, h⟩
      · exact .inr ⟨sk, f, rfl, rfl, h⟩

end Line

/-! ### The loop over a header -/

/-- The parser is inside a header: `u` has come, with `text` of the current line since the last
cut. -/
structure Reading (b : Int64) (u : List UInt8) (f : Framing) (text : List UInt8) (sk : Socket) :
    Prop where
  state : sk.httpParseState = .headerBegin ∧ (lineScan isReturn u).2 = false ∨
    sk.httpParseState = .headerLineEnd ∧ (lineScan isReturnOrColon u).2 = true
  name : (lineScan isReturn u).2 = true → 0x3a ∉ text
  said : Says b sk f

section Loop

variable {b : Int64} {u text : List UInt8} {f : Framing} {sk : Socket} {c : UInt8}

lemma nameLenOf_eq_zero : nameLenOf text = 0 ↔ 0x3a ∉ text := by
  rw [nameLenOf]
  split_ifs with h <;> simp [h]

lemma nameLenOf_colon (h : 0x3a ∉ text) : nameLenOf (text ++ [0x3a]) = text.length + 1 :=
  nameLenOf_field h []

lemma nameLenOf_snoc (h : ¬ (c = 0x3a ∧ 0x3a ∉ text)) : nameLenOf (text ++ [c]) = nameLenOf text := by
  rw [nameLenOf, nameLenOf]
  by_cases hmem : 0x3a ∈ text
  · rw [if_pos (List.mem_append_left _ hmem), if_pos hmem, List.idxOf_append_of_mem hmem]
  · have hc : c ≠ 0x3a := fun hc => h ⟨hc, hmem⟩
    rw [if_neg (by simpa [hmem] using hc.symm), if_neg hmem]

/-- A byte of a line. -/
lemma Reading.byte (h : Reading b u f text sk) (hc : c ≠ 0x0a) :
    ∃ sk', Reading b (u ++ [c]) f (text ++ [c]) sk' ∧ ∀ left p start,
      httpParseHeadersLoop (left + 1) (c :: p) start text.length (nameLenOf text) sk =
        httpParseHeadersLoop left p start (text ++ [c]).length (nameLenOf (text ++ [c])) sk' := by
  have hlen : (text ++ [c]).length = text.length + 1 := by simp
  have hblank : (lineScan isReturn (u ++ [c])).2 = true →
      (lineScan isReturn u).2 = true ∧ c = 0x0d := by
    rw [lineScan_byte hc, Bool.and_eq_true, isReturn, beq_iff_eq]
    exact id
  have hname : (lineScan isReturn (u ++ [c])).2 = true → 0x3a ∉ text ++ [c] := by
    intro hb
    obtain ⟨hu, rfl⟩ := hblank hb
    simpa using h.name hu
  by_cases hfirst : c = 0x3a ∧ 0x3a ∉ text
  · obtain ⟨rfl, hmem⟩ := hfirst
    refine ⟨sk, ⟨?_, hname, h.said⟩, fun left p start => ?_⟩
    · refine h.state.imp (fun hs => ⟨hs.1, ?_⟩) fun hs => ⟨hs.1, ?_⟩
      · rw [lineScan_byte hc, hs.2, Bool.false_and]
      · rw [lineScan_byte hc, hs.2]
        rfl
    · rw [httpParseHeadersLoop, nameLenOf_eq_zero.mpr hmem, if_pos (by decide), nameLenOf_colon hmem,
        hlen]
  · have hno : ¬ (c == 0x3a && nameLenOf text == 0) = true := by
      rw [Bool.and_eq_true, beq_iff_eq, beq_iff_eq, nameLenOf_eq_zero]
      exact hfirst
    by_cases hcr : c = 0x0d
    · refine ⟨sk, ⟨?_, hname, h.said⟩, fun left p start => ?_⟩
      · refine h.state.imp (fun hs => ⟨hs.1, ?_⟩) fun hs => ⟨hs.1, ?_⟩
        · rw [lineScan_byte hc, hs.2, Bool.false_and]
        · rw [lineScan_byte hc, hs.2, hcr]
          rfl
      · rw [httpParseHeadersLoop, if_neg hno, if_pos (beq_iff_eq.mpr hcr), nameLenOf_snoc hfirst,
          hlen]
    · have hbegin : (lineScan isReturn (u ++ [c])).2 = false :=
        Bool.eq_false_of_not_eq_true fun hb => hcr (hblank hb).2
      refine ⟨{ sk with httpParseState := .headerBegin }, ⟨.inl ⟨rfl, hbegin⟩, hname,
        h.said.of_eq rfl rfl rfl⟩, fun left p start => ?_⟩
      rw [httpParseHeadersLoop, if_neg hno, if_neg (mt beq_iff_eq.mp hcr),
        if_neg (mt beq_iff_eq.mp hc), nameLenOf_snoc hfirst, hlen]
      split_ifs with hst
      · rfl
      · rw [← not_not.mp hst]

/-- The end of a line in the header. -/
lemma Reading.line (h : Reading b u f text sk) (hend : ¬ HeaderEnded (u ++ [0x0a]))
    (hcolon : NoColonLine (u ++ [0x0a])) (start : List UInt8) :
    (f.line start (nameLenOf text) (text.length + 1) = none ∧ ∀ left p,
      httpParseHeadersLoop (left + 1) (0x0a :: p) start text.length (nameLenOf text) sk =
        (none, sk)) ∨
    ∃ f' sk', f.line start (nameLenOf text) (text.length + 1) = some f' ∧
      Reading b (u ++ [0x0a]) f' [] sk' ∧ ∀ left p,
      httpParseHeadersLoop (left + 1) (0x0a :: p) start text.length (nameLenOf text) sk =
        httpParseHeadersLoop left p p 0 0 sk' := by
  have hst : sk.httpParseState = .headerBegin := by
    rcases h.state with ⟨hst, -⟩ | ⟨-, hso⟩
    · exact hst
    · refine absurd (hcolon _ (List.prefix_refl _) ?_) hend
      rw [lineScan_feed, hso, Bool.or_true]
  obtain ⟨hnone, hrefused⟩ | ⟨sk', f', hsome, hsaid, hsays⟩ :=
    h.said.line start (nameLenOf text) (text.length + 1)
  · refine .inl ⟨hrefused, fun left p => ?_⟩
    rw [httpParseHeadersLoop_feed hst, hnone]
  · refine .inr ⟨f', { sk' with httpParseState := .headerLineEnd }, hsaid, ⟨.inr ⟨rfl, ?_⟩, ?_,
      hsays.of_eq rfl rfl rfl⟩, fun left p => ?_⟩
    · rw [lineScan_feed]
    · exact fun _ => List.not_mem_nil
    · rw [httpParseHeadersLoop_feed hst, hsome]

/-- What a text inside the header does to the loop. -/
lemma Reading.loop (behind : List UInt8) (left : ℕ) : ∀ (s : List UInt8) {u : List UInt8}
    {f : Framing} {l : LinePiece} {sk : Socket}, Reading b u f l.text sk →
    ¬ HeaderEnded (u ++ s) → NoColonLine (u ++ s) →
    (f.lines (linePieces behind l s) = none ∧ ∃ sk', httpParseHeadersLoop (s.length + left)
      (s ++ behind) l.start l.text.length (nameLenOf l.text) sk = (none, sk')) ∨
    ∃ f' l' sk', f.lines (linePieces behind l s) = some f' ∧ Reading b (u ++ s) f' l'.text sk' ∧
      lastPiece behind l s = l' ∧
      httpParseHeadersLoop (s.length + left) (s ++ behind) l.start l.text.length
          (nameLenOf l.text) sk =
        httpParseHeadersLoop left behind l'.start l'.text.length (nameLenOf l'.text) sk' := by
  intro s
  induction s with
  | nil =>
      intro u f l sk h _ _
      rw [List.length_nil, Nat.zero_add, List.append_nil]
      exact .inr ⟨f, l, sk, rfl, h, rfl, rfl⟩
  | cons c s ih =>
      intro u f l sk h hend hcolon
      rw [List.append_cons] at hend hcolon
      have hstep : (c :: s).length + left = s.length + left + 1 := by
        rw [List.length_cons]
        omega
      have hend₁ := not_headerEnded_of_append hend
      have hcolon₁ := hcolon.of_prefix (List.prefix_append _ _)
      rw [hstep, List.cons_append, List.append_cons u, linePieces, lastPiece]
      by_cases hlf : c = 0x0a
      · rw [hlf] at hend₁ hcolon₁ hend hcolon ⊢
        rw [if_pos rfl, if_pos rfl, Framing.lines, List.foldlM_cons]
        obtain ⟨hrefused, hloop⟩ | ⟨f₁, sk₁, hsaid, hread, hloop⟩ :=
          h.line hend₁ hcolon₁ l.start
        · exact .inl ⟨by rw [hrefused]; rfl, sk, hloop _ _⟩
        · have ih := ih (l := ⟨s ++ behind, []⟩) hread hend hcolon
          rw [hsaid, hloop]
          exact ih
      · rw [if_neg hlf, if_neg hlf]
        obtain ⟨sk₁, hread, hloop⟩ := h.byte hlf
        have ih := ih (l := ⟨l.start, l.text ++ [c]⟩) hread hend hcolon
        rw [hloop]
        exact ih

lemma linePieces_feed (behind : List UInt8) : ∀ (s : List UInt8) (l : LinePiece),
    linePieces behind l (s ++ [0x0a]) =
      linePieces (0x0a :: behind) l s ++ [lastPiece (0x0a :: behind) l s] := by
  intro s
  induction s with
  | nil => exact fun l => rfl
  | cons c s ih =>
      intro l
      have hmem : s ++ [0x0a] ++ behind = s ++ 0x0a :: behind := by simp
      rw [List.cons_append, linePieces, linePieces, lastPiece]
      split_ifs
      · rw [ih, hmem, List.cons_append]
      · exact ih _

lemma Framing.line_nameless (f : Framing) (start : List UInt8) (lineLen : ℕ) :
    f.line start 0 lineLen = some f := by
  have hno : ∀ size f0 f1 l0 l1, size ≠ 0 →
      httpHeaderMatch start 0 size f0 f1 l0 l1 = false := by
    intro size f0 f1 l0 l1 h
    rw [httpHeaderMatch, beq_false_of_ne h.symm]
    rfl
  rw [Framing.line, isLengthName, hno _ _ _ _ _ (by decide), if_neg Bool.false_ne_true,
    hno _ _ _ _ _ (by decide), Bool.false_and, if_neg Bool.false_ne_true]

/-- The header is over. -/
structure HeaderRead (b : Int64) (f : Framing) (sk : Socket) : Prop where
  state : sk.httpParseState = .headerDone
  said : f ≠ .plain → Says b sk f
  plain : f = .plain → hasFlag sk.httpFlags httpFContentLength = false ∧
    hasFlag sk.httpFlags httpFTransferEncoding = false

/-- The empty line. -/
lemma Reading.empty (h : Reading b u f text sk) (hin : ¬ HeaderEnded u)
    (hend : HeaderEnded (u ++ [0x0a])) (left : ℕ) (p start : List UInt8) :
    nameLenOf text = 0 ∧ ∃ sk', HeaderRead b f sk' ∧
      httpParseHeadersLoop (left + 1) (0x0a :: p) start text.length (nameLenOf text) sk =
        (some left, sk') := by
  have hblank : (lineScan isReturn u).2 = true := by
    rw [HeaderEnded, lineScan_feed, Bool.or_eq_true] at hend
    exact hend.resolve_left hin
  have hst : ¬ sk.httpParseState = .headerBegin := by
    rcases h.state with ⟨-, hno⟩ | ⟨hst, -⟩
    · exact absurd hblank (hno ▸ Bool.false_ne_true)
    · rw [hst]
      exact HttpState.noConfusion
  have hname : ¬ ((0x0a : UInt8) == 0x3a && nameLenOf text == 0) = true := by
    rw [Bool.and_eq_true]
    exact fun h => absurd h.1 (by decide)
  refine ⟨nameLenOf_eq_zero.mpr (h.name hblank), ?_⟩
  rw [httpParseHeadersLoop, if_neg hname, if_neg (by decide), if_pos (beq_self_eq_true _),
    if_neg hst]
  dsimp only
  by_cases hflags : sk.httpFlags = 0
  · have hplain := h.said.plain_of_zero hflags
    have hauto : hasFlag (httpFContentLengthAuto ||| httpFClose) httpFContentLength = false ∧
        hasFlag (httpFContentLengthAuto ||| httpFClose) httpFTransferEncoding = false := by decide
    rw [if_pos hflags]
    refine ⟨_, ?_, rfl⟩
    exact ⟨rfl, fun hf => absurd hplain hf, fun _ => hauto⟩
  · rw [if_neg hflags]
    refine ⟨_, ?_, rfl⟩
    refine ⟨rfl, fun _ => h.said.of_eq rfl rfl rfl, ?_⟩
    rintro rfl
    exact ⟨h.said.1, h.said.2.1⟩

end Loop

/-! ### One segment -/

/-- `http_parse_run` up to the headers and the body, with a length of any size. -/
def httpParseFrom (data : List UInt8) (dataLen : ℕ) (sk : Socket) : HttpRet × Socket :=
  match httpParseHeaders sk data dataLen with
  | (none, sk) => (.err, sk)
  | (some left, sk) => httpParseBody sk ((data.take dataLen).drop (dataLen - left))

/-- The socket with which the headers are parsed. -/
def entered (sk : Socket) : Socket :=
  if sk.httpParseState = .init then { sk with httpParseState := .headerBegin } else sk

section Segment

variable {b : Int64} {u text : List UInt8} {f : Framing} {sk : Socket}

lemma httpParseRun_from {v : View}
    (h : (entered v.sk).httpParseState.num < HttpState.headerDone.num) (data : List UInt8)
    (dataLen : UInt16) :
    (httpParseRun data dataLen v).1 = (httpParseFrom data dataLen.toNat (entered v.sk)).1 ∧
      (httpParseRun data dataLen v).2.sk =
        (httpParseFrom data dataLen.toNat (entered v.sk)).2 := by
  by_cases hinit : v.sk.httpParseState = .init
  · let w : View := { v.count (httpParseResponse data dataLen) with
      sk.httpParseState := .headerBegin }
    have hw : entered v.sk = w.sk := if_pos hinit
    rw [hw] at h ⊢
    obtain ⟨⟨left, sk⟩, hheaders⟩ : ∃ r, httpParseHeaders w.sk data dataLen.toNat = r := ⟨_, rfl⟩
    rw [httpParseRun, if_pos hinit, httpParseFrom, hheaders]
    dsimp only
    rw [if_pos h]
    cases left <;> exact ⟨rfl, rfl⟩
  · have hw : entered v.sk = v.sk := if_neg hinit
    rw [hw] at h ⊢
    obtain ⟨⟨left, sk⟩, hheaders⟩ : ∃ r, httpParseHeaders v.sk data dataLen.toNat = r := ⟨_, rfl⟩
    rw [httpParseRun, if_neg hinit, httpParseFrom, hheaders]
    dsimp only
    rw [if_pos h]
    cases left <;> exact ⟨rfl, rfl⟩

lemma httpParseBody_plain (hlen : hasFlag sk.httpFlags httpFContentLength = false)
    (henc : hasFlag sk.httpFlags httpFTransferEncoding = false) (data : List UInt8) :
    httpParseBody sk data = (.ok, sk) := by
  rw [httpParseBody, hlen, if_neg Bool.false_ne_true, henc, if_neg Bool.false_ne_true]

/-- A cut. -/
lemma Reading.cut (h : Reading b u f text sk) : Reading b u f [] sk :=
  ⟨h.state, fun _ => List.not_mem_nil, h.said⟩

/-- The body is parsed at every cut. -/
lemma Reading.body (h : Reading b u f text sk) :
    (httpParseBody sk []).1 = Framing.atCut (some f) ∧
      ((httpParseBody sk []).1 = .ok → Reading b u f [] (httpParseBody sk []).2) := by
  have hsaid := h.said
  cases f with
  | plain =>
      rw [httpParseBody_plain hsaid.1 hsaid.2.1]
      exact ⟨rfl, fun _ => h.cut⟩
  | length n =>
      obtain ⟨hlen, -, hleft, hneg⟩ := hsaid
      have hpos : 0 ≤ n.toInt := by
        rw [Int64.lt_iff_toInt_lt] at hneg
        exact not_lt.mp hneg
      rw [httpParseBody, if_pos hlen, hleft, List.length_nil, Framing.atCut]
      by_cases h0 : n = 0
      · rw [if_pos h0, if_neg (by rw [h0]; decide), if_pos (by rw [h0]; decide)]
        exact ⟨rfl, fun hok => absurd hok (by simp)⟩
      · have hlt : ((0 : ℕ) : ℤ) < n.toInt := by
          refine lt_of_le_of_ne hpos fun heq => h0 ?_
          exact Int64.toInt_inj.mp heq.symm
        rw [if_neg h0, if_pos hlt]
        refine ⟨rfl, fun _ => ⟨h.state, fun _ => List.not_mem_nil, ?_⟩⟩
        refine h.said.of_eq rfl rfl ?_
        have hsub : n - Int64.ofNat 0 = n := Int64.sub_zero n
        exact hsub.trans hleft.symm
  | chunked =>
      have herr : (httpParseChunk sk []).1 = .err := by
        rcases h.state with ⟨hst, -⟩ | ⟨hst, -⟩ <;> simp [httpParseChunk, httpParseChunkRun, hst]
      rw [httpParseBody, hsaid.1, if_neg Bool.false_ne_true, if_pos hsaid.2.1, herr]
      exact ⟨rfl, fun hok => absurd hok (by simp)⟩

/-- A segment that ends inside the header. -/
lemma Reading.inside (h : Reading b u f [] sk) {s : List UInt8} (behind : List UInt8)
    (hin : ¬ HeaderEnded (u ++ s)) (hcolon : NoColonLine (u ++ s)) :
    (httpParseFrom (s ++ behind) s.length sk).1 = Framing.atCut (f.text s behind) ∧
      ((httpParseFrom (s ++ behind) s.length sk).1 = .ok → ∃ f', f.text s behind = some f' ∧
        Reading b (u ++ s) f' [] (httpParseFrom (s ++ behind) s.length sk).2) := by
  have hnil : nameLenOf [] = 0 := rfl
  obtain ⟨hsaid, sk', hloop⟩ | ⟨f', l', sk', hsaid, hread, -, hloop⟩ :=
    Reading.loop behind 0 s (l := ⟨s ++ behind, []⟩) h hin hcolon
  · rw [hnil, Nat.add_zero, List.length_nil] at hloop
    rw [httpParseFrom, httpParseHeaders, hloop, Framing.text, hsaid]
    exact ⟨rfl, fun hok => absurd hok (by simp)⟩
  · rw [hnil, Nat.add_zero, List.length_nil, httpParseHeadersLoop] at hloop
    have hrest : ((s ++ behind).take s.length).drop (s.length - 0) = [] := by simp
    obtain ⟨hret, hok⟩ := hread.body
    rw [httpParseFrom, httpParseHeaders, hloop, Framing.text, hsaid]
    dsimp only
    rw [hrest]
    exact ⟨hret, fun h => ⟨f', rfl, hok h⟩⟩

/-- A text that ends the header. -/
lemma Reading.ends (h : Reading b u f [] sk) {s : List UInt8} (part behind : List UInt8)
    (hin : ¬ HeaderEnded (u ++ s)) (hend : HeaderEnded (u ++ s ++ [0x0a]))
    (hcolon : NoColonLine (u ++ s)) :
    f.text (s ++ [0x0a]) (part ++ behind) = none ∧
      (httpParseFrom (s ++ 0x0a :: (part ++ behind)) (s.length + (part.length + 1)) sk).1 = .err ∨
    ∃ f' sk', f.text (s ++ [0x0a]) (part ++ behind) = some f' ∧ HeaderRead b f' sk' ∧
      httpParseFrom (s ++ 0x0a :: (part ++ behind)) (s.length + (part.length + 1)) sk =
        httpParseBody sk' part := by
  have hnil : nameLenOf [] = 0 := rfl
  have hmem : s ++ [0x0a] ++ (part ++ behind) = s ++ 0x0a :: (part ++ behind) := by simp
  rw [Framing.text, hmem, linePieces_feed, Framing.lines, List.foldlM_append]
  obtain ⟨hsaid, sk', hloop⟩ | ⟨f', l', sk', hsaid, hread, hlast, hloop⟩ :=
    Reading.loop (0x0a :: (part ++ behind)) (part.length + 1) s
      (l := ⟨s ++ 0x0a :: (part ++ behind), []⟩) h hin hcolon
  · rw [Framing.lines] at hsaid
    rw [hnil, List.length_nil] at hloop
    rw [httpParseFrom, httpParseHeaders, hloop, hsaid]
    exact .inl ⟨rfl, rfl⟩
  · obtain ⟨hname, sk'', hdone, hempty⟩ := hread.empty hin hend part.length (part ++ behind) l'.start
    rw [Framing.lines] at hsaid
    rw [hnil, List.length_nil, hempty] at hloop
    have hline : f'.line l'.start (nameLenOf l'.text) (l'.text.length + 1) = some f' := by
      rw [hname]
      exact f'.line_nameless _ _
    have hrest : ((s ++ 0x0a :: (part ++ behind)).take (s.length + (part.length + 1))).drop
        (s.length + (part.length + 1) - part.length) = part := by
      have hsplit : s ++ 0x0a :: (part ++ behind) = (s ++ [0x0a] ++ part) ++ behind := by simp
      have hlen : (s ++ [0x0a] ++ part).length = s.length + (part.length + 1) := by
        simp only [List.length_append, List.length_singleton]
        omega
      rw [hsplit, List.take_left' hlen,
        List.drop_left' (by rw [List.length_append, List.length_singleton]; omega)]
    rw [httpParseFrom, httpParseHeaders, hloop, hsaid, hlast]
    dsimp only
    rw [hrest]
    refine .inr ⟨f', sk'', ?_, hdone, rfl⟩
    show (f'.line l'.start (nameLenOf l'.text) (l'.text.length + 1)).bind _ = _
    rw [hline]
    rfl

end Segment

/-! ### All segments -/

/-- `http_parse_run` on one segment after the other, up to the first answer that is not
`HTTP_PARSE_OK`: with that the response is over for the client. -/
def httpParseStream : View → List HttpSegment → HttpRet × View
  | v, [] => (.ok, v)
  | v, s :: segs =>
      if (httpParseRun s.data s.len v).1 = .ok then
        httpParseStream (httpParseRun s.data s.len v).2 segs
      else httpParseRun s.data s.len v

/-- The bytes of all segments. -/
def streamOf (segs : List HttpSegment) : List UInt8 := segs.flatMap HttpSegment.bytes

section Stream

variable {b : Int64} {u : List UInt8} {f : Framing} {v : View}

lemma HttpSegment.data_eq (s : HttpSegment) : s.data = s.bytes ++ s.data.drop s.len.toNat :=
  (List.take_append_drop _ _).symm

lemma httpParseStream_append (more : List HttpSegment) : ∀ (segs : List HttpSegment) (v : View),
    httpParseStream v (segs ++ more) =
      if (httpParseStream v segs).1 = .ok then httpParseStream (httpParseStream v segs).2 more
      else httpParseStream v segs := by
  intro segs
  induction segs with
  | nil => exact fun v => (if_pos rfl).symm
  | cons s segs ih =>
      intro v
      rw [List.cons_append, httpParseStream, httpParseStream]
      split_ifs with h h'
      · rw [ih, if_pos h']
      · rw [ih, if_neg h']
      · rfl

lemma Reading.num_lt {sk : Socket} {text : List UInt8} (h : Reading b u f text sk) :
    sk.httpParseState.num < HttpState.headerDone.num := by
  rcases h.state with ⟨hst, -⟩ | ⟨hst, -⟩ <;> rw [hst] <;> decide

lemma Reading.entered {sk : Socket} {text : List UInt8} (h : Reading b u f text sk) :
    Dperf.entered sk = sk := by
  refine if_neg ?_
  rcases h.state with ⟨hst, -⟩ | ⟨hst, -⟩ <;> rw [hst] <;> exact HttpState.noConfusion

/-- One segment inside the header. -/
lemma Reading.run (h : Reading b u f [] (Dperf.entered v.sk)) (s : HttpSegment)
    (hin : ¬ HeaderEnded (u ++ s.bytes)) (hcolon : NoColonLine (u ++ s.bytes)) :
    (httpParseRun s.data s.len v).1 =
        Framing.atCut (f.text s.bytes (s.data.drop s.len.toNat)) ∧
      ((httpParseRun s.data s.len v).1 = .ok →
        ∃ f', f.text s.bytes (s.data.drop s.len.toNat) = some f' ∧
          Reading b (u ++ s.bytes) f' [] (Dperf.entered (httpParseRun s.data s.len v).2.sk)) := by
  obtain ⟨hret, hsk⟩ := httpParseRun_from h.num_lt s.data s.len
  obtain ⟨hcut, hok⟩ := h.inside (s.data.drop s.len.toNat) hin hcolon
  rw [← s.data_eq, s.length_bytes] at hcut hok
  rw [hret, hsk]
  refine ⟨hcut, fun h => ?_⟩
  obtain ⟨f', hsaid, hread⟩ := hok h
  exact ⟨f', hsaid, hread.entered.symm ▸ hread⟩

/-- Segments that end inside the header: the answers are those at the cuts. -/
lemma Reading.stream : ∀ (segs : List HttpSegment) {u : List UInt8} {f : Framing} {v : View},
    Reading b u f [] (Dperf.entered v.sk) → ¬ HeaderEnded (u ++ streamOf segs) →
    NoColonLine (u ++ streamOf segs) →
    ((httpParseStream v segs).1 = .done → ∃ before, before <+: segs ∧
      f.segments before = some (.length 0)) ∧
    ((httpParseStream v segs).1 = .err → f.segments segs = none ∨
      ∃ before, before <+: segs ∧ f.segments before = some .chunked) ∧
    ((httpParseStream v segs).1 = .ok → ∃ f', f.segments segs = some f' ∧
      Reading b (u ++ streamOf segs) f' [] (Dperf.entered (httpParseStream v segs).2.sk)) := by
  intro segs
  induction segs with
  | nil =>
      intro u f v h _ _
      rw [streamOf, List.flatMap_nil, List.append_nil, httpParseStream]
      exact ⟨fun hd => absurd hd (by simp), fun he => absurd he (by simp), fun _ => ⟨f, rfl, h⟩⟩
  | cons s segs ih =>
      intro u f v h hin hcolon
      rw [streamOf, List.flatMap_cons, ← List.append_assoc] at hin hcolon ⊢
      obtain ⟨hcut, hgo⟩ := h.run s (not_headerEnded_of_append hin)
        (hcolon.of_prefix (List.prefix_append _ _))
      rw [httpParseStream]
      by_cases hok : (httpParseRun s.data s.len v).1 = .ok
      · obtain ⟨f', hsaid, hread⟩ := hgo hok
        obtain ⟨hdone, herr, hstay⟩ := ih hread hin hcolon
        rw [if_pos hok]
        refine ⟨fun hd => ?_, fun he => ?_, fun ho => ?_⟩
        · obtain ⟨before, hpre, hb⟩ := hdone hd
          exact ⟨s :: before, List.cons_prefix_cons.mpr ⟨rfl, hpre⟩,
            (Framing.segments_cons hsaid before).trans hb⟩
        · rw [Framing.segments_cons hsaid]
          refine (herr he).imp_right ?_
          rintro ⟨before, hpre, hb⟩
          exact ⟨s :: before, List.cons_prefix_cons.mpr ⟨rfl, hpre⟩,
            (Framing.segments_cons hsaid before).trans hb⟩
        · rw [Framing.segments_cons hsaid]
          exact hstay ho
      · have hone : ∀ g, f.text s.bytes (s.data.drop s.len.toNat) = some g →
            ∃ before, before <+: s :: segs ∧ f.segments before = some g := fun g hg =>
          ⟨[s], List.prefix_append [s] segs, Framing.segments_cons hg []⟩
        rw [if_neg hok, hcut]
        rw [hcut] at hok
        refine ⟨fun hd => hone _ (Framing.atCut_done hd), fun he => ?_, fun ho => absurd ho hok⟩
        exact (Framing.atCut_err he).imp Framing.segments_refused (hone _)

end Stream

/-! ### Behind the header -/

/-- The header is over, and the body not yet. -/
def InBody (sk : Socket) : Prop := sk.httpParseState = .headerDone ∨ InChunk sk

/-- The same to the parser of the body. -/
structure SameBody (sk sk' : Socket) : Prop where
  state : sk.httpParseState = sk'.httpParseState
  left : sk.httpLength = sk'.httpLength
  length : hasFlag sk.httpFlags httpFContentLength = hasFlag sk'.httpFlags httpFContentLength
  encoding : hasFlag sk.httpFlags httpFTransferEncoding =
    hasFlag sk'.httpFlags httpFTransferEncoding

section Body

variable {sk sk' : Socket}

lemma InBody.run {v : View} (h : InBody v.sk) (data : List UInt8) (dataLen : UInt16) :
    (httpParseRun data dataLen v).1 = (httpParseBody v.sk (data.take dataLen.toNat)).1 ∧
      (httpParseRun data dataLen v).2.sk = (httpParseBody v.sk (data.take dataLen.toNat)).2 := by
  have hnum : ¬ v.sk.httpParseState.num < HttpState.headerDone.num := by
    obtain h | h | h | h | h | h | h | h := h <;> rw [h] <;> decide
  rw [httpParseRun_body hnum]
  exact ⟨rfl, rfl⟩

lemma httpParseChunk_begin (h : sk.httpParseState = .headerDone) (p : List UInt8) :
    httpParseChunk sk p = chunkScan { sk with httpParseState := .chunkSize } p := by
  rw [← httpParseChunk_scan (.inl rfl), httpParseChunk, httpParseChunk, httpParseChunkRun,
    httpParseChunkRun, h]
  rfl

lemma SameBody.chunkByte (h : SameBody sk sk') (c : UInt8) :
    (Dperf.chunkByte sk c).1 = (Dperf.chunkByte sk' c).1 ∧
      SameBody (Dperf.chunkByte sk c).2 (Dperf.chunkByte sk' c).2 := by
  obtain ⟨hst, hleft, hlen, henc⟩ := h
  rw [Dperf.chunkByte, Dperf.chunkByte, ← hst, ← hleft]
  cases hs : sk.httpParseState <;> dsimp only <;> (try split_ifs) <;>
    exact ⟨rfl, by first | rfl | exact hst, by first | rfl | exact hleft, hlen, henc⟩

/-- An answer that asks for more leaves the parser in the body. -/
lemma InBody.body (h : InBody sk) (data : List UInt8) (hok : (httpParseBody sk data).1 = .ok) :
    InBody (httpParseBody sk data).2 := by
  rw [httpParseBody] at hok ⊢
  split_ifs at hok ⊢ with h1 h2 h3 h4
  · exact h
  · rcases h with h | h
    · rw [httpParseChunk_begin h] at hok ⊢
      exact .inr (scan_preserves chunkByte_inChunk (.inl rfl) hok)
    · rw [httpParseChunk_scan h] at hok ⊢
      exact .inr (scan_preserves chunkByte_inChunk h hok)
  · exact h

lemma SameBody.body (h : SameBody sk sk') (hin : InBody sk) (data : List UInt8) :
    (httpParseBody sk data).1 = (httpParseBody sk' data).1 ∧
      SameBody (httpParseBody sk data).2 (httpParseBody sk' data).2 := by
  obtain ⟨hst, hleft, hlen, henc⟩ := h
  rw [httpParseBody, httpParseBody, ← hlen, ← henc, ← hleft]
  split_ifs with h1 h2 h3 h4
  · exact ⟨rfl, hst, rfl, hlen, henc⟩
  · exact ⟨rfl, rfl, rfl, hlen, henc⟩
  · exact ⟨rfl, hst, hleft, hlen, henc⟩
  · rcases hin with hin | hin
    · rw [httpParseChunk_begin hin, httpParseChunk_begin (hst ▸ hin)]
      exact scan_related (fun s t c h => h.chunkByte c) data ⟨rfl, hleft, hlen, henc⟩
    · have hin' : InChunk sk' := by
        rw [InChunk, ← hst]
        exact hin
      rw [httpParseChunk_scan hin, httpParseChunk_scan hin']
      exact scan_related (fun s t c h => h.chunkByte c) data ⟨hst, hleft, hlen, henc⟩
  · exact ⟨rfl, hst, hleft, hlen, henc⟩

lemma SameBody.inBody (h : SameBody sk sk') (hin : InBody sk) : InBody sk' := by
  rw [InBody, InChunk, ← h.state]
  exact hin

/-- The same answers from there on. -/
lemma SameBody.stream : ∀ (segs : List HttpSegment) {v v' : View}, SameBody v.sk v'.sk →
    InBody v.sk → (httpParseStream v segs).1 = (httpParseStream v' segs).1 := by
  intro segs
  induction segs with
  | nil => exact fun _ _ => rfl
  | cons s segs ih =>
      intro v v' h hin
      obtain ⟨hret, hsk⟩ := hin.run s.data s.len
      obtain ⟨hret', hsk'⟩ := (h.inBody hin).run s.data s.len
      obtain ⟨hsame, hnext⟩ := h.body hin (s.data.take s.len.toNat)
      have hruns : (httpParseRun s.data s.len v).1 = (httpParseRun s.data s.len v').1 :=
        (hret.trans hsame).trans hret'.symm
      rw [httpParseStream, httpParseStream, ← hruns]
      by_cases hok : (httpParseRun s.data s.len v).1 = .ok
      · rw [if_pos hok, if_pos hok]
        refine ih ?_ ?_
        · rw [hsk, hsk']
          exact hnext
        · rw [hsk]
          exact hin.body _ (hret ▸ hok)
      · rw [if_neg hok, if_neg hok]
        exact hruns

/-- Without a length or an encoding nothing is refused. -/
lemma InBody.stream_plain : ∀ (segs : List HttpSegment) {v : View}, InBody v.sk →
    hasFlag v.sk.httpFlags httpFContentLength = false →
    hasFlag v.sk.httpFlags httpFTransferEncoding = false → (httpParseStream v segs).1 = .ok := by
  intro segs
  induction segs with
  | nil => exact fun _ _ _ => rfl
  | cons s segs ih =>
      intro v hin hlen henc
      obtain ⟨hret, hsk⟩ := hin.run s.data s.len
      rw [httpParseBody_plain hlen henc] at hret hsk
      rw [httpParseStream, if_pos hret]
      exact ih (hsk ▸ hin) (hsk ▸ hlen) (hsk ▸ henc)

end Body

/-! ### The law -/

/-- A header that ends in the segment `last`: `rest` is what comes there before the last line feed,
and `part` what comes behind the header. -/
structure CutHeader where
  before : List HttpSegment
  last : HttpSegment
  rest : List UInt8
  part : List UInt8
  split : last.bytes = rest ++ 0x0a :: part
  inside : ¬ HeaderEnded (streamOf before ++ rest)
  ended : HeaderEnded (streamOf before ++ rest ++ [0x0a])
  proper : NoColonLine (streamOf before ++ rest)

/-- The header in one piece, without the last line feed. -/
def CutHeader.text (h : CutHeader) : List UInt8 := streamOf h.before ++ h.rest

/-- What the pieces of the header say. -/
def CutHeader.pieces (h : CutHeader) : Option Framing :=
  (Framing.plain.segments h.before).bind fun f =>
    f.text (h.rest ++ [0x0a]) (h.part ++ h.last.data.drop h.last.len.toNat)

/-- What the whole lines say. -/
def CutHeader.whole (h : CutHeader) (behind : List UInt8) : Option Framing :=
  Framing.plain.text (h.text ++ [0x0a]) (h.part ++ behind)

/-- The answer to a response whose first part was answered with `r`. -/
def answers (v : View) (r : HttpRet × Socket) (after : List HttpSegment) : HttpRet :=
  if r.1 = .ok then (httpParseStream { v with sk := r.2 } after).1 else r.1

/-- The same response with the header in one segment. -/
def CutHeader.joined (h : CutHeader) (behind : List UInt8) (v : View) (after : List HttpSegment) :
    HttpRet :=
  answers v (httpParseFrom (h.text ++ 0x0a :: (h.part ++ behind))
    (h.text.length + (h.part.length + 1)) (entered v.sk)) after

section Law

variable {v : View}

lemma Reading.init (hinit : v.sk.httpParseState = .init) (hflags : v.sk.httpFlags = 0) :
    Reading v.sk.httpLength [] .plain [] (Dperf.entered v.sk) := by
  have hsk : Dperf.entered v.sk = { v.sk with httpParseState := .headerBegin } := if_pos hinit
  rw [hsk]
  refine ⟨.inl ⟨rfl, rfl⟩, fun _ => List.not_mem_nil, ?_, ?_, rfl⟩
  · exact hflags ▸ rfl
  · exact hflags ▸ rfl

/-- The segment that ends the header, and what follows. -/
lemma Reading.answers {b : Int64} {u rest part : List UInt8} {f : Framing} {w : View}
    (h : Reading b u f [] (Dperf.entered w.sk)) (s : HttpSegment)
    (hs : s.bytes = rest ++ 0x0a :: part) (hin : ¬ HeaderEnded (u ++ rest))
    (hend : HeaderEnded (u ++ rest ++ [0x0a])) (hcolon : NoColonLine (u ++ rest))
    (v : View) (after : List HttpSegment) :
    (httpParseStream w (s :: after)).1 =
      Dperf.answers v (httpParseFrom (rest ++ 0x0a :: (part ++ s.data.drop s.len.toNat))
        (rest.length + (part.length + 1)) (Dperf.entered w.sk)) after := by
  have hdata : s.data = rest ++ 0x0a :: (part ++ s.data.drop s.len.toNat) := by
    conv_lhs => rw [s.data_eq, hs]
    simp
  have hlen : s.len.toNat = rest.length + (part.length + 1) := by
    rw [← s.length_bytes, hs, List.length_append, List.length_cons]
  have hends := h.ends part (s.data.drop s.len.toNat) hin hend hcolon
  obtain ⟨hret, hsk⟩ := httpParseRun_from h.num_lt s.data s.len
  rw [← hdata, ← hlen] at hends ⊢
  rw [httpParseStream, Dperf.answers, hret]
  by_cases hok : (httpParseFrom s.data s.len.toNat (Dperf.entered w.sk)).1 = .ok
  · rw [if_pos hok, if_pos hok]
    have hbody : InBody (httpParseFrom s.data s.len.toNat (Dperf.entered w.sk)).2 := by
      obtain ⟨-, herr⟩ | ⟨f', sk', -, hdone, heq⟩ := hends
      · exact absurd (hok.symm.trans herr) (by simp)
      · rw [heq] at hok ⊢
        exact InBody.body (.inl hdone.state) part hok
    refine SameBody.stream after ?_ (hsk.symm ▸ hbody)
    rw [hsk]
    exact ⟨rfl, rfl, rfl, rfl⟩
  · rw [if_neg hok, if_neg hok]
    exact hret

/-- One segment with the whole header is the joined header. -/
lemma CutHeader.joined_eq (h : CutHeader) (hinit : v.sk.httpParseState = .init)
    (hflags : v.sk.httpFlags = 0) {s : HttpSegment} (hs : s.bytes = h.text ++ 0x0a :: h.part)
    (after : List HttpSegment) :
    h.joined (s.data.drop s.len.toNat) v after = (httpParseStream v (s :: after)).1 :=
  ((Reading.init hinit hflags).answers s hs h.inside h.ended h.proper v after).symm

lemma HeaderRead.sameBody {b : Int64} {f : Framing} {sk sk' : Socket} (h : HeaderRead b f sk)
    (h' : HeaderRead b f sk') (hf : f ≠ .plain) : SameBody sk sk' := by
  have hst : sk.httpParseState = sk'.httpParseState := h.state.trans h'.state.symm
  have hsaid := h.said hf
  have hsaid' := h'.said hf
  cases f with
  | plain => exact absurd rfl hf
  | length n =>
      obtain ⟨hlen, henc, hleft, -⟩ := hsaid
      obtain ⟨hlen', henc', hleft', -⟩ := hsaid'
      exact ⟨hst, hleft.trans hleft'.symm, hlen.trans hlen'.symm, henc.trans henc'.symm⟩
  | chunked =>
      obtain ⟨hlen, henc, hleft⟩ := hsaid
      obtain ⟨hlen', henc', hleft'⟩ := hsaid'
      exact ⟨hst, hleft.trans hleft'.symm, hlen.trans hlen'.symm, henc.trans henc'.symm⟩

/-- With the same said, the answers are the same. -/
lemma HeaderRead.answers {b : Int64} {f : Framing} {sk sk' : Socket} (h : HeaderRead b f sk)
    (h' : HeaderRead b f sk') (hf : f ≠ .plain) (v : View) (part : List UInt8)
    (after : List HttpSegment) : Dperf.answers v (httpParseBody sk part) after =
      Dperf.answers v (httpParseBody sk' part) after := by
  have hin : InBody sk := .inl h.state
  obtain ⟨hret, hnext⟩ := (h.sameBody h' hf).body hin part
  rw [Dperf.answers, Dperf.answers, ← hret]
  split_ifs with hok
  · exact SameBody.stream after hnext (hin.body part hok)
  · rfl

lemma HeaderRead.answers_plain {b : Int64} {sk : Socket} (h : HeaderRead b .plain sk) (v : View)
    (part : List UInt8) (after : List HttpSegment) :
    Dperf.answers v (httpParseBody sk part) after = .ok := by
  obtain ⟨hlen, henc⟩ := h.plain rfl
  rw [httpParseBody_plain hlen henc, Dperf.answers, if_pos rfl]
  exact InBody.stream_plain after (.inl h.state) hlen henc

/-- The joined header is refused, or the body follows. -/
lemma CutHeader.joined_cases (h : CutHeader) (hinit : v.sk.httpParseState = .init)
    (hflags : v.sk.httpFlags = 0) (behind : List UInt8) (after : List HttpSegment) :
    h.whole behind = none ∧ h.joined behind v after = .err ∨
    ∃ f sk, h.whole behind = some f ∧ HeaderRead v.sk.httpLength f sk ∧
      h.joined behind v after = Dperf.answers v (httpParseBody sk h.part) after := by
  obtain ⟨hsaid, herr⟩ | ⟨f, sk, hsaid, hdone, heq⟩ :=
    (Reading.init hinit hflags).ends (s := h.text) h.part behind h.inside h.ended h.proper
  · refine .inl ⟨hsaid, ?_⟩
    rw [CutHeader.joined, Dperf.answers, herr]
    rfl
  · refine .inr ⟨f, sk, hsaid, hdone, ?_⟩
    rw [CutHeader.joined, heq]

/-- With no cut behind an encoding, a refused response has a refused line, or it is refused for
its body. -/
lemma CutHeader.refused (h : CutHeader) (hinit : v.sk.httpParseState = .init)
    (hflags : v.sk.httpFlags = 0) {after : List HttpSegment}
    (hchunked : ∀ before, before <+: h.before → Framing.plain.segments before ≠ some .chunked)
    (herr : (httpParseStream v (h.before ++ h.last :: after)).1 = .err) :
    h.pieces = none ∨ ∃ f sk, h.pieces = some f ∧ HeaderRead v.sk.httpLength f sk ∧
      Dperf.answers v (httpParseBody sk h.part) after = .err := by
  obtain ⟨-, hrefused, hgo⟩ := (Reading.init hinit hflags).stream h.before
    (not_headerEnded_of_append h.inside) (h.proper.of_prefix (List.prefix_append _ _))
  rw [httpParseStream_append] at herr
  split_ifs at herr with hok
  · obtain ⟨f, hsaid, hread⟩ := hgo hok
    have hpieces : h.pieces =
        f.text (h.rest ++ [0x0a]) (h.part ++ h.last.data.drop h.last.len.toNat) := by
      rw [CutHeader.pieces, hsaid]
      rfl
    rw [hread.answers h.last h.split h.inside h.ended h.proper v after] at herr
    obtain ⟨hnone, -⟩ | ⟨f', sk, hsome, hdone, heq⟩ :=
      hread.ends h.part (h.last.data.drop h.last.len.toNat) h.inside h.ended h.proper
    · exact .inl (hpieces.trans hnone)
    · rw [heq] at herr
      exact .inr ⟨f', sk, hpieces.trans hsome, hdone, herr⟩
  · refine .inl ?_
    obtain hnone | ⟨before, hpre, hsaid⟩ := hrefused herr
    · rw [CutHeader.pieces, hnone]
      rfl
    · exact absurd hsaid (hchunked before hpre)

/-- **Headers in segments.** `HTTP_PARSE_END` comes before the empty line of the header only where a
segment ends inside the header while it says that the length is zero. With no segment that ends
inside a header that is chunked so far, and with pieces that say nothing or what the whole lines
say, a response is refused only if it is refused with the header in one segment. -/
theorem httpParseStream_cuts (hinit : v.sk.httpParseState = .init) (hflags : v.sk.httpFlags = 0) :
    (∀ segs, NoColonLine (streamOf segs) →
      (∀ before, before <+: segs → ¬ HeaderEnded (streamOf before) →
        Framing.plain.segments before ≠ some (.length 0)) →
      (httpParseStream v segs).1 = .done → HeaderEnded (streamOf segs)) ∧
    ∀ (h : CutHeader) (behind : List UInt8) (after : List HttpSegment),
      (∀ before, before <+: h.before → Framing.plain.segments before ≠ some .chunked) →
      h.pieces = some .plain ∨ h.pieces = h.whole behind →
      (httpParseStream v (h.before ++ h.last :: after)).1 = .err →
      h.joined behind v after = .err := by
  have hread := Reading.init hinit hflags
  refine ⟨fun segs hcolon hzero hdone => ?_, fun h behind after hchunked hsame herr => ?_⟩
  · by_contra hin
    obtain ⟨hcut, -⟩ := hread.stream segs hin hcolon
    obtain ⟨before, hpre, hsaid⟩ := hcut hdone
    refine hzero before hpre ?_ hsaid
    obtain ⟨more, rfl⟩ := hpre
    rw [streamOf, List.flatMap_append] at hin
    exact not_headerEnded_of_append hin
  · obtain hnone | ⟨f, sk, hsaid, hdone, hret⟩ := h.refused hinit hflags hchunked herr
    · have hwhole : h.whole behind = none := by
        rw [hnone] at hsame
        exact (hsame.resolve_left (by simp)).symm
      obtain ⟨-, hjoined⟩ | ⟨g, sk', hg, -⟩ := h.joined_cases hinit hflags behind after
      · exact hjoined
      · exact absurd (hwhole.symm.trans hg) (by simp)
    · have hplain : f ≠ .plain := by
        rintro rfl
        exact absurd ((hdone.answers_plain v h.part after).symm.trans hret) (by simp)
      have hwhole : h.whole behind = some f := by
        rw [hsaid] at hsame
        exact (hsame.resolve_left fun heq => hplain (Option.some.inj heq)).symm
      obtain ⟨hno, -⟩ | ⟨g, sk', hg, hdone', hjoined⟩ := h.joined_cases hinit hflags behind after
      · exact absurd (hwhole.symm.trans hno) (by simp)
      · obtain rfl : f = g := Option.some.inj (hwhole.symm.trans hg)
        rw [hjoined, ← hdone.answers hdone' hplain]
        exact hret

/-- A response of two segments that is over, and one that is refused for its body. -/
theorem httpParseStream_cuts_bodies : (∃ first last : HttpSegment,
    streamOf [first, last] = ascii "HTTP/1.1 200 OK\r\nContent-Length: 0\r\n\r\n" ∧
    (httpParseStream { sk := default } [first, last]).1 = .done ∧
    HeaderEnded (streamOf [first, last])) ∧
    ∃ h : CutHeader, h.text = ascii "HTTP/1.1 200 OK\r\nTransfer-Encoding: chunked\r\n\r" ∧
      (httpParseStream { sk := default } (h.before ++ [h.last])).1 = .err ∧
      h.joined [] { sk := default } [] = .err := by
  obtain ⟨hends, hrefused⟩ := httpParseStream_cuts (v := { sk := default }) rfl rfl
  let first : HttpSegment := ⟨ascii "HTTP/1.1 200 OK\r\n", 17, by decide⟩
  let last : HttpSegment := ⟨ascii "Content-Length: 0\r\n\r\n", 21, by decide⟩
  let chunks : HttpSegment := ⟨ascii "Transfer-Encoding: chunked\r\n\r\n1\r\nab", 35, by decide⟩
  let h : CutHeader :=
    { before := [first]
      last := chunks
      rest := ascii "Transfer-Encoding: chunked\r\n\r"
      part := ascii "1\r\nab"
      split := by decide
      inside := by decide
      ended := by decide
      proper := noColonLine_of (by decide) }
  have hone : ∀ before, before <+: [first] → Framing.plain.segments before = some .plain := by
    intro before hpre
    obtain rfl | ⟨more, rfl, hmore⟩ := List.prefix_cons_iff.mp hpre
    · rfl
    · rw [List.prefix_nil.mp hmore]
      decide
  refine ⟨⟨first, last, by decide, by decide, hends _ ?_ ?_ (by decide)⟩, h, by decide, by decide,
    hrefused h [] [] ?_ (.inr (by decide)) (by decide)⟩
  · intro a hpre ha
    have hfront : streamOf [first, last] =
        ascii "HTTP/1.1 200 OK\r\nContent-Length: 0\r\n\r" ++ [0x0a] := by decide
    rw [hfront] at hpre
    rcases List.prefix_concat_iff.mp hpre with rfl | hpre
    · decide
    · exact noColonLine_of (by decide) a hpre ha
  · intro before hpre hin
    rcases (List.prefix_concat_iff.mp hpre : before = [first] ++ [last] ∨ before <+: [first]) with rfl | hpre
    · exact absurd (by decide) hin
    · rw [hone before hpre]
      simp
  · intro before hpre
    rw [hone before hpre]
    simp

/-- Cut behind a length of zero, a response is over before its header; cut behind an encoding, it is
refused, which it is not in one piece. -/
theorem httpParseStream_cut_fails : (∃ first last : HttpSegment,
    streamOf [first, last] = ascii "HTTP/1.1 200 OK\r\nContent-Length: 0\r\n\r\n" ∧
    (httpParseStream { sk := default } [first]).1 = .done ∧ ¬ HeaderEnded first.bytes ∧
    HeaderEnded (streamOf [first, last])) ∧
    ∃ h : CutHeader, h.text = ascii "HTTP/1.1 200 OK\r\nTransfer-Encoding: chunked\r\n\r" ∧
      (httpParseStream { sk := default } (h.before ++ [h.last])).1 = .err ∧
      h.joined [] { sk := default } [] = .done := by
  let first : HttpSegment := ⟨ascii "HTTP/1.1 200 OK\r\nContent-Length: 0\r\n", 36, by decide⟩
  let last : HttpSegment := ⟨ascii "\r\n", 2, by decide⟩
  let encoding : HttpSegment :=
    ⟨ascii "HTTP/1.1 200 OK\r\nTransfer-Encoding: chunked\r\n", 45, by decide⟩
  let chunks : HttpSegment := ⟨ascii "\r\n0\r\n\r\n", 7, by decide⟩
  let h : CutHeader :=
    { before := [encoding]
      last := chunks
      rest := ascii "\r"
      part := ascii "0\r\n\r\n"
      split := by decide
      inside := by decide
      ended := by decide
      proper := noColonLine_of (by decide) }
  exact ⟨⟨first, last, by decide, by decide, by decide, by decide⟩, h, by decide, by decide,
    by decide⟩

end Law

end Dperf
