import Dperf.ChunkSound

/-!
The well-formed chunked bodies, and which of them `http_parse_chunk` takes to the end.

* `WellFormed`: a body as the format has it. Sizes are hexadecimal numbers of either case.
* `chunkedComplete_iff`: the parser takes a body to its last byte exactly if it reads it,
  as it does when no size has an upper-case digit; otherwise there are chunk data on which
  it fails.
-/

namespace Dperf

open Streams

/-! ### Well-formed bodies -/

/-- A byte that is part of a line. -/
def InLine (c : UInt8) : Prop := c ≠ 0x0d ∧ c ≠ 0x0a

/-- A size in hexadecimal digits of either case, with an extension. -/
structure FormLine where
  digits : List UInt8
  ext : List UInt8
  isHex : ∀ c ∈ digits, isHexDigit c = true
  some : digits ≠ []
  extBegin : ∀ c ∈ ext.head?, c = 0x3b
  inLine : ∀ c ∈ ext, InLine c

/-- The bytes of a size line. -/
def FormLine.bytes (l : FormLine) : List UInt8 := l.digits ++ (l.ext ++ [0x0d, 0x0a])

/-- A chunk that is not empty. -/
structure FormChunk where
  line : FormLine
  data : List UInt8
  size : hexValue line.digits = data.length
  pos : 0 < data.length
  lt : data.length < 2 ^ 63

/-- The bytes of a chunk. -/
def FormChunk.bytes (k : FormChunk) : List UInt8 := k.line.bytes ++ (k.data ++ [0x0d, 0x0a])

/-- A trailer line that is not empty. -/
structure FormTrailer where
  text : List UInt8
  some : text ≠ []
  inLine : ∀ c ∈ text, InLine c

/-- The bytes of a trailer line. -/
def FormTrailer.bytes (t : FormTrailer) : List UInt8 := t.text ++ [0x0d, 0x0a]

/-- A well-formed body: chunks, the last chunk, trailer lines. -/
structure WellFormed where
  chunks : List FormChunk
  last : FormLine
  trailers : List FormTrailer
  zero : ∀ c ∈ last.digits, c = 0x30

/-- What follows the chunks of a well-formed body. -/
def WellFormed.tail (b : WellFormed) : List UInt8 :=
  b.last.bytes ++ (b.trailers.flatMap FormTrailer.bytes ++ [0x0d, 0x0a])

/-- The bytes of a well-formed body. -/
def WellFormed.bytes (b : WellFormed) : List UInt8 :=
  b.chunks.flatMap FormChunk.bytes ++ b.tail

/-- No size of a chunk has an upper-case digit. -/
def WellFormed.LowerCase (b : WellFormed) : Prop :=
  ∀ k ∈ b.chunks, ∀ c ∈ k.line.digits, isSizeDigit c = true

/-- Two bodies differ at most in the data of their chunks. -/
def WellFormed.SameLines (b b' : WellFormed) : Prop :=
  b'.chunks.map FormChunk.line = b.chunks.map FormChunk.line ∧ b'.last = b.last ∧
    b'.trailers = b.trailers

/-! ### Bodies without upper-case digits -/

/-- The parser reads a size line without upper-case digits as it is meant. -/
lemma FormLine.exists_read (l : FormLine) (h : ∀ c ∈ l.digits, isSizeDigit c = true) :
    ∃ r : SizeLine, r.bytes = l.bytes ∧ r.digits = l.digits := by
  obtain ⟨ds, e, hhex, hne, hbegin, hin⟩ := l
  cases e with
  | nil =>
      refine ⟨⟨ds, 0x0d, [], h, by decide, by simp⟩, ?_, rfl⟩
      simp [SizeLine.bytes, FormLine.bytes]
  | cons c e =>
      obtain rfl : c = 0x3b := hbegin c rfl
      refine ⟨⟨ds, 0x3b, e ++ [0x0d], h, by decide, ?_⟩, ?_, rfl⟩
      · intro d hd
        obtain hd | hd := List.mem_append.mp hd
        · exact (hin d (List.mem_cons_of_mem _ hd)).2
        · rw [List.mem_singleton.mp hd]
          decide
      · simp [SizeLine.bytes, FormLine.bytes]

/-- The parser reads such a chunk. -/
lemma FormChunk.exists_read (k : FormChunk) (h : ∀ c ∈ k.line.digits, isSizeDigit c = true) :
    ∃ r : ReadChunk, r.bytes = k.bytes := by
  obtain ⟨l, hb, hd⟩ := k.line.exists_read h
  have hsize : hexValue l.digits = k.data.length := hd ▸ k.size
  have hlen := l.toInt_len (by rw [hsize]; exact k.lt)
  have hpos := k.pos
  refine ⟨⟨l, k.data, ?_, ?_⟩, ?_⟩
  · rw [Int64.lt_iff_toInt_lt]
    change 0 < l.len.toInt
    omega
  · omega
  · rw [ReadChunk.bytes, FormChunk.bytes, hb]

/-- The parser reads a trailer line. -/
lemma FormTrailer.exists_read (t : FormTrailer) : ∃ r : ReadTrailer, r.bytes = t.bytes := by
  obtain ⟨text, hne, hin⟩ := t
  cases text with
  | nil => exact absurd rfl hne
  | cons c text =>
      refine ⟨⟨c, text ++ [0x0d], (hin c List.mem_cons_self).1, ?_⟩, ?_⟩
      · intro d hd
        obtain hd | hd := List.mem_append.mp hd
        · exact (hin d (List.mem_cons_of_mem _ hd)).2
        · rw [List.mem_singleton.mp hd]
          decide
      · simp [ReadTrailer.bytes, FormTrailer.bytes]

/-- Lists of units, each of which can be read. -/
lemma exists_flatMap {α β : Type} {f : α → List UInt8} {g : β → List UInt8} :
    ∀ {l : List α}, (∀ a ∈ l, ∃ b, g b = f a) → ∃ l' : List β, l'.flatMap g = l.flatMap f := by
  intro l
  induction l with
  | nil => exact fun _ => ⟨[], rfl⟩
  | cons a l ih =>
      intro h
      obtain ⟨b, hb⟩ := h a List.mem_cons_self
      obtain ⟨l', hl⟩ := ih fun c hc => h c (List.mem_cons_of_mem _ hc)
      exact ⟨b :: l', by rw [List.flatMap_cons, List.flatMap_cons, hb, hl]⟩

/-- Zeros denote zero. -/
lemma hexValue_zeros : ∀ {ds : List UInt8}, (∀ c ∈ ds, c = 0x30) → hexValue ds = 0 := by
  intro ds
  induction ds with
  | nil => exact fun _ => rfl
  | cons c ds ih =>
      intro h
      obtain rfl := h c List.mem_cons_self
      exact ih fun d hd => h d (List.mem_cons_of_mem _ hd)

/-- The parser reads a body without upper-case digits. -/
lemma WellFormed.exists_read (b : WellFormed) (h : b.LowerCase) :
    ∃ r : ReadBody, r.bytes = b.bytes := by
  obtain ⟨ks, hks⟩ := exists_flatMap (l := b.chunks) fun k hk => k.exists_read (h k hk)
  obtain ⟨ts, hts⟩ := exists_flatMap (l := b.trailers) fun t _ => t.exists_read
  obtain ⟨l, hl, hd⟩ := b.last.exists_read fun c hc => by
    rw [b.zero c hc]
    decide
  have hzero : hexValue l.digits = 0 := by
    rw [hd]
    exact hexValue_zeros b.zero
  have hlen := l.toInt_len (by omega)
  refine ⟨⟨ks, l, ts, ?_⟩, ?_⟩
  · rw [Int64.lt_iff_toInt_lt]
    change ¬ 0 < l.len.toInt
    omega
  · simp [ReadBody.bytes, ReadBody.front, readTail, WellFormed.bytes, WellFormed.tail, hks, hts, hl]

/-! ### Bodies with an upper-case digit -/

/-- The chunk with nothing but carriage returns as data. -/
def FormChunk.blank (k : FormChunk) : FormChunk where
  line := k.line
  data := List.replicate k.data.length 0x0d
  size := by rw [List.length_replicate, k.size]
  pos := by rw [List.length_replicate]; exact k.pos
  lt := by rw [List.length_replicate]; exact k.lt

/-- The body with such chunks. -/
def WellFormed.blank (b : WellFormed) : WellFormed :=
  { b with chunks := b.chunks.map FormChunk.blank }

lemma WellFormed.sameLines_blank (b : WellFormed) : b.SameLines b.blank :=
  ⟨by simp [blank, FormChunk.blank], rfl, rfl⟩

/-- Carriage returns before a carriage return. -/
lemma replicate_cr_cons (m : ℕ) (rest : List UInt8) :
    ∃ t, List.replicate m (0x0d : UInt8) ++ 0x0d :: rest = 0x0d :: t := by
  cases m with
  | zero => exact ⟨rest, rfl⟩
  | succ m => exact ⟨List.replicate m 0x0d ++ 0x0d :: rest, by rw [List.replicate_succ]; rfl⟩

/-- At an upper-case digit the parser loses its place. -/
lemma FormChunk.scan_blank {k : FormChunk} (h : ¬ ∀ c ∈ k.line.digits, isSizeDigit c = true)
    {sk : Socket} (hst : sk.httpParseState = .chunkSize) (h0 : sk.httpLength = 0)
    (rest : List UInt8) : (chunkScan sk (k.blank.bytes ++ rest)).1 = .err := by
  obtain ⟨ds, c, more, hds, hd, hc⟩ := exists_split h
  have hhex : ∀ x ∈ c :: more, isHexDigit x = true := fun x hx =>
    k.line.isHex x (by rw [hds]; exact List.mem_append_right _ hx)
  -- the size line as the parser reads it
  obtain ⟨l, hl, hdig⟩ : ∃ l : SizeLine, l.bytes = k.line.bytes ∧ l.digits = ds := by
    refine ⟨⟨ds, c, more ++ k.line.ext ++ [0x0d], hd, hc, ?_⟩, ?_, rfl⟩
    · intro x hx
      obtain hx | hx := List.mem_append.mp hx
      · obtain hx | hx := List.mem_append.mp hx
        · rintro rfl
          exact absurd (hhex _ (List.mem_cons_of_mem _ hx)) (by decide)
        · exact (k.line.inLine x hx).2
      · rw [List.mem_singleton.mp hx]
        decide
    · simp [SizeLine.bytes, FormLine.bytes, hds]
  -- it counts fewer bytes than there are
  have hlt : hexValue l.digits < k.data.length := by
    rw [hdig, ← k.size, hds]
    exact hexValue_lt_append ds more (hhex c List.mem_cons_self) hc
  have hlen := l.toInt_len (hlt.trans k.lt)
  obtain ⟨m, hm⟩ := Nat.exists_eq_add_of_lt hlt
  obtain ⟨t, ht⟩ := replicate_cr_cons m (0x0a :: rest)
  have hbytes : k.blank.bytes ++ rest = l.bytes ++
      (List.replicate (hexValue l.digits) 0x0d ++ 0x0d :: 0x0d :: t) := by
    have hdata : k.blank.data = List.replicate (hexValue l.digits) 0x0d ++
        0x0d :: List.replicate m 0x0d := by
      rw [← List.replicate_succ, List.replicate_append_replicate, ← Nat.add_assoc, ← hm]
      rfl
    rw [← ht, FormChunk.bytes, hdata, hl]
    simp [FormChunk.blank]
  rw [hbytes, scan_sizeLine l hst h0]
  split_ifs with hpos
  · rw [chunkScan, scan_append_go (scan_data rfl (by rw [List.length_replicate]; exact hlen.symm)),
      scan_cons_go (chunkByte_dataEnd rfl rfl),
      scan_cons_stop (by rw [chunkByte_dataLfBad rfl (by decide)]; simp),
      chunkByte_dataLfBad rfl (by decide)]
  · have hzero : hexValue l.digits = 0 := by
      rw [Int64.lt_iff_toInt_lt] at hpos
      change ¬ 0 < l.len.toInt at hpos
      omega
    rw [hzero, List.replicate_zero, List.nil_append, chunkScan,
      scan_cons_go (chunkByte_endCr rfl),
      scan_cons_stop (by rw [chunkByte_endBad rfl (by decide)]; simp),
      chunkByte_endBad rfl (by decide)]

/-- The chunks up to the first upper-case digit are read. -/
lemma scan_blanks {sk : Socket} (hst : sk.httpParseState = .chunkSize) (h0 : sk.httpLength = 0)
    (rest : List UInt8) : ∀ {ks : List FormChunk},
    ¬ (∀ k ∈ ks, ∀ c ∈ k.line.digits, isSizeDigit c = true) →
      (chunkScan sk ((ks.map FormChunk.blank).flatMap FormChunk.bytes ++ rest)).1 = .err := by
  intro ks
  induction ks with
  | nil => exact fun h => absurd (by simp) h
  | cons k ks ih =>
      intro h
      rw [List.map_cons, List.flatMap_cons, List.append_assoc]
      by_cases hk : ∀ c ∈ k.line.digits, isSizeDigit c = true
      · rw [List.forall_mem_cons, not_and] at h
        obtain ⟨r, hr⟩ := k.blank.exists_read hk
        rw [← hr, scan_chunk r hst h0]
        exact ih (h hk)
      · exact k.scan_blank hk hst h0 _

/-! ### Completeness -/

/-- The parser takes a well-formed body to its last byte exactly if it reads it; it does so
whatever the data of the chunks are exactly if no size has an upper-case digit. -/
theorem chunkedComplete_iff (sk : Socket) (b : WellFormed) :
    (EndsAt sk b.bytes ↔ b.LowerCase ∨ ∃ r : ReadBody, r.bytes = b.bytes) ∧
      (b.LowerCase ↔ ∀ b', b.SameLines b' → EndsAt sk b'.bytes) := by
  refine ⟨⟨fun h => .inr (endsAt_iff_read.mp h), ?_⟩, ?_, ?_⟩
  · rintro (h | h)
    · exact endsAt_iff_read.mpr (b.exists_read h)
    · exact endsAt_iff_read.mpr h
  · rintro h b' ⟨hlines, -, -⟩
    refine endsAt_iff_read.mpr (b'.exists_read fun k hk => ?_)
    have hmem : k.line ∈ b.chunks.map FormChunk.line := by
      rw [← hlines]
      exact List.mem_map_of_mem hk
    obtain ⟨k', hk', heq⟩ := List.mem_map.mp hmem
    rw [← heq]
    exact h k' hk'
  · intro h
    by_contra hlow
    have hst : (chunkBegin sk).httpParseState = .chunkSize := rfl
    have herr := scan_blanks hst rfl b.tail hlow
    have hend := (h b.blank b.sameLines_blank).1
    rw [httpParseChunk_start_scan, WellFormed.bytes] at hend
    change (chunkScan (chunkBegin sk)
      ((b.chunks.map FormChunk.blank).flatMap FormChunk.bytes ++ b.tail)).1 = .done at hend
    rw [herr] at hend
    cases hend

/-- A body of one chunk of 26 bytes whose size is written `1A`. -/
def upperBody : WellFormed where
  chunks :=
    [{ line := ⟨[0x31, 0x41], [], List.all_eq_true.mp rfl, by simp, by simp, by simp⟩
       data := List.replicate 26 0x78
       size := by decide
       pos := by decide
       lt := by decide }]
  last := ⟨[0x30], [], List.all_eq_true.mp rfl, by simp, by simp, by simp⟩
  trailers := []
  zero := by simp

/-- The parser takes the size for 1, and fails on the second byte of the data. -/
theorem chunkedComplete_fails : ¬ EndsAt default upperBody.bytes := by
  intro h
  exact absurd h.1 (by decide)

end Dperf
