import Dperf.HttpChunk

/-!
What `http_parse_chunk` takes for a chunked body.

* `ReadBody`: a body as the parser reads it. A size ends at the first byte that is no
  digit of the parser, it is added up in 64 bits, and one that is not positive is the
  last.
* `endsAt_iff_read`: the parser ends exactly at the end of such a body, and nowhere else.
* `ReadBody.unique`: the bytes determine the body.
-/

namespace Dperf

open Streams

/-! ### A body as the parser reads it -/

/-- A size line: the digits, a byte that is none, and what is skipped up to the line feed. -/
structure SizeLine where
  digits : List UInt8
  stop : UInt8
  ext : List UInt8
  isDigit : ∀ c ∈ digits, isSizeDigit c = true
  notDigit : ¬ isSizeDigit stop = true
  noLf : ∀ c ∈ ext, c ≠ 0x0a

/-- The bytes of a size line. -/
def SizeLine.bytes (l : SizeLine) : List UInt8 := l.digits ++ l.stop :: (l.ext ++ [0x0a])

/-- The length that the parser adds up. -/
def SizeLine.len (l : SizeLine) : Int64 := l.digits.foldl sizeStep 0

/-- A chunk: a size line, and as many bytes as the parser counts. -/
structure ReadChunk where
  line : SizeLine
  data : List UInt8
  pos : 0 < line.len
  length : (data.length : ℤ) = line.len.toInt

/-- The bytes of a chunk. -/
def ReadChunk.bytes (k : ReadChunk) : List UInt8 := k.line.bytes ++ (k.data ++ [0x0d, 0x0a])

/-- A trailer line: its first byte is not looked at, but for a carriage return. -/
structure ReadTrailer where
  first : UInt8
  rest : List UInt8
  noCr : first ≠ 0x0d
  noLf : ∀ c ∈ rest, c ≠ 0x0a

/-- The bytes of a trailer line. -/
def ReadTrailer.bytes (t : ReadTrailer) : List UInt8 := t.first :: (t.rest ++ [0x0a])

/-- A body: chunks, a size line whose length is not positive, trailer lines. -/
structure ReadBody where
  chunks : List ReadChunk
  last : SizeLine
  trailers : List ReadTrailer
  nonpos : ¬ 0 < last.len

/-- The bytes after the chunks, without the last line feed. -/
def readTail (last : SizeLine) (trailers : List ReadTrailer) : List UInt8 :=
  last.bytes ++ (trailers.flatMap ReadTrailer.bytes ++ [0x0d])

/-- The bytes of a body, without the last line feed. -/
def ReadBody.front (b : ReadBody) : List UInt8 :=
  b.chunks.flatMap ReadChunk.bytes ++ readTail b.last b.trailers

/-- The bytes of a body. -/
def ReadBody.bytes (b : ReadBody) : List UInt8 := b.front ++ [0x0a]

/-! ### The parser takes what it reads -/

section Scan

variable {sk : Socket}

lemma scan_digits : ∀ {ds : List UInt8} {sk : Socket}, sk.httpParseState = .chunkSize →
    (∀ c ∈ ds, isSizeDigit c = true) →
    chunkScan sk ds = (.ok, { sk with httpLength := ds.foldl sizeStep sk.httpLength }) := by
  intro ds
  induction ds with
  | nil => exact fun _ _ => rfl
  | cons c ds ih =>
      intro sk h hd
      obtain ⟨⟩ := sk
      cases h
      rw [chunkScan, scan_cons_go (chunkByte_digit rfl (hd c List.mem_cons_self))]
      exact ih rfl fun d hd' => hd d (List.mem_cons_of_mem _ hd')

/-- Bytes that leave the parser where it is. -/
lemma scan_skip {l : List UInt8} (h : ∀ c ∈ l, chunkByte sk c = (.ok, sk)) :
    chunkScan sk l = (.ok, sk) := by
  induction l with
  | nil => rfl
  | cons c l ih =>
      rw [chunkScan, scan_cons_go (h c List.mem_cons_self)]
      exact ih fun d hd => h d (List.mem_cons_of_mem _ hd)

/-- A size line, from the first digit to the line feed. -/
lemma scan_sizeLine (l : SizeLine) (h : sk.httpParseState = .chunkSize) (h0 : sk.httpLength = 0)
    (rest : List UInt8) : chunkScan sk (l.bytes ++ rest) =
      chunkScan { sk with
        httpLength := l.len
        httpParseState := if 0 < l.len then .chunkData else .chunkTrailerBegin } rest := by
  obtain ⟨⟩ := sk
  cases h
  cases h0
  rw [SizeLine.bytes, List.append_assoc, chunkScan,
    scan_append_go (scan_digits rfl l.isDigit), List.cons_append,
    scan_cons_go (chunkByte_digitsEnd rfl l.notDigit), List.append_assoc,
    scan_append_go (scan_skip fun c hc => chunkByte_ext rfl (l.noLf c hc))]
  by_cases hl : 0 < l.len
  · rw [if_pos hl]
    exact scan_cons_go (chunkByte_chunkLine rfl hl)
  · rw [if_neg hl]
    exact scan_cons_go (chunkByte_lastLine rfl hl)

/-- The data of a chunk. -/
lemma scan_data : ∀ {d : List UInt8} {sk : Socket}, sk.httpParseState = .chunkData →
    (d.length : ℤ) = sk.httpLength.toInt →
    chunkScan sk d = (.ok, { sk with httpLength := 0 }) := by
  intro d
  induction d with
  | nil =>
      intro sk h hl
      have h0 : sk.httpLength = 0 := by
        rw [← Int64.toInt_inj, ← hl]
        rfl
      obtain ⟨⟩ := sk
      cases h0
      rfl
  | cons c d ih =>
      intro sk h hl
      rw [List.length_cons] at hl
      have hpos : 0 < sk.httpLength.toInt := by omega
      have hlt : 0 < sk.httpLength := by
        rw [Int64.lt_iff_toInt_lt]
        exact hpos
      rw [chunkScan, scan_cons_go (chunkByte_data h hlt)]
      exact ih h (by rw [int64_toInt_pred hpos]; omega)

/-- A chunk leaves the parser where it was. -/
lemma scan_chunk (k : ReadChunk) (h : sk.httpParseState = .chunkSize) (h0 : sk.httpLength = 0)
    (rest : List UInt8) : chunkScan sk (k.bytes ++ rest) = chunkScan sk rest := by
  obtain ⟨⟩ := sk
  cases h
  cases h0
  rw [ReadChunk.bytes, List.append_assoc, scan_sizeLine k.line rfl rfl, if_pos k.pos,
    List.append_assoc, chunkScan, scan_append_go (scan_data rfl k.length), List.cons_append,
    scan_cons_go (chunkByte_dataEnd rfl rfl), List.cons_append,
    scan_cons_go (chunkByte_dataLf rfl), List.nil_append]
  rfl

/-- So does a trailer line. -/
lemma scan_trailer (t : ReadTrailer) (h : sk.httpParseState = .chunkTrailerBegin)
    (rest : List UInt8) : chunkScan sk (t.bytes ++ rest) = chunkScan sk rest := by
  obtain ⟨⟩ := sk
  cases h
  rw [ReadTrailer.bytes, List.cons_append, chunkScan,
    scan_cons_go (chunkByte_trailerFirst rfl t.noCr), List.append_assoc,
    scan_append_go (scan_skip fun c hc => chunkByte_trailerRest rfl (t.noLf c hc)),
    List.cons_append, scan_cons_go (chunkByte_trailerLf rfl), List.nil_append]

/-- Units that leave the parser where it is. -/
lemma scan_units {β : Type} {f : β → List UInt8}
    (h : ∀ b rest, chunkScan sk (f b ++ rest) = chunkScan sk rest) :
    ∀ (l : List β) (rest : List UInt8),
      chunkScan sk (l.flatMap f ++ rest) = chunkScan sk rest := by
  intro l
  induction l with
  | nil => exact fun _ => rfl
  | cons b l ih =>
      intro rest
      rw [List.flatMap_cons, List.append_assoc, h, ih]

end Scan

/-- The parser takes all of a body but the last line feed, and goes on. -/
lemma scan_front (sk : Socket) (b : ReadBody) : chunkScan (chunkBegin sk) b.front =
    (.ok, { chunkBegin sk with httpLength := b.last.len, httpParseState := .chunkEnd }) := by
  rw [ReadBody.front, scan_units (fun k rest => scan_chunk k rfl rfl rest), readTail,
    scan_sizeLine b.last rfl rfl, if_neg b.nonpos,
    scan_units (fun t rest => scan_trailer t rfl rest), chunkScan,
    scan_cons_go (chunkByte_endCr rfl)]
  rfl

/-- The parser goes on over every part of `s` and stops, content, with its last byte. -/
def EndsAt (sk : Socket) (s : List UInt8) : Prop :=
  (httpParseChunk (chunkStart sk) s).1 = .done ∧
    ∀ q, q <+: s → q ≠ s → (httpParseChunk (chunkStart sk) q).1 = .ok

lemma httpParseChunk_start_scan (sk : Socket) (p : List UInt8) :
    httpParseChunk (chunkStart sk) p = chunkScan (chunkBegin sk) p :=
  (httpParseChunk_start sk p).trans (httpParseChunk_scan (chunkBegin_inChunk sk) p)

/-- The parser ends with the last byte of a body that it reads. -/
lemma endsAt_read (sk : Socket) (b : ReadBody) : EndsAt sk b.bytes := by
  have hend : chunkScan (chunkBegin sk) b.bytes = (.done,
      { chunkBegin sk with httpLength := b.last.len, httpParseState := .bodyDone }) := by
    rw [ReadBody.bytes, chunkScan, scan_append_go (scan_front sk b)]
    exact scan_cons_stop (by simp [chunkByte_endLf])
  refine ⟨?_, ?_⟩
  · rw [httpParseChunk_start_scan, hend]
  · intro q hq hne
    rw [httpParseChunk_start_scan]
    -- what is not the whole is a part of the front
    obtain ⟨r, hr⟩ := hq
    rcases List.eq_nil_or_concat r with rfl | ⟨r, a, rfl⟩
    · rw [List.append_nil] at hr
      exact absurd hr hne
    · rw [List.concat_eq_append, ReadBody.bytes, ← List.append_assoc] at hr
      obtain ⟨hfront, -⟩ := List.append_inj' hr rfl
      refine scan_go_of_append (q := r) ?_
      rw [hfront]
      exact congrArg Prod.fst (scan_front sk b)

/-! ### What the parser takes is a body it reads -/

section Read

/-- The digits of a size, and the byte that ends them. -/
lemma read_digits : ∀ {p : List UInt8} {sk : Socket}, sk.httpParseState = .chunkSize →
    (chunkScan sk p).1 = .done →
    ∃ ds c q, p = ds ++ c :: q ∧ (∀ d ∈ ds, isSizeDigit d = true) ∧ ¬ isSizeDigit c = true ∧
      chunkScan { sk with
        httpLength := ds.foldl sizeStep sk.httpLength
        httpParseState := .chunkSizeEnd } q = chunkScan sk p := by
  intro p
  induction p with
  | nil =>
      intro sk h hd
      cases hd
  | cons c p ih =>
      intro sk h hd
      obtain ⟨⟩ := sk
      cases h
      by_cases hc : isSizeDigit c = true
      · rw [chunkScan, scan_cons_go (chunkByte_digit rfl hc)] at hd ⊢
        obtain ⟨ds, d, q, rfl, hds, hnd, hq⟩ := ih rfl hd
        refine ⟨c :: ds, d, q, rfl, ?_, hnd, hq⟩
        exact List.forall_mem_cons.mpr ⟨hc, hds⟩
      · rw [chunkScan, scan_cons_go (chunkByte_digitsEnd rfl hc)]
        exact ⟨[], c, p, rfl, by simp, hc, rfl⟩

/-- The bytes up to the line feed. -/
lemma read_line {sk : Socket} (hskip : ∀ c, c ≠ 0x0a → chunkByte sk c = (.ok, sk)) :
    ∀ {p : List UInt8}, (chunkScan sk p).1 = .done →
    ∃ l q, p = l ++ 0x0a :: q ∧ (∀ c ∈ l, c ≠ 0x0a) ∧
      chunkScan sk (0x0a :: q) = chunkScan sk p := by
  intro p
  induction p with
  | nil =>
      intro hd
      cases hd
  | cons c p ih =>
      intro hd
      by_cases hc : c = 0x0a
      · subst hc
        exact ⟨[], p, rfl, by simp, rfl⟩
      · rw [chunkScan, scan_cons_go (hskip c hc)] at hd ⊢
        obtain ⟨l, q, rfl, hl, hq⟩ := ih hd
        exact ⟨c :: l, q, rfl, List.forall_mem_cons.mpr ⟨hc, hl⟩, hq⟩

/-- A size line. -/
lemma read_sizeLine {p : List UInt8} {sk : Socket} (h : sk.httpParseState = .chunkSize)
    (h0 : sk.httpLength = 0) (hd : (chunkScan sk p).1 = .done) :
    ∃ (l : SizeLine) (q : List UInt8), p = l.bytes ++ q ∧
      chunkScan { sk with
        httpLength := l.len
        httpParseState := if 0 < l.len then .chunkData else .chunkTrailerBegin } q =
        chunkScan sk p := by
  obtain ⟨ds, c, q, rfl, hds, hc, hq⟩ := read_digits h hd
  rw [← hq] at hd
  obtain ⟨e, q, rfl, he, -⟩ := read_line (fun c hc => chunkByte_ext rfl hc) hd
  refine ⟨⟨ds, c, e, hds, hc, he⟩, q, by simp [SizeLine.bytes], ?_⟩
  rw [← scan_sizeLine ⟨ds, c, e, hds, hc, he⟩ h h0]
  simp [SizeLine.bytes]

/-- The data of a chunk and its end. -/
lemma read_data : ∀ {p : List UInt8} {sk : Socket}, sk.httpParseState = .chunkData →
    0 ≤ sk.httpLength.toInt → (chunkScan sk p).1 = .done →
    ∃ d q, p = d ++ 0x0d :: 0x0a :: q ∧ (d.length : ℤ) = sk.httpLength.toInt ∧
      chunkScan { sk with httpLength := 0, httpParseState := .chunkSize } q = chunkScan sk p := by
  intro p
  induction p with
  | nil =>
      intro sk h hl hd
      cases hd
  | cons c p ih =>
      intro sk h hl hd
      by_cases hpos : 0 < sk.httpLength.toInt
      · have hlt : 0 < sk.httpLength := by
          rw [Int64.lt_iff_toInt_lt]
          exact hpos
        rw [chunkScan, scan_cons_go (chunkByte_data h hlt)] at hd ⊢
        have hpred := int64_toInt_pred hpos
        obtain ⟨d, q, rfl, hlen, hq⟩ :=
          @ih { sk with httpLength := sk.httpLength - 1 } h (by rw [hpred]; omega) hd
        rw [hpred] at hlen
        exact ⟨c :: d, q, rfl, by rw [List.length_cons]; omega, hq⟩
      · have hlt : ¬ 0 < sk.httpLength := by
          rw [Int64.lt_iff_toInt_lt]
          exact hpos
        have h0 : ((([] : List UInt8).length : ℕ) : ℤ) = sk.httpLength.toInt := by
          rw [List.length_nil]
          omega
        by_cases hc : c = 0x0d
        · subst hc
          rw [chunkScan, scan_cons_go (chunkByte_dataCr h hlt)] at hd ⊢
          cases p with
          | nil => cases hd
          | cons c q =>
              by_cases hc : c = 0x0a
              · subst hc
                refine ⟨[], q, rfl, h0, ?_⟩
                rw [scan_cons_go (chunkByte_dataLf rfl)]
              · rw [scan_cons_stop (by rw [chunkByte_dataLfBad rfl hc]; simp),
                  chunkByte_dataLfBad rfl hc] at hd
                cases hd
        · rw [chunkScan, scan_cons_stop (by rw [chunkByte_dataBad h hlt hc]; simp),
            chunkByte_dataBad h hlt hc] at hd
          cases hd

/-- The trailer lines and the end of the body. -/
lemma read_trailers (n : ℕ) : ∀ {p : List UInt8} {sk : Socket}, p.length ≤ n →
    sk.httpParseState = .chunkTrailerBegin → (chunkScan sk p).1 = .done →
    ∃ (ts : List ReadTrailer) (q : List UInt8),
      p = ts.flatMap ReadTrailer.bytes ++ 0x0d :: 0x0a :: q := by
  induction n with
  | zero =>
      intro p sk hn h hd
      cases p with
      | nil => cases hd
      | cons c p => simp at hn
  | succ n ih =>
      intro p sk hn h hd
      cases p with
      | nil => cases hd
      | cons c p =>
          rw [List.length_cons] at hn
          by_cases hc : c = 0x0d
          · -- the final line
            subst hc
            rw [chunkScan, scan_cons_go (chunkByte_endCr h)] at hd
            cases p with
            | nil => cases hd
            | cons c q =>
                by_cases hc : c = 0x0a
                · subst hc
                  exact ⟨[], q, rfl⟩
                · rw [scan_cons_stop (by rw [chunkByte_endBad rfl hc]; simp),
                    chunkByte_endBad rfl hc] at hd
                  cases hd
          · rw [chunkScan, scan_cons_go (chunkByte_trailerFirst h hc)] at hd
            change (chunkScan _ p).1 = .done at hd
            obtain ⟨l, q, rfl, hl, hq⟩ :=
              read_line (fun d hd' => chunkByte_trailerRest rfl hd') hd
            rw [← hq, chunkScan, scan_cons_go (chunkByte_trailerLf rfl)] at hd
            rw [List.length_append, List.length_cons] at hn
            obtain ⟨ts, q, rfl⟩ := ih (by omega) rfl hd
            refine ⟨⟨c, l, hc, hl⟩ :: ts, q, ?_⟩
            simp [ReadTrailer.bytes]

/-- What follows a size, up to the end of the body. -/
lemma read_body (n : ℕ) : ∀ {p : List UInt8} {sk : Socket}, p.length ≤ n →
    sk.httpParseState = .chunkSize → sk.httpLength = 0 → (chunkScan sk p).1 = .done →
    ∃ (b : ReadBody) (q : List UInt8), p = b.bytes ++ q := by
  induction n with
  | zero =>
      intro p sk hn h h0 hd
      cases p with
      | nil => cases hd
      | cons c p => simp at hn
  | succ n ih =>
      intro p sk hn h h0 hd
      obtain ⟨l, q, rfl, hq⟩ := read_sizeLine h h0 hd
      rw [← hq] at hd
      by_cases hl : 0 < l.len
      · rw [if_pos hl] at hd
        have hpos : 0 < l.len.toInt := by
          rw [Int64.lt_iff_toInt_lt] at hl
          exact hl
        obtain ⟨d, q, rfl, hlen, hq⟩ := read_data (by rfl) (by exact le_of_lt hpos) hd
        rw [← hq] at hd
        simp only [List.length_append, List.length_cons] at hn
        obtain ⟨b, q, rfl⟩ := ih (by omega) rfl rfl hd
        refine ⟨⟨⟨l, d, hl, hlen⟩ :: b.chunks, b.last, b.trailers, b.nonpos⟩, q, ?_⟩
        simp [ReadBody.bytes, ReadBody.front, ReadChunk.bytes]
      · rw [if_neg hl] at hd
        obtain ⟨ts, q, rfl⟩ := read_trailers q.length le_rfl rfl hd
        refine ⟨⟨[], l, ts, hl⟩, q, ?_⟩
        simp [ReadBody.bytes, ReadBody.front, readTail]

end Read

/-- What the parser has taken when it is content is a body that it reads. -/
lemma exists_read {sk : Socket} {s : List UInt8}
    (h : (httpParseChunk (chunkStart sk) s).1 = .done) :
    ∃ (b : ReadBody) (rest : List UInt8), s = b.bytes ++ rest := by
  rw [httpParseChunk_start_scan] at h
  exact read_body s.length le_rfl rfl rfl h

/-- The parser ends with the last byte of the bodies that it reads, and of no other bytes. -/
theorem endsAt_iff_read {sk : Socket} {s : List UInt8} :
    EndsAt sk s ↔ ∃ b : ReadBody, b.bytes = s := by
  constructor
  · rintro ⟨hd, hok⟩
    obtain ⟨b, rest, rfl⟩ := exists_read hd
    refine ⟨b, ?_⟩
    by_contra hne
    have hb := hok b.bytes (List.prefix_append _ _) hne
    rw [(endsAt_read sk b).1] at hb
    cases hb
  · rintro ⟨b, rfl⟩
    exact endsAt_read sk b

/-! ### The reading is determined -/

lemma SizeLine.unique {l l' : SizeLine} {r r' : List UInt8}
    (h : l.bytes ++ r = l'.bytes ++ r') : l = l' ∧ r = r' := by
  obtain ⟨ds, c, e, hds, hc, he⟩ := l
  obtain ⟨ds', c', e', hds', hc', he'⟩ := l'
  simp only [SizeLine.bytes, List.append_assoc, List.cons_append, List.nil_append] at h
  obtain ⟨rfl, rfl, hr⟩ := split_unique hds hds' hc hc' h
  obtain ⟨rfl, -, rfl⟩ := split_unique he he' (by simp) (by simp) hr
  exact ⟨rfl, rfl⟩

lemma ReadChunk.unique {k k' : ReadChunk} {r r' : List UInt8}
    (h : k.bytes ++ r = k'.bytes ++ r') : k = k' ∧ r = r' := by
  obtain ⟨l, d, hl, hd⟩ := k
  obtain ⟨l', d', hl', hd'⟩ := k'
  simp only [ReadChunk.bytes, List.append_assoc] at h
  obtain ⟨rfl, hr⟩ := SizeLine.unique h
  have hlen : d.length = d'.length := by
    have := hd.trans hd'.symm
    omega
  obtain ⟨rfl, ht⟩ := List.append_inj hr hlen
  exact ⟨rfl, List.append_cancel_left ht⟩

lemma ReadTrailer.unique {t t' : ReadTrailer} {r r' : List UInt8}
    (h : t.bytes ++ r = t'.bytes ++ r') : t = t' ∧ r = r' := by
  obtain ⟨c, l, hc, hl⟩ := t
  obtain ⟨c', l', hc', hl'⟩ := t'
  simp only [ReadTrailer.bytes, List.append_assoc, List.cons_append, List.nil_append] at h
  obtain ⟨rfl, hr⟩ := List.cons.inj h
  obtain ⟨rfl, -, rfl⟩ := split_unique hl hl' (by simp) (by simp) hr
  exact ⟨rfl, rfl⟩

lemma trailers_unique : ∀ {ts ts' : List ReadTrailer} {r r' : List UInt8},
    ts.flatMap ReadTrailer.bytes ++ 0x0d :: r = ts'.flatMap ReadTrailer.bytes ++ 0x0d :: r' →
      ts = ts' ∧ r = r' := by
  intro ts
  induction ts with
  | nil =>
      intro ts' r r' h
      cases ts' with
      | nil => exact ⟨rfl, (List.cons.inj h).2⟩
      | cons t ts' => exact absurd (List.cons.inj h).1.symm t.noCr
  | cons t ts ih =>
      intro ts' r r' h
      cases ts' with
      | nil => exact absurd (List.cons.inj h).1 t.noCr
      | cons t' ts' =>
          simp only [List.flatMap_cons, List.append_assoc] at h
          obtain ⟨rfl, hr⟩ := ReadTrailer.unique h
          obtain ⟨rfl, rfl⟩ := ih hr
          exact ⟨rfl, rfl⟩

/-- Two bodies that some bytes start with are one. -/
theorem ReadBody.unique {b b' : ReadBody} {r r' : List UInt8}
    (h : b.bytes ++ r = b'.bytes ++ r') : b = b' := by
  obtain ⟨ks, l, ts, hl⟩ := b
  obtain ⟨ks', l', ts', hl'⟩ := b'
  simp only [ReadBody.bytes, ReadBody.front, readTail, List.append_assoc] at h
  induction ks generalizing ks' with
  | nil =>
      cases ks' with
      | nil =>
          simp only [List.flatMap_nil, List.nil_append] at h
          obtain ⟨rfl, hr⟩ := SizeLine.unique h
          obtain ⟨rfl, -⟩ := trailers_unique hr
          rfl
      | cons k ks' =>
          simp only [List.flatMap_nil, List.nil_append, List.flatMap_cons, ReadChunk.bytes,
            List.append_assoc] at h
          obtain ⟨rfl, -⟩ := SizeLine.unique h
          exact absurd k.pos hl
  | cons k ks ih =>
      cases ks' with
      | nil =>
          simp only [List.flatMap_nil, List.nil_append, List.flatMap_cons, ReadChunk.bytes,
            List.append_assoc] at h
          obtain ⟨rfl, -⟩ := SizeLine.unique h
          exact absurd k.pos hl'
      | cons k' ks' =>
          simp only [List.flatMap_cons, List.append_assoc] at h
          obtain ⟨rfl, hr⟩ := ReadChunk.unique h
          cases ih ks' hr
          rfl

end Dperf
