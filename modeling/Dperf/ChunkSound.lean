import Dperf.ChunkFormat

/-!
The bodies that `http_parse_chunk` reads, compared with the format.

* `hexValue`: the number that a list of hexadecimal digits of either case denotes.
* `SoundBody`: the format, every size being the number that all the hexadecimal digits at
  the start of its line denote.
* `chunkedSound_iff`: the parser ends soundly exactly where every size line it reads is
  proper: it has a digit, the digits end neither at an upper-case one nor at the line
  feed, and they denote a number below `2^63`.
-/

namespace Dperf

open Streams

/-! ### Numbers -/

/-- A hexadecimal digit of either case. -/
def isHexDigit (c : UInt8) : Bool := isSizeDigit c || (decide (0x41 ≤ c) && decide (c ≤ 0x46))

/-- The value of a hexadecimal digit. -/
def hexVal (c : UInt8) : ℕ :=
  if c ≤ 0x39 then c.toNat - 0x30 else if c ≤ 0x46 then c.toNat - 0x37 else c.toNat - 0x57

/-- A digit appended to a number. -/
def hexStep (n : ℕ) (c : UInt8) : ℕ := n * 16 + hexVal c

/-- The number that a list of digits denotes. -/
def hexValue (ds : List UInt8) : ℕ := ds.foldl hexStep 0

lemma isHexDigit_of_size {c : UInt8} (h : isSizeDigit c = true) : isHexDigit c = true := by
  rw [isHexDigit, h, Bool.true_or]

lemma int64_shiftLeft_four (x : Int64) : x <<< 4 = x * 16 := by
  rw [← Int64.toBitVec_inj, Int64.toBitVec_shiftLeft, Int64.toBitVec_mul, ← BitVec.toNat_inj,
    BitVec.toNat_mul]
  simp [Nat.shiftLeft_eq]

/-- The parser adds a digit up modulo `2^64`. -/
lemma sizeStep_ofNat (n : ℕ) {c : UInt8} (h : isSizeDigit c = true) :
    sizeStep (Int64.ofNat n) c = Int64.ofNat (hexStep n c) := by
  rw [isSizeDigit] at h
  simp only [Bool.or_eq_true, Bool.and_eq_true, decide_eq_true_eq, UInt8.le_iff_toNat_le] at h
  rw [sizeStep, int64_shiftLeft_four, hexStep, hexVal, Int64.ofNat_add, Int64.ofNat_mul]
  simp only [UInt8.le_iff_toNat_le]
  have h16 : Int64.ofNat 16 = 16 := rfl
  rw [h16]
  obtain ⟨h0, h9⟩ | ⟨ha, hf⟩ := h
  · obtain ⟨k, hk⟩ := Nat.exists_eq_add_of_le h0
    have h48 : Int64.ofNat (UInt8.toNat 0x30) = 0x30 := rfl
    rw [if_pos ⟨h0, h9⟩, if_pos h9, hk, Int64.ofNat_add, h48]
    have hsub : UInt8.toNat 0x30 + k - 0x30 = k := by
      change 48 + k - 48 = k
      omega
    rw [hsub]
    grind
  · obtain ⟨k, hk⟩ := Nat.exists_eq_add_of_le ha
    change 97 ≤ c.toNat at ha
    have h97 : Int64.ofNat (UInt8.toNat 0x61) = 0x61 := rfl
    have hn9 : ¬ c.toNat ≤ UInt8.toNat 0x39 := by
      change ¬ c.toNat ≤ 57
      omega
    have hn46 : ¬ c.toNat ≤ UInt8.toNat 0x46 := by
      change ¬ c.toNat ≤ 70
      omega
    rw [if_neg (fun h => hn9 h.2), if_neg hn9, if_neg hn46, hk, Int64.ofNat_add, h97]
    have hsub : UInt8.toNat 0x61 + k - 0x57 = k + 10 := by
      change 97 + k - 87 = k + 10
      omega
    have h10 : Int64.ofNat 10 = 10 := rfl
    rw [hsub, Int64.ofNat_add, h10]
    grind

lemma foldl_sizeStep (n : ℕ) : ∀ {ds : List UInt8}, (∀ c ∈ ds, isSizeDigit c = true) →
    ds.foldl sizeStep (Int64.ofNat n) = Int64.ofNat (ds.foldl hexStep n) := by
  intro ds
  induction ds generalizing n with
  | nil => exact fun _ => rfl
  | cons c ds ih =>
      intro h
      rw [List.foldl_cons, List.foldl_cons, sizeStep_ofNat n (h c List.mem_cons_self)]
      exact ih _ fun d hd => h d (List.mem_cons_of_mem _ hd)

lemma foldl_hexStep_le (n : ℕ) (ds : List UInt8) : n ≤ ds.foldl hexStep n := by
  induction ds generalizing n with
  | nil => exact le_rfl
  | cons c ds ih =>
      have h : n ≤ hexStep n c := by
        rw [hexStep]
        omega
      exact h.trans (ih _)

/-- The length that the parser adds up is the size modulo `2^64`. -/
lemma SizeLine.len_eq (l : SizeLine) : l.len = Int64.ofNat (hexValue l.digits) :=
  foldl_sizeStep 0 l.isDigit

lemma SizeLine.toInt_len (l : SizeLine) (h : hexValue l.digits < 2 ^ 63) :
    l.len.toInt = hexValue l.digits := by
  rw [l.len_eq]
  exact Int64.toInt_ofNat_of_lt h

/-- The length is at most the size. -/
lemma SizeLine.len_le (l : SizeLine) : l.len.toInt ≤ hexValue l.digits := by
  have hmod : ((hexValue l.digits : ℤ) % (2 ^ 64 : ℕ)) ≤ hexValue l.digits := by omega
  rw [l.len_eq, Int64.toInt_ofNat', show Int64.size = 2 ^ 64 from rfl, Int.bmod]
  split <;> omega

/-! ### The format -/

/-- A line starts with a number in hexadecimal digits; its end is the first line feed. -/
def Denotes (line : List UInt8) (n : ℕ) : Prop :=
  ∃ ds rest, line = ds ++ (rest ++ [0x0a]) ∧ ds ≠ [] ∧ (∀ c ∈ ds, isHexDigit c = true) ∧
    (∀ c ∈ rest.head?, ¬ isHexDigit c = true) ∧ (∀ c ∈ rest, c ≠ 0x0a) ∧ hexValue ds = n

/-- A line that is not empty. -/
def IsLine (t : List UInt8) : Prop :=
  ∃ l, t = l ++ [0x0a] ∧ l ≠ [] ∧ l ≠ [0x0d] ∧ ∀ c ∈ l, c ≠ 0x0a

/-- Chunks, each with its size line and as many bytes as that says, a size line of zeros,
trailer lines, an empty line. -/
structure SoundBody (s : List UInt8) (chunks : List (List UInt8 × List UInt8))
    (last : List UInt8) (trailers : List (List UInt8)) : Prop where
  bytes : s = chunks.flatMap (fun k => k.1 ++ (k.2 ++ [0x0d, 0x0a])) ++
    (last ++ (trailers.flatten ++ [0x0d, 0x0a]))
  chunk : ∀ k ∈ chunks, 0 < k.2.length ∧ Denotes k.1 k.2.length
  zero : Denotes last 0
  trailer : ∀ t ∈ trailers, IsLine t

/-- The format holds of what the parser has read. -/
def ReadBody.Sound (b : ReadBody) : Prop :=
  SoundBody b.bytes (b.chunks.map fun k => (k.line.bytes, k.data)) b.last.bytes
    (b.trailers.map ReadTrailer.bytes)

/-! ### Proper size lines -/

/-- The parser and the format agree on the size. -/
structure SizeLine.Proper (l : SizeLine) : Prop where
  some : l.digits ≠ []
  stop : ¬ isHexDigit l.stop = true
  lf : l.stop ≠ 0x0a
  lt : hexValue l.digits < 2 ^ 63

/-- Every size line is proper, and no trailer line starts with a line feed. -/
structure ReadBody.Proper (b : ReadBody) : Prop where
  chunk : ∀ k ∈ b.chunks, k.line.Proper
  last : b.last.Proper
  trailer : ∀ t ∈ b.trailers, t.first ≠ 0x0a

lemma SizeLine.Proper.denotes {l : SizeLine} (h : l.Proper) :
    Denotes l.bytes (hexValue l.digits) := by
  refine ⟨l.digits, l.stop :: l.ext, rfl, h.some, fun c hc => isHexDigit_of_size (l.isDigit c hc),
    ?_, ?_, rfl⟩
  · intro c hc
    cases hc
    exact h.stop
  · exact List.forall_mem_cons.mpr ⟨h.lf, l.noLf⟩

/-- The digits that the format adds to those of the parser make the number greater. -/
lemma hexValue_lt_append (ds more : List UInt8) {c : UInt8} (hc : isHexDigit c = true)
    (hs : ¬ isSizeDigit c = true) : hexValue ds < hexValue (ds ++ c :: more) := by
  have hval : 0 < hexVal c := by
    rw [isHexDigit, Bool.or_eq_true] at hc
    have hup := hc.resolve_left hs
    simp only [Bool.and_eq_true, decide_eq_true_eq, UInt8.le_iff_toNat_le] at hup
    obtain ⟨hA, hF⟩ := hup
    change 65 ≤ c.toNat at hA
    have h9 : ¬ c ≤ 0x39 := by
      rw [UInt8.le_iff_toNat_le]
      change ¬ c.toNat ≤ 57
      omega
    rw [hexVal, if_neg h9, if_pos (UInt8.le_iff_toNat_le.mpr hF)]
    omega
  rw [hexValue, hexValue, List.foldl_append, List.foldl_cons]
  have hle := foldl_hexStep_le (hexStep (ds.foldl hexStep 0) c) more
  rw [hexStep] at hle ⊢
  omega

/-- What the format says about a size line of the parser. -/
lemma SizeLine.denotes_cases {l : SizeLine} {n : ℕ} (h : Denotes l.bytes n) : l.stop ≠ 0x0a ∧
    (isHexDigit l.stop = true ∧ hexValue l.digits < n ∨
      ¬ isHexDigit l.stop = true ∧ l.digits ≠ [] ∧ hexValue l.digits = n) := by
  obtain ⟨ds, rest, hb, hne, hds, hhead, hlf, rfl⟩ := h
  have hdigits : ∀ c ∈ l.digits, isHexDigit c = true := fun c hc =>
    isHexDigit_of_size (l.isDigit c hc)
  -- the byte after the digits of the format
  obtain ⟨x, r, hx, hxn, hxr⟩ : ∃ x r, rest ++ [0x0a] = x :: r ∧ ¬ isHexDigit x = true ∧
      (x = 0x0a → r = []) := by
    cases rest with
    | nil => exact ⟨0x0a, [], rfl, by decide, fun _ => rfl⟩
    | cons x rest =>
        refine ⟨x, rest ++ [0x0a], rfl, hhead x rfl, fun h => ?_⟩
        exact absurd h (hlf x List.mem_cons_self)
  rw [hx, SizeLine.bytes] at hb
  by_cases hs : isHexDigit l.stop = true
  · refine ⟨fun h => by rw [h] at hs; exact absurd hs (by decide), .inl ⟨hs, ?_⟩⟩
    obtain ⟨m, y, r', hm, hmh, hy⟩ :=
      exists_split (P := fun c => isHexDigit c = true) (l := l.ext ++ [0x0a])
        fun h => absurd (h 0x0a (by simp)) (by decide)
    rw [hm] at hb
    have hb' : (l.digits ++ l.stop :: m) ++ y :: r' = ds ++ x :: r := by
      rw [← hb]
      simp
    obtain ⟨rfl, -, -⟩ := split_unique (P := fun c => isHexDigit c = true)
      (List.forall_mem_append.mpr ⟨hdigits, List.forall_mem_cons.mpr ⟨hs, hmh⟩⟩) hds hy hxn hb'
    exact hexValue_lt_append _ _ hs l.notDigit
  · obtain ⟨rfl, hstop, hr⟩ := split_unique (P := fun c => isHexDigit c = true) hdigits hds hs hxn hb
    refine ⟨fun h => ?_, .inr ⟨hs, hne, rfl⟩⟩
    rw [hxr (hstop ▸ h)] at hr
    simp at hr

lemma ReadChunk.sound_iff (k : ReadChunk) :
    0 < k.data.length ∧ Denotes k.line.bytes k.data.length ↔ k.line.Proper := by
  have hle := k.line.len_le
  have hlen := k.length
  constructor
  · rintro ⟨hpos, hden⟩
    obtain ⟨hlf, ⟨-, hlt⟩ | ⟨hs, hne, hv⟩⟩ := SizeLine.denotes_cases hden
    · omega
    · have hmax : k.line.len.toInt < 2 ^ 63 := Int64.toInt_lt _
      exact ⟨hne, hs, hlf, by omega⟩
  · intro h
    have hv := k.line.toInt_len h.lt
    have hpos : 0 < k.line.len.toInt := by
      have := k.pos
      rw [Int64.lt_iff_toInt_lt] at this
      exact this
    have hden := h.denotes
    have heq : hexValue k.line.digits = k.data.length := by omega
    rw [heq] at hden
    exact ⟨by omega, hden⟩

/-- The line that the parser takes for the last. -/
lemma SizeLine.zero_iff {l : SizeLine} (hl : ¬ 0 < l.len) : Denotes l.bytes 0 ↔ l.Proper := by
  constructor
  · intro hden
    obtain ⟨hlf, ⟨-, hlt⟩ | ⟨hs, hne, hv⟩⟩ := SizeLine.denotes_cases hden
    · omega
    · exact ⟨hne, hs, hlf, by omega⟩
  · intro h
    have hv := l.toInt_len h.lt
    have hnonpos : ¬ 0 < l.len.toInt := by
      rw [Int64.lt_iff_toInt_lt] at hl
      exact hl
    have heq : hexValue l.digits = 0 := by omega
    rw [← heq]
    exact h.denotes

lemma ReadTrailer.isLine_iff (t : ReadTrailer) : IsLine t.bytes ↔ t.first ≠ 0x0a := by
  constructor
  · rintro ⟨l, h, -, -, hl⟩
    rw [ReadTrailer.bytes, ← List.cons_append] at h
    obtain ⟨rfl, -⟩ := List.append_inj' h rfl
    exact hl _ List.mem_cons_self
  · intro h
    refine ⟨t.first :: t.rest, rfl, by simp, ?_, List.forall_mem_cons.mpr ⟨h, t.noLf⟩⟩
    intro hcr
    exact t.noCr (List.cons.inj hcr).1

lemma ReadBody.sound_iff (b : ReadBody) : b.Sound ↔ b.Proper := by
  constructor
  · intro h
    refine ⟨fun k hk => ?_, (SizeLine.zero_iff b.nonpos).mp h.zero, fun t ht => ?_⟩
    · exact k.sound_iff.mp (h.chunk (k.line.bytes, k.data) (List.mem_map.mpr ⟨k, hk, rfl⟩))
    · exact t.isLine_iff.mp (h.trailer _ (List.mem_map.mpr ⟨t, ht, rfl⟩))
  · intro h
    refine ⟨?_, ?_, (SizeLine.zero_iff b.nonpos).mpr h.last, ?_⟩
    · simp [ReadBody.bytes, ReadBody.front, readTail, List.flatMap_def]
      rfl
    · intro c hc
      obtain ⟨k, hk, rfl⟩ := List.mem_map.mp hc
      exact k.sound_iff.mpr (h.chunk k hk)
    · intro l hl
      obtain ⟨t, ht, rfl⟩ := List.mem_map.mp hl
      exact t.isLine_iff.mpr (h.trailer t ht)

/-! ### The end of the body -/

/-- Fed in segments, the parser is content exactly if the bytes start with a body that it
reads. -/
lemma feed_done_iff (sk : Socket) (segments : List (List UInt8)) :
    (feed .ok httpParseChunk (chunkStart sk) segments).1 = .done ↔
      ∃ (b : ReadBody) (rest : List UInt8), segments.flatten = b.bytes ++ rest := by
  constructor
  · intro h
    cases segments with
    | nil => cases h
    | cons s segments =>
        rw [httpParseChunk_segments] at h
        exact exists_read h
  · rintro ⟨b, rest, h⟩
    cases segments with
    | nil => simp [ReadBody.bytes] at h
    | cons s segments =>
        have hb : (chunkScan (chunkBegin sk) b.bytes).1 = .done := by
          rw [← httpParseChunk_start_scan]
          exact (endsAt_read sk b).1
        rw [httpParseChunk_segments, ← List.flatten_cons, h, httpParseChunk_start_scan,
          chunkScan, scan_append_stop (by rw [hb]; simp), hb]

/-- The parser ends soundly, in whatever segments the bytes come, exactly if every size line
that it reads is proper. -/
theorem chunkedSound_iff (sk : Socket) (segments : List (List UInt8)) :
    ((feed .ok httpParseChunk (chunkStart sk) segments).1 = .done →
      ∃ (b : ReadBody) (rest : List UInt8), segments.flatten = b.bytes ++ rest ∧
        EndsAt sk b.bytes ∧ b.Sound) ↔
    ∀ (b : ReadBody) (rest : List UInt8), segments.flatten = b.bytes ++ rest → b.Proper := by
  constructor
  · intro h b rest hb
    obtain ⟨b', rest', hb', -, hsound⟩ := h ((feed_done_iff sk segments).mpr ⟨b, rest, hb⟩)
    rw [ReadBody.unique (hb.symm.trans hb')]
    exact b'.sound_iff.mp hsound
  · intro h hd
    obtain ⟨b, rest, hb⟩ := (feed_done_iff sk segments).mp hd
    exact ⟨b, rest, hb, endsAt_read sk b, b.sound_iff.mpr (h b rest hb)⟩

/-- A sound body starts with a hexadecimal digit. -/
lemma SoundBody.head {s : List UInt8} {chunks : List (List UInt8 × List UInt8)}
    {last : List UInt8} {trailers : List (List UInt8)} (h : SoundBody s chunks last trailers) :
    ∃ c t, s = c :: t ∧ isHexDigit c = true := by
  have hline : ∀ {l : List UInt8} {n : ℕ} {r : List UInt8}, Denotes l n →
      ∃ c t, l ++ r = c :: t ∧ isHexDigit c = true := by
    rintro l n r ⟨ds, rest, rfl, hne, hds, -⟩
    cases ds with
    | nil => exact absurd rfl hne
    | cons c ds => exact ⟨c, ds ++ (rest ++ [0x0a]) ++ r, rfl, hds c List.mem_cons_self⟩
  cases chunks with
  | nil =>
      rw [h.bytes, List.flatMap_nil, List.nil_append]
      exact hline h.zero
  | cons k chunks =>
      rw [h.bytes, List.flatMap_cons, List.append_assoc, List.append_assoc]
      exact hline (h.chunk k List.mem_cons_self).2

/-- Two empty lines are taken for the end of a body, without any size. -/
theorem chunkedSound_fails :
    (feed .ok httpParseChunk (chunkStart default) [[0x0d, 0x0a, 0x0d, 0x0a]]).1 = .done ∧
      ¬ ∃ s rest chunks last trailers, [[0x0d, 0x0a, 0x0d, 0x0a]].flatten = s ++ rest ∧
        SoundBody s chunks last trailers := by
  refine ⟨by decide, ?_⟩
  rintro ⟨s, rest, chunks, last, trailers, hs, h⟩
  obtain ⟨c, t, rfl, hc⟩ := h.head
  have hhead : 0x0d = c := (List.cons.inj hs).1
  subst hhead
  exact absurd hc (by decide)

end Dperf
