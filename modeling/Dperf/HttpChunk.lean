import Dperf.HttpParse
import Dperf.Lib.Streams

/-!
The chunked body of a response, as `http_parse_chunk` takes it.

* `chunkByte`: the parser as a machine that takes one byte; `httpParseChunk_scan` says that
  the parser is its scanner, so that no cut of the body into segments matters
  (`httpParseChunk_segments`).
-/

namespace Dperf

open Streams

/-! ### One byte -/

/-- The digits that the parser adds up: `0`–`9` and `a`–`f`. -/
def isSizeDigit (c : UInt8) : Bool :=
  (decide (0x30 ≤ c) && decide (c ≤ 0x39)) || (decide (0x61 ≤ c) && decide (c ≤ 0x66))

/-- A digit appended to the length. -/
def sizeStep (len : Int64) (c : UInt8) : Int64 :=
  if 0x30 ≤ c ∧ c ≤ 0x39 then (len <<< 4) + Int64.ofNat c.toNat - 0x30
  else (len <<< 4) + Int64.ofNat c.toNat - 0x61 + 10

/-- What the parser does with one byte. -/
def chunkByte (sk : Socket) (c : UInt8) : HttpRet × Socket :=
  match sk.httpParseState with
  | .headerDone | .chunkSize =>
      if isSizeDigit c then
        (.ok, { sk with httpLength := sizeStep sk.httpLength c, httpParseState := .chunkSize })
      else (.ok, { sk with httpParseState := .chunkSizeEnd })
  | .chunkSizeEnd =>
      if c = 0x0a then
        (.ok, { sk with httpParseState := if 0 < sk.httpLength then .chunkData
                                          else .chunkTrailerBegin })
      else (.ok, sk)
  | .chunkData =>
      if 0 < sk.httpLength then (.ok, { sk with httpLength := sk.httpLength - 1 })
      else if c = 0x0d then (.ok, { sk with httpLength := 0, httpParseState := .chunkDataEnd })
      else (.err, { sk with httpLength := 0 })
  | .chunkDataEnd => if c = 0x0a then (.ok, { sk with httpParseState := .chunkSize }) else (.err, sk)
  | .chunkTrailerBegin =>
      (.ok, { sk with httpParseState := if c = 0x0d then .chunkEnd else .chunkTrailer })
  | .chunkTrailer =>
      if c = 0x0a then (.ok, { sk with httpParseState := .chunkTrailerBegin }) else (.ok, sk)
  | .chunkEnd => if c = 0x0a then (.done, { sk with httpParseState := .bodyDone }) else (.err, sk)
  | _ => (.err, sk)

section Byte

variable {sk : Socket} {c : UInt8}

lemma chunkByte_digit (h : sk.httpParseState = .chunkSize) (hc : isSizeDigit c = true) :
    chunkByte sk c = (.ok, { sk with httpLength := sizeStep sk.httpLength c
                                     httpParseState := .chunkSize }) := by
  simp [chunkByte, h, hc]

lemma chunkByte_digitsEnd (h : sk.httpParseState = .chunkSize) (hc : ¬ isSizeDigit c = true) :
    chunkByte sk c = (.ok, { sk with httpParseState := .chunkSizeEnd }) := by
  simp [chunkByte, h, hc]

lemma chunkByte_ext (h : sk.httpParseState = .chunkSizeEnd) (hc : c ≠ 0x0a) :
    chunkByte sk c = (.ok, sk) := by
  simp [chunkByte, h, hc]

lemma chunkByte_chunkLine (h : sk.httpParseState = .chunkSizeEnd) (hl : 0 < sk.httpLength) :
    chunkByte sk 0x0a = (.ok, { sk with httpParseState := .chunkData }) := by
  simp [chunkByte, h, hl]

lemma chunkByte_lastLine (h : sk.httpParseState = .chunkSizeEnd) (hl : ¬ 0 < sk.httpLength) :
    chunkByte sk 0x0a = (.ok, { sk with httpParseState := .chunkTrailerBegin }) := by
  simp [chunkByte, h, hl]

lemma chunkByte_data (h : sk.httpParseState = .chunkData) (hl : 0 < sk.httpLength) :
    chunkByte sk c = (.ok, { sk with httpLength := sk.httpLength - 1 }) := by
  simp [chunkByte, h, hl]

lemma chunkByte_dataCr (h : sk.httpParseState = .chunkData) (hl : ¬ 0 < sk.httpLength) :
    chunkByte sk 0x0d = (.ok, { sk with httpLength := 0, httpParseState := .chunkDataEnd }) := by
  simp [chunkByte, h, hl]

lemma chunkByte_dataEnd (h : sk.httpParseState = .chunkData) (h0 : sk.httpLength = 0) :
    chunkByte sk 0x0d = (.ok, { sk with httpLength := 0, httpParseState := .chunkDataEnd }) :=
  chunkByte_dataCr h (h0 ▸ Int64.lt_irrefl)

lemma chunkByte_dataBad (h : sk.httpParseState = .chunkData) (hl : ¬ 0 < sk.httpLength)
    (hc : c ≠ 0x0d) : chunkByte sk c = (.err, { sk with httpLength := 0 }) := by
  simp [chunkByte, h, hl, hc]

lemma chunkByte_dataLf (h : sk.httpParseState = .chunkDataEnd) :
    chunkByte sk 0x0a = (.ok, { sk with httpParseState := .chunkSize }) := by
  simp [chunkByte, h]

lemma chunkByte_dataLfBad (h : sk.httpParseState = .chunkDataEnd) (hc : c ≠ 0x0a) :
    chunkByte sk c = (.err, sk) := by
  simp [chunkByte, h, hc]

lemma chunkByte_endCr (h : sk.httpParseState = .chunkTrailerBegin) :
    chunkByte sk 0x0d = (.ok, { sk with httpParseState := .chunkEnd }) := by
  simp [chunkByte, h]

lemma chunkByte_trailerFirst (h : sk.httpParseState = .chunkTrailerBegin) (hc : c ≠ 0x0d) :
    chunkByte sk c = (.ok, { sk with httpParseState := .chunkTrailer }) := by
  simp [chunkByte, h, hc]

lemma chunkByte_trailerLf (h : sk.httpParseState = .chunkTrailer) :
    chunkByte sk 0x0a = (.ok, { sk with httpParseState := .chunkTrailerBegin }) := by
  simp [chunkByte, h]

lemma chunkByte_trailerRest (h : sk.httpParseState = .chunkTrailer) (hc : c ≠ 0x0a) :
    chunkByte sk c = (.ok, sk) := by
  simp [chunkByte, h, hc]

lemma chunkByte_endLf (h : sk.httpParseState = .chunkEnd) :
    chunkByte sk 0x0a = (.done, { sk with httpParseState := .bodyDone }) := by
  simp [chunkByte, h]

lemma chunkByte_endBad (h : sk.httpParseState = .chunkEnd) (hc : c ≠ 0x0a) :
    chunkByte sk c = (.err, sk) := by
  simp [chunkByte, h, hc]

end Byte

/-- The scanner of a chunked body. -/
abbrev chunkScan : Socket → List UInt8 → HttpRet × Socket := scan .ok chunkByte

/-- The parser is inside a chunked body. -/
def InChunk (sk : Socket) : Prop :=
  sk.httpParseState = .chunkSize ∨ sk.httpParseState = .chunkSizeEnd ∨
    sk.httpParseState = .chunkData ∨ sk.httpParseState = .chunkDataEnd ∨
    sk.httpParseState = .chunkTrailerBegin ∨ sk.httpParseState = .chunkTrailer ∨
    sk.httpParseState = .chunkEnd

/-- A byte that does not end the body leaves the parser inside it. -/
lemma chunkByte_inChunk (sk : Socket) (c : UInt8) (h : InChunk sk)
    (hok : (chunkByte sk c).1 = .ok) : InChunk (chunkByte sk c).2 := by
  rw [chunkByte] at hok ⊢
  obtain h | h | h | h | h | h | h := h <;> rw [h] at hok ⊢ <;> dsimp only at hok ⊢ <;>
    split_ifs at hok ⊢ <;> simp_all [InChunk]

/-! ### The parser takes its bytes one by one -/

/-- Counting down does not wrap above zero. -/
lemma int64_toInt_pred {x : Int64} (h : 0 < x.toInt) : (x - 1).toInt = x.toInt - 1 := by
  have hlt : x.toInt < 2 ^ 63 := Int64.toInt_lt x
  have h1 : (1 : Int64).toInt = 1 := by decide
  rw [Int64.toInt_sub, h1]
  exact Int.bmod_eq_of_le (by omega) (by omega)

section Bytes

variable (retry : Socket → List UInt8 → HttpRet × Socket) (sk : Socket) (c : UInt8)
  (p : List UInt8)

lemma chunkSize_cons : chunkSize retry sk (c :: p) =
    if isSizeDigit c then
      chunkSize retry { sk with httpLength := sizeStep sk.httpLength c
                                httpParseState := .chunkSize } p
    else chunkSizeEnd retry { sk with httpParseState := .chunkSizeEnd } p := by
  rw [chunkSize, chunkSizeLoop, isSizeDigit, sizeStep]
  by_cases h0 : 0x30 ≤ c ∧ c ≤ 0x39
  · simp [h0, chunkSize]
  · by_cases ha : 0x61 ≤ c ∧ c ≤ 0x66
    · simp [h0, ha, chunkSize]
    · have hb : ¬ ((decide (0x30 ≤ c) && decide (c ≤ 0x39)) ||
          (decide (0x61 ≤ c) && decide (c ≤ 0x66))) = true := by
        simp only [Bool.or_eq_true, Bool.and_eq_true, decide_eq_true_eq]
        tauto
      rw [if_neg h0, if_neg ha, if_neg hb]
      rfl

lemma chunkSizeEnd_cons : chunkSizeEnd retry sk (c :: p) =
    if c = 0x0a then
      if 0 < sk.httpLength then chunkData retry { sk with httpParseState := .chunkData } p
      else chunkTrailer { sk with httpParseState := .chunkTrailerBegin } true p
    else chunkSizeEnd retry sk p := by
  rw [chunkSizeEnd, skipLine]
  by_cases h : c = 0x0a
  · simp [h]
  · simp [h, chunkSizeEnd]

/-- A byte of the data. -/
lemma chunkData_cons_pos (h : 0 < sk.httpLength) : chunkData retry sk (c :: p) =
    chunkData retry { sk with httpLength := sk.httpLength - 1 } p := by
  have hpos : 0 < sk.httpLength.toInt := by
    simpa [Int64.lt_iff_toInt_lt] using h
  have hsub := int64_toInt_pred hpos
  have hnat : sk.httpLength.toNatClampNeg = (sk.httpLength - 1).toNatClampNeg + 1 := by
    rw [Int64.toNatClampNeg, Int64.toNatClampNeg, hsub]
    omega
  rw [chunkData, chunkData, if_neg (List.cons_ne_nil c p), hsub, hnat, List.drop_succ_cons,
    List.length_cons]
  by_cases hp : p = []
  · have hle : (((p.length + 1 : ℕ) : ℤ)) ≤ sk.httpLength.toInt := by
      rw [hp, List.length_nil]
      omega
    rw [if_pos hle, if_pos hp, hp]
    rfl
  · rw [if_neg hp]
    by_cases hle : ((p.length + 1 : ℕ) : ℤ) ≤ sk.httpLength.toInt
    · have hle' : (p.length : ℤ) ≤ sk.httpLength.toInt - 1 := by omega
      have hlen : sk.httpLength - Int64.ofNat (p.length + 1) =
          sk.httpLength - 1 - Int64.ofNat p.length := by
        rw [Int64.ofNat_add]
        grind
      rw [if_pos hle, if_pos hle', hlen]
    · have hle' : ¬ (p.length : ℤ) ≤ sk.httpLength.toInt - 1 := by omega
      rw [if_neg hle, if_neg hle']

/-- The byte after the data. -/
lemma chunkData_cons_nonpos (h : ¬ 0 < sk.httpLength) : chunkData retry sk (c :: p) =
    if c = 0x0d then
      chunkDataEnd retry { sk with httpLength := 0, httpParseState := .chunkDataEnd } p
    else (.err, { sk with httpLength := 0 }) := by
  have hpos : ¬ 0 < sk.httpLength.toInt := by
    simpa [Int64.lt_iff_toInt_lt] using h
  have hnat : sk.httpLength.toNatClampNeg = 0 := by
    rw [Int64.toNatClampNeg]
    omega
  have hle : ¬ ((c :: p).length : ℤ) ≤ sk.httpLength.toInt := by
    rw [List.length_cons]
    omega
  rw [chunkData, if_neg (List.cons_ne_nil c p), if_neg hle, hnat, List.drop_zero]
  by_cases hc : c = 0x0d <;> simp [hc]

lemma chunkDataEnd_cons : chunkDataEnd retry sk (c :: p) =
    if c = 0x0a then retry { sk with httpParseState := .chunkSize } p else (.err, sk) := by
  by_cases hc : c = 0x0a <;> simp [chunkDataEnd, hc]

lemma chunkTrailer_begin_cons : chunkTrailer sk true (c :: p) =
    if c = 0x0d then chunkEnd { sk with httpParseState := .chunkEnd } p
    else chunkTrailer sk false p := by
  by_cases hc : c = 0x0d <;> simp [chunkTrailer, hc]

lemma chunkTrailer_cons : chunkTrailer sk false (c :: p) =
    if c = 0x0a then chunkTrailer sk true p else chunkTrailer sk false p := by
  by_cases hc : c = 0x0a <;> simp [chunkTrailer, hc]

/-- Where a trailer line starts and whether it has begun is all that the trailer keeps. -/
lemma chunkTrailer_state (st : HttpState) (b : Bool) :
    chunkTrailer { sk with httpParseState := st } b p = chunkTrailer sk b p := by
  induction p generalizing b with
  | nil => cases b <;> rfl
  | cons c p ih =>
      cases b with
      | false => rw [chunkTrailer_cons, chunkTrailer_cons, ih, ih]
      | true => rw [chunkTrailer_begin_cons, chunkTrailer_begin_cons, ih]

lemma chunkEnd_cons : chunkEnd sk (c :: p) =
    if c = 0x0a then (.done, { sk with httpParseState := .bodyDone }) else (.err, sk) := by
  by_cases hc : c = 0x0a <;> simp [chunkEnd, hc]

end Bytes

/-- Inside a body and with turns enough, the parser takes its bytes one by one. -/
lemma httpParseChunkRun_scan : ∀ (p : List UInt8) (fuel : ℕ) (sk : Socket), p.length < fuel →
    InChunk sk → httpParseChunkRun fuel sk p = chunkScan sk p := by
  intro p
  induction p with
  | nil =>
      intro fuel sk hf h
      obtain ⟨fuel, rfl⟩ : ∃ k, fuel = k + 1 := ⟨fuel - 1, by simp at hf; omega⟩
      obtain ⟨⟩ := sk
      obtain h | h | h | h | h | h | h := h <;> cases h <;> rfl
  | cons c p ih =>
      intro fuel sk hf h
      obtain ⟨fuel, rfl⟩ : ∃ k, fuel = k + 1 := ⟨fuel - 1, by simp at hf; omega⟩
      rw [List.length_cons] at hf
      have hp : p.length < fuel + 1 := by omega
      -- the byte leads to `sk'`, and the rest of the parser is the run from there
      have hgo : ∀ {sk' : Socket}, chunkByte sk c = (.ok, sk') → InChunk sk' →
          httpParseChunkRun (fuel + 1) sk' p = chunkScan sk (c :: p) := fun hb hin =>
        (ih (fuel + 1) _ hp hin).trans (scan_cons_go hb).symm
      have hstop : ∀ {r : HttpRet × Socket}, chunkByte sk c = r → r.1 ≠ .ok →
          r = chunkScan sk (c :: p) := fun hb hr =>
        hb.symm.trans (scan_cons_stop (hb ▸ hr)).symm
      obtain h | h | h | h | h | h | h := h
      all_goals
        rw [httpParseChunkRun]
        simp only [h]
      · rw [chunkSize_cons]
        split_ifs with hd
        · exact hgo (chunkByte_digit h hd) (.inl rfl)
        · exact hgo (chunkByte_digitsEnd h hd) (.inr (.inl rfl))
      · rw [chunkSizeEnd_cons]
        split_ifs with hc hl
        · subst hc
          exact hgo (chunkByte_chunkLine h hl) (by simp [InChunk])
        · subst hc
          exact hgo (chunkByte_lastLine h hl) (by simp [InChunk])
        · rw [← hgo (chunkByte_ext h hc) (.inr (.inl h)), httpParseChunkRun]
          simp only [h]
      · by_cases hl : 0 < sk.httpLength
        · rw [chunkData_cons_pos _ _ _ _ hl,
            ← hgo (chunkByte_data h hl) (.inr (.inr (.inl h))), httpParseChunkRun]
          simp only [h]
        · rw [chunkData_cons_nonpos _ _ _ _ hl]
          split_ifs with hc
          · subst hc
            exact hgo (chunkByte_dataCr h hl) (by simp [InChunk])
          · exact hstop (chunkByte_dataBad h hl hc) (by simp)
      · rw [chunkDataEnd_cons]
        split_ifs with hc
        · subst hc
          exact (ih fuel _ (by omega) (.inl rfl)).trans (scan_cons_go (chunkByte_dataLf h)).symm
        · exact hstop (chunkByte_dataLfBad h hc) (by simp)
      · rw [chunkTrailer_begin_cons]
        split_ifs with hc
        · subst hc
          exact hgo (chunkByte_endCr h) (by simp [InChunk])
        · rw [← hgo (chunkByte_trailerFirst h hc) (by simp [InChunk]), httpParseChunkRun]
          exact (chunkTrailer_state _ _ _ _).symm
      · rw [chunkTrailer_cons]
        split_ifs with hc
        · subst hc
          rw [← hgo (chunkByte_trailerLf h) (by simp [InChunk]), httpParseChunkRun]
          exact (chunkTrailer_state _ _ _ _).symm
        · rw [← hgo (chunkByte_trailerRest h hc) (by simp [InChunk, h]), httpParseChunkRun]
          simp only [h]
      · rw [chunkEnd_cons]
        split_ifs with hc
        · subst hc
          exact hstop (chunkByte_endLf h) (by simp)
        · exact hstop (chunkByte_endBad h hc) (by simp)

/-- The parser is the scanner of its bytes. -/
theorem httpParseChunk_scan {sk : Socket} (h : InChunk sk) (p : List UInt8) :
    httpParseChunk sk p = chunkScan sk p :=
  httpParseChunkRun_scan p (p.length + 1) sk (Nat.lt_succ_self _) h

/-! ### Segments -/

/-- A socket whose header has just ended and announced a chunked body. -/
def chunkStart (sk : Socket) : Socket :=
  { sk with httpParseState := .headerDone, httpFlags := httpFTransferEncoding, httpLength := 0 }

/-- The same with the parser set to the first chunk size. -/
def chunkBegin (sk : Socket) : Socket := { chunkStart sk with httpParseState := .chunkSize }

lemma chunkBegin_inChunk (sk : Socket) : InChunk (chunkBegin sk) := .inl rfl

/-- The two states are one to the parser. -/
lemma httpParseChunk_start (sk : Socket) (p : List UInt8) :
    httpParseChunk (chunkStart sk) p = httpParseChunk (chunkBegin sk) p := rfl

/-- Fed in segments, the parser gives the verdict that it gives on the whole, and leaves the
same socket. -/
theorem httpParseChunk_segments (sk : Socket) (segment : List UInt8)
    (segments : List (List UInt8)) :
    feed .ok httpParseChunk (chunkStart sk) (segment :: segments) =
      httpParseChunk (chunkStart sk) (segment ++ segments.flatten) := by
  have hfirst : feed .ok httpParseChunk (chunkStart sk) (segment :: segments) =
      feed .ok httpParseChunk (chunkBegin sk) (segment :: segments) := by
    rw [feed, feed, httpParseChunk_start]
  rw [hfirst, httpParseChunk_start, httpParseChunk_scan (chunkBegin_inChunk sk),
    feed_eq_scan (fun s p h => httpParseChunk_scan h p) chunkByte_inChunk (chunkBegin_inChunk sk),
    List.flatten_cons]

end Dperf
