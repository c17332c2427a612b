import Dperf.HttpParse
import Dperf.Lib.Words
import Mathlib.Data.List.TakeWhile

/-!
The configuration file: `config_keyword.c`.

* `configKeywordParse`: the buffers that `fgets` fills, the words of each, and the handlers. What
  the handlers do is left open.
* `callLines`: what the file asks for, line by line.
* `LineFits`: the buffers of a line ask for what the line does.
* `configKeywordParse_lines_iff`: when a file is parsed line by line.
-/

namespace Dperf

/-! ### `config_keyword.c` -/

/-- `CONFIG_ARG_NUM_MAX`. -/
def configArgNumMax : ℕ := 32

/-- `CONFIG_LINE_MAX`. -/
def configLineMax : ℕ := 2048

/-- `isprint` in the C locale. -/
def isPrint (c : UInt8) : Bool := decide (0x20 ≤ c) && decide (c ≤ 0x7e)

/-- `isascii`. -/
def isAscii (c : UInt8) : Bool := decide (c < 0x80)

/-- A character string ends before its first zero. -/
def cString (cs : List UInt8) : List UInt8 := cs.takeWhile (· != 0)

/-- The arguments of a handler; the first is the keyword. -/
abbrev Argv := List (List UInt8)

/-- `struct config_keyword`; `none` stands for an error. -/
structure ConfigKeyword (σ : Type) where
  name : List UInt8
  handler : Option (Argv → σ → Option σ)

/-- The errors of `config_keyword_parse`, with the line number that is printed: an input that is
not printable, `unknown config keyword`, and `error`. -/
inductive ConfigError where
  | input
  | unknown (lineNum : ℕ) (name : List UInt8)
  | handler (lineNum : ℕ)

/-- `config_keyword_lookup`. -/
def configKeywordLookup {σ : Type} (keywords : List (ConfigKeyword σ)) (name : List UInt8) :
    Option (ConfigKeyword σ) := keywords.find? fun k => k.name == name

/-- `config_skip_space`. -/
def configSkipSpace (str : List UInt8) : Option (List UInt8) :=
  match str.dropWhile isSpace with
  | [] => none
  | start => some start

/-- `config_next_space`: what is before the next space, and the rest. -/
def configNextSpace (str : List UInt8) : List UInt8 × List UInt8 :=
  (str.takeWhile fun c => !isSpace c, str.dropWhile fun c => !isSpace c)

/-- `config_get_string`: a word, and the place after the space that ends it. -/
def configGetString (str : List UInt8) : Option (List UInt8 × List UInt8) :=
  match configSkipSpace str with
  | none => none
  | some start =>
      let r := configNextSpace start
      if r.1 = [] then none else some (r.1, r.2.drop 1)

/-- `config_keyword_check_input`. -/
def configKeywordCheckInput (line : List UInt8) : Bool :=
  line.all fun c => isAscii c && (isPrint c || isSpace c)

/-- The loop of `config_keyword_parse_line` with the arguments left; a comment has none. -/
def configArgs : ℕ → Bool → List UInt8 → Argv
  | 0, _, _ => []
  | left + 1, first, str =>
      match configGetString str with
      | none => []
      | some (arg, next) =>
          if first && arg.head? == some 0x23 then [] else arg :: configArgs left false next

/-- `config_keyword_parse_line`. -/
def configKeywordParseLine (line : List UInt8) (argvSize : ℕ) : Option Argv :=
  if configKeywordCheckInput line then some (configArgs argvSize true line) else none

/-- `config_keyword_call`. -/
def configKeywordCall {σ : Type} (keywords : List (ConfigKeyword σ)) (arg : List UInt8)
    (args : Argv) (data : σ) (lineNum : ℕ) : Except ConfigError σ :=
  match configKeywordLookup keywords arg with
  | none => .error (.unknown lineNum arg)
  | some keyword =>
      match keyword.handler with
      | none => .ok data
      | some handler =>
          match handler (arg :: args) data with
          | none => .error (.handler lineNum)
          | some data => .ok data

/-- What `fgets` reads of a file with room for `n` characters, and the rest of the file. -/
def fgets : ℕ → List UInt8 → List UInt8 × List UInt8
  | 0, file => ([], file)
  | _ + 1, [] => ([], [])
  | n + 1, c :: file =>
      if c = 0x0a then ([c], file)
      else
        let r := fgets n file
        (c :: r.1, r.2)

lemma length_fgets (n : ℕ) (file : List UInt8) : (fgets n file).2.length ≤ file.length := by
  fun_induction fgets n file with
  | case1 | case2 | case3 => simp
  | case4 n c file hc r ih => exact Nat.le_succ_of_le ih

/-- The contents of `config_line`, read by read: a read of 2047 has room for 2046 characters and
the zero. -/
def configLines (file : List UInt8) : List (List UInt8) :=
  match file with
  | [] => []
  | c :: cs =>
      let r := fgets (configLineMax - 2) (c :: cs)
      r.1 :: configLines r.2
termination_by file.length
decreasing_by
  rw [configLineMax, fgets]
  split_ifs
  · exact Nat.lt_succ_self _
  · exact Nat.lt_succ_of_le (length_fgets _ _)

/-- The loop of `config_keyword_parse` over the contents of `config_line`. -/
def configKeywordParseLoop {σ : Type} (keywords : List (ConfigKeyword σ)) :
    ℕ → List (List UInt8) → σ → Except ConfigError σ
  | _, [], data => .ok data
  | lineNum, line :: lines, data =>
      match configKeywordParseLine (cString line) configArgNumMax with
      | none => .error .input
      | some [] => configKeywordParseLoop keywords (lineNum + 1) lines data
      | some (arg :: args) =>
          match configKeywordCall keywords arg args data lineNum with
          | .error e => .error e
          | .ok data => configKeywordParseLoop keywords (lineNum + 1) lines data

/-- `config_keyword_parse` of a file. -/
def configKeywordParse {σ : Type} (keywords : List (ConfigKeyword σ)) (file : List UInt8)
    (data : σ) : Except ConfigError σ :=
  configKeywordParseLoop keywords 1 (configLines file) data

/-! ### What a file asks for -/

/-- The lines of a file, with their line ends. -/
def fileLines : List UInt8 → List (List UInt8)
  | [] => []
  | c :: cs =>
      if c = 0x0a then [c] :: fileLines cs
      else
        match fileLines cs with
        | [] => [[c]]
        | line :: lines => (c :: line) :: lines

/-- What a line asks for: nothing if it is blank or a comment, else all its words. -/
def lineCalls (line : List UInt8) : List Argv :=
  match words isSpace line with
  | [] => []
  | arg :: args => if arg.head? = some 0x23 then [] else [arg :: args]

section Calls

variable {σ : Type} (keywords : List (ConfigKeyword σ))

/-- A call of the handler of a keyword. -/
def callKeyword (data : σ) : Argv → Option σ
  | [] => some data
  | arg :: args => (configKeywordCall keywords arg args data 0).toOption

/-- The calls that the lines of a file ask for. -/
def callLines (file : List UInt8) (data : σ) : Option σ :=
  ((fileLines file).flatMap lineCalls).foldlM (callKeyword keywords) data

end Calls

/-- Every parse of the file fails or makes the calls that its lines ask for, whatever the keywords
and their handlers. -/
def ParsedByLines (file : List UInt8) : Prop :=
  ∀ (σ : Type) (keywords : List (ConfigKeyword σ)) (data : σ),
    (∃ e, configKeywordParse keywords file data = .error e) ∨
    ∃ data', configKeywordParse keywords file data = .ok data' ∧
      callLines keywords file data = some data'

/-! ### One buffer -/

/-- The calls of a buffer: those of a line, with as many words as `argv` has room for. -/
def bufferCalls (line : List UInt8) : List Argv :=
  (lineCalls line).map (List.take configArgNumMax)

/-- A word and the character after it are taken. -/
lemma configGetString_word {w rest : List UInt8} (hne : w ≠ []) (hw : ∀ c ∈ w, isSpace c = false)
    (hrest : ∀ c ∈ rest.head?, isSpace c = true) :
    configGetString (w ++ rest) = some (w, rest.drop 1) := by
  have hstart : (w ++ rest).dropWhile isSpace = w ++ rest := by
    obtain ⟨a, w, rfl⟩ := List.exists_cons_of_ne_nil hne
    exact List.dropWhile_cons_of_neg (by rw [hw a List.mem_cons_self]; exact Bool.false_ne_true)
  have hnot : ∀ c ∈ w, (!isSpace c) = true := fun c hc => by rw [hw c hc]; rfl
  have hnext : rest.takeWhile (fun c => !isSpace c) = [] ∧
      rest.dropWhile (fun c => !isSpace c) = rest := by
    rcases rest with _ | ⟨c, rest⟩
    · exact ⟨rfl, rfl⟩
    · have hc : ¬ (!isSpace c) = true := by rw [hrest c rfl]; exact Bool.false_ne_true
      exact ⟨List.takeWhile_cons_of_neg hc, List.dropWhile_cons_of_neg hc⟩
  have hskip : configSkipSpace (w ++ rest) = some (w ++ rest) := by
    rw [configSkipSpace, hstart]
    rcases hl : w ++ rest with _ | ⟨a, t⟩
    · exact absurd (List.append_eq_nil_iff.mp hl).1 hne
    · rfl
  rw [configGetString, hskip]
  dsimp only
  rw [configNextSpace, List.takeWhile_append_of_pos hnot, List.dropWhile_append_of_pos hnot,
    hnext.1, hnext.2, List.append_nil, if_neg hne]

/-- The words are what `config_get_string` returns, one after the other. -/
lemma words_configGetString (str : List UInt8) : words isSpace str =
    match configGetString str with
    | none => []
    | some (arg, next) => arg :: words isSpace next := by
  induction str using sep_induct (p := isSpace) with
  | word w hw =>
      rcases eq_or_ne w [] with rfl | hne
      · exact words_nil
      · have hget : configGetString (w ++ []) = some (w, []) :=
          configGetString_word hne hw fun c hc => by cases hc
        rw [List.append_nil] at hget
        rw [hget, words_of_forall hne hw]
        exact congrArg (w :: ·) words_nil.symm
  | sep w c l hw hc ih =>
      rcases eq_or_ne w [] with rfl | hne
      · have hskip : configGetString (c :: l) = configGetString l := by
          rw [configGetString, configSkipSpace, List.dropWhile_cons_of_pos hc, configGetString,
            configSkipSpace]
        rw [List.nil_append, words_cons_sep hc, hskip]
        exact ih
      · rw [configGetString_word hne hw (fun a ha => by cases ha; exact hc), words_append_sep hc,
          words_of_forall hne hw]
        rfl

lemma configArgs_false (left : ℕ) (str : List UInt8) :
    configArgs left false str = (words isSpace str).take left := by
  induction left generalizing str with
  | zero => rw [configArgs, List.take_zero]
  | succ left ih =>
      rw [configArgs, words_configGetString]
      rcases configGetString str with _ | ⟨arg, next⟩
      · rfl
      · exact congrArg (arg :: ·) (ih next)

lemma configArgs_true (left : ℕ) (str : List UInt8) :
    configArgs (left + 1) true str = ((lineCalls str).headD []).take (left + 1) := by
  rw [configArgs, lineCalls, words_configGetString]
  rcases configGetString str with _ | ⟨arg, next⟩
  · rfl
  · dsimp only
    rw [configArgs_false]
    by_cases hc : arg.head? = some 0x23
    · rw [if_pos hc, hc]
      rfl
    · rw [if_neg hc, if_neg (by simpa using hc)]
      rfl

/-- Printable characters and space. -/
def Legal (cs : List UInt8) : Prop := ∀ c ∈ cs, isPrint c = true ∨ isSpace c = true

lemma Legal.cString {cs : List UInt8} (h : Legal cs) : cString cs = cs := by
  refine List.takeWhile_eq_self_iff.mpr fun c hc => ?_
  have hne : c ≠ 0 := by
    rintro rfl
    exact (h 0 hc).elim (by decide) (by decide)
  simpa using hne

lemma Legal.checkInput {cs : List UInt8} (h : Legal cs) : configKeywordCheckInput cs = true := by
  refine List.all_eq_true.mpr fun c hc => ?_
  have hascii : isAscii c = true := by
    have hlegal := h c hc
    rw [isPrint, isSpace, Bool.and_eq_true, Bool.or_eq_true, Bool.and_eq_true, decide_eq_true_iff,
      decide_eq_true_iff, decide_eq_true_iff, decide_eq_true_iff, beq_iff_eq] at hlegal
    rw [isAscii, decide_eq_true_iff, UInt8.lt_iff_toNat_lt]
    obtain ⟨-, hle⟩ | rfl | ⟨-, hle⟩ := hlegal
    · exact Nat.lt_of_le_of_lt (UInt8.le_iff_toNat_le.mp hle) (by decide)
    · decide
    · exact Nat.lt_of_le_of_lt (UInt8.le_iff_toNat_le.mp hle) (by decide)
  rw [hascii, Bool.true_and, Bool.or_eq_true]
  exact h c hc

lemma configKeywordParseLine_eq {line : List UInt8} (h : Legal line) :
    configKeywordParseLine (cString line) configArgNumMax =
      some (((lineCalls line).headD []).take configArgNumMax) := by
  rw [h.cString, configKeywordParseLine, if_pos h.checkInput]
  exact congrArg some (configArgs_true 31 line)

/-! ### All buffers -/

section Run

variable {σ : Type} (keywords : List (ConfigKeyword σ))

/-- The line number only matters for the message. -/
lemma configKeywordCall_toOption (arg : List UInt8) (args : Argv) (data : σ) (lineNum : ℕ) :
    (configKeywordCall keywords arg args data lineNum).toOption =
      callKeyword keywords data (arg :: args) := by
  rw [callKeyword, configKeywordCall, configKeywordCall]
  rcases configKeywordLookup keywords arg with _ | ⟨name, _ | handler⟩
  · rfl
  · rfl
  · dsimp only
    rcases handler (arg :: args) data with _ | data'
    · rfl
    · rfl

/-- The loop makes the calls of the buffers. -/
lemma configKeywordParseLoop_toOption {lines : List (List UInt8)}
    (h : ∀ line ∈ lines, Legal line) (lineNum : ℕ) (data : σ) :
    (configKeywordParseLoop keywords lineNum lines data).toOption =
      (lines.flatMap bufferCalls).foldlM (callKeyword keywords) data := by
  induction lines generalizing lineNum data with
  | nil => rfl
  | cons line lines ih =>
      have ih := ih fun l hl => h l (List.mem_cons_of_mem line hl)
      rw [configKeywordParseLoop, configKeywordParseLine_eq (h line List.mem_cons_self),
        List.flatMap_cons, bufferCalls, lineCalls]
      rcases words isSpace line with _ | ⟨arg, args⟩
      · exact ih _ _
      · dsimp only
        split_ifs
        · exact ih _ _
        · have hcall := configKeywordCall_toOption keywords arg (args.take 31) data lineNum
          have htake : (arg :: args).take configArgNumMax = arg :: args.take 31 := rfl
          rw [List.map_singleton, List.singleton_append, List.foldlM_cons, List.headD_cons, htake,
            ← hcall]
          dsimp only
          rcases configKeywordCall keywords arg (args.take 31) data lineNum with e | data'
          · rfl
          · exact ih _ _

end Run

/-! ### Lines and buffers -/

section Lines

variable {body rest : List UInt8} {n : ℕ}

/-- Characters without a line end, as far as there is room. -/
lemma fgets_body (h : ∀ c ∈ body, c ≠ 0x0a) (hn : n ≤ body.length) :
    fgets n (body ++ rest) = (body.take n, body.drop n ++ rest) := by
  induction body generalizing n with
  | nil =>
      obtain rfl : n = 0 := Nat.le_zero.mp hn
      exact rfl
  | cons c body ih =>
      rcases n with _ | n
      · exact rfl
      · rw [List.cons_append, fgets, if_neg (h c List.mem_cons_self),
          ih (fun a ha => h a (List.mem_cons_of_mem c ha)) (Nat.le_of_succ_le_succ hn)]
        rfl

/-- A line that there is room for. -/
lemma fgets_line (h : ∀ c ∈ body, c ≠ 0x0a) (hn : body.length < n) :
    fgets n (body ++ 0x0a :: rest) = (body ++ [0x0a], rest) := by
  induction body generalizing n with
  | nil =>
      obtain ⟨n, rfl⟩ := Nat.exists_eq_succ_of_ne_zero (Nat.ne_of_gt hn)
      rw [List.nil_append, fgets, if_pos rfl]
      rfl
  | cons c body ih =>
      obtain ⟨n, rfl⟩ := Nat.exists_eq_succ_of_ne_zero (Nat.ne_of_gt (Nat.zero_lt_of_lt hn))
      rw [List.cons_append, fgets, if_neg (h c List.mem_cons_self),
        ih (fun a ha => h a (List.mem_cons_of_mem c ha)) (Nat.lt_of_succ_lt_succ hn)]
      rfl

lemma fgets_append (n : ℕ) (file : List UInt8) : (fgets n file).1 ++ (fgets n file).2 = file := by
  fun_induction fgets n file with
  | case1 | case2 | case3 => rfl
  | case4 n c file hc r ih => exact congrArg (c :: ·) ih

lemma configLines_nil : configLines [] = [] := by
  rw [configLines]

lemma configLines_cons {file : List UInt8} (h : file ≠ []) : configLines file =
    (fgets 2046 file).1 :: configLines (fgets 2046 file).2 := by
  obtain ⟨c, cs, rfl⟩ := List.exists_cons_of_ne_nil h
  rw [configLines]
  rfl

lemma flatten_configLines (file : List UInt8) : (configLines file).flatten = file := by
  fun_induction configLines file with
  | case1 => rfl
  | case2 c cs r ih => rw [List.flatten_cons, ih, fgets_append]

/-- A buffer never has parts of two lines. -/
lemma configLines_line (h : ∀ c ∈ body, c ≠ 0x0a) (rest : List UInt8) :
    configLines (body ++ 0x0a :: rest) = configLines (body ++ [0x0a]) ++ configLines rest := by
  induction hl : body.length using Nat.strong_induction_on generalizing body with
  | _ k ih =>
    subst hl
    have hne : ∀ rest, body ++ 0x0a :: rest ≠ [] := fun rest heq =>
      List.cons_ne_nil _ _ (List.append_eq_nil_iff.mp heq).2
    rw [configLines_cons (hne rest), configLines_cons (hne [])]
    by_cases hn : body.length < 2046
    · rw [fgets_line h hn, fgets_line h hn, configLines_nil]
      rfl
    · have hle : 2046 ≤ body.length := Nat.le_of_not_lt hn
      rw [fgets_body h hle, fgets_body h hle, List.cons_append]
      congr 1
      refine ih (body.drop 2046).length ?_ (fun c hc => h c (List.mem_of_mem_drop hc)) rfl
      rw [List.length_drop]
      omega

lemma fileLines_line (h : ∀ c ∈ body, c ≠ 0x0a) (rest : List UInt8) :
    fileLines (body ++ 0x0a :: rest) = (body ++ [0x0a]) :: fileLines rest := by
  induction body with
  | nil => rw [List.nil_append, fileLines, if_pos rfl]; rfl
  | cons c body ih =>
      rw [List.cons_append, fileLines, if_neg (h c List.mem_cons_self),
        ih fun a ha => h a (List.mem_cons_of_mem c ha)]
      rfl

lemma fileLines_body (h : ∀ c ∈ body, c ≠ 0x0a) (hne : body ≠ []) : fileLines body = [body] := by
  induction body with
  | nil => exact absurd rfl hne
  | cons c body ih =>
      rw [fileLines, if_neg (h c List.mem_cons_self)]
      rcases eq_or_ne body [] with rfl | hb
      · rfl
      · rw [ih (fun a ha => h a (List.mem_cons_of_mem c ha)) hb]

/-- The buffers of a file are those of its lines. -/
lemma configLines_eq (file : List UInt8) :
    configLines file = (fileLines file).flatMap configLines := by
  have hne : ∀ {w : List UInt8}, (∀ c ∈ w, (c == 0x0a) = false) → ∀ c ∈ w, c ≠ 0x0a :=
    fun hw c hc => by simpa using hw c hc
  induction file using sep_induct (p := fun c : UInt8 => c == 0x0a) with
  | word w hw =>
      rcases eq_or_ne w [] with rfl | hw0
      · rw [configLines_nil]; rfl
      · rw [fileLines_body (hne hw) hw0, List.flatMap_singleton]
  | sep w c l hw hc ih =>
      obtain rfl : c = 0x0a := by simpa using hc
      rw [configLines_line (hne hw), fileLines_line (hne hw), List.flatMap_cons, ih]

end Lines

/-! ### One line -/

/-- The first character of a line that is not a space. -/
lemma lineCalls_eq_nil_iff (line : List UInt8) : lineCalls line = [] ↔
    ∀ c ∈ (line.filter fun c => !isSpace c).head?, c = 0x23 := by
  rw [← head_words, lineCalls]
  rcases hwords : words isSpace line with _ | ⟨arg, args⟩
  · exact iff_of_true rfl fun c hc => by cases hc
  · obtain ⟨a, arg, rfl⟩ := List.exists_cons_of_ne_nil
      (ne_nil_of_mem_words (hwords ▸ List.mem_cons_self : arg ∈ words isSpace line))
    dsimp only
    rw [List.head?_cons, List.head?_cons, Option.bind_some, List.head?_cons]
    by_cases ha : a = 0x23
    · rw [if_pos (congrArg some ha)]
      exact iff_of_true rfl fun c hc => by cases hc; exact ha
    · rw [if_neg fun h => ha (Option.some.inj h)]
      exact iff_of_false (List.cons_ne_nil _ _) fun h => ha (h a rfl)

lemma flatMap_bufferCalls_eq_nil_iff {bs : List (List UInt8)} :
    bs.flatMap bufferCalls = [] ↔ ∀ b ∈ bs, lineCalls b = [] := by
  rw [List.flatMap_eq_nil_iff]
  exact forall₂_congr fun b _ => List.map_eq_nil_iff

/-- What a line asks for is asked for by the buffers as well, perhaps among more. -/
lemma length_lineCalls_le (line : List UInt8) :
    (lineCalls line).length ≤ ((configLines line).flatMap bufferCalls).length := by
  have hone : (lineCalls line).length ≤ 1 := by
    rw [lineCalls]
    split
    · exact Nat.zero_le _
    · split_ifs
      · exact Nat.zero_le _
      · exact le_rfl
  by_cases hnil : lineCalls line = []
  · rw [hnil]
    exact Nat.zero_le _
  · refine hone.trans (List.length_pos_iff.mpr fun hbuffers => hnil ?_)
    rw [lineCalls_eq_nil_iff]
    intro c hc
    rw [← flatten_configLines line] at hc
    obtain ⟨b, hb, hbc⟩ := exists_head_of_flatten hc
    exact (lineCalls_eq_nil_iff b).mp (flatMap_bufferCalls_eq_nil_iff.mp hbuffers b hb) c hbc

/-- A buffer among those of a line. -/
lemma filter_configLines {line b : List UInt8} (hb : b ∈ configLines line) :
    ∃ xs ys, configLines line = xs ++ b :: ys ∧
      (line.filter fun c => !isSpace c) = (xs.flatten.filter fun c => !isSpace c) ++
        ((b.filter fun c => !isSpace c) ++ ys.flatten.filter fun c => !isSpace c) := by
  obtain ⟨xs, ys, hsplit⟩ := List.append_of_mem hb
  refine ⟨xs, ys, hsplit, ?_⟩
  have hline := flatten_configLines line
  rw [hsplit, List.flatten_append, List.flatten_cons] at hline
  rw [← hline, List.filter_append, List.filter_append]

/-- The other buffers are blank if one has all the words of the line. -/
lemma flatMap_of_words {line b : List UInt8} (hb : b ∈ configLines line)
    (hwords : words isSpace b = words isSpace line) :
    (configLines line).flatMap bufferCalls = bufferCalls b := by
  obtain ⟨xs, ys, hsplit, hfilter⟩ := filter_configLines hb
  rw [← flatten_words isSpace line, ← flatten_words isSpace b, hwords] at hfilter
  have hlength := congrArg List.length hfilter
  rw [List.length_append, List.length_append] at hlength
  have hblank : ∀ {zs : List (List UInt8)}, (zs.flatten.filter fun c => !isSpace c).length = 0 →
      zs.flatMap bufferCalls = [] := by
    intro zs hzs
    refine flatMap_bufferCalls_eq_nil_iff.mpr fun z hz => ?_
    have hnil : (z.filter fun c => !isSpace c) = [] := by
      refine List.filter_eq_nil_iff.mpr fun c hc => ?_
      exact List.filter_eq_nil_iff.mp (List.length_eq_zero_iff.mp hzs) c
        (List.mem_flatten_of_mem hz hc)
    rw [lineCalls_eq_nil_iff, hnil]
    exact fun c hc => by cases hc
  rw [hsplit, List.flatMap_append, List.flatMap_cons, hblank (by omega), hblank (by omega),
    List.nil_append, List.append_nil]

/-- A buffer that gives the words of its line to the handler has no others. -/
lemma words_of_take {line b : List UInt8} (hb : b ∈ configLines line)
    (htake : (words isSpace b).take configArgNumMax = words isSpace line) :
    words isSpace b = words isSpace line := by
  obtain ⟨xs, ys, -, hfilter⟩ := filter_configLines hb
  have hflat : (words isSpace b).flatten = (words isSpace line).flatten ++
      ((words isSpace b).drop configArgNumMax).flatten := by
    rw [← htake, ← List.flatten_append, List.take_append_drop]
  rw [← flatten_words isSpace line, ← flatten_words isSpace b, hflat] at hfilter
  have hlength := congrArg List.length hfilter
  simp only [List.length_append] at hlength
  have hdrop : (words isSpace b).drop configArgNumMax = [] := by
    by_contra hne
    obtain ⟨w, hw⟩ := List.exists_mem_of_ne_nil _ hne
    have hflatten := List.length_eq_zero_iff.mp (show
      ((words isSpace b).drop configArgNumMax).flatten.length = 0 by omega)
    exact ne_nil_of_mem_words (List.mem_of_mem_drop hw) (List.flatten_eq_nil_iff.mp hflatten w hw)
  rw [← htake, ← List.take_append_drop configArgNumMax (words isSpace b), hdrop, List.append_nil,
    List.take_take, Nat.min_self]

/-- The buffers of a line ask for what the line does: those of a comment are blank or comments, and
the words of another line are in one buffer, and `argv` has room for them. -/
def LineFits (line : List UInt8) : Prop :=
  ∀ arg args, words isSpace line = arg :: args →
    if arg.head? = some 0x23 then ∀ b ∈ configLines line, lineCalls b = []
    else (arg :: args).length ≤ configArgNumMax ∧
      ∃ b ∈ configLines line, words isSpace b = arg :: args

/-- A line asks for its words. -/
lemma words_of_mem_lineCalls {line : List UInt8} {argv : Argv} (h : argv ∈ lineCalls line) :
    words isSpace line = argv := by
  rw [lineCalls] at h
  rcases hw : words isSpace line with _ | ⟨arg, args⟩
  · rw [hw] at h
    cases h
  · rw [hw] at h
    dsimp only at h
    split_ifs at h
    · cases h
    · exact (List.mem_singleton.mp h).symm

/-- The buffers of a blank line are blank. -/
lemma flatMap_of_blank {line : List UInt8} (h : words isSpace line = []) :
    (configLines line).flatMap bufferCalls = [] := by
  rw [flatMap_bufferCalls_eq_nil_iff]
  intro b hb
  obtain ⟨xs, ys, -, hfilter⟩ := filter_configLines hb
  rw [words_eq_nil_iff.mp h] at hfilter
  have hblank := (List.append_eq_nil_iff.mp (List.append_eq_nil_iff.mp hfilter.symm).2).1
  rw [lineCalls_eq_nil_iff, hblank]
  exact fun c hc => by cases hc

lemma lineFits_iff (line : List UInt8) :
    LineFits line ↔ (configLines line).flatMap bufferCalls = lineCalls line := by
  rw [LineFits]
  rcases hwords : words isSpace line with _ | ⟨arg, args⟩
  · refine iff_of_true (fun arg args h => by cases h) ?_
    rw [flatMap_of_blank hwords, lineCalls, hwords]
  · have hcases : ∀ q : List UInt8 → Argv → Prop,
        (∀ arg' args', arg :: args = arg' :: args' → q arg' args') ↔ q arg args := fun q =>
      ⟨fun h => h arg args rfl, fun h arg' args' heq => by
        obtain ⟨rfl, rfl⟩ := List.cons.inj heq
        exact h⟩
    rw [hcases, lineCalls, hwords]
    dsimp only
    split_ifs with hcomment
    · exact flatMap_bufferCalls_eq_nil_iff.symm
    · have hcalls : ∀ b, words isSpace b = arg :: args → lineCalls b = [arg :: args] := by
        intro b hb
        rw [lineCalls, hb]
        exact if_neg hcomment
      constructor
      · rintro ⟨hlen, b, hb, hbwords⟩
        rw [flatMap_of_words hb (hbwords.trans hwords.symm), bufferCalls, hcalls b hbwords,
          List.map_singleton, List.take_of_length_le hlen]
      · intro hbuffers
        have hmem : arg :: args ∈ (configLines line).flatMap bufferCalls := by
          rw [hbuffers]
          exact List.mem_singleton_self _
        obtain ⟨b, hb, hbmem⟩ := List.mem_flatMap.mp hmem
        obtain ⟨argv, hargv, htake⟩ := List.mem_map.mp hbmem
        rw [← words_of_mem_lineCalls hargv, ← hwords] at htake
        refine ⟨?_, b, hb, (words_of_take hb htake).trans hwords⟩
        rw [← hwords, ← htake, List.length_take]
        exact Nat.min_le_left _ _

/-! ### A table that records the calls -/

/-- Keywords with handlers that note their arguments. -/
def recorders (names : List (List UInt8)) : List (ConfigKeyword (List Argv)) :=
  names.map fun name => ⟨name, some fun argv calls => some (calls ++ [argv])⟩

lemma lookup_recorders (names : List (List UInt8)) (name : List UInt8) :
    configKeywordLookup (recorders names) name =
      if name ∈ names then some ⟨name, some fun argv calls => some (calls ++ [argv])⟩
      else none := by
  rw [configKeywordLookup]
  induction names with
  | nil => rfl
  | cons n names ih =>
      rw [recorders, List.map_cons, List.find?_cons]
      by_cases hn : n = name
      · subst hn
        rw [if_pos List.mem_cons_self, beq_self_eq_true]
      · have hmem : name ∈ n :: names ↔ name ∈ names := by
          rw [List.mem_cons, or_iff_right (Ne.symm hn)]
        rw [beq_false_of_ne hn, ← recorders, ih]
        simp only [hmem]

lemma callKeyword_recorders (names : List (List UInt8)) (arg : List UInt8) (args : Argv)
    (calls : List Argv) : callKeyword (recorders names) calls (arg :: args) =
      if arg ∈ names then some (calls ++ [arg :: args]) else none := by
  rw [callKeyword, configKeywordCall, lookup_recorders]
  split_ifs <;> rfl

/-- A run of calls is noted in its order. -/
lemma foldlM_recorders {names : List (List UInt8)} {cs : List Argv} (hne : [] ∉ cs)
    {calls t : List Argv} (h : cs.foldlM (callKeyword (recorders names)) calls = some t) :
    t = calls ++ cs := by
  induction cs generalizing calls with
  | nil =>
      rw [List.append_nil]
      exact (Option.some.inj h).symm
  | cons c cs ih =>
      rcases c with _ | ⟨arg, args⟩
      · exact absurd List.mem_cons_self hne
      · rw [List.foldlM_cons, callKeyword_recorders] at h
        split_ifs at h
        · rw [ih (fun hmem => hne (List.mem_cons_of_mem _ hmem)) h, List.append_assoc]
          rfl
        · cases h

/-- A table with all keywords notes all calls. -/
lemma foldlM_recorders_all {names : List (List UInt8)} {cs : List Argv} (hne : [] ∉ cs)
    (hnames : ∀ c ∈ cs, c.headD [] ∈ names) (calls : List Argv) :
    cs.foldlM (callKeyword (recorders names)) calls = some (calls ++ cs) := by
  induction cs generalizing calls with
  | nil => rw [List.append_nil]; rfl
  | cons c cs ih =>
      rcases c with _ | ⟨arg, args⟩
      · exact absurd List.mem_cons_self hne
      · have hrest := ih (fun hmem => hne (List.mem_cons_of_mem _ hmem))
          (fun c hc => hnames c (List.mem_cons_of_mem _ hc)) (calls ++ [arg :: args])
        have harg : arg ∈ names := hnames _ List.mem_cons_self
        rw [List.foldlM_cons, callKeyword_recorders, if_pos harg]
        rw [List.append_assoc] at hrest
        exact hrest

lemma nil_notMem_lineCalls (line : List UInt8) : [] ∉ lineCalls line := by
  rw [lineCalls]
  split
  · exact List.not_mem_nil
  · split_ifs
    · exact List.not_mem_nil
    · exact fun h => List.cons_ne_nil _ _ (List.mem_singleton.mp h).symm

lemma nil_notMem_bufferCalls (line : List UInt8) : [] ∉ bufferCalls line := by
  intro hmem
  obtain ⟨argv, hargv, htake⟩ := List.mem_map.mp hmem
  rcases argv with _ | ⟨arg, args⟩
  · exact nil_notMem_lineCalls line hargv
  · cases htake

/-! ### The file -/

lemma Legal.configLines {file : List UInt8} (h : Legal file) :
    ∀ line ∈ Dperf.configLines file, Legal line := by
  intro line hline c hc
  refine h c ?_
  rw [← flatten_configLines file]
  exact List.mem_flatten_of_mem hline hc

/-- The calls of the buffers of a file, line by line. -/
lemma flatMap_configLines (file : List UInt8) : (configLines file).flatMap bufferCalls =
    (fileLines file).flatMap fun line => (configLines line).flatMap bufferCalls := by
  rw [configLines_eq, List.flatMap_assoc]

/-- The lines fit exactly if the buffers ask for what they do. -/
lemma forall_lineFits_iff (file : List UInt8) : (∀ line ∈ fileLines file, LineFits line) ↔
    (configLines file).flatMap bufferCalls = (fileLines file).flatMap lineCalls := by
  rw [flatMap_configLines, flatMap_eq_iff fun line _ => length_lineCalls_le line]
  exact forall₂_congr fun line _ => lineFits_iff line

/-- A table with all keywords that the buffers start with tells the calls apart. -/
lemma ParsedByLines.calls_eq {file : List UInt8} (h : Legal file) (hparsed : ParsedByLines file) :
    (configLines file).flatMap bufferCalls = (fileLines file).flatMap lineCalls := by
  have hne : [] ∉ (configLines file).flatMap bufferCalls := fun hmem => by
    obtain ⟨b, -, hb⟩ := List.mem_flatMap.mp hmem
    exact nil_notMem_bufferCalls b hb
  have hne' : [] ∉ (fileLines file).flatMap lineCalls := fun hmem => by
    obtain ⟨line, -, hline⟩ := List.mem_flatMap.mp hmem
    exact nil_notMem_lineCalls line hline
  let names := ((configLines file).flatMap bufferCalls).map (List.headD · [])
  have hrun := configKeywordParseLoop_toOption (recorders names) h.configLines 1 []
  rw [foldlM_recorders_all hne (fun c hc => List.mem_map_of_mem hc), List.nil_append] at hrun
  obtain ⟨e, he⟩ | ⟨t, ht, hlines⟩ := hparsed _ (recorders names) []
  · rw [configKeywordParse] at he
    rw [he] at hrun
    cases hrun
  · rw [configKeywordParse] at ht
    rw [ht] at hrun
    obtain rfl := Option.some.inj hrun
    exact foldlM_recorders hne' hlines

lemma parsedByLines_of_calls_eq {file : List UInt8} (h : Legal file)
    (heq : (configLines file).flatMap bufferCalls = (fileLines file).flatMap lineCalls) :
    ParsedByLines file := by
  intro σ keywords data
  have hrun := configKeywordParseLoop_toOption keywords h.configLines 1 data
  rw [heq] at hrun
  rcases hparse : configKeywordParse keywords file data with e | t
  · exact .inl ⟨e, rfl⟩
  · refine .inr ⟨t, rfl, ?_⟩
    rw [configKeywordParse] at hparse
    rw [hparse] at hrun
    exact hrun.symm

/-- **Line by line.** A file of printable characters and space is parsed line by line, whatever the
keywords and their handlers, exactly if all its lines fit. -/
theorem configKeywordParse_lines_iff {file : List UInt8} (h : Legal file) :
    ParsedByLines file ↔ ∀ line ∈ fileLines file, LineFits line := by
  rw [forall_lineFits_iff]
  exact ⟨fun hparsed => hparsed.calls_eq h, parsedByLines_of_calls_eq h⟩

/-- A line that one read takes fits if `argv` has room for its words. -/
lemma lineFits_of_short {body : List UInt8} (h : ∀ c ∈ body, c ≠ 0x0a) (hn : body.length < 2046)
    (hwords : (words isSpace (body ++ [0x0a])).length ≤ configArgNumMax) :
    LineFits (body ++ [0x0a]) := by
  have hread : configLines (body ++ [0x0a]) = [body ++ [0x0a]] := by
    rw [configLines_cons (List.append_ne_nil_of_right_ne_nil _ (List.cons_ne_nil _ _)),
      fgets_line h hn, configLines_nil]
  intro arg args hline
  rw [hline] at hwords
  rw [hread]
  split_ifs with hcomment
  · intro b hb
    rw [List.mem_singleton.mp hb, lineCalls, hline]
    exact if_pos hcomment
  · exact ⟨hwords, _, List.mem_singleton_self _, hline⟩

/-- The line `cpu` with `n` numbers. -/
def cpuLine (n : ℕ) : List UInt8 :=
  [0x63, 0x70, 0x75] ++ (List.replicate n [0x20, 0x30]).flatten ++ [0x0a]

lemma legal_cpuLine (n : ℕ) : Legal (cpuLine n) := by
  intro c hc
  rw [cpuLine, List.mem_append, List.mem_append, List.mem_flatten] at hc
  obtain (hname | ⟨w, hw, hcw⟩) | hend := hc
  · fin_cases hname
    · exact .inl rfl
    · exact .inl rfl
    · exact .inl rfl
  · rw [List.eq_of_mem_replicate hw] at hcw
    fin_cases hcw
    · exact .inr rfl
    · exact .inl rfl
  · rw [List.mem_singleton.mp hend]
    exact .inr rfl

/-- One number. -/
theorem configKeywordParse_lines_cpu : Legal (cpuLine 1) ∧ ParsedByLines (cpuLine 1) := by
  refine ⟨legal_cpuLine 1, (configKeywordParse_lines_iff (legal_cpuLine 1)).mpr
    fun line hline => ?_⟩
  have hlines : fileLines (cpuLine 1) = [[0x63, 0x70, 0x75, 0x20, 0x30] ++ [0x0a]] := rfl
  rw [hlines] at hline
  obtain rfl := List.mem_singleton.mp hline
  exact lineFits_of_short (by simp) (by decide) (by decide)

/-- The last of 32 numbers is lost. -/
theorem configKeywordParse_lines_fails : Legal (cpuLine 32) ∧ ¬ ParsedByLines (cpuLine 32) := by
  refine ⟨legal_cpuLine 32, fun hparsed => ?_⟩
  have hcalls := hparsed.calls_eq (legal_cpuLine 32)
  have hfits := (forall_lineFits_iff _).mpr hcalls (cpuLine 32) (by decide)
  have hline := hfits [0x63, 0x70, 0x75] (List.replicate 32 [0x30]) (by decide)
  rw [if_neg (by decide)] at hline
  exact absurd hline.1 (by decide)

end Dperf
