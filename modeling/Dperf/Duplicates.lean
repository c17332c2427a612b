import Dperf.HandlerSpecs
import Dperf.Lib.WriteOnce

/-!
The duplicate checks of the configuration keywords.

* `parseLine`, `parseLines`: the calls that lines ask for.
* `exists_lines`: a file that is parsed is a run of lines.
* `lineCallsOnce`: the lines as calls that write their slots once.
* `configDuplicates_iff`: when a duplicate check does what it is for.
-/

namespace Dperf.Keywords

/-! ### One line -/

lemma KeywordConfig.isSet_zero (f : Field) : KeywordConfig.zero.isSet f = false := by
  cases f <;> rfl

lemma Once.seen_zero (o : Once) : o.seen KeywordConfig.zero = false :=
  List.any_eq_false.mpr fun f _ => by rw [KeywordConfig.isSet_zero]; exact Bool.false_ne_true

lemma Once.run_eq_ok_iff {o : Once} {argv : Argv} {cfg cfg' : KeywordConfig} :
    o.run argv cfg = .ok cfg' ↔ o.argc argv.length = true ∧ o.seen cfg = false ∧
      ∃ ws, o.body cfg argv = .ok ws ∧ ws.foldl KeywordConfig.write cfg = cfg' := by
  rw [Once.run]
  cases hargc : o.argc argv.length with
  | false =>
      rw [if_pos rfl]
      exact iff_of_false nofun fun h => Bool.false_ne_true h.1
  | true =>
      rw [if_neg nofun]
      cases hseen : o.seen cfg with
      | true =>
          refine iff_of_false (fun h => ?_) nofun
          split at h
          · cases h
          · split at h
            · cases h
            · cases h
      | false =>
          rw [if_neg fun h => Bool.false_ne_true h.2]
          rcases o.body cfg argv with e | ws
          · exact iff_of_false nofun fun ⟨_, _, ws, hws, _⟩ => by cases hws
          · dsimp only
            rw [if_neg Bool.false_ne_true]
            exact ⟨fun h => ⟨rfl, rfl, ws, rfl, Except.ok.inj h⟩,
              fun ⟨_, _, _, hws, hcfg⟩ => by cases hws; rw [hcfg]⟩

/-- The arguments are valid: the handler accepts them when nothing is set. -/
def Keyword.Valid (atof : Atof) (httpParse : Bool) (k : Keyword) (argv : Argv) : Prop :=
  ∃ o cfg, k.once atof httpParse = some o ∧ o.run argv KeywordConfig.zero = .ok cfg

/-- A line that is no comment, as `config_keyword_parse_line` leaves it. -/
structure Line where
  name : List UInt8
  args : List (List UInt8)
  words : AreWords (name :: args)

namespace Line

def argv (line : Line) : Argv := line.name :: line.args

end Line

lemma Keyword.mem_all (k : Keyword) : k ∈ Keyword.all := by cases k <;> decide

lemma Keyword.name_inj {k l : Keyword} (h : k.name = l.name) : k = l :=
  List.inj_on_of_nodup_map (show (Keyword.all.map Keyword.name).Nodup by decide +kernel)
    k.mem_all l.mem_all h

section Lines

variable {ρ : Type} (atof : Atof) (httpParse : Bool) (other : Keyword → Argv → ρ → Option ρ)

/-- The call that a line asks for. -/
def parseLine (line : Line) (data : KeywordConfig × ρ) : Option (KeywordConfig × ρ) :=
  callKeyword (gConfigKeywords atof httpParse other) data line.argv

/-- The calls of lines, up to the first that fails. -/
def parseLines (lines : List Line) (data : KeywordConfig × ρ) : Option (KeywordConfig × ρ) :=
  lines.foldlM (fun data line => parseLine atof httpParse other line data) data

variable {atof httpParse other} {line : Line} {k : Keyword} {data data' : KeywordConfig × ρ}

lemma find_name (k : Keyword) : Keyword.all.find? (fun l => l.name == k.name) = some k := by
  rcases hfind : Keyword.all.find? (fun l => l.name == k.name) with _ | l
  · have hno := List.find?_eq_none.mp hfind k k.mem_all
    exact absurd (beq_self_eq_true k.name) hno
  · have hname := List.find?_some hfind
    rw [hfind, Keyword.name_inj (beq_iff_eq.mp hname)]

lemma parseLine_eq (h : line.name = k.name) :
    parseLine atof httpParse other line data = handler atof httpParse other k line.argv data := by
  have hlookup : configKeywordLookup (gConfigKeywords atof httpParse other) line.name =
      some ⟨k.name, some (handler atof httpParse other k)⟩ := by
    rw [configKeywordLookup, gConfigKeywords, List.find?_map, h]
    exact congrArg (Option.map _) (find_name k)
  rw [parseLine, Line.argv, callKeyword, configKeywordCall, hlookup]
  dsimp only
  rcases handler atof httpParse other k (line.name :: line.args) data with _ | data'
  · rfl
  · rfl

/-- A line with no keyword fails. -/
lemma parseLine_unknown (h : ∀ k : Keyword, line.name ≠ k.name) :
    parseLine atof httpParse other line data = none := by
  have hlookup : configKeywordLookup (gConfigKeywords atof httpParse other) line.name = none := by
    refine List.find?_eq_none.mpr fun kw hkw => ?_
    obtain ⟨k, -, rfl⟩ := List.mem_map.mp hkw
    exact fun hname => h k (beq_iff_eq.mp hname).symm
  rw [parseLine, Line.argv, callKeyword, configKeywordCall, hlookup]
  rfl

variable {o : Once}

lemma parseLine_once (h : line.name = k.name) (ho : k.once atof httpParse = some o) :
    parseLine atof httpParse other line data =
      (o.run line.argv data.1).toOption.map fun cfg => (cfg, data.2) := by
  rw [parseLine_eq h, handler, ho]

lemma parseLine_once_eq_some (h : line.name = k.name) (ho : k.once atof httpParse = some o)
    (hparse : parseLine atof httpParse other line data = some data') :
    o.run line.argv data.1 = .ok data'.1 := by
  rw [parseLine_once h ho] at hparse
  rcases hrun : o.run line.argv data.1 with e | cfg
  · rw [hrun] at hparse
    cases hparse
  · rw [hrun] at hparse
    obtain rfl := Option.some.inj hparse
    rfl

/-- A keyword without a duplicate check leaves the fields of the others. -/
lemma parseLine_other (h : line.name = k.name) (ho : k.once atof httpParse = none)
    (hparse : parseLine atof httpParse other line data = some data') : data'.1 = data.1 := by
  rw [parseLine_eq h, handler, ho] at hparse
  obtain ⟨rest, -, rfl⟩ := Option.map_eq_some_iff.mp hparse
  rfl

/-! ### Files -/

/-- What `config_keyword_parse_line` leaves of a line are words. -/
lemma areWords_parseLine {line : List UInt8} {n : ℕ} {argv : Argv}
    (h : configKeywordParseLine (cString line) n = some argv) : AreWords argv := by
  rw [configKeywordParseLine] at h
  split_ifs at h
  obtain rfl := Option.some.inj h
  intro w hw
  have hmem : w ∈ Dperf.words isSpace (cString line) := by
    rcases n with _ | n
    · cases hw
    · rw [configArgs_true] at hw
      have hcalls := List.mem_of_mem_take hw
      rcases hline : lineCalls (cString line) with _ | ⟨argv, _⟩
      · rw [hline] at hcalls
        cases hcalls
      · rw [hline] at hcalls
        rw [words_of_mem_lineCalls (hline ▸ List.mem_cons_self)]
        exact hcalls
  refine ⟨ne_nil_of_mem_words hmem, fun hzero => ?_⟩
  have hflat := List.mem_flatten_of_mem hmem hzero
  rw [flatten_words] at hflat
  have hpos := List.mem_takeWhile_imp (List.mem_of_mem_filter hflat)
  exact absurd hpos (by decide)

/-- A file that is parsed is a run of lines: those with words of the buffers. -/
lemma exists_lines {file : List UInt8}
    (h : configKeywordParse (gConfigKeywords atof httpParse other) file data = .ok data') :
    ∃ lines : List Line, parseLines atof httpParse other lines data = some data' ∧
      lines.map Line.argv = (configLines file).filterMap fun buffer =>
        (configKeywordParseLine (cString buffer) configArgNumMax).filter (!·.isEmpty) := by
  rw [configKeywordParse] at h
  generalize configLines file = buffers at h ⊢
  generalize 1 = lineNum at h
  induction buffers generalizing lineNum data with
  | nil =>
      rw [configKeywordParseLoop] at h
      exact ⟨[], congrArg some (Except.ok.inj h), rfl⟩
  | cons buffer buffers ih =>
      rw [configKeywordParseLoop] at h
      rw [List.filterMap_cons]
      rcases hline : configKeywordParseLine (cString buffer) configArgNumMax with _ | argv
      · rw [hline] at h
        cases h
      · rw [hline] at h
        rcases argv with _ | ⟨arg, args⟩
        · exact ih _ h
        · dsimp only at h
          have hcall := configKeywordCall_toOption (gConfigKeywords atof httpParse other) arg args
            data lineNum
          split at h
          · cases h
          next next hnext =>
            obtain ⟨lines, hrun, hargv⟩ := ih _ h
            rw [hnext] at hcall
            refine ⟨⟨arg, args, areWords_parseLine hline⟩ :: lines, ?_, ?_⟩
            · rw [parseLines, List.foldlM_cons, parseLine, Line.argv, ← hcall]
              exact hrun
            · rw [List.map_cons, hargv]
              rfl

/-! ### Lines that write once -/

/-- A handler leaves the fields of the other keywords. -/
lemma isSet_run {cfg cfg' : KeywordConfig} {argv : Argv} {f : Field}
    (ho : k.once atof httpParse = some o) (hrun : o.run argv cfg = .ok cfg')
    (hf : f.owner ≠ k.slot) : cfg'.isSet f = cfg.isSet f := by
  obtain ⟨-, -, ws, hbody, rfl⟩ := Once.run_eq_ok_iff.mp hrun
  refine KeywordConfig.isSet_foldl fun w hw heq => hf ?_
  rw [← heq]
  exact (once_spec ho).writes hbody w hw

lemma fresh_run {cfg cfg' : KeywordConfig} {argv : Argv} (ho : k.once atof httpParse = some o)
    (hrun : o.run argv cfg = .ok cfg') (hfresh : cfg.Fresh) : cfg'.Fresh := by
  by_cases hslot : Keyword.keepalive = k.slot
  · -- the keyword sets its flag
    obtain rfl : k = .keepalive := by cases k <;> first | rfl | cases hslot
    cases ho
    intro hunset
    obtain ⟨-, -, ws, hbody, rfl⟩ := Once.run_eq_ok_iff.mp hrun
    obtain ⟨ws', rfl, -⟩ := keepalive_body atof hbody
    rw [isSet_concat_flag] at hunset
    cases hunset
  · intro hunset
    rw [isSet_run (f := .flag .keepalive) ho hrun hslot] at hunset
    rw [isSet_run (f := .num .keepaliveRequestNum) ho hrun hslot]
    exact hfresh hunset

/-- A handler fills its slot exactly if the arguments do. -/
lemma seen_run {cfg cfg' : KeywordConfig} {argv : Argv} (hwords : AreWords argv)
    (ho : k.once atof httpParse = some o) (hrun : o.run argv cfg = .ok cfg') :
    o.seen cfg' = true ↔ k.Fills atof argv := by
  obtain ⟨hargc, -, ws, hbody, rfl⟩ := Once.run_eq_ok_iff.mp hrun
  exact (once_spec ho).filled hwords hargc hbody

/-- A handler accepts valid arguments while its slot is empty. -/
lemma run_isOk_iff {cfg : KeywordConfig} (hfresh : cfg.Fresh)
    (ho : k.once atof httpParse = some o) (argv : Argv) :
    (∃ cfg', o.run argv cfg = .ok cfg') ↔ o.seen cfg = false ∧ k.Valid atof httpParse argv := by
  constructor
  · rintro ⟨cfg', hrun⟩
    obtain ⟨hargc, hseen, ws, hbody, -⟩ := Once.run_eq_ok_iff.mp hrun
    rw [(once_spec ho).body_congr hfresh hseen] at hbody
    exact ⟨hseen, o, _, ho, Once.run_eq_ok_iff.mpr ⟨hargc, o.seen_zero, ws, hbody, rfl⟩⟩
  · rintro ⟨hseen, o', cfg', ho', hrun⟩
    obtain rfl := Option.some.inj (ho.symm.trans ho')
    obtain ⟨hargc, -, ws, hbody, -⟩ := Once.run_eq_ok_iff.mp hrun
    rw [← (once_spec ho).body_congr hfresh hseen] at hbody
    exact ⟨_, Once.run_eq_ok_iff.mpr ⟨hargc, hseen, ws, hbody, rfl⟩⟩

/-- The slot of a keyword is full. -/
def SlotSet (atof : Atof) (httpParse : Bool) (g : Keyword) (cfg : KeywordConfig) : Prop :=
  ∃ k o, Keyword.slot k = g ∧ k.once atof httpParse = some o ∧ o.seen cfg = true

lemma slotSet_iff {cfg : KeywordConfig} (ho : k.once atof httpParse = some o) :
    SlotSet atof httpParse k.slot cfg ↔ o.seen cfg = true := by
  constructor
  · rintro ⟨l, o', hslot, ho', hseen⟩
    rw [← l.once_slot, hslot, k.once_slot, ho] at ho'
    exact Option.some.inj ho' ▸ hseen
  · exact fun hseen => ⟨k, o, rfl, ho, hseen⟩

/-- The slot that a line writes. -/
def Line.slot (atof : Atof) (httpParse : Bool) (line : Line) : Option Keyword :=
  (Keyword.all.find? fun k => k.name == line.name).bind fun k =>
    (k.once atof httpParse).map fun _ => k.slot

lemma Line.slot_eq (h : line.name = k.name) (ho : k.once atof httpParse = some o) :
    line.slot atof httpParse = some k.slot := by
  rw [Line.slot, h, find_name, Option.bind_some, ho, Option.map_some]

lemma Line.slot_eq_some {g : Keyword} (h : line.slot atof httpParse = some g) :
    ∃ (k : Keyword) (o : Once), line.name = k.name ∧ k.once atof httpParse = some o ∧
      k.slot = g := by
  obtain ⟨k, hfind, hslot⟩ := Option.bind_eq_some_iff.mp h
  obtain ⟨o, ho, hg⟩ := Option.map_eq_some_iff.mp hslot
  have hname := List.find?_some hfind
  exact ⟨k, o, (beq_iff_eq.mp hname).symm, ho, hg⟩

/-- The lines write the slots of their keywords once. -/
def lineCallsOnce (atof : Atof) (httpParse : Bool) (other : Keyword → Argv → ρ → Option ρ) :
    WriteOnce Line (KeywordConfig × ρ) Keyword where
  step := parseLine atof httpParse other
  slot := Line.slot atof httpParse
  full g data := SlotSet atof httpParse g data.1
  Fills line := ∃ k : Keyword, line.name = k.name ∧ k.Fills atof line.argv
  Valid line := ∃ k : Keyword, line.name = k.name ∧ k.Valid atof httpParse line.argv
  Inv data := data.1.Fresh
  inv_step {line data data'} hfresh hparse := by
    by_cases hname : ∃ k : Keyword, line.name = k.name
    · obtain ⟨k, hk⟩ := hname
      rcases ho : k.once atof httpParse with _ | o
      · rw [parseLine_other hk ho hparse]
        exact hfresh
      · exact fresh_run ho (parseLine_once_eq_some hk ho hparse) hfresh
    · rw [parseLine_unknown fun k hk => hname ⟨k, hk⟩] at hparse
      cases hparse
  full_slot {line g data data'} _ hslot hparse := by
    obtain ⟨k, o, hk, ho, rfl⟩ := Line.slot_eq_some hslot
    rw [slotSet_iff ho, seen_run line.words ho (parseLine_once_eq_some hk ho hparse)]
    refine ⟨fun hfills => ⟨k, hk, hfills⟩, fun ⟨l, hl, hfills⟩ => ?_⟩
    rwa [Keyword.name_inj (hk.symm.trans hl)]
  full_frame {line g data data'} hslot hparse := by
    by_cases hname : ∃ k : Keyword, line.name = k.name
    · obtain ⟨k, hk⟩ := hname
      rcases ho : k.once atof httpParse with _ | o
      · rw [parseLine_other hk ho hparse]
      · have hrun := parseLine_once_eq_some hk ho hparse
        rw [Line.slot_eq hk ho] at hslot
        refine exists_congr fun l => exists_congr fun o' => and_congr_right fun hl =>
          and_congr_right fun ho' => ?_
        have hmarks : ∀ f ∈ o'.marks, data'.1.isSet f = data.1.isSet f := fun f hf =>
          isSet_run ho hrun fun howner => hslot (congrArg some
            (howner.symm.trans (((once_spec ho').marks f hf).trans hl)))
        rw [Once.seen, Once.seen, List.any_eq_true, List.any_eq_true]
        exact exists_congr fun f => and_congr_right fun hf => by rw [hmarks f hf]
    · rw [parseLine_unknown fun k hk => hname ⟨k, hk⟩] at hparse
      cases hparse
  step_none_iff {line g data} hfresh hslot := by
    obtain ⟨k, o, hk, ho, rfl⟩ := Line.slot_eq_some hslot
    have hvalid : (∃ l : Keyword, line.name = l.name ∧ l.Valid atof httpParse line.argv) ↔
        k.Valid atof httpParse line.argv :=
      ⟨fun ⟨l, hl, h⟩ => Keyword.name_inj (hk.symm.trans hl) ▸ h, fun h => ⟨k, hk, h⟩⟩
    have hok := run_isOk_iff hfresh ho line.argv
    rw [slotSet_iff ho, hvalid, parseLine_once hk ho, ← not_iff_not, not_or, not_not,
      Bool.not_eq_true, ← hok]
    rcases o.run line.argv data.1 with e | cfg
    · exact iff_of_false (fun h => h rfl) nofun
    · exact iff_of_true nofun ⟨cfg, rfl⟩

/-! ### The duplicate checks -/

/-- A keyword is there in some line. -/
def Said (lines : List Line) (k : Keyword) : Prop := ∃ line ∈ lines, line.name = k.name

/-- After some lines, the first line of a keyword is accepted if its arguments are valid, and
another is refused. -/
def DuplicateExact (atof : Atof) (httpParse : Bool) (other : Keyword → Argv → ρ → Option ρ)
    (lines : List Line) (data : KeywordConfig × ρ) (line : Line) (k : Keyword) : Prop :=
  (¬ Said lines k → k.Valid atof httpParse line.argv →
    ∃ data', parseLine atof httpParse other line data = some data') ∧
  (Said lines k → parseLine atof httpParse other line data = none)

/-- The fields tell whether the keyword of a valid line was there: if it was not, it is not
`tcp_rst`, nor was a keyword with the same check, and if it was, one of its lines filled its
slot. -/
def Told (atof : Atof) (httpParse : Bool) (lines : List Line) (line : Line) (k : Keyword) : Prop :=
  k.Valid atof httpParse line.argv →
    (¬ Said lines k → k ≠ .tcpRst ∧ ∀ l : Keyword, l ≠ k → l.slot = k.slot → ¬ Said lines l) ∧
    (Said lines k → ∃ line' ∈ lines, line'.name = k.name ∧ k.Fills atof line'.argv)

lemma Keyword.slot_eq_tcpRst (h : k.slot = .tcpRst) : k = .tcpRst := by
  cases k <;> first | rfl | cases h

/-- Only `tcp_rst` is set at the start. -/
lemma seen_gConfig (ho : k.once atof httpParse = some o) :
    o.seen gConfig = true ↔ k = .tcpRst := by
  constructor
  · intro hseen
    obtain ⟨f, hf, hset⟩ := List.any_eq_true.mp hseen
    by_cases htcp : Field.flag .tcpRst = f
    · have howner := (once_spec ho).marks f hf
      rw [← htcp] at howner
      exact k.slot_eq_tcpRst howner.symm
    · have hzero : gConfig.isSet f = KeywordConfig.zero.isSet f := KeywordConfig.isSet_write htcp
      rw [hzero, KeywordConfig.isSet_zero] at hset
      cases hset
  · rintro rfl
    cases ho
    rfl

lemma fresh_gConfig : gConfig.Fresh := fun _ => rfl

/-- A line of a keyword with the same check fills the slot, unless only its own lines do. -/
lemma exists_fills_iff {lines : List Line} (ho : k.once atof httpParse = some o) :
    (∃ c ∈ lines, c.slot atof httpParse = some k.slot ∧
        ∃ l : Keyword, c.name = l.name ∧ l.Fills atof c.argv) ↔
      (∃ l : Keyword, l ≠ k ∧ l.slot = k.slot ∧ Said lines l) ∨
        ∃ c ∈ lines, c.name = k.name ∧ k.Fills atof c.argv := by
  constructor
  · rintro ⟨c, hc, hslot, l, hl, hfills⟩
    obtain ⟨l', o', hl', -, hsame⟩ := Line.slot_eq_some hslot
    obtain rfl := Keyword.name_inj (hl.symm.trans hl')
    by_cases hlk : l = k
    · subst hlk
      exact .inr ⟨c, hc, hl, hfills⟩
    · exact .inl ⟨l, hlk, hsame, c, hc, hl⟩
  · rintro (⟨l, hlk, hsame, c, hc, hl⟩ | ⟨c, hc, hk, hfills⟩)
    · have hol : l.once atof httpParse = some o := by
        rw [← l.once_slot, hsame, k.once_slot, ho]
      exact ⟨c, hc, hsame ▸ Line.slot_eq hl hol, l, hl, (k.fills_of_slot hlk hsame atof c.argv).2⟩
    · exact ⟨c, hc, Line.slot_eq hk ho, k, hk, hfills⟩

/-- What has filled the slot of a keyword, when a line of it is refused with valid arguments. -/
def SlotFilled (atof : Atof) (lines : List Line) (k : Keyword) : Prop :=
  k = .tcpRst ∨ (∃ l : Keyword, l ≠ k ∧ l.slot = k.slot ∧ Said lines l) ∨
    ∃ c ∈ lines, c.name = k.name ∧ k.Fills atof c.argv

lemma parseLine_eq_none_iff {lines : List Line} {rest : ρ}
    (hrun : parseLines atof httpParse other lines (gConfig, rest) = some data)
    (hk : line.name = k.name) (ho : k.once atof httpParse = some o) :
    parseLine atof httpParse other line data = none ↔
      SlotFilled atof lines k ∨ ¬ k.Valid atof httpParse line.argv := by
  have hfresh : (lineCallsOnce atof httpParse other).Inv (gConfig, rest) := fresh_gConfig
  have hvalid : (∃ l : Keyword, line.name = l.name ∧ l.Valid atof httpParse line.argv) ↔
      k.Valid atof httpParse line.argv :=
    ⟨fun ⟨l, hl, h⟩ => Keyword.name_inj (hk.symm.trans hl) ▸ h, fun h => ⟨k, hk, h⟩⟩
  have hstart : SlotSet atof httpParse k.slot gConfig ↔ k = .tcpRst := by
    rw [slotSet_iff ho, seen_gConfig ho]
  calc parseLine atof httpParse other line data = none
      ↔ (SlotSet atof httpParse k.slot gConfig ∨
          ∃ c ∈ lines, c.slot atof httpParse = some k.slot ∧
            ∃ l : Keyword, c.name = l.name ∧ l.Fills atof c.argv) ∨
          ¬ ∃ l : Keyword, line.name = l.name ∧ l.Valid atof httpParse line.argv :=
        (lineCallsOnce atof httpParse other).run_none_iff hfresh hrun (Line.slot_eq hk ho)
    _ ↔ SlotFilled atof lines k ∨ ¬ k.Valid atof httpParse line.argv := by
        rw [hstart, exists_fills_iff ho, hvalid, SlotFilled]

/-- An accepted line has found its slot empty: it is none of `tcp_rst`. -/
lemma ne_tcpRst_of_said {lines : List Line} {rest : ρ}
    (hrun : parseLines atof httpParse other lines (gConfig, rest) = some data)
    (ho : k.once atof httpParse = some o) (hsaid : Said lines k) : k ≠ .tcpRst := by
  have hfresh : (lineCallsOnce atof httpParse other).Inv (gConfig, rest) := fresh_gConfig
  obtain ⟨c, hc, hname⟩ := hsaid
  rintro rfl
  exact (lineCallsOnce atof httpParse other).not_full_of_mem hfresh hrun hc (Line.slot_eq hname ho)
    ((slotSet_iff ho).mpr ((seen_gConfig ho).mpr rfl))

/-- **Duplicate checks.** After lines that were accepted, the duplicate check of a keyword does
what it is for exactly if the fields tell whether the keyword was there. -/
theorem configDuplicates_iff {lines : List Line} {rest : ρ}
    (hrun : parseLines atof httpParse other lines (gConfig, rest) = some data)
    (hk : line.name = k.name) (ho : k.once atof httpParse = some o) :
    DuplicateExact atof httpParse other lines data line k ↔ Told atof httpParse lines line k := by
  have hnone := parseLine_eq_none_iff hrun hk ho
  by_cases hvalid : k.Valid atof httpParse line.argv
  · rw [or_iff_left (not_not_intro hvalid)] at hnone
    have haccept : (∃ data', parseLine atof httpParse other line data = some data') ↔
        ¬ SlotFilled atof lines k := by
      rw [← hnone, ← Option.ne_none_iff_exists']
    rw [DuplicateExact, Told, hnone, haccept, SlotFilled, imp_iff_right hvalid,
      imp_iff_right hvalid]
    refine and_congr (forall_congr' fun hfirst => ?_) (forall_congr' fun hagain => ?_)
    · -- no line of the keyword has filled the slot
      have hown : ¬ ∃ c ∈ lines, c.name = k.name ∧ k.Fills atof c.argv :=
        fun ⟨c, hc, hname, _⟩ => hfirst ⟨c, hc, hname⟩
      rw [or_iff_left hown, not_or, not_exists]
      exact and_congr_right fun _ => forall_congr' fun l => by rw [not_and, not_and]
    · -- a line of a keyword with the same check fills the slot, as all of either do
      rw [or_iff_right (ne_tcpRst_of_said hrun ho hagain)]
      refine or_iff_right_of_imp fun ⟨l, hlk, hsame, _⟩ => ?_
      obtain ⟨c, hc, hname⟩ := hagain
      exact ⟨c, hc, hname, (k.fills_of_slot hlk hsame atof c.argv).1⟩
  · have hrefused := hnone.mpr (.inr hvalid)
    exact iff_of_true ⟨fun _ h => absurd h hvalid, fun _ => hrefused⟩ fun h => absurd h hvalid

end Lines

/-- No line here has a number of floating point. -/
def Atof.none : Atof := ⟨fun _ _ => 0, fun _ => false⟩

/-- The line `flood`. -/
def floodLine : Line := ⟨ascii "flood", [], by decide⟩

/-- The line `mode client`. -/
def modeClientLine : Line := ⟨ascii "mode", [ascii "client"], by decide⟩

/-- Two lines `flood`. -/
theorem configDuplicates_flood :
    parseLines .none true (fun _ _ rest => some rest) [floodLine] (gConfig, ()) =
        some (gConfig.write (.flag .flood true), ()) ∧
      parseLine .none true (fun _ _ rest => some rest) floodLine
        (gConfig.write (.flag .flood true), ()) = none := by
  have hrun : parseLines .none true (fun _ _ rest => some rest) [floodLine] (gConfig, ()) =
      some (gConfig.write (.flag .flood true), ()) := rfl
  have hsaid : Said [floodLine] .flood := ⟨floodLine, List.mem_singleton_self _, rfl⟩
  refine ⟨hrun, ((configDuplicates_iff (k := .flood) hrun rfl rfl).mpr ?_).2
    hsaid⟩
  exact fun _ => ⟨fun hfirst => absurd hsaid hfirst,
    fun _ => ⟨floodLine, List.mem_singleton_self _, rfl, trivial⟩⟩

/-- The second line `mode client` is accepted. -/
theorem configDuplicates_fails :
    parseLines .none true (fun _ _ rest => some rest) [modeClientLine] (gConfig, ()) =
        some (gConfig.write (.flag .server false), ()) ∧
      ¬ DuplicateExact .none true (fun _ _ rest => some rest) [modeClientLine]
        (gConfig.write (.flag .server false), ()) modeClientLine .mode := by
  refine ⟨rfl, fun hexact => ?_⟩
  have hrefused := hexact.2 ⟨modeClientLine, List.mem_singleton_self _, rfl⟩
  have haccepted : parseLine .none true (fun _ _ rest => some rest) modeClientLine
      (gConfig.write (.flag .server false), ()) =
        some ((gConfig.write (.flag .server false)).write (.flag .server false), ()) := rfl
  rw [haccepted] at hrefused
  cases hrefused

end Dperf.Keywords
