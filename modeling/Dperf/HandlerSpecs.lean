import Dperf.ConfigHandlers

/-!
What the handlers with a duplicate check do to the fields of the configuration.

* `Field.owner`: the keyword whose handler writes a field.
* `Keyword.Fills`: the lines that set what the duplicate check of their keyword asks for.
* `Once.Spec`: what a handler does; `once_spec` has one case for each keyword, and the cases of a
  kind rest on one lemma.
-/

namespace Dperf.Keywords

/-! ### Slots -/

/-- Two keywords have one duplicate check. -/
def Keyword.slot : Keyword → Keyword
  | .lportRange => .clientPortRange
  | k => k

/-- The keyword whose handler writes a field. -/
def Field.owner : Field → Keyword
  | .flag .server => .mode
  | .flag .keepalive | .num .keepaliveRequestNum | .num .keepaliveRequestIntervalUs => .keepalive
  | .flag .kni | .str .kniIfname => .kni
  | .flag .daemon => .daemon
  | .flag .flood => .flood
  | .flag .jumbo | .num .jumboMtu => .jumbo
  | .flag .payloadRandom => .payloadRandom
  | .flag .clientHop => .clientHop
  | .flag .simd512 => .simd512
  | .flag .fastClose => .fastClose
  | .flag .clearScreen => .clearScreen
  | .flag .disableAck => .disableAck
  | .flag .quiet => .quiet
  | .flag .tcpRst => .tcpRst
  | .flag .neighIgnore => .neighIgnore
  | .flag .flowIsolate => .flowIsolate
  | .flag .http | .num .protocol => .protocol
  | .num .logLevel => .logLevel
  | .num .httpMethod => .httpMethod
  | .num .tos => .tos
  | .num .pipeline => .pipeline
  | .num .txBurst => .txBurst
  | .num .sendWindow => .sendWindow
  | .num .vlanId => .vlan
  | .num .lportMin | .num .lportMax => .clientPortRange
  | .num .mss => .mss
  | .num .wait => .wait
  | .num .slowStart => .slowStart
  | .num .duration => .duration
  | .num .cps => .cps
  | .num .cc => .cc
  | .cpu | .num .cpuNum => .cpu
  | .num .listen | .num .listenNum => .listen
  | .num .retransmitTimeoutSec => .retransmitTimeout
  | .num .launchNum => .launchNum
  | .str .httpHost => .httpHost
  | .str .httpPath => .httpPath
  | .str .payloadPath => .payloadFile
  | .str .socketMem => .socketMem
  | .payloadSize => .payloadSize

/-- The arguments of a keyword set what its duplicate check asks for. -/
def Keyword.Fills (atof : Atof) : Keyword → Argv → Prop
  | .mode, argv => arg argv 1 ≠ ascii "client"
  | .httpMethod, argv => arg argv 1 ≠ ascii "GET"
  | .pipeline, argv | .tcpRst, argv => atoi (arg argv 1) ≠ 0
  | .cps, argv | .payloadSize, argv => configParseNumber atof (arg argv 1) true true ≠ 0
  | .launchNum, argv => configParseNumber atof (arg argv 1) false false ≠ 0
  | .txBurst, argv => (configParseNumber atof (arg argv 1) false false).toInt % 2 ^ 8 ≠ 0
  | .tos, argv => configParseHex (arg argv 1) 0 0xff ≠ some 0
  | _, _ => True

lemma Keyword.once_slot (atof : Atof) (httpParse : Bool) (k : Keyword) :
    k.slot.once atof httpParse = k.once atof httpParse := by
  cases k <;> rfl

/-- A keyword that shares its check with another always fills it. -/
lemma Keyword.fills_of_slot {k l : Keyword} (hne : l ≠ k) (hslot : l.slot = k.slot) (atof : Atof)
    (argv : Argv) : k.Fills atof argv ∧ l.Fills atof argv := by
  by_cases hk : k = .lportRange
  · subst hk
    obtain rfl : l = .clientPortRange := by
      cases l <;> first | rfl | exact absurd rfl hne | cases hslot
    exact ⟨trivial, trivial⟩
  · have hkslot : k.slot = k := by cases k <;> first | rfl | exact absurd rfl hk
    by_cases hl : l = .lportRange
    · subst hl
      obtain rfl : k = .clientPortRange := hkslot.symm.trans hslot.symm
      exact ⟨trivial, trivial⟩
    · have hlslot : l.slot = l := by cases l <;> first | rfl | exact absurd rfl hl
      exact absurd (hlslot.symm.trans (hslot.trans hkslot)) hne

/-! ### Writes -/

namespace KeywordConfig

variable {cfg : KeywordConfig} {w : Write} {ws : List Write} {f : Field}

/-- A write leaves the other fields. -/
lemma isSet_write (h : w.field ≠ f) : (cfg.write w).isSet f = cfg.isSet f := by
  cases w with
  | flag g v =>
      cases f with
      | flag f => exact Function.update_of_ne (fun heq => h (congrArg Field.flag heq.symm)) _ _
      | num f | str f | cpu | payloadSize => rfl
  | num g v =>
      cases f with
      | num f =>
          have hkept : (cfg.write (.num g v)).num f = cfg.num f :=
            Function.update_of_ne (fun heq => h (congrArg Field.num heq.symm)) _ _
          exact congrArg (· != 0) hkept
      | flag f | str f | cpu | payloadSize => rfl
  | str g v =>
      cases f with
      | str f =>
          have hkept : (cfg.write (.str g v)).str f = cfg.str f :=
            Function.update_of_ne (fun heq => h (congrArg Field.str heq.symm)) _ _
          exact congrArg (fun s => s.headD 0 != 0) hkept
      | flag f | num f | cpu | payloadSize => rfl
  | cpu vs =>
      cases f with
      | cpu => exact absurd rfl h
      | flag f | num f | str f | payloadSize => rfl
  | payloadSize vs =>
      cases f with
      | payloadSize => exact absurd rfl h
      | flag f | num f | str f | cpu => rfl

@[simp] lemma isSet_write_flag (g : Flag) (v : Bool) :
    (cfg.write (.flag g v)).isSet (.flag g) = v := Function.update_self ..

@[simp] lemma isSet_write_num (g : Num) (v : Int32) :
    (cfg.write (.num g v)).isSet (.num g) = (g.store v != 0) :=
  congrArg (· != 0) (Function.update_self ..)

@[simp] lemma isSet_write_str (g : Str) (v : List UInt8) :
    (cfg.write (.str g v)).isSet (.str g) = (v.headD 0 != 0) :=
  congrArg (fun s : List UInt8 => s.headD 0 != 0) (Function.update_self ..)

/-- The writes of a handler leave the fields of the others. -/
lemma isSet_foldl (h : ∀ w ∈ ws, w.field.owner ≠ f.owner) :
    (ws.foldl write cfg).isSet f = cfg.isSet f := by
  induction ws generalizing cfg with
  | nil => rfl
  | cons w ws ih =>
      rw [List.foldl_cons, ih fun w hw => h w (List.mem_cons_of_mem _ hw)]
      exact isSet_write fun heq => h w List.mem_cons_self (congrArg Field.owner heq)

/-- The number of requests is not there before the keyword. -/
def Fresh (cfg : KeywordConfig) : Prop :=
  cfg.isSet (.flag .keepalive) = false → cfg.isSet (.num .keepaliveRequestNum) = false

end KeywordConfig

/-! ### What a handler does -/

/-- The words of a line: none is empty or has a zero. -/
def AreWords (argv : Argv) : Prop := ∀ w ∈ argv, w ≠ [] ∧ 0 ∉ w

instance (argv : Argv) : Decidable (AreWords argv) :=
  inferInstanceAs (Decidable (∀ w ∈ argv, w ≠ [] ∧ 0 ∉ w))

/-- What a handler does: it writes the fields of its keyword only, it fills its slot exactly if
the arguments do, and it accepts the same arguments in every configuration. -/
structure Once.Spec (o : Once) (g : Keyword) (fills : Argv → Prop) : Prop where
  marks : ∀ f ∈ o.marks, f.owner = g
  writes : ∀ {cfg argv ws}, o.body cfg argv = .ok ws → ∀ w ∈ ws, w.field.owner = g
  filled : ∀ {cfg argv ws}, AreWords argv → o.argc argv.length = true →
    o.body cfg argv = .ok ws → (o.seen (ws.foldl KeywordConfig.write cfg) = true ↔ fills argv)
  body_congr : ∀ {cfg argv}, cfg.Fresh → o.seen cfg = false →
    o.body cfg argv = o.body KeywordConfig.zero argv

section Families

variable {o : Once} {g : Keyword}

lemma seen_singleton {f : Field} (hmarks : o.marks = [f]) (cfg : KeywordConfig) :
    o.seen cfg = cfg.isSet f := by
  rw [Once.seen, hmarks, List.any_cons, List.any_nil, Bool.or_false]

/-- The argument of a keyword with one. -/
lemma AreWords.arg_one {argv : Argv} (h : AreWords argv) (hlen : argv.length = 2) :
    arg argv 1 ≠ [] ∧ 0 ∉ arg argv 1 := by
  refine h _ ?_
  rw [arg, List.getD_eq_getElem _ _ (by omega)]
  exact List.getElem_mem _

lemma AreWords.head_ne {w : List UInt8} (h : w ≠ [] ∧ 0 ∉ w) : w.headD 0 ≠ 0 := by
  obtain ⟨c, w, rfl⟩ := List.exists_cons_of_ne_nil h.1
  exact fun hc => h.2 (List.mem_cons.mpr (.inl hc.symm))

/-- What a handler writes last is set. -/
lemma isSet_concat_flag (ws : List Write) {f : Flag} (cfg : KeywordConfig) :
    ((ws ++ [Write.flag f true]).foldl KeywordConfig.write cfg).isSet (.flag f) = true := by
  rw [List.foldl_append, List.foldl_cons, List.foldl_nil, KeywordConfig.isSet_write_flag]

/-- A handler that writes its flag last. -/
lemma concat_flag_spec {f : Flag} (howner : Field.owner (.flag f) = g)
    (hmarks : o.marks = [.flag f])
    (hbody : ∀ {cfg argv ws}, o.body cfg argv = .ok ws →
      ∃ ws', ws = ws' ++ [.flag f true] ∧ ∀ w ∈ ws', w.field.owner = g)
    (hcongr : ∀ {cfg argv}, cfg.Fresh → o.seen cfg = false →
      o.body cfg argv = o.body KeywordConfig.zero argv) : o.Spec g fun _ => True where
  marks _ hf := by
    rw [hmarks] at hf
    exact List.mem_singleton.mp hf ▸ howner
  writes h w hw := by
    obtain ⟨ws', rfl, hws'⟩ := hbody h
    rcases List.mem_append.mp hw with hw | hw
    · exact hws' w hw
    · exact List.mem_singleton.mp hw ▸ howner
  filled {cfg argv ws} _ _ h := by
    obtain ⟨ws', rfl, -⟩ := hbody h
    rw [seen_singleton hmarks, isSet_concat_flag]
    exact iff_of_true rfl trivial
  body_congr := hcongr

lemma flag_spec {f : Flag} (howner : Field.owner (.flag f) = g) (hmarks : o.marks = [.flag f])
    (hbody : o.body = fun _ _ => .ok [.flag f true]) : o.Spec g fun _ => True := by
  refine concat_flag_spec howner hmarks (fun {cfg argv ws} h => ?_) fun _ _ => by rw [hbody]
  rw [hbody] at h
  exact ⟨[], (Except.ok.inj h).symm, fun w hw => absurd hw List.not_mem_nil⟩

/-- What a keyword with a number writes. -/
lemma numberKeyword_ok {f : Num} {duplicate bad : String} {value : List UInt8 → Option Int32}
    {cfg : KeywordConfig} {argv : Argv} {ws : List Write}
    (h : (numberKeyword f duplicate value bad).body cfg argv = .ok ws) :
    ∃ v, value (arg argv 1) = some v ∧ ws = [.num f v] := by
  rw [numberKeyword] at h
  dsimp only at h
  split at h
  · cases h
  next v hv => exact ⟨v, hv, (Except.ok.inj h).symm⟩

lemma number_spec {f : Num} {duplicate bad : String} {value : List UInt8 → Option Int32}
    {fills : Argv → Prop} (howner : Field.owner (.num f) = g)
    (hfills : ∀ argv v, value (arg argv 1) = some v → (f.store v ≠ 0 ↔ fills argv)) :
    (numberKeyword f duplicate value bad).Spec g fills where
  marks _ hf := List.mem_singleton.mp hf ▸ howner
  writes {cfg argv ws} h w hw := by
    obtain ⟨v, -, rfl⟩ := numberKeyword_ok h
    exact List.mem_singleton.mp hw ▸ howner
  filled {cfg argv ws} _ _ h := by
    obtain ⟨v, hv, rfl⟩ := numberKeyword_ok h
    rw [seen_singleton rfl, List.foldl_cons, List.foldl_nil, KeywordConfig.isSet_write_num,
      bne_iff_ne]
    exact hfills argv v hv
  body_congr _ _ := rfl

/-- What a keyword with a string writes. -/
lemma stringKeyword_ok {f : Str} {duplicate long : String} {size : ℕ} {ok : List UInt8 → Bool}
    {cfg : KeywordConfig} {argv : Argv} {ws : List Write}
    (h : (stringKeyword f duplicate size long ok).body cfg argv = .ok ws) :
    ws = [.str f (arg argv 1)] := by
  rw [stringKeyword] at h
  dsimp only at h
  split_ifs at h
  exact (Except.ok.inj h).symm

lemma string_spec {f : Str} {duplicate long : String} {size : ℕ} {ok : List UInt8 → Bool}
    (howner : Field.owner (.str f) = g) :
    (stringKeyword f duplicate size long ok).Spec g fun _ => True where
  marks _ hf := List.mem_singleton.mp hf ▸ howner
  writes {cfg argv ws} h w hw := by
    obtain rfl := stringKeyword_ok h
    exact List.mem_singleton.mp hw ▸ howner
  filled {cfg argv ws} hwords hargc h := by
    have hlen : argv.length = 2 := beq_iff_eq.mp hargc
    obtain rfl := stringKeyword_ok h
    rw [seen_singleton rfl, List.foldl_cons, List.foldl_nil, KeywordConfig.isSet_write_str,
      bne_iff_ne]
    exact iff_of_true (AreWords.head_ne (hwords.arg_one hlen)) trivial
  body_congr _ _ := rfl

/-- What a keyword with a choice writes. -/
lemma choiceKeyword_ok {f : Field} {duplicate bad : String}
    {choice : List UInt8 → Option (List Write)} {cfg : KeywordConfig} {argv : Argv}
    {ws : List Write} (h : (choiceKeyword f duplicate choice bad).body cfg argv = .ok ws) :
    choice (arg argv 1) = some ws := by
  rw [choiceKeyword] at h
  dsimp only at h
  split at h
  · cases h
  next ws' hws =>
    obtain rfl := Except.ok.inj h
    exact hws

lemma choice_spec {f : Field} {duplicate bad : String}
    {choice : List UInt8 → Option (List Write)} {fills : Argv → Prop} (howner : f.owner = g)
    (hchoice : ∀ argv ws, choice (arg argv 1) = some ws → (∀ w ∈ ws, w.field.owner = g) ∧
      ∀ cfg : KeywordConfig, (ws.foldl KeywordConfig.write cfg).isSet f = true ↔ fills argv) :
    (choiceKeyword f duplicate choice bad).Spec g fills where
  marks _ hf := List.mem_singleton.mp hf ▸ howner
  writes {cfg argv ws} h := (hchoice argv ws (choiceKeyword_ok h)).1
  filled {cfg argv ws} _ _ h := by
    rw [seen_singleton rfl]
    exact (hchoice argv ws (choiceKeyword_ok h)).2 cfg
  body_congr _ _ := rfl

end Families

/-! ### Numbers -/

section Values

variable {min max val v : Int32}

lemma toInt_ne_zero_iff : v.toInt ≠ 0 ↔ v ≠ 0 := (Int32.toInt_inj (y := 0)).not

lemma atLeast_eq_some (h : atLeast min val = some v) : val = v ∧ min.toInt ≤ v.toInt := by
  rw [atLeast] at h
  split_ifs at h with hlt
  obtain rfl := Option.some.inj h
  rw [Int32.lt_iff_toInt_lt] at hlt
  exact ⟨rfl, by omega⟩

lemma inRange_eq_some (h : inRange min max val = some v) :
    val = v ∧ min.toInt ≤ v.toInt ∧ v.toInt ≤ max.toInt := by
  rw [inRange] at h
  split_ifs at h with hout
  obtain rfl := Option.some.inj h
  rw [gt_iff_lt, Int32.lt_iff_toInt_lt, Int32.lt_iff_toInt_lt] at hout
  exact ⟨rfl, by omega, by omega⟩

/-- A value of `config_parse_hex` for one byte fits. -/
lemma configParseHex_eq_some {str : List UInt8} (h : configParseHex str 0 0xff = some v) :
    0 ≤ v.toInt ∧ v.toInt ≤ 255 := by
  rw [configParseHex] at h
  obtain ⟨val, -, hval⟩ := Option.bind_eq_some_iff.mp h
  split_ifs at hval with hrange
  obtain rfl := Option.some.inj hval
  have hmin : (0 : ℤ) ≤ val.toInt := Int64.le_iff_toInt_le.mp hrange.1
  have hmax : val.toInt ≤ 255 := Int64.le_iff_toInt_le.mp hrange.2
  rw [Int64.toInt_toInt32, Int.bmod_eq_of_le (by omega) (by omega)]
  exact ⟨hmin, hmax⟩

end Values

/-! ### The keywords with a number -/

section NumberKeywords

variable (atof : Atof)

lemma pipeline_spec : configParsePipeline.Spec .pipeline (Keyword.pipeline.Fills atof) := by
  refine number_spec rfl fun argv v hv => ?_
  obtain ⟨rfl, hmin, hmax⟩ := inRange_eq_some hv
  have hmin : 0 ≤ (atoi (arg argv 1)).toInt := hmin
  have hmax : (atoi (arg argv 1)).toInt ≤ 100 := hmax
  change (atoi (arg argv 1)).toInt % 2 ^ 8 ≠ 0 ↔ atoi (arg argv 1) ≠ 0
  rw [← toInt_ne_zero_iff, Int.emod_eq_of_lt hmin (by omega)]

lemma cps_spec : (configParseCps atof).Spec .cps (Keyword.cps.Fills atof) := by
  refine number_spec rfl fun argv v hv => ?_
  obtain ⟨rfl, -⟩ := atLeast_eq_some hv
  exact toInt_ne_zero_iff

lemma launchNum_spec : (configParseLaunchNum atof).Spec .launchNum
    (Keyword.launchNum.Fills atof) := by
  refine number_spec rfl fun argv v hv => ?_
  obtain ⟨rfl, hmin⟩ := atLeast_eq_some hv
  have hmin : 0 ≤ (configParseNumber atof (arg argv 1) false false).toInt := hmin
  have hmax := (configParseNumber atof (arg argv 1) false false).toInt_lt
  change (configParseNumber atof (arg argv 1) false false).toInt % 2 ^ 32 ≠ 0 ↔
    configParseNumber atof (arg argv 1) false false ≠ 0
  rw [← toInt_ne_zero_iff, Int.emod_eq_of_lt hmin (by omega)]

lemma txBurst_spec : (configParseTxBurst atof).Spec .txBurst (Keyword.txBurst.Fills atof) := by
  refine number_spec rfl fun argv v hv => ?_
  obtain ⟨rfl, -⟩ := inRange_eq_some hv
  exact Iff.rfl

lemma tos_spec : configParseTos.Spec .tos (Keyword.tos.Fills atof) := by
  refine number_spec rfl fun argv v hv => ?_
  obtain ⟨hmin, hmax⟩ := configParseHex_eq_some hv
  change v.toInt % 2 ^ 8 ≠ 0 ↔ configParseHex (arg argv 1) 0 0xff ≠ some 0
  rw [hv, Int.emod_eq_of_lt hmin (by omega), toInt_ne_zero_iff]
  exact (Option.some_inj (b := 0)).not.symm

/-- A value from 1 on, in a field with room for the largest. -/
lemma positive_spec {f : Num} {g : Keyword} {duplicate bad : String}
    {value : List UInt8 → Option Int32} (max : ℤ) (howner : Field.owner (.num f) = g)
    (hvalue : ∀ str v, value str = some v → 1 ≤ v.toInt ∧ v.toInt ≤ max)
    (hstore : ∀ v : Int32, 1 ≤ v.toInt → v.toInt ≤ max → f.store v = v.toInt) :
    (numberKeyword f duplicate value bad).Spec g fun _ => True := by
  refine number_spec howner fun argv v hv => iff_of_true ?_ trivial
  obtain ⟨hmin, hmax⟩ := hvalue _ v hv
  rw [hstore v hmin hmax]
  omega

lemma atLeast_bounds {val v : Int32} (h : atLeast 1 val = some v) :
    1 ≤ v.toInt ∧ v.toInt ≤ 2 ^ 31 :=
  ⟨(atLeast_eq_some h).2, v.toInt_lt.le⟩

/-- A store into fewer bits keeps a value that fits. -/
lemma emod_store {w : ℕ} {max : ℤ} (hmax : max < 2 ^ w) (v : Int32) (h1 : 1 ≤ v.toInt)
    (h2 : v.toInt ≤ max) : v.toInt % 2 ^ w = v.toInt :=
  Int.emod_eq_of_lt (by omega) (by omega)

lemma cc_spec : (configParseCc atof).Spec .cc fun _ => True :=
  positive_spec (2 ^ 31) rfl (fun _ _ h => atLeast_bounds h) fun _ _ _ => rfl

lemma wait_spec : (configParseWait atof).Spec .wait fun _ => True :=
  positive_spec (2 ^ 31) rfl (fun _ _ h => atLeast_bounds h) fun _ _ _ => rfl

lemma mss_spec : (configParseMss atof).Spec .mss fun _ => True :=
  positive_spec (2 ^ 31) rfl (fun _ _ h => atLeast_bounds h) fun _ _ _ => rfl

lemma duration_spec : (configParseDuration atof).Spec .duration fun _ => True := by
  refine positive_spec (2 ^ 31) rfl (fun str v h => ?_) fun _ _ _ => rfl
  split_ifs at h
  exact atLeast_bounds h

lemma inRange_bounds {min max val v : Int32} (hmin : 1 ≤ min.toInt)
    (h : inRange min max val = some v) : 1 ≤ v.toInt ∧ v.toInt ≤ max.toInt :=
  ⟨hmin.trans (inRange_eq_some h).2.1, (inRange_eq_some h).2.2⟩

lemma slowStart_spec : (configParseSlowStart atof).Spec .slowStart fun _ => True :=
  positive_spec 600 rfl (fun _ _ h => inRange_bounds (by decide) h) fun _ _ _ => rfl

lemma sendWindow_spec : (configParseSendWindow atof).Spec .sendWindow fun _ => True :=
  positive_spec 16 rfl (fun _ _ h => inRange_bounds (by decide) h) (emod_store (w := 8) (by decide))

lemma vlan_spec : configParseVlan.Spec .vlan fun _ => True :=
  positive_spec 4094 rfl (fun _ _ h => inRange_bounds (by decide) h)
    (emod_store (w := 16) (by decide))

lemma retransmitTimeout_spec :
    configParseRetransmitTimeout.Spec .retransmitTimeout fun _ => True :=
  positive_spec 300 rfl (fun _ _ h => inRange_bounds (by decide) h)
    (emod_store (w := 32) (by decide))

end NumberKeywords

/-! ### The keywords with a choice -/

section ChoiceKeywords

variable (atof : Atof)

/-- A choice with one write. -/
lemma choice_one {w : Write} {f : Field} {g : Keyword} {b : Bool} {p : Prop}
    (howner : w.field.owner = g) (hset : ∀ cfg : KeywordConfig, (cfg.write w).isSet f = b)
    (hp : b = true ↔ p) : (∀ w' ∈ [w], w'.field.owner = g) ∧
      ∀ cfg : KeywordConfig, ([w].foldl KeywordConfig.write cfg).isSet f = true ↔ p := by
  refine ⟨fun _ hw => List.mem_singleton.mp hw ▸ howner, fun cfg => ?_⟩
  rw [List.foldl_cons, List.foldl_nil, hset]
  exact hp

lemma mode_spec : configParseMode.Spec .mode (Keyword.mode.Fills atof) := by
  refine choice_spec rfl fun argv ws hws => ?_
  split_ifs at hws with hclient hserver
  · obtain rfl := Option.some.inj hws
    exact choice_one rfl (fun _ => KeywordConfig.isSet_write_flag _ _)
      (iff_of_false Bool.false_ne_true (not_not_intro hclient))
  · obtain rfl := Option.some.inj hws
    exact choice_one rfl (fun _ => KeywordConfig.isSet_write_flag _ _) (iff_of_true rfl hclient)

lemma tcpRst_spec : configParseTcpRst.Spec .tcpRst (Keyword.tcpRst.Fills atof) := by
  refine choice_spec rfl fun argv ws hws => ?_
  split_ifs at hws with hzero hone
  · obtain rfl := Option.some.inj hws
    exact choice_one rfl (fun _ => KeywordConfig.isSet_write_flag _ _)
      (iff_of_false Bool.false_ne_true (not_not_intro hzero))
  · obtain rfl := Option.some.inj hws
    exact choice_one rfl (fun _ => KeywordConfig.isSet_write_flag _ _) (iff_of_true rfl hzero)

lemma httpMethod_spec :
    configParseHttpMethod.Spec .httpMethod (Keyword.httpMethod.Fills atof) := by
  refine choice_spec rfl fun argv ws hws => ?_
  split_ifs at hws with hget hpost
  · obtain rfl := Option.some.inj hws
    exact choice_one rfl (fun _ => KeywordConfig.isSet_write_num _ _)
      (iff_of_false (by decide) (not_not_intro hget))
  · obtain rfl := Option.some.inj hws
    exact choice_one rfl (fun _ => KeywordConfig.isSet_write_num _ _)
      (iff_of_true (by decide) hget)

/-- A choice that stores a number other than zero. -/
lemma choice_num {f : Num} {g : Keyword} {v : Int32} (howner : Field.owner (.num f) = g)
    (hv : f.store v ≠ 0) : (∀ w ∈ [Write.num f v], w.field.owner = g) ∧
      ∀ cfg : KeywordConfig,
        ([Write.num f v].foldl KeywordConfig.write cfg).isSet (.num f) = true ↔ True :=
  choice_one howner (fun _ => KeywordConfig.isSet_write_num _ _)
    (iff_of_true (bne_iff_ne.mpr hv) trivial)

lemma logLevel_spec : configParseLogLevel.Spec .logLevel fun _ => True := by
  refine choice_spec rfl fun argv ws hws => ?_
  split_ifs at hws
  all_goals
    obtain rfl := Option.some.inj hws
    exact choice_num rfl (by decide)

lemma protocol_spec (httpParse : Bool) :
    (configParseProtocol httpParse).Spec .protocol fun _ => True := by
  refine choice_spec rfl fun argv ws hws => ?_
  split_ifs at hws
  · obtain rfl := Option.some.inj hws
    exact choice_num rfl (by decide)
  · obtain rfl := Option.some.inj hws
    exact choice_num rfl (by decide)
  · obtain rfl := Option.some.inj hws
    refine ⟨fun w hw => ?_, fun cfg => ?_⟩
    · fin_cases hw
      · rfl
      · rfl
    · rw [List.foldl_cons, List.foldl_cons, List.foldl_nil,
        KeywordConfig.isSet_write (f := .num .protocol) (by decide),
        KeywordConfig.isSet_write_num]
      exact iff_of_true (by decide) trivial

end ChoiceKeywords

/-! ### The other keywords -/

section OtherKeywords

variable (atof : Atof)

/-- The flag is written last. -/
lemma keepalive_body {cfg : KeywordConfig} {argv : Argv} {ws : List Write}
    (h : (configParseKeepalive atof).body cfg argv = .ok ws) :
    ∃ ws', ws = ws' ++ [.flag .keepalive true] ∧ ∀ w ∈ ws', w.field.owner = .keepalive := by
  rw [configParseKeepalive] at h
  dsimp only at h
  split at h
  · cases h
  split at h
  · cases h
  split_ifs at h
  refine ⟨_, (Except.ok.inj h).symm, fun w hw => ?_⟩
  rw [List.mem_append, List.mem_singleton, List.mem_map] at hw
  obtain rfl | ⟨n, -, rfl⟩ := hw
  · rfl
  · rfl

lemma keepalive_spec : (configParseKeepalive atof).Spec .keepalive fun _ => True := by
  refine concat_flag_spec rfl rfl (fun h => keepalive_body atof h) fun {cfg argv} hfresh hseen => ?_
  rw [seen_singleton rfl] at hseen
  have hnum : cfg.num .keepaliveRequestNum = KeywordConfig.zero.num .keepaliveRequestNum :=
    bne_eq_false_iff_eq.mp (hfresh hseen)
  rw [configParseKeepalive]
  dsimp only
  rw [hnum]

/-- The loop over a range adds as many, as far as there is room. -/
lemma length_addCpus {left : ℕ} {cpu : Int32} {cpus cpus' : List Int32}
    (hcpus : cpus.length ≤ threadNumMax) (h : addCpus left cpu cpus = .ok cpus') :
    cpus'.length = cpus.length + left ∧ cpus'.length ≤ threadNumMax := by
  induction left generalizing cpu cpus with
  | zero =>
      obtain rfl := Except.ok.inj h
      exact ⟨rfl, hcpus⟩
  | succ left ih =>
      rw [addCpus] at h
      split_ifs at h with hroom
      have hlen : (cpus ++ [cpu]).length = cpus.length + 1 := by
        rw [List.length_append, List.length_singleton]
      obtain ⟨hadd, hmax⟩ := ih (by omega) h
      exact ⟨by omega, hmax⟩

/-- Every argument adds a processor, and there are at most 64. -/
lemma length_cpuArgs {args : List (List UInt8)} {cpus cpus' : List Int32}
    (hcpus : cpus.length ≤ threadNumMax) (h : cpuArgs atof args cpus = .ok cpus') :
    cpus.length + args.length ≤ cpus'.length ∧ cpus'.length ≤ threadNumMax := by
  induction args generalizing cpus with
  | nil =>
      obtain rfl := Except.ok.inj h
      exact ⟨le_rfl, hcpus⟩
  | cons p args ih =>
      rw [cpuArgs] at h
      split at h
      · cases h
      next cpuMin cpuMax _ =>
        split_ifs at h with hbad
        split at h
        · cases h
        next more hmore =>
          obtain ⟨hadd, hmax⟩ := length_addCpus hcpus hmore
          obtain ⟨hle, hmax'⟩ := ih hmax h
          rw [not_or, not_or, gt_iff_lt, Int32.lt_iff_toInt_lt (y := cpuMin)] at hbad
          have hturns : 0 < cpuTurns cpuMin cpuMax := by
            rw [cpuTurns]
            split_ifs
            · exact Nat.succ_pos _
            · omega
          rw [List.length_cons]
          exact ⟨by omega, hmax'⟩

lemma cpu_spec : (configParseCpu atof).Spec .cpu fun _ => True where
  marks _ hf := List.mem_singleton.mp hf ▸ rfl
  writes {cfg argv ws} h w hw := by
    rw [configParseCpu] at h
    dsimp only at h
    split at h
    · cases h
    split_ifs at h
    obtain rfl := Except.ok.inj h
    fin_cases hw
    · rfl
    · rfl
  filled {cfg argv ws} _ hargc h := by
    have hargc : 1 < argv.length := of_decide_eq_true hargc
    rw [configParseCpu] at h
    dsimp only at h
    split at h
    · cases h
    next cpus hcpus =>
      obtain ⟨hmin, hmax⟩ := length_cpuArgs atof (Nat.zero_le _) hcpus
      rw [List.length_nil, List.length_tail] at hmin
      split_ifs at h
      obtain rfl := Except.ok.inj h
      rw [seen_singleton rfl, List.foldl_cons]
      refine (choice_num rfl ?_).2 _
      change (Int32.ofNat cpus.length).toInt ≠ 0
      rw [Int32.toInt_ofNat_of_lt (hmax.trans_lt (by decide))]
      omega
  body_congr _ _ := rfl

lemma listen_spec : (configParseListen atof).Spec .listen fun _ => True where
  marks _ hf := List.mem_singleton.mp hf ▸ rfl
  writes {cfg argv ws} h w hw := by
    rw [configParseListen] at h
    dsimp only at h
    split_ifs at h
    obtain rfl := Except.ok.inj h
    fin_cases hw
    · rfl
    · rfl
  filled {cfg argv ws} _ _ h := by
    rw [configParseListen] at h
    dsimp only at h
    split_ifs at h with hok
    obtain rfl := Except.ok.inj h
    rw [seen_singleton rfl, List.foldl_cons]
    refine (choice_num rfl ?_).2 _
    have hpos : 0 < (configParseNumber atof (arg argv 2) false false).toInt :=
      Int32.lt_iff_toInt_lt.mp (of_decide_eq_true hok).2.1
    exact hpos.ne'
  body_congr _ _ := rfl

lemma toUInt32_ne_zero_iff {v : Int32} : v.toUInt32 ≠ 0 ↔ v ≠ 0 := by
  refine not_congr ⟨fun h => ?_, fun h => congrArg Int32.toUInt32 h⟩
  cases v
  cases h
  rfl

/-- The first size is that of the first argument. -/
lemma head_payloadSizes {str : List UInt8} {args : List (List UInt8)} {sizes : List Int32}
    (h : payloadSizes atof (str :: args) = .ok sizes) :
    sizes.headD 0 = configParseNumber atof str true true ∧ sizes ≠ [] := by
  rw [payloadSizes] at h
  split_ifs at h
  split at h
  · cases h
  · obtain rfl := Except.ok.inj h
    exact ⟨rfl, List.cons_ne_nil _ _⟩

lemma payloadSize_spec :
    (configParsePayloadSize atof).Spec .payloadSize (Keyword.payloadSize.Fills atof) where
  marks _ hf := List.mem_singleton.mp hf ▸ rfl
  writes {cfg argv ws} h w hw := by
    rw [configParsePayloadSize] at h
    dsimp only at h
    split at h
    · cases h
    obtain rfl := Except.ok.inj h
    exact List.mem_singleton.mp hw ▸ rfl
  filled {cfg argv ws} _ hargc h := by
    have hargc : 2 ≤ argv.length := of_decide_eq_true hargc
    obtain ⟨name, str, args, rfl⟩ : ∃ name str args, argv = name :: str :: args := by
      match argv, hargc with
      | name :: str :: args, _ => exact ⟨name, str, args, rfl⟩
    rw [configParsePayloadSize] at h
    dsimp only at h
    split at h
    · cases h
    next sizes hsizes =>
      obtain rfl := Except.ok.inj h
      obtain ⟨hhead, hne⟩ := head_payloadSizes atof hsizes
      obtain ⟨size, sizes, rfl⟩ := List.exists_cons_of_ne_nil hne
      rw [seen_singleton rfl, List.foldl_cons, List.foldl_nil]
      change (size.toUInt32 != 0) = true ↔ configParseNumber atof str true true ≠ 0
      rw [← hhead, bne_iff_ne]
      exact toUInt32_ne_zero_iff
  body_congr _ _ := rfl

lemma kni_spec : configParseKni.Spec .kni fun _ => True := by
  refine concat_flag_spec rfl rfl (fun {cfg argv ws} h => ?_) fun _ _ => rfl
  rw [configParseKni] at h
  dsimp only at h
  split_ifs at h
  all_goals exact ⟨[_], (Except.ok.inj h).symm, fun w hw => List.mem_singleton.mp hw ▸ rfl⟩

lemma jumbo_spec : configParseJumbo.Spec .jumbo fun _ => True := by
  refine concat_flag_spec rfl rfl (fun {cfg argv ws} h => ?_) fun _ _ => rfl
  rw [configParseJumbo] at h
  dsimp only at h
  split_ifs at h
  all_goals exact ⟨[_], (Except.ok.inj h).symm, fun w hw => List.mem_singleton.mp hw ▸ rfl⟩

lemma clientPortRange_spec : configParseClientPortRange.Spec .clientPortRange fun _ => True where
  marks f hf := by
    fin_cases hf
    · rfl
    · rfl
  writes {cfg argv ws} h w hw := by
    rw [configParseClientPortRange] at h
    dsimp only at h
    split_ifs at h
    all_goals
      obtain rfl := Except.ok.inj h
      fin_cases hw
      · rfl
      · rfl
  filled {cfg argv ws} _ _ h := by
    rw [configParseClientPortRange] at h
    dsimp only at h
    generalize (if argv.length = 3 then atoi (arg argv 2) else 65535) = lportMax at h
    split_ifs at h with hok
    obtain rfl := Except.ok.inj h
    have hpos : 0 < (atoi (arg argv 1)).toInt :=
      Int32.lt_iff_toInt_lt.mp (of_decide_eq_true hok).1
    refine iff_of_true (List.any_eq_true.mpr ⟨.num .lportMin, List.mem_cons_self, ?_⟩) trivial
    rw [List.foldl_cons, List.foldl_cons, List.foldl_nil,
      KeywordConfig.isSet_write (f := .num .lportMin) (fun h => by cases h),
      KeywordConfig.isSet_write_num, bne_iff_ne]
    exact hpos.ne'
  body_congr _ _ := rfl

end OtherKeywords

/-- Every handler with a duplicate check. -/
lemma once_spec {atof : Atof} {httpParse : Bool} {k : Keyword} {o : Once}
    (h : k.once atof httpParse = some o) : o.Spec k.slot (k.Fills atof) := by
  cases k <;> cases h
  case daemon => exact flag_spec rfl rfl rfl
  case keepalive => exact keepalive_spec atof
  case pipeline => exact pipeline_spec atof
  case mode => exact mode_spec atof
  case cpu => exact cpu_spec atof
  case socketMem => exact string_spec rfl
  case duration => exact duration_spec atof
  case cps => exact cps_spec atof
  case cc => exact cc_spec atof
  case flood => exact flag_spec rfl rfl rfl
  case launchNum => exact launchNum_spec atof
  case listen => exact listen_spec atof
  case payloadRandom => exact flag_spec rfl rfl rfl
  case payloadSize => exact payloadSize_spec atof
  case payloadFile => exact string_spec rfl
  case sendWindow => exact sendWindow_spec atof
  case mss => exact mss_spec atof
  case protocol => exact protocol_spec httpParse
  case txBurst => exact txBurst_spec atof
  case slowStart => exact slowStart_spec atof
  case wait => exact wait_spec atof
  case vlan => exact vlan_spec
  case kni => exact kni_spec
  case tos => exact tos_spec atof
  case jumbo => exact jumbo_spec
  case quiet => exact flag_spec rfl rfl rfl
  case tcpRst => exact tcpRst_spec atof
  case httpHost => exact string_spec rfl
  case httpPath => exact string_spec rfl
  case httpMethod => exact httpMethod_spec atof
  case lportRange => exact clientPortRange_spec
  case clientPortRange => exact clientPortRange_spec
  case clientHop => exact flag_spec rfl rfl rfl
  case simd512 => exact flag_spec rfl rfl rfl
  case fastClose => exact flag_spec rfl rfl rfl
  case clearScreen => exact flag_spec rfl rfl rfl
  case logLevel => exact logLevel_spec
  case disableAck => exact flag_spec rfl rfl rfl
  case retransmitTimeout => exact retransmitTimeout_spec
  case neighIgnore => exact flag_spec rfl rfl rfl
  case flowIsolate => exact flag_spec rfl rfl rfl

end Dperf.Keywords
