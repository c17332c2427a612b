import Dperf.PacketSizes

/-!
Two checks of `config_check_payload`: the classification of the workers, and the payload file.

* `statsLoop_eq_some_iff`: the turns of `config_check_stats_http` compare neighbours, but for the
  first two workers.
* `statsDecided_iff`: it decides whether all workers are of one class exactly if the first two are
  so whenever the others are.
* `configParse_payloadPath`: no configuration with a payload file passes.
-/

namespace Dperf

/-! ### HTTP statistics -/

section Stats

variable (payload : Option (List UInt8)) (cfg : SizeConfig)

/-- All workers count HTTP statistics, or none does. -/
def StatsAgree : Prop :=
  ∀ i < cfg.cpuNum, ∀ j < cfg.cpuNum, statsOf cfg payload i = statsOf cfg payload j

/-- `config_check_stats_http` accepts exactly the workers of one class, and finds their class. -/
structure StatsDecided : Prop where
  accepts : (configCheckStatsHttp payload cfg).isSome ↔ StatsAgree payload cfg
  common : ∀ cfg', configCheckStatsHttp payload cfg = some cfg' →
    ∀ i < cfg.cpuNum, cfg'.statsHttp = statsOf cfg payload i

/-- The turns before worker `n`: from the third worker on each is compared with the one before. -/
lemma statsLoop_eq_some_iff (n : ℕ) (cfg' : SizeConfig) :
    (List.range n).foldlM (fun c i => if 1 < i ∧ c.statsHttp ≠ statsOf c payload i then none
      else some { c with statsHttp := statsOf c payload i }) cfg = some cfg' ↔
    (∀ i, 1 < i → i < n → statsOf cfg payload (i - 1) = statsOf cfg payload i) ∧
      cfg' = { cfg with
        statsHttp := if n = 0 then cfg.statsHttp else statsOf cfg payload (n - 1) } := by
  induction n generalizing cfg' with
  | zero =>
      rw [List.range_zero, List.foldlM_nil]
      constructor
      · rintro h
        exact ⟨fun i _ hi => absurd hi (Nat.not_lt_zero i), (Option.some.inj h).symm⟩
      · rintro ⟨-, rfl⟩
        rfl
  | succ n ih =>
      rw [List.range_succ, List.foldlM_append]
      simp only [List.foldlM_cons, List.foldlM_nil, Option.bind_eq_bind, Option.bind_eq_some_iff,
        Option.ite_none_left_eq_some, Option.pure_def, Option.some.injEq, ih]
      constructor
      · rintro ⟨_, ⟨hprev, rfl⟩, _, ⟨hcmp, rfl⟩, rfl⟩
        refine ⟨fun i h1 hi => ?_, ?_⟩
        · rcases Nat.lt_succ_iff_lt_or_eq.mp hi with hlt | rfl
          · exact hprev i h1 hlt
          · have heq := not_not.mp fun hne => hcmp ⟨h1, hne⟩
            rwa [if_neg (by omega)] at heq
        · rw [if_neg (Nat.succ_ne_zero n), Nat.add_sub_cancel]
          rfl
      · rintro ⟨hadj, rfl⟩
        refine ⟨_, ⟨fun i h1 hi => hadj i h1 (by omega), rfl⟩, _, ⟨?_, rfl⟩, ?_⟩
        · rintro ⟨h1, hne⟩
          rw [if_neg (by omega)] at hne
          exact hne (hadj n h1 (Nat.lt_succ_self n))
        · rw [if_neg (Nat.succ_ne_zero n), Nat.add_sub_cancel]
          rfl

/-- The comparisons between neighbours make all workers but the first agree. -/
lemma statsOf_eq_one {n : ℕ}
    (h : ∀ i, 1 < i → i < n → statsOf cfg payload (i - 1) = statsOf cfg payload i) :
    ∀ i, 1 ≤ i → i < n → statsOf cfg payload i = statsOf cfg payload 1 := by
  intro i h1
  induction i, h1 using Nat.le_induction with
  | base => exact fun _ => rfl
  | succ i h1 ih =>
      intro hi
      rw [← h (i + 1) (by omega) hi, Nat.add_sub_cancel, ih (by omega)]

/-- **One class for all workers.** `config_check_stats_http` accepts exactly the configurations
whose workers are of one class, and finds their class, exactly if it is not the case that the
first worker differs from the second one while all others agree with that one. -/
theorem statsDecided_iff : StatsDecided payload cfg ↔
    (1 < cfg.cpuNum → (∀ i, 1 ≤ i → i < cfg.cpuNum →
      statsOf cfg payload i = statsOf cfg payload 1) →
        statsOf cfg payload 0 = statsOf cfg payload 1) := by
  have hrun := statsLoop_eq_some_iff payload cfg cfg.cpuNum
  constructor
  · rintro ⟨haccepts, -⟩ hcpu hrest
    have hadj : ∀ i, 1 < i → i < cfg.cpuNum →
        statsOf cfg payload (i - 1) = statsOf cfg payload i := fun i h1 hi => by
      rw [hrest i (by omega) hi, hrest (i - 1) (by omega) (by omega)]
    have hsome : configCheckStatsHttp payload cfg = some _ := (hrun _).mpr ⟨hadj, rfl⟩
    exact haccepts.mp (by rw [hsome]; rfl) 0 (by omega) 1 hcpu
  · intro hfirst
    have hall : (∀ i, 1 < i → i < cfg.cpuNum →
        statsOf cfg payload (i - 1) = statsOf cfg payload i) →
          ∀ i < cfg.cpuNum, statsOf cfg payload i = statsOf cfg payload (cfg.cpuNum - 1) := by
      intro hadj i hi
      have hone := statsOf_eq_one payload cfg hadj
      by_cases hcpu : 1 < cfg.cpuNum
      · rw [hone (cfg.cpuNum - 1) (by omega) (by omega)]
        rcases Nat.eq_zero_or_pos i with rfl | hpos
        · exact hfirst hcpu hone
        · exact hone i hpos hi
      · rw [show i = cfg.cpuNum - 1 by omega]
    refine ⟨⟨fun hsome => ?_, fun hagree => ?_⟩, fun cfg' hcheck i hi => ?_⟩
    · obtain ⟨cfg', hcheck⟩ := Option.isSome_iff_exists.mp hsome
      intro i hi j hj
      have hadj := ((hrun cfg').mp hcheck).1
      rw [hall hadj i hi, hall hadj j hj]
    · have hadj : ∀ i, 1 < i → i < cfg.cpuNum →
          statsOf cfg payload (i - 1) = statsOf cfg payload i := fun i h1 hi =>
        hagree (i - 1) (by omega) i hi
      have hcheck : configCheckStatsHttp payload cfg = some _ := (hrun _).mpr ⟨hadj, rfl⟩
      rw [hcheck]
      rfl
    · obtain ⟨hadj, rfl⟩ := (hrun cfg').mp hcheck
      dsimp only
      rw [if_neg (by omega), hall hadj i hi]

end Stats

/-- A server with two workers, the payloads of which are 40 and 200 bytes long. -/
def SizeConfig.mixed : SizeConfig :=
  { SizeConfig.single .tcp true 0 40 [] with
    payloadSize := fun i => [40, 200].getD i 0
    cpuNum := 2
    ports := [2] }

/-- One worker sends plain bytes and the other HTTP; the configuration is accepted. -/
theorem statsDecided_mixed : ¬ StatsDecided none .mixed ∧
    (configParse (fun _ => none) (fun _ _ => 0) .mixed).isSome := by
  refine ⟨fun h => ?_, rfl⟩
  have hagree := h.accepts.mp rfl 0 Nat.zero_lt_two 1 Nat.one_lt_two
  cases hagree

/-! ### The payload file -/

section File

variable (file : List UInt8 → Option (List UInt8)) (random : ℕ → ℕ → ℕ) (cfg : SizeConfig)

/-- An otherwise valid configuration that names a payload file, which is readable and has some
bytes that fit in a packet. -/
structure NamesFile (content : List UInt8) : Prop where
  path : cfg.payloadPath ≠ []
  no_size : ∀ i, cfg.payloadSize i = 0
  valid : (configParse file random { cfg with payloadPath := [] }).isSome
  readable : file cfg.payloadPath = some content
  nonempty : 1 ≤ content.length
  fits : (content.length : ℤ) ≤
    configPacketPayloadSize { cfg with protocol := some (cfg.protocol.getD .tcp) }
  no_nul : 0 ∉ content

/-- The checks succeed, the size of every worker is that of the file, and its template ends with
the bytes of the file. -/
def FileServed (content : List UInt8) : Prop :=
  ∃ cfg' payloads, configParse file random cfg = some (cfg', payloads) ∧
    ∀ i < cfg.cpuNum, cfg'.payloadSize i = content.length ∧ payloads i = content ∧
      ∀ rte w, Wire.WorkerOf cfg' payloads i w →
        ∃ headers, Wire.template rte w (payloads i)
          (if cfg'.protocol = some .tcp then .tcpData else .udp) = some (headers ++ content)

variable {cfg}

/-- The path is tested where it is about to be opened, as if the keyword stood there twice. -/
lemma configCheckPayloadFile_path (h : cfg.payloadPath ≠ []) :
    configCheckPayloadFile file cfg = none := by
  rw [configCheckPayloadFile, if_neg h]
  split_ifs
  · rfl
  · rw [configReadPayloadFile, if_pos h, Option.bind_none]

/-- No configuration with a payload file passes. -/
lemma configParse_payloadPath (h : cfg.payloadPath ≠ []) : configParse file random cfg = none := by
  by_contra hsome
  obtain ⟨r, hparse⟩ := Option.ne_none_iff_exists'.mp hsome
  rw [configParse] at hparse
  obtain ⟨c₁, h₁, hparse⟩ := Option.bind_eq_some_iff.mp hparse
  obtain ⟨-, rfl⟩ := configCheckMss_some h₁
  obtain ⟨c₂, h₂, hparse⟩ := Option.bind_eq_some_iff.mp hparse
  obtain ⟨-, stats, rfl⟩ := configCheckHttp_some h₂
  obtain ⟨c₃, h₃, -⟩ := Option.bind_eq_some_iff.mp hparse
  rw [configCheckPayload] at h₃
  obtain ⟨c₄, h₄, h₃⟩ := Option.bind_eq_some_iff.mp h₃
  obtain ⟨-, sizes, -, rfl⟩ := configCheckPayloadSizeNum_some h₄
  obtain ⟨c₅, h₅, -⟩ := Option.bind_eq_some_iff.mp h₃
  cases h₅.symm.trans (configCheckPayloadFile_path file (by exact h))

/-- **The payload file is never served.** Whatever the configuration and the file, the checks of a
configuration that names a payload file fail. -/
theorem not_fileServed {content : List UInt8} (h : NamesFile file random cfg content) :
    ¬ FileServed file random cfg content := by
  rintro ⟨cfg', payloads, hparse, -⟩
  rw [configParse_payloadPath file random h.path] at hparse
  cases hparse

end File

/-- A TCP client that sends the file `/f`. -/
def SizeConfig.fileClient : SizeConfig :=
  { SizeConfig.single .tcp false 0 0 [] with payloadPath := ascii "/f" }

lemma fileClient_namesFile : NamesFile (fun _ => some (ascii "hello")) (fun _ _ => 0) .fileClient
    (ascii "hello") := by
  have hsize : ∀ i, SizeConfig.fileClient.payloadSize i = 0 := fun i => ite_self 0
  exact ⟨by decide, hsize, rfl, rfl, by decide, by decide, by decide⟩

theorem not_fileServed_hello :
    ¬ FileServed (fun _ => some (ascii "hello")) (fun _ _ => 0) .fileClient (ascii "hello") :=
  not_fileServed _ _ fileClient_namesFile

/-- The file is there, and five bytes long. -/
theorem fileServed_refused :
    NamesFile (fun _ => some (ascii "hello")) (fun _ _ => 0) .fileClient (ascii "hello") ∧
      ¬ FileServed (fun _ => some (ascii "hello")) (fun _ _ => 0) .fileClient (ascii "hello") := by
  refine ⟨fileClient_namesFile, ?_⟩
  rintro ⟨cfg', payloads, hparse, -⟩
  rw [configParse_payloadPath _ _ fileClient_namesFile.path] at hparse
  cases hparse

end Dperf
