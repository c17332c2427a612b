import Dperf.FlowRules
import Dperf.Lib.Barrier

/-!
How the workers start: `work_space_new` on every worker, with the two calls of
`work_space_wait_all` that keep the workers together, in any order of their actions.

* `Workers`: where each worker is in `work_space_new`, `g_wait_count`, and the
  `socket_table_hash` of each. `Workers.Step` is one action of one worker.
* `Linked.step`, `Linked.exists_runs`: the two calls are two rounds of a barrier, in both
  directions.
* `workers_start`: a worker that runs finds all tables of its port ready. The workers can all start
  unless one of them is in the second call while another has not come back from the first.
-/

namespace Dperf

open Barrier

/-! ### Workers -/

/-- Where a worker is in `work_space_new`. -/
inductive Stage where
  /-- before it stands in `g_work_space_all` -/
  | off
  | created
  /-- in the `work_space_wait_all` of `work_space_init_time` -/
  | waitTime
  | timed
  /-- after `socket_table_init` and `client_init` or `server_init` -/
  | ready
  /-- in the `work_space_wait_all` before `work_space_init_rss` -/
  | waitRss
  /-- in `work_space_init_rss` -/
  | waited
  | running
  deriving DecidableEq

/-- The workers, `g_wait_count`, and what stands in the `socket_table_hash` of each worker: for a
queue the worker whose table it is. -/
structure Workers (k : ℕ) where
  stage : Fin k → Stage
  waitCount : ℕ
  hash : Fin k → ℕ → Option (Fin k)

namespace Workers

variable {k : ℕ}

/-- No worker has begun. -/
def start (k : ℕ) : Workers k := ⟨fun _ => .off, 0, fun _ _ => none⟩

/-- A worker goes on. -/
def goes (s : Workers k) (t : Fin k) (stage : Stage) : Workers k :=
  { s with stage := Function.update s.stage t stage }

/-- `rte_atomic32_inc` of `work_space_wait_all`. -/
def inc (s : Workers k) : Workers k := { s with waitCount := s.waitCount + 1 }

/-- The test of the loop of `work_space_wait_all`. -/
def waitOver (s : Workers k) : Prop := 0 < s.waitCount ∧ s.waitCount % k = 0

instance (s : Workers k) : Decidable s.waitOver := inferInstanceAs (Decidable (_ ∧ _))

/-- The loop of `work_space_init_rss` over `g_work_space_all`. -/
def workSpaceInitRss (cfg : FlowConfig) (s : Workers k) (t : Fin k) : ℕ → Option (Fin k) :=
  (List.finRange k).foldl (fun hash i =>
    if s.stage i = .off ∨ cfg.portIdx i ≠ cfg.portIdx t then hash
    else Function.update hash (cfg.queueId i) (some i)) fun _ => none

/-- One action of a worker. -/
inductive Step (cfg : FlowConfig) : Workers k → Workers k → Prop where
  | create {s : Workers k} {t : Fin k} (h : s.stage t = .off) : Step cfg s (s.goes t .created)
  | incTime {s : Workers k} {t : Fin k} (h : s.stage t = .created) :
      Step cfg s (s.goes t .waitTime).inc
  | readTime {s : Workers k} {t : Fin k} (h : s.stage t = .waitTime) (hw : s.waitOver) :
      Step cfg s (s.goes t .timed)
  | init {s : Workers k} {t : Fin k} (h : s.stage t = .timed) : Step cfg s (s.goes t .ready)
  | incRss {s : Workers k} {t : Fin k} (h : s.stage t = .ready) :
      Step cfg s (s.goes t .waitRss).inc
  | readRss {s : Workers k} {t : Fin k} (h : s.stage t = .waitRss) (hw : s.waitOver) :
      Step cfg s (s.goes t .waited)
  | initRss {s : Workers k} {t : Fin k} (h : s.stage t = .waited) :
      Step cfg s { s.goes t .running with
        hash := Function.update s.hash t (workSpaceInitRss cfg s t) }

/-- Any number of actions, in any order of the workers. -/
abbrev Runs (cfg : FlowConfig) : Workers k → Workers k → Prop :=
  Relation.ReflTransGen (Step cfg)

end Workers

/-! ### The two calls are two rounds -/

/-- The calls of `work_space_wait_all` that a worker has begun. -/
def Stage.entered : Stage → ℕ
  | .off | .created => 0
  | .waitTime | .timed | .ready => 1
  | .waitRss | .waited | .running => 2

/-- The worker is in one of them. -/
def Stage.waiting : Stage → Bool
  | .waitTime | .waitRss => true
  | _ => false

/-- The calls that it is past. -/
def Stage.passed (g : Stage) : ℕ := if g.waiting then g.entered - 1 else g.entered

/-- The worker is past both. -/
def Stage.started : Stage → Bool
  | .waited | .running => true
  | _ => false

lemma Stage.started_iff (g : Stage) : g.started = true ↔ g.entered = 2 ∧ g.waiting = false := by
  cases g <;> decide

namespace Workers

variable {k : ℕ} {cfg : FlowConfig} {s s' : Workers k} {t : Fin k}

/-- The workers as threads of a barrier. -/
def counter (s : Workers k) : Counter (Fin k) :=
  ⟨fun t => (s.stage t).entered, fun t => (s.stage t).waiting⟩

lemma counter_goes (s : Workers k) (t : Fin k) (stage : Stage) :
    (s.goes t stage).counter = ⟨Function.update s.counter.entered t stage.entered,
      Function.update s.counter.waiting t stage.waiting⟩ := by
  rw [counter, counter, goes, Counter.mk.injEq]
  refine ⟨funext fun u => ?_, funext fun u => ?_⟩ <;>
  · dsimp only
    rcases eq_or_ne u t with rfl | hne
    · rw [Function.update_self, Function.update_self]
    · rw [Function.update_of_ne hne, Function.update_of_ne hne]

/-- An action outside the calls. -/
lemma counter_goes_same {stage : Stage} (he : (s.stage t).entered = stage.entered)
    (hw : (s.stage t).waiting = stage.waiting) : (s.goes t stage).counter = s.counter := by
  rw [counter_goes, ← he, ← hw]
  exact congrArg₂ Counter.mk (Function.update_eq_self t s.counter.entered)
    (Function.update_eq_self t s.counter.waiting)

/-- A worker begins a call. -/
lemma counter_goes_enter {stage : Stage} (he : stage.entered = (s.stage t).entered + 1)
    (hw : stage.waiting = true) : (s.goes t stage).counter = s.counter.enter t := by
  rw [counter_goes, he, hw]
  rfl

/-- A worker comes back from a call. -/
lemma counter_goes_leave {stage : Stage} (he : stage.entered = (s.stage t).entered)
    (hw : stage.waiting = false) : (s.goes t stage).counter = s.counter.leave t := by
  rw [counter_goes, he, hw]
  exact congrArg (Counter.mk · _) (Function.update_eq_self t s.counter.entered)

/-- `g_wait_count` counts the calls that have begun. -/
def Linked (s : Workers k) : Prop := s.waitCount = s.counter.count

lemma Linked.same (h : s.Linked) (t : Fin k) (stage : Stage)
    (he : (s.stage t).entered = stage.entered)
    (hw : (s.stage t).waiting = stage.waiting) :
    (s.goes t stage).Linked ∧ (s.goes t stage).counter = s.counter := by
  have heq := counter_goes_same he hw
  exact ⟨h.trans (congrArg Counter.count heq.symm), heq⟩

lemma Linked.enter (h : s.Linked) (t : Fin k) (stage : Stage)
    (he : stage.entered = (s.stage t).entered + 1)
    (hw : stage.waiting = true) :
    (s.goes t stage).inc.Linked ∧ (s.goes t stage).inc.counter = s.counter.enter t := by
  have heq : (s.goes t stage).inc.counter = s.counter.enter t := counter_goes_enter he hw
  refine ⟨?_, heq⟩
  rw [Linked, heq, Counter.count_enter, ← h]
  rfl

lemma Linked.leave (h : s.Linked) (t : Fin k) (stage : Stage)
    (he : stage.entered = (s.stage t).entered)
    (hw : stage.waiting = false) :
    (s.goes t stage).Linked ∧ (s.goes t stage).counter = s.counter.leave t := by
  have heq := counter_goes_leave he hw
  refine ⟨?_, heq⟩
  rw [Linked, heq]
  exact h

lemma Linked.waitOver_iff (h : s.Linked) :
    s.waitOver ↔ 0 < s.counter.count ∧ s.counter.count % Fintype.card (Fin k) = 0 := by
  rw [waitOver, h, Fintype.card_fin]

lemma Linked.step_enter (h : s.Linked) {stage : Stage} (hidle : (s.stage t).waiting = false)
    (he : stage.entered = (s.stage t).entered + 1) (hle : stage.entered ≤ 2)
    (hw : stage.waiting = true) : (s.goes t stage).inc.Linked ∧
      Counter.Step 2 s.counter (s.goes t stage).inc.counter := by
  obtain ⟨hlinked, heq⟩ := h.enter t stage he hw
  rw [he] at hle
  exact ⟨hlinked, heq ▸ .enter hidle hle⟩

lemma Linked.step_leave (h : s.Linked) {stage : Stage} (hwait : (s.stage t).waiting = true)
    (hover : s.waitOver) (he : stage.entered = (s.stage t).entered) (hw : stage.waiting = false) :
    (s.goes t stage).Linked ∧ Counter.Step 2 s.counter (s.goes t stage).counter := by
  obtain ⟨hlinked, heq⟩ := h.leave t stage he hw
  obtain ⟨hpos, hmod⟩ := h.waitOver_iff.mp hover
  exact ⟨hlinked, heq ▸ .leave hwait hpos hmod⟩

/-- Every action is one of the barrier, or none. -/
lemma Linked.step (h : s.Linked) (hs : Step cfg s s') :
    s'.Linked ∧ (s'.counter = s.counter ∨ Counter.Step 2 s.counter s'.counter) := by
  cases hs with
  | create ht => exact (h.same _ _ (by rw [ht]; rfl) (by rw [ht]; rfl)).imp_right .inl
  | incTime ht =>
      exact (h.step_enter (by rw [ht]; rfl) (by rw [ht]; rfl) (by decide) rfl).imp_right .inr
  | readTime ht hw =>
      exact (h.step_leave (by rw [ht]; rfl) hw (by rw [ht]; rfl) rfl).imp_right .inr
  | init ht => exact (h.same _ _ (by rw [ht]; rfl) (by rw [ht]; rfl)).imp_right .inl
  | incRss ht =>
      exact (h.step_enter (by rw [ht]; rfl) (by rw [ht]; rfl) (by decide) rfl).imp_right .inr
  | readRss ht hw =>
      exact (h.step_leave (by rw [ht]; rfl) hw (by rw [ht]; rfl) rfl).imp_right .inr
  | @initRss t ht =>
      exact (h.same t .running (by rw [ht]; rfl) (by rw [ht]; rfl)).imp_right .inl

/-- Every action of the barrier is one of the workers, after those that lead to it. -/
lemma Linked.exists_runs (h : s.Linked) {c : Counter (Fin k)} (hc : Counter.Step 2 s.counter c) :
    ∃ s', Runs cfg s s' ∧ s'.Linked ∧ s'.counter = c := by
  cases hc with
  | @enter t hw hr =>
      change (s.stage t).waiting = false at hw
      change (s.stage t).entered < 2 at hr
      have hself : ∀ stage, (s.goes t stage).stage t = stage := fun _ => Function.update_self ..
      cases ht : s.stage t with
      | off =>
          obtain ⟨hl, heq⟩ := h.same t .created (by rw [ht]; rfl) (by rw [ht]; rfl)
          obtain ⟨hl', heq'⟩ := hl.enter t .waitTime (by rw [hself]; rfl) rfl
          exact ⟨_, .tail (.single (.create ht)) (.incTime (hself _)), hl', heq ▸ heq'⟩
      | created =>
          obtain ⟨hl, heq⟩ := h.enter t .waitTime (by rw [ht]; rfl) rfl
          exact ⟨_, .single (.incTime ht), hl, heq⟩
      | timed =>
          obtain ⟨hl, heq⟩ := h.same t .ready (by rw [ht]; rfl) (by rw [ht]; rfl)
          obtain ⟨hl', heq'⟩ := hl.enter t .waitRss (by rw [hself]; rfl) rfl
          exact ⟨_, .tail (.single (.init ht)) (.incRss (hself _)), hl', heq ▸ heq'⟩
      | ready =>
          obtain ⟨hl, heq⟩ := h.enter t .waitRss (by rw [ht]; rfl) rfl
          exact ⟨_, .single (.incRss ht), hl, heq⟩
      | waitTime => rw [ht] at hw; cases hw
      | waitRss => rw [ht] at hw; cases hw
      | waited => rw [ht] at hr; exact absurd hr (by decide)
      | running => rw [ht] at hr; exact absurd hr (by decide)
  | @leave t hw hpos hmod =>
      change (s.stage t).waiting = true at hw
      have hover := h.waitOver_iff.mpr ⟨hpos, hmod⟩
      cases ht : s.stage t with
      | waitTime =>
          obtain ⟨hl, heq⟩ := h.leave t .timed (by rw [ht]; rfl) rfl
          exact ⟨_, .single (.readTime ht hover), hl, heq⟩
      | waitRss =>
          obtain ⟨hl, heq⟩ := h.leave t .waited (by rw [ht]; rfl) rfl
          exact ⟨_, .single (.readRss ht hover), hl, heq⟩
      | off | created | timed | ready | waited | running => rw [ht] at hw; cases hw

/-! ### The tables of a port -/

lemma passed_le (h : s.counter.Kept 2) (t u : Fin k) : (s.stage t).passed ≤ (s.stage u).entered :=
  h.passed_le t u

/-- What the loop leaves for the queue of a worker, where the workers it writes have distinct
queues. -/
lemma foldl_update_eq {α : Type*} [DecidableEq α] {skip : α → Prop} [DecidablePred skip]
    {key : α → ℕ} (hinj : ∀ a b, ¬ skip a → ¬ skip b → key a = key b → a = b)
    (h₀ : ℕ → Option α) (l : List α) {a : α} (hmem : a ∈ l) (ha : ¬ skip a) :
    l.foldl (fun hash b => if skip b then hash else Function.update hash (key b) (some b)) h₀
      (key a) = some a := by
  induction l using List.reverseRecOn with
  | nil => cases hmem
  | append_singleton l b ih =>
      rw [List.foldl_append, List.foldl_cons, List.foldl_nil]
      split_ifs with hb
      · -- `b` is skipped, so `a` comes before it
        exact ih ((List.mem_append.mp hmem).resolve_right fun h =>
          ha (List.mem_singleton.mp h ▸ hb))
      · rcases eq_or_ne a b with rfl | hne
        · exact Function.update_self ..
        · rw [Function.update_of_ne fun h => hne (hinj a b ha hb h)]
          exact ih ((List.mem_append.mp hmem).resolve_right fun h =>
            hne (List.mem_singleton.mp h))

lemma workSpaceInitRss_queueId (hall : ∀ u, s.stage u ≠ .off) {u : Fin k}
    (hport : cfg.portIdx u = cfg.portIdx t) :
    workSpaceInitRss cfg s t (cfg.queueId u.val) = some u := by
  rw [workSpaceInitRss]
  refine foldl_update_eq (fun a b ha hb hkey => ?_) _ _ (List.mem_finRange u)
    (not_or.mpr ⟨hall u, not_not.mpr hport⟩)
  have hpa := not_not.mp (not_or.mp ha).2
  have hpb := not_not.mp (not_or.mp hb).2
  exact Fin.ext (PortsChecked.worker_unique (hpa.trans hpb.symm) hkey)

/-- A worker that runs has the table of each worker of its port. -/
def HashFilled (cfg : FlowConfig) (s : Workers k) : Prop :=
  ∀ t u : Fin k, s.stage t = .running → cfg.portIdx u = cfg.portIdx t →
    s.hash t (cfg.queueId u) = some u

lemma HashFilled.goes (h : HashFilled cfg s) {stage : Stage} (hne : stage ≠ .running) :
    HashFilled cfg (s.goes t stage) := by
  intro v u hv hport
  rcases eq_or_ne v t with rfl | hvt
  · have hself : (s.goes v stage).stage v = stage := Function.update_self ..
    exact absurd (hself.symm.trans hv) hne
  · have hother : (s.goes t stage).stage v = s.stage v := Function.update_of_ne hvt ..
    exact h v u (hother.symm.trans hv) hport

lemma HashFilled.step (h : HashFilled cfg s) (hk : s.counter.Kept 2) (hs : Step cfg s s') :
    HashFilled cfg s' := by
  cases hs with
  | create ht => exact h.goes (by decide)
  | incTime ht => exact h.goes (by decide)
  | readTime ht hw => exact h.goes (by decide)
  | init ht => exact h.goes (by decide)
  | incRss ht => exact h.goes (by decide)
  | readRss ht hw => exact h.goes (by decide)
  | @initRss t ht =>
      -- the worker is past the calls, so all have begun them
      have hall : ∀ u, s.stage u ≠ .off := by
        intro u hu
        have hle := passed_le hk t u
        rw [ht, hu] at hle
        exact absurd hle (by decide)
      intro v u hv hport
      change Function.update s.hash t _ v (cfg.queueId u) = some u
      rcases eq_or_ne v t with rfl | hvt
      · rw [Function.update_self]
        exact workSpaceInitRss_queueId hall hport
      · rw [Function.update_of_ne hvt]
        have hother : (s.goes t .running).stage v = s.stage v := Function.update_of_ne hvt ..
        exact h v u (hother.symm.trans hv) hport

/-! ### Every run -/

/-- What holds in every state of a run. -/
structure Sound (cfg : FlowConfig) (s : Workers k) : Prop where
  linked : s.Linked
  kept : s.counter.Kept 2
  filled : HashFilled cfg s

lemma sound_start (cfg : FlowConfig) (k : ℕ) : Sound cfg (start k) where
  linked := by
    change 0 = ∑ _ : Fin k, 0
    rw [Finset.sum_const_zero]
  kept := Counter.kept_start 2
  filled := fun t u h => by cases h

lemma Sound.step (h : Sound cfg s) (hs : Step cfg s s') : Sound cfg s' := by
  obtain ⟨hl, hc⟩ := h.linked.step hs
  refine ⟨hl, ?_, h.filled.step h.kept hs⟩
  rcases hc with hc | hc
  · rw [hc]
    exact h.kept
  · exact h.kept.step hc

lemma Sound.runs (h : Sound cfg s) (hs : Runs cfg s s') : Sound cfg s' := by
  induction hs with
  | refl => exact h
  | tail _ hstep ih => exact ih.step hstep

/-- A run of the workers is a run of the barrier. -/
lemma Linked.runs (h : s.Linked) (hs : Runs cfg s s') : Counter.Runs 2 s.counter s'.counter := by
  have hboth : s'.Linked ∧ Counter.Runs 2 s.counter s'.counter := by
    induction hs with
    | refl => exact ⟨h, .refl⟩
    | tail _ hstep ih =>
        obtain ⟨hl, hc⟩ := ih.1.step hstep
        rcases hc with hc | hc
        · exact ⟨hl, hc ▸ ih.2⟩
        · exact ⟨hl, .tail ih.2 hc⟩
  exact hboth.2

/-- A run of the barrier is one of the workers. -/
lemma Linked.exists_runs_of_runs (h : s.Linked) {c : Counter (Fin k)}
    (hc : Counter.Runs 2 s.counter c) : ∃ s', Runs cfg s s' ∧ s'.Linked ∧ s'.counter = c := by
  induction hc with
  | refl => exact ⟨s, .refl, h, rfl⟩
  | tail _ hstep ih =>
      obtain ⟨s₁, hruns, hl, rfl⟩ := ih
      obtain ⟨s₂, hruns', hl', heq⟩ := hl.exists_runs hstep
      exact ⟨s₂, hruns.trans hruns', hl', heq⟩

/-- Past both calls, the workers come to run. -/
lemma exists_running (h : ∀ t, (s.stage t).started = true) :
    ∃ s', Runs cfg s s' ∧ ∀ t, s'.stage t = .running := by
  have hsome : ∀ l : List (Fin k), ∃ s', Runs cfg s s' ∧ (∀ t, (s'.stage t).started = true) ∧
      ∀ t ∈ l, s'.stage t = .running := by
    intro l
    induction l with
    | nil => exact ⟨s, .refl, h, fun t ht => by cases ht⟩
    | cons t l ih =>
        obtain ⟨s', hruns, hstarted, hl⟩ := ih
        have ht := hstarted t
        cases hstage : s'.stage t with
        | running => exact ⟨s', hruns, hstarted, List.forall_mem_cons.mpr ⟨hstage, hl⟩⟩
        | waited =>
            have hgoes : ∀ u, (s'.goes t .running).stage u = .running ∨
                (s'.goes t .running).stage u = s'.stage u := by
              intro u
              rcases eq_or_ne u t with rfl | hne
              · exact .inl (Function.update_self ..)
              · exact .inr (Function.update_of_ne hne ..)
            refine ⟨_, hruns.tail (.initRss hstage), fun u => ?_, List.forall_mem_cons.mpr
              ⟨Function.update_self .., fun u hu => (hgoes u).elim id fun h => h.trans (hl u hu)⟩⟩
            change ((s'.goes t .running).stage u).started = true
            rcases hgoes u with hu | hu <;> rw [hu]
            · rfl
            · exact hstarted u
        | off | created | waitTime | timed | ready | waitRss =>
            rw [hstage] at ht
            cases ht
  obtain ⟨s', hruns, -, hall⟩ := hsome (List.finRange k)
  exact ⟨s', hruns, fun t => hall t (List.mem_finRange t)⟩

lemma Sound.overtaken_iff (h : Sound cfg s) :
    s.counter.Overtaken ↔ ∃ t u, s.stage t = .waitTime ∧ s.stage u = .waitRss := by
  constructor
  · rintro ⟨t, u, hw, hlt⟩
    have hle := passed_le h.kept u t
    change (s.stage t).waiting = true at hw
    change (s.stage t).entered < (s.stage u).entered at hlt
    refine ⟨t, u, ?_⟩
    cases ht : s.stage t <;> rw [ht] at hw hlt hle <;> cases hu : s.stage u <;>
      rw [hu] at hlt hle <;> first | exact ⟨rfl, rfl⟩ | (exfalso; revert hw hlt hle; decide)
  · rintro ⟨t, u, ht, hu⟩
    refine ⟨t, u, ?_, ?_⟩
    · change (s.stage t).waiting = true
      rw [ht]
      rfl
    · change (s.stage t).entered < (s.stage u).entered
      rw [ht, hu]
      decide

end Workers

/-- In every order of their actions, **a worker is past the calls only when all tables are ready**,
and it runs with the table of each worker of its port. The workers can all come to run exactly if no
worker is still in the first `work_space_wait_all` while another is in the second; else none will
ever run. -/
theorem workers_start {k : ℕ} {cfg : FlowConfig} {s : Workers k}
    (hs : Workers.Runs cfg (.start k) s) :
    (∀ t u : Fin k, (s.stage t).started = true →
      s.stage u = .waitRss ∨ (s.stage u).started = true) ∧
    (∀ t u : Fin k, s.stage t = .running → cfg.portIdx u = cfg.portIdx t →
      s.hash t (cfg.queueId u) = some u) ∧
    ((∃ s', Workers.Runs cfg s s' ∧ ∀ t, s'.stage t = .running) ↔
      ¬ ∃ t u, s.stage t = .waitTime ∧ s.stage u = .waitRss) ∧
    ((∃ t u, s.stage t = .waitTime ∧ s.stage u = .waitRss) →
      ∀ s', Workers.Runs cfg s s' → ∀ t, (s'.stage t).started = false) := by
  have h := (Workers.sound_start cfg k).runs hs
  refine ⟨fun t u ht => ?_, h.filled, ?_, fun ho s' hruns t => ?_⟩
  · have hle := Workers.passed_le h.kept t u
    obtain ⟨hentered, hwaiting⟩ := (Stage.started_iff _).mp ht
    rw [Stage.passed, hentered, hwaiting] at hle
    cases hu : s.stage u <;> rw [hu] at hle <;>
      first | exact .inl rfl | exact .inr rfl | exact absurd hle (by decide)
  · rw [← h.overtaken_iff, ← Counter.finishes_iff h.kept]
    constructor
    · rintro ⟨s', hruns, hall⟩
      refine ⟨_, h.linked.runs hruns, fun t => (Stage.started_iff _).mp ?_⟩
      rw [hall t]
      rfl
    · rintro ⟨c, hruns, hdone⟩
      obtain ⟨s', hruns', -, rfl⟩ := h.linked.exists_runs_of_runs hruns
      obtain ⟨s'', hruns'', hall⟩ : ∃ s'', Workers.Runs cfg s' s'' ∧ ∀ t, s''.stage t = .running :=
        Workers.exists_running fun t => (Stage.started_iff _).mpr (hdone t)
      exact ⟨s'', hruns'.trans hruns'', hall⟩
  · have h' := h.runs hruns
    have hover := (h.overtaken_iff.mpr ho).runs h.kept (h.linked.runs hruns)
    obtain ⟨v, u, hv, -⟩ := h'.overtaken_iff.mp hover
    have hle := Workers.passed_le h'.kept t v
    rw [hv] at hle
    refine Bool.eq_false_iff.mpr fun ht => ?_
    obtain ⟨hentered, hwaiting⟩ := (Stage.started_iff _).mp ht
    rw [Stage.passed, hentered, hwaiting] at hle
    exact absurd hle (by decide)

/-- A worker that reads the counter late, when another has begun the second call, hangs all. -/
theorem workers_start_late : ∃ s : Workers 2, Workers.Runs .pairChecked (.start 2) s ∧
    s.waitCount = 3 ∧
    ∀ s', Workers.Runs .pairChecked s s' → ∀ t, (s'.stage t).started = false := by
  have hruns : Workers.Runs .pairChecked (.start 2)
      (((((((Workers.start 2).goes 0 .created).goes 1 .created).goes 0 .waitTime).inc.goes 1
        .waitTime).inc.goes 1 .timed).goes 1 .ready |>.goes 1 .waitRss).inc :=
    .tail (.tail (.tail (.tail (.tail (.tail (.single (.create rfl)) (.create rfl)) (.incTime rfl))
      (.incTime rfl)) (.readTime rfl (by decide))) (.init rfl)) (.incRss rfl)
  exact ⟨_, hruns, rfl, (workers_start hruns).2.2.2 ⟨0, 1, rfl, rfl⟩⟩

end Dperf
