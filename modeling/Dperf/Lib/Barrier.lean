import Mathlib.Algebra.BigOperators.Group.Finset.Basic
import Mathlib.Algebra.Order.BigOperators.Group.Finset
import Mathlib.Data.Fintype.BigOperators
import Mathlib.Logic.Relation

/-!
A barrier that is one shared counter: a thread adds one, and waits until the counter is a positive
multiple of the number of threads. It is used for several rounds, and never set back.

* `Counter`: the rounds that each thread has entered, and whether it waits in the last of them.
  `Step` is one atomic action of a thread.
* `Kept`: no thread is past a round that another has not entered (`Kept.step`).
* `Overtaken`: a thread waits in a round while another is in a later one. Then no thread leaves a
  round again (`Overtaken.step`).
* `finishes_iff`: the threads can all get through if and only if none is overtaken.
-/

namespace Barrier

variable {ι : Type*}

/-! ### The counter -/

/-- The rounds that each thread has entered, and whether it waits in the last of them. -/
structure Counter (ι : Type*) where
  entered : ι → ℕ
  waiting : ι → Bool

namespace Counter

/-- The threads before the first round. -/
def start (ι : Type*) : Counter ι := ⟨fun _ => 0, fun _ => false⟩

section Defs

variable [DecidableEq ι]

/-- A thread adds one. -/
def enter (s : Counter ι) (t : ι) : Counter ι where
  entered := Function.update s.entered t (s.entered t + 1)
  waiting := Function.update s.waiting t true

/-- A thread has read a multiple. -/
def leave (s : Counter ι) (t : ι) : Counter ι :=
  { s with waiting := Function.update s.waiting t false }

variable {s : Counter ι} {t u : ι}

@[simp] lemma entered_enter_self : (s.enter t).entered t = s.entered t + 1 :=
  Function.update_self ..

lemma entered_enter_of_ne (h : u ≠ t) : (s.enter t).entered u = s.entered u :=
  Function.update_of_ne h ..

@[simp] lemma waiting_enter_self : (s.enter t).waiting t = true := Function.update_self ..

lemma waiting_enter_of_ne (h : u ≠ t) : (s.enter t).waiting u = s.waiting u :=
  Function.update_of_ne h ..

@[simp] lemma entered_leave : (s.leave t).entered = s.entered := rfl

@[simp] lemma waiting_leave_self : (s.leave t).waiting t = false := Function.update_self ..

lemma waiting_leave_of_ne (h : u ≠ t) : (s.leave t).waiting u = s.waiting u :=
  Function.update_of_ne h ..

lemma entered_le_enter (s : Counter ι) (t u : ι) : s.entered u ≤ (s.enter t).entered u := by
  rcases eq_or_ne u t with rfl | hne
  · rw [entered_enter_self]
    exact Nat.le_succ _
  · rw [entered_enter_of_ne hne]

end Defs

/-- The rounds that a thread is past. -/
def passed (s : Counter ι) (t : ι) : ℕ := if s.waiting t then s.entered t - 1 else s.entered t

/-- The value of the counter. -/
def count [Fintype ι] (s : Counter ι) : ℕ := ∑ t, s.entered t

/-- A thread waits in a round while another is in a later one. -/
def Overtaken (s : Counter ι) : Prop := ∃ t u, s.waiting t = true ∧ s.entered t < s.entered u

/-- All threads are through. -/
def Done (rounds : ℕ) (s : Counter ι) : Prop := ∀ t, s.entered t = rounds ∧ s.waiting t = false

/-- One atomic action of a thread. -/
inductive Step [Fintype ι] [DecidableEq ι] (rounds : ℕ) : Counter ι → Counter ι → Prop where
  | enter {s : Counter ι} {t : ι} (hw : s.waiting t = false) (hr : s.entered t < rounds) :
      Step rounds s (s.enter t)
  | leave {s : Counter ι} {t : ι} (hw : s.waiting t = true) (hpos : 0 < s.count)
      (hmod : s.count % Fintype.card ι = 0) : Step rounds s (s.leave t)

/-- Any number of actions of any threads. -/
abbrev Runs [Fintype ι] [DecidableEq ι] (rounds : ℕ) : Counter ι → Counter ι → Prop :=
  Relation.ReflTransGen (Step rounds)

/-- No thread is past a round that another has not entered. -/
structure Kept (rounds : ℕ) (s : Counter ι) : Prop where
  entered_pos : ∀ t, s.waiting t = true → 0 < s.entered t
  entered_le : ∀ t, s.entered t ≤ rounds
  passed_le : ∀ t u, s.passed t ≤ s.entered u

lemma kept_start (rounds : ℕ) : Kept rounds (start ι) where
  entered_pos := fun _ h => by cases h
  entered_le := fun _ => Nat.zero_le _
  passed_le := fun _ _ => Nat.le_refl 0

lemma passed_of_waiting {s : Counter ι} {t : ι} (h : s.waiting t = true) :
    s.passed t = s.entered t - 1 := if_pos h

lemma passed_of_not_waiting {s : Counter ι} {t : ι} (h : s.waiting t = false) :
    s.passed t = s.entered t := if_neg (by rw [h]; exact Bool.false_ne_true)

lemma entered_le_passed_succ (s : Counter ι) (t : ι) : s.entered t ≤ s.passed t + 1 := by
  rw [passed]
  split_ifs <;> omega

lemma Kept.entered_le_succ {rounds : ℕ} {s : Counter ι} (h : s.Kept rounds) (t u : ι) :
    s.entered t ≤ s.entered u + 1 :=
  (s.entered_le_passed_succ t).trans (Nat.succ_le_succ (h.passed_le t u))

/-! ### What the counter says -/

section Count

variable [Fintype ι] {s : Counter ι} {k : ℕ}

lemma count_enter [DecidableEq ι] (s : Counter ι) (t : ι) : (s.enter t).count = s.count + 1 := by
  rw [count, count, ← Finset.add_sum_erase _ _ (Finset.mem_univ t),
    ← Finset.add_sum_erase Finset.univ s.entered (Finset.mem_univ t), entered_enter_self,
    Finset.sum_congr rfl fun u hu => entered_enter_of_ne (Finset.ne_of_mem_erase hu)]
  omega

/-- All threads are in one round exactly if the counter has reached it, if none is behind by more
than one or ahead. -/
lemma entered_eq_of_mod {t : ι} (hlow : ∀ u, k ≤ s.entered u) (hhigh : ∀ u, s.entered u ≤ k + 1)
    (ht : s.entered t = k + 1) (hmod : s.count % Fintype.card ι = 0) (u : ι) :
    s.entered u = k + 1 := by
  have hcard : ∀ c, ∑ _ : ι, c = Fintype.card ι * c := fun c => by simp
  have hlt : Fintype.card ι * k < s.count := by
    rw [← hcard, count]
    exact Finset.sum_lt_sum (fun u _ => hlow u) ⟨t, Finset.mem_univ t, by omega⟩
  have hle : s.count ≤ Fintype.card ι * (k + 1) := by
    rw [← hcard, count]
    exact Finset.sum_le_sum fun u _ => hhigh u
  obtain ⟨q, hq⟩ := Nat.dvd_of_mod_eq_zero hmod
  -- the only multiple between the two
  have hqk : q = k + 1 := by
    rw [hq] at hlt hle
    have h₁ := Nat.lt_of_mul_lt_mul_left hlt
    have hpos : 0 < Fintype.card ι := Fintype.card_pos_iff.mpr ⟨t⟩
    have h₂ := Nat.le_of_mul_le_mul_left hle hpos
    omega
  have hsum : ∑ u, s.entered u = ∑ _ : ι, (k + 1) := by
    rw [hcard, ← hqk]
    exact hq
  exact (Finset.sum_eq_sum_iff_of_le fun u _ => hhigh u).mp hsum u (Finset.mem_univ u)

/-- Between two rounds the counter is no multiple. -/
lemma count_mod_ne {t u : ι} (hlow : ∀ v, k ≤ s.entered v) (hhigh : ∀ v, s.entered v ≤ k + 1)
    (ht : s.entered t = k) (hu : s.entered u = k + 1) : s.count % Fintype.card ι ≠ 0 := by
  intro hmod
  have heq := entered_eq_of_mod hlow hhigh hu hmod t
  omega

end Count

/-! ### One step, and a run -/

section Passed

variable [DecidableEq ι] {s : Counter ι} {t : ι}

lemma passed_enter (hw : s.waiting t = false) (u : ι) : (s.enter t).passed u = s.passed u := by
  rcases eq_or_ne u t with rfl | hne
  · rw [passed_of_waiting waiting_enter_self, passed_of_not_waiting hw, entered_enter_self]
    rfl
  · rw [passed, passed, entered_enter_of_ne hne, waiting_enter_of_ne hne]

lemma passed_leave_self : (s.leave t).passed t = s.entered t :=
  passed_of_not_waiting waiting_leave_self

lemma passed_leave_of_ne {u : ι} (h : u ≠ t) : (s.leave t).passed u = s.passed u := by
  rw [passed, passed, entered_leave, waiting_leave_of_ne h]

/-- A thread that enters a round where none is further overtakes no one. -/
lemma not_overtaken_enter {u : ι} (hle : ∀ v, s.entered v ≤ s.entered u + 1)
    (hwait : ∀ v, s.waiting v = true → s.entered v = s.entered u + 1) :
    ¬ (s.enter u).Overtaken := by
  rintro ⟨v, w, hv, hlt⟩
  have hw : (s.enter u).entered w ≤ s.entered u + 1 := by
    rcases eq_or_ne w u with rfl | hne
    · rw [entered_enter_self]
    · rw [entered_enter_of_ne hne]
      exact hle w
  have hv' : (s.enter u).entered v = s.entered u + 1 := by
    rcases eq_or_ne v u with rfl | hne
    · exact entered_enter_self
    · rw [waiting_enter_of_ne hne] at hv
      rw [entered_enter_of_ne hne]
      exact hwait v hv
  omega

end Passed

section Steps

variable [Fintype ι] {rounds : ℕ} {s s' : Counter ι}

/-- Whoever reads a multiple has all others in its round. -/
lemma Kept.entered_of_mod (h : s.Kept rounds) {t : ι} (hw : s.waiting t = true)
    (hmod : s.count % Fintype.card ι = 0) (u : ι) : s.entered t ≤ s.entered u := by
  obtain ⟨k, hk⟩ := Nat.exists_eq_succ_of_ne_zero (Nat.pos_iff_ne_zero.mp (h.entered_pos t hw))
  have hlow : ∀ v, k ≤ s.entered v := fun v => by
    have hle := h.passed_le t v
    rw [passed_of_waiting hw, hk] at hle
    exact hle
  by_cases hover : ∃ v, s.entered t < s.entered v
  · -- one that is ahead has passed this round
    obtain ⟨v, hv⟩ := hover
    have hle := h.passed_le v u
    have hself := s.entered_le_passed_succ v
    omega
  · push Not at hover
    have hhigh : ∀ v, s.entered v ≤ k + 1 := fun v => (hover v).trans hk.le
    have heq := entered_eq_of_mod hlow hhigh hk hmod u
    omega

/-- Where a thread is overtaken, no thread leaves. -/
lemma Overtaken.mod_ne (h : s.Kept rounds) (ho : s.Overtaken) :
    s.count % Fintype.card ι ≠ 0 := by
  obtain ⟨t, u, hw, hlt⟩ := ho
  have hle := h.entered_le_succ u t
  have hlow : ∀ v, s.entered t ≤ s.entered v := fun v => by
    have hpass := h.passed_le u v
    have hself := s.entered_le_passed_succ u
    omega
  exact count_mod_ne hlow (fun v => h.entered_le_succ v t) rfl
    (by omega : s.entered u = s.entered t + 1)

variable [DecidableEq ι]

lemma Kept.step (h : s.Kept rounds) (hs : Step rounds s s') : s'.Kept rounds := by
  cases hs with
  | @enter t hw hr =>
      refine ⟨fun u hu => ?_, fun u => ?_, fun u v => ?_⟩
      · rcases eq_or_ne u t with rfl | hne
        · rw [entered_enter_self]
          exact Nat.succ_pos _
        · rw [waiting_enter_of_ne hne] at hu
          rw [entered_enter_of_ne hne]
          exact h.entered_pos u hu
      · rcases eq_or_ne u t with rfl | hne
        · rw [entered_enter_self]
          exact hr
        · rw [entered_enter_of_ne hne]
          exact h.entered_le u
      · rw [passed_enter hw]
        exact (h.passed_le u v).trans (s.entered_le_enter t v)
  | @leave t hw hpos hmod =>
      refine ⟨fun u hu => h.entered_pos u ?_, h.entered_le, fun u v => ?_⟩
      · rcases eq_or_ne u t with rfl | hne
        · exact hw
        · rwa [waiting_leave_of_ne hne] at hu
      · rcases eq_or_ne u t with rfl | hne
        · rw [passed_leave_self]
          exact h.entered_of_mod hw hmod v
        · rw [passed_leave_of_ne hne]
          exact h.passed_le u v

lemma Kept.runs (h : s.Kept rounds) (hs : Runs rounds s s') : s'.Kept rounds := by
  induction hs with
  | refl => exact h
  | tail _ hstep ih => exact ih.step hstep

/-- An overtaken thread stays where it is. -/
lemma Overtaken.step (h : s.Kept rounds) (ho : s.Overtaken) (hs : Step rounds s s') :
    s'.Overtaken := by
  cases hs with
  | @enter t hw hr =>
      obtain ⟨v, u, hv, hlt⟩ := ho
      have hne : v ≠ t := by
        rintro rfl
        rw [hw] at hv
        cases hv
      refine ⟨v, u, (waiting_enter_of_ne hne).trans hv, ?_⟩
      rw [entered_enter_of_ne hne]
      exact hlt.trans_le (s.entered_le_enter t u)
  | leave hw hpos hmod => exact absurd hmod (Overtaken.mod_ne h ho)

lemma Overtaken.runs (h : s.Kept rounds) (ho : s.Overtaken) (hs : Runs rounds s s') :
    s'.Overtaken := by
  induction hs with
  | refl => exact ho
  | tail hruns hstep ih => exact ih.step (h.runs hruns) hstep

/-! ### Getting through -/

/-- What is left to do. -/
def left (rounds : ℕ) (s : Counter ι) : ℕ :=
  ∑ t, (2 * (rounds - s.entered t) + (s.waiting t).toNat)

lemma left_enter_lt {t : ι} (hw : s.waiting t = false) (hr : s.entered t < rounds) :
    left rounds (s.enter t) < left rounds s := by
  have hself : 2 * (rounds - (s.enter t).entered t) + ((s.enter t).waiting t).toNat <
      2 * (rounds - s.entered t) + (s.waiting t).toNat := by
    rw [entered_enter_self, waiting_enter_self, hw, Bool.toNat_true, Bool.toNat_false]
    omega
  refine Finset.sum_lt_sum (fun u _ => ?_) ⟨t, Finset.mem_univ t, hself⟩
  rcases eq_or_ne u t with rfl | hne
  · exact hself.le
  · rw [entered_enter_of_ne hne, waiting_enter_of_ne hne]

lemma left_leave_lt {t : ι} (hw : s.waiting t = true) :
    left rounds (s.leave t) < left rounds s := by
  have hself : 2 * (rounds - (s.leave t).entered t) + ((s.leave t).waiting t).toNat <
      2 * (rounds - s.entered t) + (s.waiting t).toNat := by
    rw [entered_leave, waiting_leave_self, hw, Bool.toNat_true, Bool.toNat_false]
    omega
  refine Finset.sum_lt_sum (fun u _ => ?_) ⟨t, Finset.mem_univ t, hself⟩
  rcases eq_or_ne u t with rfl | hne
  · exact hself.le
  · rw [entered_leave, waiting_leave_of_ne hne]

/-- Where no thread is overtaken and not all are through, one can go on without overtaking. -/
lemma exists_step (h : s.Kept rounds) (ho : ¬ s.Overtaken) (hd : ¬ s.Done rounds) :
    ∃ s', Step rounds s s' ∧ ¬ s'.Overtaken ∧ left rounds s' < left rounds s := by
  have hno : ∀ t u, s.waiting t = true → s.entered u ≤ s.entered t := fun t u hw =>
    Nat.le_of_not_lt fun hlt => ho ⟨t, u, hw, hlt⟩
  by_cases hwait : ∃ t, s.waiting t = true
  · obtain ⟨t, hw⟩ := hwait
    by_cases hall : ∀ u, s.entered u = s.entered t
    · -- all are in the round
      have hcount : s.count = Fintype.card ι * s.entered t := by
        rw [count, Finset.sum_congr rfl fun u _ => hall u]
        simp
      have hcard : 0 < Fintype.card ι := Fintype.card_pos_iff.mpr ⟨t⟩
      refine ⟨_, .leave hw ?_ ?_, ?_, left_leave_lt hw⟩
      · rw [hcount]
        exact Nat.mul_pos hcard (h.entered_pos t hw)
      · rw [hcount]
        exact Nat.mul_mod_right _ _
      · rintro ⟨v, w, -, hlt⟩
        rw [entered_leave, hall v, hall w] at hlt
        exact Nat.lt_irrefl _ hlt
    · push Not at hall
      obtain ⟨u, hu⟩ := hall
      have hle := hno t u hw
      have hge := h.entered_le_succ t u
      have huw : s.waiting u = false := by
        by_contra hwu
        have hle' := hno u t (by simpa using hwu)
        omega
      have hrounds := h.entered_le t
      have hwaiting : ∀ v, s.waiting v = true → s.entered v = s.entered u + 1 := fun v hv => by
        have h₁ := hno v t hv
        have h₂ := hno t v hw
        omega
      exact ⟨_, .enter huw (by omega),
        not_overtaken_enter (fun v => h.entered_le_succ v u) hwaiting,
        left_enter_lt huw (by omega)⟩
  · push Not at hwait
    have hidle : ∀ t, s.waiting t = false := fun t => by simpa using hwait t
    have hex : ∃ u, s.entered u ≠ rounds := by
      by_contra hall
      push Not at hall
      exact hd fun t => ⟨hall t, hidle t⟩
    obtain ⟨u, hu⟩ := hex
    have hlt : s.entered u < rounds := lt_of_le_of_ne (h.entered_le u) hu
    exact ⟨_, .enter (hidle u) hlt, not_overtaken_enter (fun v => h.entered_le_succ v u)
      (fun v hv => absurd hv (hwait v)), left_enter_lt (hidle u) hlt⟩

lemma exists_done (h : s.Kept rounds) (ho : ¬ s.Overtaken) :
    ∃ s', Runs rounds s s' ∧ s'.Done rounds := by
  induction hn : left rounds s using Nat.strong_induction_on generalizing s with
  | _ n ih =>
      by_cases hd : s.Done rounds
      · exact ⟨s, .refl, hd⟩
      · obtain ⟨s₁, hstep, ho₁, hlt⟩ := exists_step h ho hd
        obtain ⟨s₂, hruns, hdone⟩ := ih _ (hn ▸ hlt) (h.step hstep) ho₁ rfl
        exact ⟨s₂, .head hstep hruns, hdone⟩

/-- The threads can all get through if and only if none is overtaken. -/
theorem finishes_iff (h : s.Kept rounds) :
    (∃ s', Runs rounds s s' ∧ s'.Done rounds) ↔ ¬ s.Overtaken := by
  refine ⟨?_, exists_done h⟩
  rintro ⟨s', hruns, hdone⟩ ho
  obtain ⟨t, u, hw, -⟩ := ho.runs h hruns
  rw [(hdone t).2] at hw
  cases hw

end Steps

end Counter

end Barrier
