import Mathlib.Tactic

/-!
Components that take their steps one at a time and do not share anything.

* `Step R`: one component takes a step of its relation `R i`.
* `runs_iff`: with finitely many components, a run of all is a run of each.
-/

namespace Products

open Relation

variable {ι : Type*} [DecidableEq ι] {S : ι → Type*} (R : ∀ i, S i → S i → Prop)

/-- One component takes a step. -/
def Step (x y : ∀ i, S i) : Prop := ∃ i s, R i (x i) s ∧ y = Function.update x i s

variable {R} {x y : ∀ i, S i}

/-- A run of all is a run of each component. -/
lemma component (h : ReflTransGen (Step R) x y) (i : ι) : ReflTransGen (R i) (x i) (y i) := by
  induction h with
  | refl => exact .refl
  | tail _ hs ih =>
      obtain ⟨j, s, hR, rfl⟩ := hs
      by_cases hj : i = j
      · subst hj
        rw [Function.update_self]
        exact ih.tail hR
      · rw [Function.update_of_ne hj]
        exact ih

/-- A run of one component is a run of all. -/
lemma lift_one {i : ι} {s : S i} (h : ReflTransGen (R i) (x i) s) :
    ReflTransGen (Step R) x (Function.update x i s) := by
  induction h with
  | refl => rw [Function.update_eq_self]
  | @tail b c _ hs ih =>
      refine ih.tail ⟨i, c, ?_, ?_⟩
      · rwa [Function.update_self]
      · rw [Function.update_idem]

/-- Runs of finitely many components, one after the other. -/
lemma lift_finset (h : ∀ i, ReflTransGen (R i) (x i) (y i)) (s : Finset ι) :
    ReflTransGen (Step R) x (fun i => if i ∈ s then y i else x i) := by
  induction s using Finset.induction_on with
  | empty => simpa using ReflTransGen.refl
  | @insert i s hi ih =>
      have hone : ReflTransGen (R i) (if i ∈ s then y i else x i) (y i) := by
        rw [if_neg hi]
        exact h i
      have hupd : Function.update (fun j => if j ∈ s then y j else x j) i (y i) =
          fun j => if j ∈ insert i s then y j else x j := by
        funext j
        by_cases hj : j = i
        · subst hj
          simp
        · simp [hj]
      rw [← hupd]
      exact ih.trans (lift_one hone)

/-- A run of all is a run of each. -/
theorem runs_iff [Finite ι] :
    ReflTransGen (Step R) x y ↔ ∀ i, ReflTransGen (R i) (x i) (y i) := by
  constructor
  · exact component
  · intro h
    cases nonempty_fintype ι
    simpa using lift_finset h Finset.univ

end Products
