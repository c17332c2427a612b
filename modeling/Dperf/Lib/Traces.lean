import Mathlib.Data.List.Basic
import Mathlib.Data.List.Induction

/-!
Traces: lists of events in the order in which they happened.

* `Historic P l`: every event of `l` satisfies `P` against the events before it. It holds of
  a longer trace if it holds of the trace and the new event satisfies `P` (`historic_snoc`).
* `latest f l`: the value of `f` at the last event that has one.
-/

namespace Traces

variable {α β : Type*} {P : List α → α → Prop} {f : α → Option β} {l r : List α} {a : α}

/-! ### Events and the events before them -/

/-- Every event satisfies `P` against the events before it. -/
def Historic (P : List α → α → Prop) (l : List α) : Prop :=
  ∀ l₁ a l₂, l = l₁ ++ a :: l₂ → P l₁ a

lemma historic_nil : Historic P [] := by
  intro l₁ a l₂ h
  simp at h

lemma historic_snoc : Historic P (l ++ [a]) ↔ Historic P l ∧ P l a := by
  constructor
  · intro h
    refine ⟨fun l₁ b l₂ hl => h l₁ b (l₂ ++ [a]) ?_, h l a [] rfl⟩
    rw [hl]
    simp
  · rintro ⟨h, ha⟩ l₁ b l₂ hl
    rcases List.eq_nil_or_concat' l₂ with rfl | ⟨l₃, c, rfl⟩
    · obtain ⟨rfl, hb⟩ := List.append_inj' hl rfl
      cases hb
      exact ha
    · -- the new event is the last one of `l₂`
      have hl' : l ++ [a] = (l₁ ++ b :: l₃) ++ [c] := by simpa using hl
      exact h l₁ b l₃ (List.append_inj' hl' rfl).1

/-- Events that satisfy `P` whatever came before them. -/
lemma Historic.append (h : Historic P l) (hr : ∀ a ∈ r, ∀ l₁, P l₁ a) : Historic P (l ++ r) := by
  induction r using List.reverseRecOn with
  | nil => simpa using h
  | append_singleton r a ih =>
      rw [← List.append_assoc]
      refine historic_snoc.mpr ⟨ih fun b hb => hr b (List.mem_append_left _ hb), hr a ?_ _⟩
      simp

/-- The beginning of a trace. -/
lemma Historic.of_append (h : Historic P (l ++ r)) : Historic P l := by
  intro l₁ a l₂ hl
  refine h l₁ a (l₂ ++ r) ?_
  rw [hl]
  simp

/-! ### The latest value -/

/-- The value of `f` at the last event that has one. -/
def latest (f : α → Option β) (l : List α) : Option β := (l.filterMap f).getLast?

@[simp] lemma latest_nil : latest f [] = none := rfl

lemma latest_snoc_some {b : β} (h : f a = some b) : latest f (l ++ [a]) = some b := by
  simp [latest, List.filterMap_append, h]

lemma latest_snoc_none (h : f a = none) : latest f (l ++ [a]) = latest f l := by
  simp [latest, List.filterMap_append, h]

/-- Events without a value do not matter. -/
lemma latest_append_none (h : ∀ a ∈ r, f a = none) : latest f (l ++ r) = latest f l := by
  have hr : r.filterMap f = [] := List.filterMap_eq_nil_iff.mpr h
  rw [latest, List.filterMap_append, hr, List.append_nil, latest]

end Traces
