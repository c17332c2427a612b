import Mathlib.Logic.Relation
import Mathlib.Data.Set.Insert
import Mathlib.Tactic

/-!
Parties that find each other over a medium: one asks for a name, whoever answers for the name tells
its own address, and the first address that is told is kept.

* `Parties`: the address of each party, the name that it wants, and the names that it answers for.
  `none` is the address of nobody.
* `Truthful`: what is said of a name is said by a party that answers for it, and what a party knows
  it has been told so, or it knew it from the beginning.
* `Step`: everybody but the speaker may hear what is said, at any time later and any number of
  times, or never. `Truthful.runs` says that every run stays truthful.
* `has_of_learns`: a party that does not know yet only comes to know if another party with an
  address answers for the name.
-/

namespace Discovery

/-- The parties `ι`, with names in `A` and addresses in `M`. -/
structure Parties (ι A M : Type*) where
  none : M
  address : ι → M
  wants : ι → A
  Answers : ι → A → Prop

/-- What is said: a question for a name, or who has it. -/
inductive Message (A M : Type*) where
  | ask (a : A)
  | tell (a : A) (m : M)

/-- What the parties know, and what has been said, each by whom. -/
structure State (ι A M : Type*) where
  known : ι → M
  said : Set (ι × Message A M)

variable {ι A M : Type*} {P : Parties ι A M} {s s' s₀ : State ι A M}

/-- Another party has the name that `i` wants, and the address `m`. -/
def Parties.Has (P : Parties ι A M) (i : ι) (m : M) : Prop :=
  ∃ j ≠ i, P.Answers j (P.wants i) ∧ P.address j = m

/-- What is said and what is known is true, against what was known in `s₀`. -/
structure Truthful (P : Parties ι A M) (s₀ s : State ι A M) : Prop where
  said : ∀ j a m, (j, .tell a m) ∈ s.said → P.Answers j a ∧ P.address j = m
  known : ∀ i, s.known i = s₀.known i ∨ s₀.known i = P.none ∧ P.Has i (s.known i)

lemma truthful_start (h : s₀.said = ∅) : Truthful P s₀ s₀ where
  said := fun _ _ _ hm => absurd (h ▸ hm) (Set.notMem_empty _)
  known := fun _ => .inl rfl

/-- What was known at the beginning is kept. -/
lemma Truthful.known_eq (h : Truthful P s₀ s) {i : ι} (hi : s₀.known i ≠ P.none) :
    s.known i = s₀.known i :=
  (h.known i).resolve_right fun hk => hi hk.1

variable [DecidableEq ι]

/-- One thing is said or heard. -/
inductive Step (P : Parties ι A M) : State ι A M → State ι A M → Prop
  | ask (s : State ι A M) (i : ι) :
      Step P s { s with said := insert (i, .ask (P.wants i)) s.said }
  | tell (s : State ι A M) {i j : ι} {a : A} (hne : i ≠ j) (hask : (i, .ask a) ∈ s.said)
      (ha : P.Answers j a) :
      Step P s { s with said := insert (j, .tell a (P.address j)) s.said }
  | learn (s : State ι A M) {i j : ι} {m : M} (hne : j ≠ i)
      (htell : (j, .tell (P.wants i) m) ∈ s.said) (hnone : s.known i = P.none) :
      Step P s { s with known := Function.update s.known i m }

/-- Any number of steps. -/
abbrev Runs (P : Parties ι A M) : State ι A M → State ι A M → Prop :=
  Relation.ReflTransGen (Step P)

lemma Truthful.step (h : Truthful P s₀ s) (hs : Step P s s') : Truthful P s₀ s' := by
  cases hs with
  | ask i =>
      refine ⟨fun j a m hm => ?_, h.known⟩
      rcases hm with heq | hm
      · cases heq
      · exact h.said j a m hm
  | @tell i j a hne hask ha =>
      refine ⟨fun k b m hm => ?_, h.known⟩
      rcases hm with heq | hm
      · cases heq
        exact ⟨ha, rfl⟩
      · exact h.said k b m hm
  | @learn i j m hne htell hnone =>
      refine ⟨h.said, fun k => ?_⟩
      by_cases hk : k = i
      · subst hk
        obtain ⟨ha, hm⟩ := h.said j _ m htell
        have hhas : P.Has k m := ⟨j, hne, ha, hm⟩
        -- nothing is known before this step, so that nothing was known at the beginning
        have hstart : s₀.known k = P.none := by
          rcases h.known k with heq | ⟨hnone', -⟩
          · rw [← heq, hnone]
          · exact hnone'
        right
        simpa using And.intro hstart hhas
      · simpa [hk] using h.known k

lemma Truthful.runs (h : Truthful P s₀ s) (hs : Runs P s s') : Truthful P s₀ s' := by
  induction hs with
  | refl => exact h
  | tail _ hstep ih => exact ih.step hstep

/-- Who comes to know what it did not know is told by another party that has an address. -/
lemma has_of_learns (h : Truthful P s₀ s) (hs : Runs P s s') {i : ι} (hi : s.known i = P.none)
    (hi' : s'.known i ≠ P.none) : ∃ m, P.Has i m ∧ m ≠ P.none := by
  rcases (h.runs hs).known i with heq | ⟨-, hhas⟩
  · -- what was known at the beginning would have been kept
    have hstart : s₀.known i ≠ P.none := heq ▸ hi'
    exact absurd ((h.known_eq hstart).symm.trans hi) hstart
  · exact ⟨s'.known i, hhas, hi'⟩

end Discovery
