import Mathlib.Order.Interval.Multiset
import Mathlib.Tactic

/-!
Resources that are handed around and must neither be lost nor be used up twice.

* `Ledger σ`: a resource is a number; a state of `σ` says how many have been issued and which are
  held somewhere, each as often as it is held.
* `Takes L given s s'`: from `s` to `s'` exactly the resources of `given`, and those issued on the
  way, have got to one more place each.
* `Takes.refl`, `Takes.trans`, `Takes.issue`: the rules for one step after the other, and for a
  resource that is issued and then given away.
* `Takes.sound`: nothing is ever held twice if it was not before.
-/

/-- What a state says about its resources. -/
structure Ledger (σ : Type) where
  held : σ → Multiset ℕ
  issued : σ → ℕ

namespace Ledger

variable {σ : Type} (L : Ledger σ)

/-- Everything given, and everything issued on the way, has got to one place. -/
structure Takes (given : Multiset ℕ) (s s' : σ) : Prop where
  le : L.issued s ≤ L.issued s'
  held : L.held s' = L.held s + given + Multiset.Ico (L.issued s) (L.issued s')

/-- What is held is held once, and has been issued. -/
structure Sound (s : σ) : Prop where
  nodup : (L.held s).Nodup
  lt : ∀ a ∈ L.held s, a < L.issued s

variable {L} {given given' : Multiset ℕ} {s s' s'' : σ}

/-- A step that issues nothing. -/
lemma Takes.of_eq (hi : L.issued s' = L.issued s) (hh : L.held s' = L.held s + given) :
    L.Takes given s s' := by
  refine ⟨hi.ge, ?_⟩
  rw [hi, Multiset.Ico_self, add_zero, hh]

lemma Takes.refl (s : σ) : L.Takes 0 s s := Takes.of_eq rfl (add_zero _).symm

lemma Takes.trans (h : L.Takes given s s') (h' : L.Takes given' s' s'') :
    L.Takes (given + given') s s'' := by
  refine ⟨h.le.trans h'.le, ?_⟩
  rw [h'.held, h.held, ← Multiset.Ico_add_Ico_eq_Ico h.le h'.le]
  abel

/-- A step that takes nothing, before. -/
lemma Takes.after (h : L.Takes given s' s'') (h' : L.Takes 0 s s') : L.Takes given s s'' := by
  have htrans := h'.trans h
  rwa [zero_add] at htrans

/-- A step that takes nothing, behind. -/
lemma Takes.before (h : L.Takes given s s') (h' : L.Takes 0 s' s'') : L.Takes given s s'' := by
  have htrans := h.trans h'
  rwa [add_zero] at htrans

/-- Resources that were held are given away with others. -/
lemma Takes.regroup (hi : L.issued s' = L.issued s)
    (hh : L.held s' + given' = L.held s + given) (h : L.Takes given' s' s'') :
    L.Takes given s s'' := by
  have hle := h.le
  refine ⟨by omega, ?_⟩
  rw [h.held, hh, hi]

/-- A resource is issued, and then given away. -/
lemma Takes.issue (hi : L.issued s' = L.issued s + 1) (hh : L.held s' = L.held s)
    (h : L.Takes {L.issued s} s' s'') : L.Takes 0 s s'' := by
  have hle := h.le
  refine ⟨by omega, ?_⟩
  have hfirst : Multiset.Ico (L.issued s) (L.issued s') = {L.issued s} := by
    rw [hi]
    exact congrArg Finset.val (Nat.Ico_succ_singleton _)
  rw [h.held, hh, add_zero, add_assoc, ← hfirst,
    Multiset.Ico_add_Ico_eq_Ico (by omega) h.le]

/-- Resources that are given away one by one. -/
lemma Takes.foldl {f : σ → ℕ → σ} (hf : ∀ s a, L.Takes {a} s (f s a)) :
    ∀ (l : List ℕ) (s : σ), L.Takes ↑l s (l.foldl f s) := by
  intro l
  induction l with
  | nil => exact Takes.refl
  | cons a l ih =>
      intro s
      have htrans := (hf s a).trans (ih (f s a))
      rwa [Multiset.singleton_add, Multiset.cons_coe] at htrans

lemma Takes.sound (h : L.Takes given s s') (hs : L.Sound s) (hn : given.Nodup)
    (hd : ∀ a ∈ given, a ∉ L.held s ∧ a < L.issued s) : L.Sound s' := by
  have hle := h.le
  have hnodup := hs.nodup
  constructor
  · rw [h.held, Multiset.nodup_add]
    refine ⟨Multiset.nodup_add.mpr ⟨hs.nodup, hn, ?_⟩, Multiset.nodup_Ico, ?_⟩
    · exact Multiset.disjoint_left.mpr fun ha hg => (hd _ hg).1 ha
    · refine Multiset.disjoint_left.mpr fun {a} ha hico => ?_
      have hge := (Multiset.mem_Ico.mp hico).1
      rcases Multiset.mem_add.mp ha with hheld | hgiven
      · have hlt := hs.lt a hheld
        omega
      · have hlt := (hd a hgiven).2
        omega
  · intro a ha
    rw [h.held, Multiset.mem_add, Multiset.mem_add, Multiset.mem_Ico] at ha
    rcases ha with (hheld | hgiven) | hico
    · have hlt := hs.lt a hheld
      omega
    · have hlt := (hd a hgiven).2
      omega
    · exact hico.2

end Ledger
