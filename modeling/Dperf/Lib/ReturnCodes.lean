import Mathlib.Tactic

/-!
Functions that change a state and return a code, negative where they fail.

* `andThen`, `andDo`: one call after the other, while they succeed.
* `Keeps f I`: what `f` keeps, also where it fails.
* `Yields f P Q`: what `f` gives where it does not fail.

Both go through a chain of calls, and through a branch.
-/

namespace ReturnCodes

variable {σ : Type*} {f g : σ → Int32 × σ} {I P Q R : σ → Prop}

/-- `if (f(...) < 0) return -1;`, and then `g`. -/
def andThen (f g : σ → Int32 × σ) (s : σ) : Int32 × σ :=
  let r := f s
  if r.1 < 0 then (-1, r.2) else g r.2

/-- `if (f(...) != 0) return -1;`, and then `h`, which cannot fail. -/
def andDo (f : σ → Int32 × σ) (h : σ → σ) (s : σ) : Int32 × σ :=
  let r := f s
  if r.1 ≠ 0 then (-1, r.2) else (0, h r.2)

/-- `f` keeps `I`, whatever it returns. -/
def Keeps (f : σ → Int32 × σ) (I : σ → Prop) : Prop := ∀ s, I s → I (f s).2

/-- Where `f` does not fail, it leads from `P` to `Q`. -/
def Yields (f : σ → Int32 × σ) (P Q : σ → Prop) : Prop := ∀ s, P s → ¬ (f s).1 < 0 → Q (f s).2

lemma neg_one_lt : (-1 : Int32) < 0 := by decide

lemma Keeps.andThen (hf : Keeps f I) (hg : Keeps g I) : Keeps (andThen f g) I := by
  intro s hs
  rw [ReturnCodes.andThen]
  split_ifs
  · exact hf s hs
  · exact hg _ (hf s hs)

lemma Yields.andThen (hf : Yields f P Q) (hg : Yields g Q R) : Yields (andThen f g) P R := by
  intro s hs hr
  rw [ReturnCodes.andThen] at hr ⊢
  split_ifs at hr ⊢ with hneg
  · exact absurd neg_one_lt hr
  · exact hg _ (hf s hs hneg) hr

lemma Keeps.andDo {h : σ → σ} (hf : Keeps f I) (hh : ∀ s, I s → I (h s)) :
    Keeps (andDo f h) I := by
  intro s hs
  rw [ReturnCodes.andDo]
  split_ifs
  · exact hf s hs
  · exact hh _ (hf s hs)

lemma Yields.andDo {h : σ → σ} (hf : Yields f P Q) (hh : ∀ s, Q s → R (h s)) :
    Yields (andDo f h) P R := by
  intro s hs hr
  rw [ReturnCodes.andDo] at hr ⊢
  split_ifs at hr ⊢ with hzero
  · exact absurd neg_one_lt hr
  · have hok : (f s).1 = 0 := not_not.mp hzero
    exact hh _ (hf s hs (hok ▸ Int32.lt_irrefl))

end ReturnCodes
