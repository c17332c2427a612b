import Mathlib.Tactic

/-!
The words of a list: what is left between its separators.

* `words_append_sep`: a separator splits the words.
* `flatten_words`: no other item is lost, and none is added.
* `head_words`: the first item of the first word.
* `flatMap_eq_iff`: two ways to read the parts of a list that agree on the whole agree on every
  part, if one never reads less than the other.
-/

namespace Dperf

variable {α β : Type*}

/-- The words of a list with the separators `p`. -/
def words (p : α → Bool) (l : List α) : List (List α) := (l.splitOnP p).filter (· ≠ [])

section Words

variable {p : α → Bool} {c : α} {l w : List α}

lemma words_nil : words p [] = [] := by
  rw [words, List.splitOnP_nil]
  rfl

lemma words_append_sep (hc : p c = true) (x y : List α) :
    words p (x ++ c :: y) = words p x ++ words p y := by
  rw [words, List.splitOnP_append_cons x y hc, List.filter_append]
  rfl

lemma words_cons_sep (hc : p c = true) (l : List α) : words p (c :: l) = words p l := by
  have happend := words_append_sep hc [] l
  rwa [words_nil, List.nil_append, List.nil_append] at happend

lemma words_of_forall (hne : w ≠ []) (h : ∀ c ∈ w, p c = false) : words p w = [w] := by
  rw [words, List.splitOnP_eq_singleton h, List.filter_cons_of_pos (by simpa using hne),
    List.filter_nil]

/-- A list has no separator, or it has a first one. -/
lemma sep_induct {motive : List α → Prop} (word : ∀ w, (∀ c ∈ w, p c = false) → motive w)
    (sep : ∀ w c l, (∀ c ∈ w, p c = false) → p c = true → motive l → motive (w ++ c :: l))
    (l : List α) : motive l := by
  induction hn : l.length using Nat.strong_induction_on generalizing l with
  | _ n ih =>
    subst hn
    have hsplit := List.takeWhile_append_dropWhile (p := fun a => !p a) (l := l)
    have hw : ∀ a ∈ l.takeWhile (fun a => !p a), p a = false := fun a ha => by
      simpa using List.all_eq_true.mp List.all_takeWhile a ha
    have hhead := List.head?_dropWhile_not (fun a => !p a) l
    generalize l.takeWhile (fun a => !p a) = w at hsplit hw
    rcases hrest : l.dropWhile (fun a => !p a) with _ | ⟨c, rest⟩
    · rw [hrest, List.append_nil] at hsplit
      rw [← hsplit]
      exact word w hw
    · rw [hrest] at hsplit hhead
      rw [← hsplit]
      refine sep w c rest hw (by simpa using hhead) (ih rest.length ?_ rest rfl)
      rw [← hsplit, List.length_append, List.length_cons]
      omega

/-- The words have all items that are no separators. -/
lemma flatten_words (p : α → Bool) (l : List α) :
    (words p l).flatten = l.filter fun a => !p a := by
  have hfilter : ∀ w : List α, (∀ c ∈ w, p c = false) → w.filter (fun a => !p a) = w :=
    fun w hw => List.filter_eq_self.mpr fun c hc => by rw [hw c hc]; rfl
  have hword : ∀ w : List α, (∀ c ∈ w, p c = false) → (words p w).flatten = w := by
    intro w hw
    rcases eq_or_ne w [] with rfl | hne
    · rw [words_nil, List.flatten_nil]
    · rw [words_of_forall hne hw, List.flatten_singleton]
  induction l using sep_induct (p := p) with
  | word w hw => rw [hword w hw, hfilter w hw]
  | sep w c l hw hc ih =>
      rw [words_append_sep hc, List.flatten_append, hword w hw, ih, List.filter_append,
        hfilter w hw, List.filter_cons_of_neg (by simpa using hc)]

lemma ne_nil_of_mem_words (h : w ∈ words p l) : w ≠ [] := by
  simpa using (List.mem_filter.mp h).2

lemma words_eq_nil_iff : words p l = [] ↔ (l.filter fun a => !p a) = [] := by
  rw [← flatten_words]
  constructor
  · intro h
    rw [h, List.flatten_nil]
  · intro h
    by_contra hne
    obtain ⟨w, hw⟩ := List.exists_mem_of_ne_nil _ hne
    exact ne_nil_of_mem_words hw (List.flatten_eq_nil_iff.mp h w hw)

/-- The first item of the first word is the first that is no separator. -/
lemma head_words (p : α → Bool) (l : List α) :
    (words p l).head?.bind List.head? = (l.filter fun a => !p a).head? := by
  rw [← flatten_words]
  rcases hwords : words p l with _ | ⟨w, ws⟩
  · rfl
  · have hne : w ≠ [] := ne_nil_of_mem_words (hwords ▸ List.mem_cons_self : w ∈ words p l)
    obtain ⟨a, w, rfl⟩ := List.exists_cons_of_ne_nil hne
    rfl

/-- The first item that is no separator is the first of a part. -/
lemma exists_head_of_flatten {bs : List (List α)}
    (h : (bs.flatten.filter fun a => !p a).head? = some c) :
    ∃ b ∈ bs, (b.filter fun a => !p a).head? = some c := by
  induction bs with
  | nil => cases h
  | cons b bs ih =>
      rw [List.flatten_cons, List.filter_append, List.head?_append] at h
      rcases hb : (b.filter fun a => !p a).head? with _ | d
      · rw [hb, Option.none_or] at h
        obtain ⟨b', hb', hc⟩ := ih h
        exact ⟨b', List.mem_cons_of_mem b hb', hc⟩
      · rw [hb, Option.some_or] at h
        exact ⟨b, List.mem_cons_self, hb.trans h⟩

end Words

/-! ### Parts -/

/-- Of parts that are never shorter, a whole that is not longer has equal parts. -/
lemma flatMap_eq_iff {f g : α → List β} : ∀ {l : List α},
    (∀ a ∈ l, (g a).length ≤ (f a).length) →
      (l.flatMap f = l.flatMap g ↔ ∀ a ∈ l, f a = g a) := by
  intro l
  induction l with
  | nil => exact fun _ => iff_of_true rfl fun a ha => absurd ha List.not_mem_nil
  | cons a l ih =>
      intro h
      have ha := h a List.mem_cons_self
      have hl := fun b hb => h b (List.mem_cons_of_mem a hb)
      rw [List.flatMap_cons, List.flatMap_cons, List.forall_mem_cons]
      constructor
      · intro heq
        -- the rest is not shorter either
        have hrest : (l.flatMap g).length ≤ (l.flatMap f).length := by
          rw [List.length_flatMap, List.length_flatMap]
          exact List.sum_le_sum hl
        have hlength := congrArg List.length heq
        rw [List.length_append, List.length_append] at hlength
        obtain ⟨hhead, htail⟩ := List.append_inj heq (by omega)
        exact ⟨hhead, (ih hl).mp htail⟩
      · rintro ⟨hhead, htail⟩
        rw [hhead, (ih hl).mpr htail]

end Dperf
