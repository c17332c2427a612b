import Mathlib.Data.List.Nodup
import Mathlib.Tactic

/-!
Loops that serve a queue as long as its head is due, where a member that has been served may link
itself again at the tail.

* `Station`, `run`: a queue, which members are due, and what serving one does; the loop, with a
  bound on its tests.
* `Station.Lawful`: the member served goes to the tail or out, and the others stay as they are.
* `run_pass`: what the loop does with members at the head that are all due.
* `once_iff`: the loop ends with no member served twice if and only if some member is not due, or
  the first one that goes back is not due again.
-/

namespace Rounds

/-- A queue whose members are served. -/
structure Station (σ ι : Type*) where
  queue : σ → List ι
  due : σ → ι → Prop
  decidableDue : ∀ s i, Decidable (due s i)
  serve : ι → σ → σ

variable {σ ι : Type*}

instance (S : Station σ ι) (s : σ) (i : ι) : Decidable (S.due s i) := S.decidableDue s i

namespace Station

/-- The loop: the members served, and the state. -/
def run (S : Station σ ι) : ℕ → σ → Option (List ι × σ)
  | 0, _ => none
  | fuel + 1, s =>
      match S.queue s with
      | [] => some ([], s)
      | i :: _ =>
          if S.due s i then (S.run fuel (S.serve i s)).map fun r => (i :: r.1, r.2)
          else some ([], s)

/-- The members served one after the other. -/
def pass (S : Station σ ι) (l : List ι) (s : σ) : σ := l.foldl (fun s i => S.serve i s) s

/-- A member served goes to the tail if `back` says so, and out if not. -/
structure Lawful (S : Station σ ι) (back : σ → ι → Bool) : Prop where
  queue_back : ∀ {s i l}, S.queue s = i :: l → back s i = true → S.queue (S.serve i s) = l ++ [i]
  queue_out : ∀ {s i l}, S.queue s = i :: l → back s i = false → S.queue (S.serve i s) = l
  due_other : ∀ {s i j}, j ≠ i → (S.due (S.serve i s) j ↔ S.due s j)
  back_other : ∀ {s i j}, j ≠ i → back (S.serve i s) j = back s j

/-- The loop ends, and serves no member twice. -/
def Once (S : Station σ ι) (s : σ) : Prop :=
  ∃ fuel l s', S.run fuel s = some (l, s') ∧ l.Nodup

variable {S : Station σ ι} {back : σ → ι → Bool} {s s' : σ} {i j : ι} {l rest : List ι}

/-! ### The loop -/

lemma run_nil (h : S.queue s = []) (fuel : ℕ) : S.run (fuel + 1) s = some ([], s) := by
  rw [run, h]

lemma run_due (h : S.queue s = i :: l) (hd : S.due s i) (fuel : ℕ) :
    S.run (fuel + 1) s = (S.run fuel (S.serve i s)).map fun r => (i :: r.1, r.2) := by
  rw [run, h]
  exact if_pos hd

lemma run_rest (h : S.queue s = i :: l) (hd : ¬ S.due s i) (fuel : ℕ) :
    S.run (fuel + 1) s = some ([], s) := by
  rw [run, h]
  exact if_neg hd

/-- The loop does the same with a greater bound. -/
lemma run_mono {fuel : ℕ} {r : List ι × σ} (h : S.run fuel s = some r) (k : ℕ) :
    S.run (k + fuel) s = some r := by
  induction fuel generalizing s r with
  | zero => cases h
  | succ fuel ih =>
      rw [← Nat.add_assoc]
      cases hq : S.queue s with
      | nil =>
          rw [run_nil hq] at h ⊢
          exact h
      | cons i l =>
          by_cases hd : S.due s i
          · rw [run_due hq hd] at h ⊢
            obtain ⟨p, hp, rfl⟩ := Option.map_eq_some_iff.mp h
            rw [ih hp, Option.map_some]
          · rw [run_rest hq hd] at h ⊢
            exact h

lemma pass_cons (i : ι) (l : List ι) (s : σ) : S.pass (i :: l) s = S.pass l (S.serve i s) := rfl

lemma pass_append (l l' : List ι) (s : σ) : S.pass (l ++ l') s = S.pass l' (S.pass l s) :=
  List.foldl_append

/-! ### Passes -/

/-- What is not served stays as due as it was. -/
lemma Lawful.due_pass (h : S.Lawful back) (hj : j ∉ l) : S.due (S.pass l s) j ↔ S.due s j := by
  induction l generalizing s with
  | nil => rfl
  | cons i l ih =>
      rw [List.mem_cons, not_or] at hj
      rw [pass_cons, ih hj.2, h.due_other hj.1]

/-- The loop serves the members at the head that are due; those that go back are behind the
others then. -/
lemma Lawful.run_pass (h : S.Lawful back) (hq : S.queue s = l ++ rest) (hn : (l ++ rest).Nodup)
    (hd : ∀ i ∈ l, S.due s i) :
    S.queue (S.pass l s) = rest ++ l.filter (back s) ∧
      ∀ fuel, S.run (l.length + fuel) s =
        (S.run fuel (S.pass l s)).map fun r => (l ++ r.1, r.2) := by
  -- members that went back are behind the rest already
  induction l generalizing s rest with
  | nil =>
      refine ⟨by rw [List.filter_nil, List.append_nil]; exact hq, fun fuel => ?_⟩
      rw [List.length_nil, Nat.zero_add]
      exact (congrFun Option.map_id _).symm
  | cons i l ih =>
      rw [List.cons_append] at hq hn
      obtain ⟨hi, hn⟩ := List.nodup_cons.mp hn
      have hil : ∀ j ∈ l, j ≠ i := fun j hj heq =>
        hi (heq ▸ List.mem_append_left rest hj)
      have hd' : ∀ j ∈ l, S.due (S.serve i s) j := fun j hj =>
        (h.due_other (hil j hj)).mpr (hd j (List.mem_cons_of_mem i hj))
      have hfilter : l.filter (back (S.serve i s)) = l.filter (back s) :=
        List.filter_congr fun j hj => h.back_other (hil j hj)
      have hrun : ∀ fuel, S.run ((i :: l).length + fuel) s =
          (S.run (l.length + fuel) (S.serve i s)).map fun r => (i :: r.1, r.2) := by
        intro fuel
        rw [List.length_cons, Nat.add_right_comm]
        exact run_due hq (hd i List.mem_cons_self) _
      by_cases hback : back s i = true
      · have hn' : (l ++ (rest ++ [i])).Nodup := by
          rw [← List.append_assoc]
          exact List.nodup_append.mpr ⟨hn, List.nodup_singleton i, fun a ha b hb heq =>
            hi (List.mem_singleton.mp hb ▸ heq ▸ ha)⟩
        have hq' : S.queue (S.serve i s) = l ++ (rest ++ [i]) := by
          rw [h.queue_back hq hback, List.append_assoc]
        obtain ⟨hqueue, hpass⟩ := ih hq' hn' hd'
        constructor
        · rw [pass_cons, hqueue, hfilter, List.filter_cons_of_pos hback,
            List.append_assoc]
          rfl
        · intro fuel
          rw [hrun, hpass, Option.map_map, pass_cons]
          rfl
      · have hq' := h.queue_out hq (Bool.eq_false_iff.mpr hback)
        obtain ⟨hqueue, hpass⟩ := ih hq' hn hd'
        constructor
        · rw [pass_cons, hqueue, hfilter, List.filter_cons_of_neg hback]
        · intro fuel
          rw [hrun, hpass, Option.map_map, pass_cons]
          rfl

/-- The whole queue is due: those that went back are all that is left of it. -/
lemma Lawful.run_pass_queue (h : S.Lawful back) (hn : (S.queue s).Nodup)
    (hd : ∀ i ∈ S.queue s, S.due s i) :
    S.queue (S.pass (S.queue s) s) = (S.queue s).filter (back s) ∧
      ∀ fuel, S.run ((S.queue s).length + fuel) s =
        (S.run fuel (S.pass (S.queue s) s)).map fun r => (S.queue s ++ r.1, r.2) := by
  have hq : S.queue s = S.queue s ++ [] := (List.append_nil _).symm
  obtain ⟨hqueue, hrun⟩ := h.run_pass hq (by rwa [List.append_nil]) hd
  exact ⟨by rw [hqueue, List.nil_append], hrun⟩

/-- Some member is not due: the loop ends there at the latest. -/
lemma Lawful.once_of_not_due (h : S.Lawful back) (hn : (S.queue s).Nodup)
    (hrest : ∃ i ∈ S.queue s, ¬ S.due s i) : S.Once s := by
  have hfind : ((S.queue s).find? fun i => !decide (S.due s i)).isSome = true := by
    obtain ⟨i, hi, hnot⟩ := hrest
    exact List.find?_isSome.mpr ⟨i, hi, by rw [decide_eq_false hnot]; rfl⟩
  obtain ⟨i, hi⟩ := Option.isSome_iff_exists.mp hfind
  obtain ⟨hnot, l, rest, hq, hl⟩ := List.find?_eq_some_iff_append.mp hi
  have hdue : ∀ j ∈ l, S.due s j := fun j hj => by simpa using hl j hj
  have hnot : ¬ S.due s i := by simpa using hnot
  rw [hq] at hn
  obtain ⟨hqueue, hrun⟩ := h.run_pass hq hn hdue
  have hil : i ∉ l := fun hmem =>
    (List.nodup_append.mp hn).2.2 i hmem i List.mem_cons_self rfl
  rw [List.cons_append] at hqueue
  refine ⟨l.length + 1, l ++ [], S.pass l s, ?_, ?_⟩
  · rw [hrun 1, run_rest hqueue (mt (h.due_pass hil).mp hnot), Option.map_some]
  · rw [List.append_nil]
    exact (List.nodup_append.mp hn).1

/-- All members are due: the loop comes to those that went back. -/
lemma Lawful.once_iff_of_due (h : S.Lawful back) (hn : (S.queue s).Nodup)
    (hdue : ∀ i ∈ S.queue s, S.due s i) :
    S.Once s ↔ ∀ i r, S.queue (S.pass (S.queue s) s) = i :: r →
      ¬ S.due (S.pass (S.queue s) s) i := by
  obtain ⟨hqueue, hrun⟩ := h.run_pass_queue hn hdue
  constructor
  · rintro ⟨fuel, l, s', hl, hnodup⟩ i r hcons hagain
    have hmore := run_mono hl (S.queue s).length
    rw [hrun fuel] at hmore
    obtain ⟨p, hp, heq⟩ := Option.map_eq_some_iff.mp hmore
    obtain ⟨rfl, -⟩ := Prod.mk.inj heq
    obtain ⟨fuel, rfl⟩ : ∃ k, fuel = k + 1 := by
      cases fuel with
      | zero => cases hp
      | succ k => exact ⟨k, rfl⟩
    rw [run_due hcons hagain] at hp
    obtain ⟨p', -, rfl⟩ := Option.map_eq_some_iff.mp hp
    have hmem : i ∈ S.queue s := by
      have hi : i ∈ S.queue (S.pass (S.queue s) s) := hcons ▸ List.mem_cons_self
      rw [hqueue] at hi
      exact List.mem_of_mem_filter hi
    exact (List.nodup_append.mp hnodup).2.2 i hmem i List.mem_cons_self rfl
  · intro hsettled
    refine ⟨(S.queue s).length + 1, S.queue s ++ [], S.pass (S.queue s) s, ?_,
      by rwa [List.append_nil]⟩
    rw [hrun 1]
    cases hcons : S.queue (S.pass (S.queue s) s) with
    | nil => rw [run_nil hcons, Option.map_some]
    | cons i r => rw [run_rest hcons (hsettled i r hcons), Option.map_some]

/-- The first member that goes back decides. -/
theorem Lawful.once_iff (h : S.Lawful back) (hn : (S.queue s).Nodup) :
    S.Once s ↔ (∃ i ∈ S.queue s, ¬ S.due s i) ∨
      ∀ l i l', S.queue s = l ++ i :: l' → (∀ j ∈ l, back s j = false) → back s i = true →
        ¬ S.due (S.serve i (S.pass l s)) i := by
  by_cases hrest : ∃ i ∈ S.queue s, ¬ S.due s i
  · exact iff_of_true (h.once_of_not_due hn hrest) (.inl hrest)
  have hdue : ∀ i ∈ S.queue s, S.due s i := by
    intro i hi
    by_contra hnot
    exact hrest ⟨i, hi, hnot⟩
  obtain ⟨hqueue, -⟩ := h.run_pass_queue hn hdue
  -- the member that went back first, in the queue and behind the pass
  have hfirst : ∀ {l i l'}, S.queue s = l ++ i :: l' → (∀ j ∈ l, back s j = false) →
      back s i = true →
      (∃ r, S.queue (S.pass (S.queue s) s) = i :: r) ∧
        (S.due (S.pass (S.queue s) s) i ↔ S.due (S.serve i (S.pass l s)) i) := by
    intro l i l' hq hl hi
    have hnil : l.filter (back s) = [] :=
      List.filter_eq_nil_iff.mpr fun j hj => Bool.eq_false_iff.mp (hl j hj)
    constructor
    · refine ⟨l'.filter (back s), ?_⟩
      rw [hqueue, hq, List.filter_append, hnil, List.nil_append,
        List.filter_cons_of_pos hi]
    · rw [hq] at hn ⊢
      rw [pass_append, pass_cons]
      exact h.due_pass (List.nodup_cons.mp (List.nodup_append.mp hn).2.1).1
  rw [h.once_iff_of_due hn hdue, or_iff_right hrest]
  constructor
  · intro hsettled l i l' hq hl hi
    obtain ⟨⟨r, hcons⟩, hagain⟩ := hfirst hq hl hi
    exact mt hagain.mpr (hsettled i r hcons)
  · intro hsettled i r hcons
    rw [hqueue] at hcons
    obtain ⟨l, l', hq, hl, hi, -⟩ := List.filter_eq_cons_iff.mp hcons
    have hl' : ∀ j ∈ l, back s j = false := fun j hj => Bool.eq_false_iff.mpr (hl j hj)
    exact mt (hfirst hq hl' hi).2.mp (hsettled l i l' hq hl' hi)

end Station

end Rounds
