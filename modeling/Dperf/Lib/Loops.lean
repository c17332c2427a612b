import Mathlib.Data.List.Nodup
import Mathlib.Data.List.Range
import Mathlib.Logic.Function.Basic
import Mathlib.Tactic

/-!
Loops that count up, and loops that fill a table.

* `countUp hi fuel x`: the values of `for (; x <= hi; x++)`, with a bound on its tests. Where
  the counter does not overflow these are the numbers up to `hi` (`countUp_eq`).
* `map_product`: nested loops number their turns in mixed radix.
* `foldl_update_mem`, `foldl_update_not_mem`, `foldl_update_congr`: a loop that writes one entry
  a turn.
-/

namespace Loops

/-! ### Counting -/

section Count

variable {α : Type*} [LE α] [DecidableLE α] [Add α] [OfNat α 1]

/-- The values of a loop that counts from `x` to `hi`; nothing if it does not end in time. -/
def countUp (hi : α) : ℕ → α → Option (List α)
  | 0, _ => none
  | fuel + 1, x => if x ≤ hi then (countUp hi fuel (x + 1)).map (x :: ·) else some []

/-- A counter `f` that does not overflow up to `hi` runs through the numbers up to `hi`. -/
lemma countUp_eq {hi : α} {f : α → ℕ} (hle : ∀ x : α, x ≤ hi ↔ f x ≤ f hi)
    (hadd : ∀ x : α, x ≤ hi → f (x + 1) = f x + 1) : ∀ (fuel : ℕ) (x : α),
    f hi + 1 - f x < fuel →
      ∃ l, countUp hi fuel x = some l ∧ l.map f = List.range' (f x) (f hi + 1 - f x) := by
  intro fuel
  induction fuel with
  | zero => exact fun x h => absurd h (Nat.not_lt_zero _)
  | succ fuel ih =>
      intro x h
      rw [countUp]
      by_cases hx : x ≤ hi
      · have hfx := (hle x).mp hx
        obtain ⟨l, hl, hmap⟩ := ih (x + 1) (by rw [hadd x hx]; omega)
        refine ⟨x :: l, by rw [if_pos hx, hl, Option.map_some], ?_⟩
        obtain ⟨k, hk⟩ : ∃ k, f hi + 1 - f x = k + 1 := ⟨f hi - f x, by omega⟩
        rw [List.map_cons, hmap, hadd x hx, hk, List.range'_succ]
        congr 2
        omega
      · have hfx : f hi + 1 - f x = 0 := by
          have := mt (hle x).mpr hx
          omega
        exact ⟨[], by rw [if_neg hx], by rw [hfx]; rfl⟩

/-- The values do not depend on the bound. -/
lemma countUp_unique {hi : α} : ∀ {fuel fuel' : ℕ} {x : α} {l l' : List α},
    countUp hi fuel x = some l → countUp hi fuel' x = some l' → l = l' := by
  intro fuel
  induction fuel with
  | zero => exact fun h => by cases h
  | succ fuel ih =>
      intro fuel' x l l' h h'
      cases fuel' with
      | zero => cases h'
      | succ fuel' =>
          rw [countUp] at h h'
          split_ifs at h h'
          · obtain ⟨m, hm, rfl⟩ := Option.map_eq_some_iff.mp h
            obtain ⟨m', hm', rfl⟩ := Option.map_eq_some_iff.mp h'
            rw [ih hm hm']
          · rw [← Option.some.inj h, ← Option.some.inj h']

/-- A loop up to the last value never ends. -/
lemma countUp_none {hi : α} (htop : ∀ x : α, x ≤ hi) : ∀ (fuel : ℕ) (x : α),
    countUp hi fuel x = none := by
  intro fuel
  induction fuel with
  | zero => exact fun _ => rfl
  | succ fuel ih =>
      intro x
      rw [countUp, if_pos (htop x), ih, Option.map_none]

end Count

/-! ### Nested loops -/

/-- Two nested loops, the inner of `n` turns, number their turns in order. -/
lemma range_mul_flatMap (m n : ℕ) :
    (List.range m).flatMap (fun i => (List.range n).map (i * n + ·)) = List.range (m * n) := by
  induction m with
  | zero => rw [Nat.zero_mul]; rfl
  | succ m ih =>
      rw [List.range_succ, List.flatMap_append, ih, Nat.succ_mul, List.range_add]
      congr 1
      exact List.flatMap_singleton ..

/-- An index `ι a + κ b` that runs through the multiples of `n` over the first list, through the
numbers below `n` over the second, runs through all numbers over their product. -/
lemma map_product {α β : Type*} {l : List α} {l' : List β} {ι : α → ℕ} {κ : β → ℕ} {m n : ℕ}
    (hι : l.map ι = (List.range m).map (· * n)) (hκ : l'.map κ = List.range n) :
    (l ×ˢ l').map (fun p => ι p.1 + κ p.2) = List.range (m * n) := by
  have hflat : (l ×ˢ l').map (fun p => ι p.1 + κ p.2) =
      (l.map ι).flatMap fun i => (l'.map κ).map (i + ·) := by
    simp only [SProd.sprod, List.product, List.map_flatMap, List.flatMap_map, List.map_map]
    rfl
  rw [hflat, hι, hκ, List.flatMap_map, ← range_mul_flatMap]

/-! ### Filling a table -/

section Fill

variable {ι α β : Type*} [DecidableEq ι] {key : α → ι} {val : α → β}

/-- An entry that no turn writes stays. -/
lemma foldl_update_not_mem {k : ι} : ∀ {l : List α} (f : ι → β), (∀ a ∈ l, key a ≠ k) →
    l.foldl (fun f a => Function.update f (key a) (val a)) f k = f k := by
  intro l
  induction l with
  | nil => exact fun f _ => rfl
  | cons a l ih =>
      intro f h
      rw [List.foldl_cons, ih _ fun b hb => h b (List.mem_cons_of_mem a hb),
        Function.update_of_ne (h a List.mem_cons_self).symm]

/-- An entry that one turn writes is what that turn wrote. -/
lemma foldl_update_mem {a : α} : ∀ {l : List α} (f : ι → β), (l.map key).Nodup → a ∈ l →
    l.foldl (fun f a => Function.update f (key a) (val a)) f (key a) = val a := by
  intro l
  induction l with
  | nil => exact fun f _ ha => absurd ha List.not_mem_nil
  | cons b l ih =>
      intro f hnd ha
      rw [List.map_cons, List.nodup_cons] at hnd
      rw [List.foldl_cons]
      rcases List.mem_cons.mp ha with rfl | ha
      · rw [foldl_update_not_mem]
        · exact Function.update_self ..
        · intro c hc heq
          exact hnd.1 (heq ▸ List.mem_map_of_mem hc)
      · exact ih _ hnd.2 ha

/-- An entry that some turn writes does not depend on what was there. -/
lemma foldl_update_congr {k : ι} : ∀ {l : List α} (f g : ι → β), (∃ a ∈ l, key a = k) →
    l.foldl (fun f a => Function.update f (key a) (val a)) f k =
      l.foldl (fun f a => Function.update f (key a) (val a)) g k := by
  intro l
  induction l with
  | nil => exact fun f g ⟨a, ha, _⟩ => absurd ha List.not_mem_nil
  | cons b l ih =>
      intro f g h
      rw [List.foldl_cons, List.foldl_cons]
      by_cases hl : ∃ a ∈ l, key a = k
      · exact ih _ _ hl
      · -- the first turn is the last to write the entry
        have hnot : ∀ a ∈ l, key a ≠ k := fun a ha heq => hl ⟨a, ha, heq⟩
        obtain ⟨a, ha, rfl⟩ := h
        rcases List.mem_cons.mp ha with rfl | ha
        · rw [foldl_update_not_mem _ hnot, foldl_update_not_mem _ hnot, Function.update_self,
            Function.update_self]
        · exact absurd rfl (hnot a ha)

end Fill

end Loops
