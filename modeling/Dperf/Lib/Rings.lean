import Mathlib.Tactic

/-!
A search that goes round an array.

* `Rings.find p n fuel i`: the loop that starts at `i`, stops at the first place with `p`, and goes
  on at `0` behind the last of `n` places; nothing if it does not stop in time.
* `find_first`: the place it stops at comes first, in the order from `i` round to `i`.
* `exists_find_iff`: it stops if and only if there is a place to stop at.
* `visits`: the places it looks at, up to a bound. They are places of the array if `i` is
  (`visits_lt`).
* `iterate_next`, `existsUnique_iterate_next`: as many turns as there are places meet each place
  exactly once.
-/

namespace Rings

/-- The place after `i`. -/
def next (n i : ℕ) : ℕ := if n ≤ i + 1 then 0 else i + 1

/-- The first place from `i` on, going round, with `p`. -/
def find (p : ℕ → Prop) [DecidablePred p] (n : ℕ) : ℕ → ℕ → Option ℕ
  | 0, _ => none
  | fuel + 1, i => if p i then some i else find p n fuel (next n i)

/-- The places that `find` looks at. -/
def visits (p : ℕ → Prop) [DecidablePred p] (n : ℕ) : ℕ → ℕ → List ℕ
  | 0, _ => []
  | fuel + 1, i => i :: if p i then [] else visits p n fuel (next n i)

variable {p : ℕ → Prop} [DecidablePred p] {n i j : ℕ}

lemma next_lt (hn : 0 < n) : next n i < n := by
  rw [next]
  split_ifs <;> omega

lemma next_of_lt (h : i + 1 < n) : next n i = i + 1 := if_neg (by omega)

lemma next_of_le (h : n ≤ i + 1) : next n i = 0 := if_pos h

/-- Behind the first place, the search stays in the array. -/
lemma visits_lt (hn : 0 < n) : ∀ (fuel : ℕ) {i : ℕ}, i < n → ∀ j ∈ visits p n fuel i, j < n := by
  intro fuel
  induction fuel with
  | zero => exact fun _ j hj => absurd hj List.not_mem_nil
  | succ fuel ih =>
      intro i hi j hj
      rw [visits, List.mem_cons] at hj
      rcases hj with rfl | hj
      · exact hi
      · split_ifs at hj
        · exact absurd hj List.not_mem_nil
        · exact ih (next_lt hn) j hj

/-- The search stops at a place with `p`: its start, or one of the array. -/
lemma find_sound : ∀ {fuel i : ℕ}, find p n fuel i = some j →
    p j ∧ (j = i ∨ j < n ∨ j = 0) := by
  intro fuel
  induction fuel with
  | zero => exact fun h => by cases h
  | succ fuel ih =>
      intro i h
      rw [find] at h
      split_ifs at h with hp
      · cases h
        exact ⟨hp, .inl rfl⟩
      · obtain ⟨hj, hplace⟩ := ih h
        refine ⟨hj, ?_⟩
        rcases hplace with rfl | hplace
        · rw [next]
          split_ifs <;> omega
        · exact .inr hplace

/-- What the search has passed by when it stops. -/
theorem find_first : ∀ {fuel i : ℕ}, i < n → find p n fuel i = some j →
    (i ≤ j ∧ ∀ k, i ≤ k → k < j → ¬ p k) ∨
      (j < i ∧ (∀ k, i ≤ k → k < n → ¬ p k) ∧ ∀ k, k < j → ¬ p k) := by
  intro fuel
  induction fuel with
  | zero => exact fun _ h => by cases h
  | succ fuel ih =>
      intro i hi h
      rw [find] at h
      split_ifs at h with hp
      · cases h
        exact .inl ⟨le_refl _, fun k hik hki => by omega⟩
      · have hpj := (find_sound h).1
        have hne : j ≠ i := fun heq => hp (heq ▸ hpj)
        by_cases hlast : n ≤ i + 1
        · -- the search goes on at the start of the array
          rw [next_of_le hlast] at h
          rcases ih (by omega) h with ⟨-, hbefore⟩ | ⟨hneg, -⟩
          · have hj := (find_sound h).2
            refine .inr ⟨by omega, fun k hik hkn => ?_, fun k hk => hbefore k (Nat.zero_le _) hk⟩
            obtain rfl : k = i := by omega
            exact hp
          · omega
        · rw [next_of_lt (by omega)] at h
          have hstep : ∀ k, i ≤ k → (i + 1 ≤ k → ¬ p k) → ¬ p k := by
            intro k hik hk
            rcases Nat.eq_or_lt_of_le hik with rfl | hlt
            · exact hp
            · exact hk hlt
          rcases ih (by omega) h with ⟨hle, hbefore⟩ | ⟨hlt, hafter, hbefore⟩
          · exact .inl ⟨by omega, fun k hik hkj => hstep k hik fun hk => hbefore k hk hkj⟩
          · exact .inr ⟨by omega, fun k hik hkn => hstep k hik fun hk => hafter k hk hkn, hbefore⟩

/-- A place further on is found. -/
lemma exists_find_up (hj : j < n) (hp : p j) : ∀ d i, i + d = j →
    ∃ fuel, (find p n fuel i).isSome := by
  intro d
  induction d with
  | zero =>
      intro i hi
      exact ⟨1, by rw [find, if_pos (by rwa [← hi] at hp), Option.isSome_some]⟩
  | succ d ih =>
      intro i hi
      obtain ⟨fuel, hfuel⟩ := ih (i + 1) (by omega)
      refine ⟨fuel + 1, ?_⟩
      rw [find]
      split_ifs
      · rfl
      · rwa [next_of_lt (by omega)]

/-- What is found from the start of the array is found from everywhere. -/
lemma exists_find_of_zero (h : ∃ fuel, (find p n fuel 0).isSome) : ∀ d i, n ≤ i + d →
    ∃ fuel, (find p n fuel i).isSome := by
  have hlast : ∀ i, n ≤ i + 1 → ∃ fuel, (find p n fuel i).isSome := by
    intro i hi
    obtain ⟨fuel, hfuel⟩ := h
    refine ⟨fuel + 1, ?_⟩
    rw [find]
    split_ifs
    · rfl
    · rwa [next_of_le hi]
  intro d
  induction d with
  | zero => exact fun i hi => hlast i (by omega)
  | succ d ih =>
      intro i hi
      by_cases hend : n ≤ i + 1
      · exact hlast i hend
      · obtain ⟨fuel, hfuel⟩ := ih (i + 1) (by omega)
        refine ⟨fuel + 1, ?_⟩
        rw [find]
        split_ifs
        · rfl
        · rwa [next_of_lt (by omega)]

/-- The search stops if and only if there is a place to stop at: its start, or one of the
array. -/
theorem exists_find_iff (i : ℕ) :
    (∃ fuel, (find p n fuel i).isSome) ↔ ∃ j, p j ∧ (j = i ∨ j < n ∨ j = 0) := by
  constructor
  · rintro ⟨fuel, hfuel⟩
    obtain ⟨j, hj⟩ := Option.isSome_iff_exists.mp hfuel
    exact ⟨j, find_sound hj⟩
  · rintro ⟨j, hp, hplace⟩
    rcases hplace with rfl | hplace
    · exact ⟨1, by rw [find, if_pos hp, Option.isSome_some]⟩
    · refine exists_find_of_zero ?_ n i (Nat.le_add_left n i)
      rcases hplace with hlt | rfl
      · exact exists_find_up hlt hp j 0 (Nat.zero_add j)
      · exact ⟨1, by rw [find, if_pos hp, Option.isSome_some]⟩

/-! ### Turn after turn -/

/-- The place after `k` turns. -/
lemma iterate_next (hi : i < n) (k : ℕ) : (next n)^[k] i = (i + k) % n := by
  induction k with
  | zero => exact (Nat.mod_eq_of_lt hi).symm
  | succ k ih =>
      have hlt : (i + k) % n < n := Nat.mod_lt _ (by omega)
      rw [Function.iterate_succ_apply', ih]
      by_cases hend : n ≤ (i + k) % n + 1
      · have hn : (i + k) % n + 1 = n := by omega
        calc next n ((i + k) % n) = 0 := next_of_le hend
          _ = ((i + k) % n + 1) % n := by rw [hn, Nat.mod_self]
          _ = (i + (k + 1)) % n := by rw [Nat.mod_add_mod, Nat.add_assoc]
      · calc next n ((i + k) % n) = (i + k) % n + 1 := next_of_lt (by omega)
          _ = ((i + k) % n + 1) % n := (Nat.mod_eq_of_lt (by omega)).symm
          _ = (i + (k + 1)) % n := by rw [Nat.mod_add_mod, Nat.add_assoc]

/-- One round meets each place exactly once. -/
theorem existsUnique_iterate_next (hi : i < n) (hj : j < n) :
    ∃! k, k < n ∧ (next n)^[k] i = j := by
  have hround : ∀ k < n, (next n)^[k] i = if i + k < n then i + k else i + k - n := by
    intro k hk
    rw [iterate_next hi]
    split_ifs with hlt
    · exact Nat.mod_eq_of_lt hlt
    · rw [Nat.mod_eq_sub_mod (by omega), Nat.mod_eq_of_lt (by omega)]
  refine ⟨if i ≤ j then j - i else j + n - i, ⟨?_, ?_⟩, ?_⟩
  · split_ifs <;> omega
  · rw [hround _ (by split_ifs <;> omega)]
    split_ifs <;> omega
  · rintro k ⟨hk, hkj⟩
    rw [hround k hk] at hkj
    split_ifs at hkj ⊢ <;> omega

end Rings
