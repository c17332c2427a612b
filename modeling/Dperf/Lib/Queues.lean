import Mathlib.Data.List.Nodup
import Mathlib.Logic.Function.Basic

/-!
A family of queues over one set of members in which no member is queued twice:
the list view of intrusive queues, whose nodes have a single pair of links.

* `Queues`: one list for each queue, duplicate-free and pairwise disjoint; both facts
  are fields, so every operation carries them.
* `remove`, `enqueue`: unlink a member from wherever it is; move it to the tail of one
  queue. `mem_remove`, `mem_enqueue_self` and `mem_enqueue_ne` say where every member is
  afterwards.
* `place`: the queue a member is linked in, if any (`place_eq_some`, `place_eq_none`).
* `pairwise_remove`, `pairwise_enqueue`: what relates each member of a queue to those behind it
  stays, if it relates them to the one that is linked at the tail.
-/

/-- Queues indexed by `κ` with members in `ι`: a member is linked at most once. -/
@[ext]
structure Queues (κ ι : Type*) where
  list : κ → List ι
  nodup : ∀ k, (list k).Nodup
  disjoint : ∀ k l i, i ∈ list k → i ∈ list l → k = l

namespace Queues

variable {κ ι : Type*}

/-- No member is linked. -/
def empty (κ ι : Type*) : Queues κ ι :=
  ⟨fun _ => [], fun _ => List.nodup_nil, fun _ _ _ h => absurd h List.not_mem_nil⟩

@[simp] lemma list_empty (k : κ) : (empty κ ι).list k = [] := rfl

/-- The member is in no queue. -/
def Unlinked (q : Queues κ ι) (i : ι) : Prop := ∀ k, i ∉ q.list k

lemma unlinked_empty (i : ι) : (empty κ ι).Unlinked i := fun _ => List.not_mem_nil

open Classical in
/-- The queue a member is linked in. -/
noncomputable def place (q : Queues κ ι) (i : ι) : Option κ :=
  if h : ∃ k, i ∈ q.list k then some h.choose else none

lemma place_eq_some {q : Queues κ ι} {i : ι} {k : κ} : q.place i = some k ↔ i ∈ q.list k := by
  unfold place
  constructor
  · intro h
    split at h
    · case isTrue hex => exact Option.some.inj h ▸ hex.choose_spec
    · cases h
  · intro h
    have hex : ∃ k, i ∈ q.list k := ⟨k, h⟩
    rw [dif_pos hex, q.disjoint _ _ i hex.choose_spec h]

lemma place_eq_none {q : Queues κ ι} {i : ι} : q.place i = none ↔ q.Unlinked i := by
  constructor
  · intro h k hk
    rw [place_eq_some.mpr hk] at h
    cases h
  · intro h
    cases hp : q.place i with
    | none => rfl
    | some k => exact absurd (place_eq_some.mp hp) (h k)

/-- The place depends on the membership in each queue only. -/
lemma place_congr {q r : Queues κ ι} {i : ι} (h : ∀ k, i ∈ q.list k ↔ i ∈ r.list k) :
    q.place i = r.place i := by
  cases hr : r.place i with
  | none => exact place_eq_none.mpr fun k hk => place_eq_none.mp hr k ((h k).mp hk)
  | some k => exact place_eq_some.mpr ((h k).mpr (place_eq_some.mp hr))

@[simp] lemma place_empty (i : ι) : (empty κ ι).place i = none :=
  place_eq_none.mpr (unlinked_empty i)

variable [DecidableEq ι]

/-- Unlink a member from wherever it is. -/
def remove (i : ι) (q : Queues κ ι) : Queues κ ι where
  list k := (q.list k).erase i
  nodup k := (q.nodup k).erase i
  disjoint k l j hk hl := q.disjoint k l j (List.mem_of_mem_erase hk) (List.mem_of_mem_erase hl)

lemma list_remove (i : ι) (q : Queues κ ι) (k : κ) :
    (q.remove i).list k = (q.list k).erase i := rfl

@[simp] lemma mem_remove {i j : ι} {q : Queues κ ι} {k : κ} :
    j ∈ (q.remove i).list k ↔ j ≠ i ∧ j ∈ q.list k := (q.nodup k).mem_erase_iff

lemma unlinked_remove_self (i : ι) (q : Queues κ ι) : (q.remove i).Unlinked i := by
  intro k
  simp

/-- What relates each member of a queue to those behind it stays when one is unlinked; that one
may change. -/
lemma pairwise_remove {R R' : ι → ι → Prop} {q : Queues κ ι} {k : κ} {i : ι}
    (h : (q.list k).Pairwise R) (hne : ∀ a b, a ≠ i → b ≠ i → R a b → R' a b) :
    ((q.remove i).list k).Pairwise R' := by
  refine (h.sublist List.erase_sublist).imp_of_mem fun {a b} ha hb hab => ?_
  exact hne a b ((q.nodup k).mem_erase_iff.mp ha).1 ((q.nodup k).mem_erase_iff.mp hb).1 hab

variable [DecidableEq κ]

/-- Unlink a member and link it again at the tail of the queue `k`. -/
def enqueue (k : κ) (i : ι) (q : Queues κ ι) : Queues κ ι where
  list l := if l = k then (q.list l).erase i ++ [i] else (q.list l).erase i
  nodup l := by
    have hn := (q.remove i).nodup l
    split
    · refine List.nodup_append.mpr ⟨hn, List.nodup_singleton i, ?_⟩
      intro a ha b hb
      rw [List.mem_singleton.mp hb]
      exact ((q.nodup l).mem_erase_iff.mp ha).1
    · exact hn
  disjoint l m j hl hm := by
    by_cases hj : j = i
    · subst hj
      have key : ∀ n, j ∈ (if n = k then (q.list n).erase j ++ [j] else (q.list n).erase j) →
          n = k := by
        intro n hn
        by_contra hne
        rw [if_neg hne] at hn
        exact ((q.nodup n).mem_erase_iff.mp hn).1 rfl
      rw [key l hl, key m hm]
    · have key : ∀ n, j ∈ (if n = k then (q.list n).erase i ++ [i] else (q.list n).erase i) →
          j ∈ q.list n := by
        intro n hn
        split at hn
        · rcases List.mem_append.mp hn with h | h
          · exact List.mem_of_mem_erase h
          · exact absurd (List.mem_singleton.mp h) hj
        · exact List.mem_of_mem_erase hn
      exact q.disjoint l m j (key l hl) (key m hm)

lemma list_enqueue_self (k : κ) (i : ι) (q : Queues κ ι) :
    (q.enqueue k i).list k = (q.list k).erase i ++ [i] := if_pos rfl

lemma list_enqueue_ne {k l : κ} (h : l ≠ k) (i : ι) (q : Queues κ ι) :
    (q.enqueue k i).list l = (q.list l).erase i := if_neg h

lemma mem_enqueue_self {i : ι} {q : Queues κ ι} {k l : κ} :
    i ∈ (q.enqueue k i).list l ↔ l = k := by
  by_cases h : l = k
  · subst h
    simp [list_enqueue_self]
  · rw [list_enqueue_ne h]
    simp [h, (q.nodup l).mem_erase_iff]

lemma mem_enqueue_ne {i j : ι} (h : j ≠ i) {q : Queues κ ι} {k l : κ} :
    j ∈ (q.enqueue k i).list l ↔ j ∈ q.list l := by
  by_cases hl : l = k
  · subst hl
    simp [list_enqueue_self, h, List.mem_erase_of_ne h]
  · rw [list_enqueue_ne hl, List.mem_erase_of_ne h]

/-- It stays when that one is linked at the tail, if it relates the others to it. -/
lemma pairwise_enqueue {R R' : ι → ι → Prop} {q : Queues κ ι} {k l : κ} {i : ι}
    (h : (q.list l).Pairwise R) (hne : ∀ a b, a ≠ i → b ≠ i → R a b → R' a b)
    (hi : l = k → ∀ j ∈ q.list l, j ≠ i → R' j i) : ((q.enqueue k i).list l).Pairwise R' := by
  have herase : ((q.list l).erase i).Pairwise R' := pairwise_remove h hne
  by_cases hl : l = k
  · subst hl
    rw [list_enqueue_self]
    refine List.pairwise_append.mpr ⟨herase, List.pairwise_singleton R' i, ?_⟩
    intro j hj a ha
    obtain ⟨hji, hmem⟩ := (q.nodup l).mem_erase_iff.mp hj
    rw [List.mem_singleton.mp ha]
    exact hi rfl j hmem hji
  · rw [list_enqueue_ne hl]
    exact herase

end Queues
