import Dperf.Lib.Memory

/-!
Lists of bytes in a memory.

* `Stands m off l`: the memory `m` holds the list `l` from `off` on. A list in parts stands part
  by part (`stands_append`).
* A write puts a list in its place (`stands_put`) and leaves what stands beside it
  (`Stands.put_ne`).
* `stands_bytes`: the first bytes of a memory as a list.
-/

namespace Memory

/-- The list `l` stands in the memory from `off` on. -/
def Stands (m : Mem) (off : ℕ) (l : List UInt8) : Prop :=
  ∀ i (h : i < l.length), m (off + i) = l[i]

variable {m : Mem} {off off' : ℕ} {l l' : List UInt8}

@[simp] lemma stands_nil : Stands m off [] := fun _ h => absurd h (Nat.not_lt_zero _)

lemma stands_append :
    Stands m off (l ++ l') ↔ Stands m off l ∧ Stands m (off + l.length) l' := by
  constructor
  · intro h
    refine ⟨fun i hi => ?_, fun i hi => ?_⟩
    · rw [h i (by rw [List.length_append]; omega), List.getElem_append_left hi]
    · have hlt : l.length + i < (l ++ l').length := by rw [List.length_append]; omega
      rw [Nat.add_assoc, h _ hlt, List.getElem_append_right (Nat.le_add_right _ _)]
      simp only [Nat.add_sub_cancel_left]
  · rintro ⟨h, h'⟩ i hi
    rw [List.length_append] at hi
    by_cases hlt : i < l.length
    · rw [List.getElem_append_left hlt, h i hlt]
    · rw [List.getElem_append_right (not_lt.mp hlt), ← h' (i - l.length) (by omega)]
      congr 1
      omega

lemma stands_cons {b : UInt8} : Stands m off (b :: l) ↔ m off = b ∧ Stands m (off + 1) l := by
  have hone : Stands m off [b] ↔ m off = b := by
    refine ⟨fun h => h 0 Nat.zero_lt_one, fun h i hi => ?_⟩
    obtain rfl : i = 0 := Nat.lt_one_iff.mp hi
    exact h
  rw [← List.singleton_append, stands_append, hone]
  rfl

/-- A memory that agrees on the places of a list. -/
lemma Stands.congr {m' : Mem} (h : Stands m off l)
    (heq : ∀ i < l.length, m' (off + i) = m (off + i)) : Stands m' off l := by
  intro i hi
  rw [heq i hi]
  exact h i hi

/-- The first bytes of a memory. -/
lemma stands_bytes : Stands m 0 l ↔ bytes m l.length = l := by
  constructor
  · intro h
    refine List.ext_getElem (by rw [bytes, List.length_map, List.length_range]) fun i hi hi' => ?_
    rw [← h i hi', Nat.zero_add]
    simp only [bytes, List.getElem_map, List.getElem_range]
  · intro h i hi
    have hget : (bytes m l.length)[i]? = l[i]? := by rw [h]
    rw [Nat.zero_add]
    simpa [bytes, hi] using hget

lemma stands_getD : Stands (fun i => l.getD i 0) 0 l := by
  intro i h
  rw [Nat.zero_add]
  exact List.getD_eq_getElem _ _ h

/-- A memory from a later place on. -/
lemma stands_shift {k : ℕ} : Stands (fun i => m (i + k)) off l ↔ Stands m (off + k) l := by
  refine forall₂_congr fun i _ => ?_
  rw [Nat.add_right_comm]

lemma stands_put : Stands (put m off l) off l := fun _ h => put_of_mem h

/-- What stands beside a write stays. -/
lemma Stands.put_ne (h : Stands m off l) (hne : off + l.length ≤ off' ∨ off' + l'.length ≤ off) :
    Stands (put m off' l') off l := by
  intro i hi
  rw [Memory.put_ne (by omega)]
  exact h i hi

/-- A write behind a list. -/
lemma Stands.put_append (h : Stands m off l) (l' : List UInt8) :
    Stands (put m (off + l.length) l') off (l ++ l') :=
  stands_append.mpr ⟨h.put_ne (.inl le_rfl), stands_put⟩

/-- A part is replaced by one of its length. -/
lemma Stands.put_replace {a b : List UInt8} (h : Stands m off (a ++ (l ++ b))) (l' : List UInt8)
    (hlen : l'.length = l.length) : Stands (put m (off + a.length) l') off (a ++ (l' ++ b)) := by
  obtain ⟨ha, h⟩ := stands_append.mp h
  obtain ⟨-, hb⟩ := stands_append.mp h
  rw [← hlen] at hb
  exact stands_append.mpr ⟨ha.put_ne (.inl le_rfl),
    stands_append.mpr ⟨stands_put, hb.put_ne (.inr le_rfl)⟩⟩

/-- A list is moved, and another one is put before it. -/
lemma Stands.prepend (h : Stands m 0 l) (l' : List UInt8) :
    Stands (put (put m l'.length (bytes m l.length)) 0 l') 0 (l' ++ l) := by
  rw [stands_bytes.mp h]
  have hmoved : Stands (put m l'.length l) l'.length l := stands_put
  refine stands_append.mpr ⟨stands_put, ?_⟩
  rw [Nat.zero_add]
  exact hmoved.put_ne (.inr (Nat.zero_add _).le)

lemma Stands.get16_eq {v : UInt16} (h : Stands m off (le16 v)) : get16 m off = v :=
  get16_of_bytes (h 0 Nat.zero_lt_two) (h 1 Nat.one_lt_two)

lemma Stands.get32_eq {v : UInt32} (h : Stands m off (le32 v)) : get32 m off = v := by
  obtain ⟨hlo, hhi⟩ := stands_append.mp h
  exact get32_of_words hlo.get16_eq hhi.get16_eq

end Memory
