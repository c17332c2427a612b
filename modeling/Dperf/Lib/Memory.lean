import Mathlib

/-!
A memory of bytes, and the sum of its 16-bit words.

* `put m off bs`: the bytes of `bs` are written from `off` on. Two memories that agree on a set
  agree on what is written to both as well (`put_eqOn`), and a write touches nothing else
  (`put_eqOn_left`).
* `Writes f w`: the function `f` overwrites the places `w`, whatever the memory held.
* `wordSum m off n`: the sum of the little-endian words of `n` bytes; a last odd byte counts as
  the low one. `wordSum_putAll` says what writes add where the memory was zero.
-/

namespace Memory

/-- A memory. -/
abbrev Mem := ℕ → UInt8

/-! ### Writes -/

/-- The bytes of `bs` are written from `off` on. -/
def put (m : Mem) (off : ℕ) (bs : List UInt8) : Mem :=
  fun i => if off ≤ i then bs.getD (i - off) (m i) else m i

/-- The places of `n` bytes from `off` on. -/
abbrev block (off n : ℕ) : Set ℕ := Set.Ico off (off + n)

/-- The bytes of a 16-bit field. -/
def le16 (v : UInt16) : List UInt8 := [UInt8.ofNat v.toNat, UInt8.ofNat (v.toNat / 256)]

/-- The bytes of a 32-bit field. -/
def le32 (v : UInt32) : List UInt8 :=
  le16 (UInt16.ofNat v.toNat) ++ le16 (UInt16.ofNat (v.toNat / 65536))

/-- The 16-bit field at `off`. -/
def get16 (m : Mem) (off : ℕ) : UInt16 :=
  UInt16.ofNat ((m off).toNat + 256 * (m (off + 1)).toNat)

/-- The 32-bit field at `off`. -/
def get32 (m : Mem) (off : ℕ) : UInt32 :=
  UInt32.ofNat ((get16 m off).toNat + 65536 * (get16 m (off + 2)).toNat)

/-- The first `n` bytes. -/
def bytes (m : Mem) (n : ℕ) : List UInt8 := (List.range n).map m

@[simp] lemma length_le16 (v : UInt16) : (le16 v).length = 2 := rfl

@[simp] lemma length_le32 (v : UInt32) : (le32 v).length = 4 := rfl

section Put

variable {m m' : Mem} {off : ℕ} {bs : List UInt8} {s : Set ℕ}

lemma put_of_mem {i : ℕ} (h : i < bs.length) : put m off bs (off + i) = bs[i] := by
  rw [put, if_pos (Nat.le_add_right off i), Nat.add_sub_cancel_left, List.getD_eq_getElem?_getD,
    List.getElem?_eq_getElem h, Option.getD_some]

lemma put_of_notMem {i : ℕ} (h : i ∉ block off bs.length) : put m off bs i = m i := by
  rw [put]
  split_ifs with hle
  · have hlen : bs.length ≤ i - off := by
      by_contra hlt
      exact h ⟨hle, by omega⟩
    rw [List.getD_eq_getElem?_getD, List.getElem?_eq_none hlen, Option.getD_none]
  · rfl

/-- What is written to two memories agrees, and they go on to agree where they did. -/
lemma put_eqOn (h : Set.EqOn m m' s) :
    Set.EqOn (put m off bs) (put m' off bs) (s ∪ block off bs.length) := by
  intro i hi
  by_cases hb : i ∈ block off bs.length
  · obtain ⟨d, rfl⟩ := Nat.exists_eq_add_of_le hb.1
    have hd : d < bs.length := by
      have hlt := hb.2
      omega
    rw [put_of_mem hd, put_of_mem hd]
  · rw [put_of_notMem hb, put_of_notMem hb]
    exact h (hi.resolve_right hb)

/-- Two writes to one place leave the others as they agreed. -/
lemma put_eqOn_diff {bs' : List UInt8} (hlen : bs.length = bs'.length) (h : Set.EqOn m m' s) :
    Set.EqOn (put m off bs) (put m' off bs') (s \ block off bs.length) := by
  rintro i ⟨hi, hb⟩
  rw [put_of_notMem hb, put_of_notMem (by rwa [← hlen])]
  exact h hi

/-- A write touches no other place. -/
lemma put_eqOn_left (h : Disjoint s (block off bs.length)) : Set.EqOn (put m off bs) m s :=
  fun _ hi => put_of_notMem (Set.disjoint_left.mp h hi)

/-- One more write to the places `s`. -/
lemma put_kept (h : Set.EqOn m' m sᶜ) (hs : block off bs.length ⊆ s) :
    Set.EqOn (put m' off bs) m sᶜ :=
  (put_eqOn_left (disjoint_compl_left.mono_right hs)).trans h

lemma put_head {b : UInt8} : put m off (b :: bs) off = b := put_of_mem (i := 0) (by simp)

lemma get16_congr (h : Set.EqOn m m' (block off 2)) : get16 m off = get16 m' off := by
  rw [get16, get16, h ⟨le_refl _, by omega⟩, h ⟨by omega, by omega⟩]

lemma get32_congr (h : Set.EqOn m m' (block off 4)) : get32 m off = get32 m' off := by
  have hlo : Set.EqOn m m' (block off 2) := h.mono (Set.Ico_subset_Ico (le_refl _) (by omega))
  have hhi : Set.EqOn m m' (block (off + 2) 2) :=
    h.mono (Set.Ico_subset_Ico (by omega) (by omega))
  rw [get32, get32, get16_congr hlo, get16_congr hhi]

lemma bytes_congr {n : ℕ} (h : Set.EqOn m m' (block 0 n)) : bytes m n = bytes m' n :=
  List.map_congr_left fun i hi => h ⟨Nat.zero_le i, by rw [Nat.zero_add]; exact List.mem_range.mp hi⟩

lemma bytes_eq_iff {n : ℕ} : bytes m n = bytes m' n ↔ Set.EqOn m m' (block 0 n) := by
  refine ⟨fun h i hi => ?_, bytes_congr⟩
  have hlt : i < n := by
    have hi' := hi.2
    omega
  have hget := congrArg (fun l => l[i]?) h
  simpa [bytes, hlt] using hget

end Put

/-! ### Functions that overwrite -/

/-- `f` overwrites the places in `w` with values that do not depend on the memory, and leaves all
others. -/
structure Writes (f : Mem → Mem) (w : Set ℕ) : Prop where
  kept : ∀ m, Set.EqOn (f m) m wᶜ
  same : ∀ m m', Set.EqOn (f m) (f m') w

namespace Writes

variable {f g : Mem → Mem} {w v : Set ℕ}

lemma put (off : ℕ) (bs : List UInt8) :
    Writes (fun m => put m off bs) (block off bs.length) where
  kept _ := put_eqOn_left disjoint_compl_left
  same m m' := by
    have h : Set.EqOn (Memory.put m off bs) (Memory.put m' off bs) (∅ ∪ block off bs.length) :=
      put_eqOn (Set.eqOn_empty m m')
    rwa [Set.empty_union] at h

lemma id : Writes (fun m => m) ∅ := ⟨fun _ _ _ => rfl, fun _ _ => Set.eqOn_empty _ _⟩

/-- One after the other. -/
lemma comp (hg : Writes g v) (hf : Writes f w) : Writes (fun m => g (f m)) (w ∪ v) where
  kept m i hi := by
    rw [Set.compl_union] at hi
    rw [hg.kept _ hi.2, hf.kept _ hi.1]
  same m m' i hi := by
    by_cases hv : i ∈ v
    · exact hg.same _ _ hv
    · have hw := hi.resolve_right hv
      calc g (f m) i = f m i := hg.kept _ hv
        _ = f m' i := hf.same _ _ hw
        _ = g (f m') i := (hg.kept _ hv).symm

/-- Two memories agree on what is overwritten and go on to agree where they did. -/
lemma eqOn (hf : Writes f w) {m m' : Mem} {s : Set ℕ} (h : Set.EqOn m m' s) :
    Set.EqOn (f m) (f m') (s ∪ w) := by
  intro i hi
  by_cases hw : i ∈ w
  · exact hf.same _ _ hw
  · calc f m i = m i := hf.kept _ hw
      _ = m' i := h (hi.resolve_right hw)
      _ = f m' i := (hf.kept _ hw).symm

end Writes

/-! ### Fields read back -/

section Fields

variable {m : Mem} {off : ℕ}

/-- A field from its bytes. -/
lemma get16_of_bytes {v : UInt16} (h0 : m off = UInt8.ofNat v.toNat)
    (h1 : m (off + 1) = UInt8.ofNat (v.toNat / 256)) : get16 m off = v := by
  have hlt := v.toNat_lt
  rw [get16, h0, h1]
  apply UInt16.toNat_inj.mp
  simp only [UInt8.toNat_ofNat', UInt16.toNat_ofNat']
  omega

lemma get32_of_words {v : UInt32} (h0 : get16 m off = UInt16.ofNat v.toNat)
    (h1 : get16 m (off + 2) = UInt16.ofNat (v.toNat / 65536)) : get32 m off = v := by
  have hlt := v.toNat_lt
  rw [get32, h0, h1]
  apply UInt32.toNat_inj.mp
  simp only [UInt16.toNat_ofNat', UInt32.toNat_ofNat']
  omega

lemma get16_put (v : UInt16) : get16 (put m off (le16 v)) off = v := by
  have h0 : put m off (le16 v) off = UInt8.ofNat v.toNat := put_of_mem (i := 0) (by simp)
  have h1 : put m off (le16 v) (off + 1) = UInt8.ofNat (v.toNat / 256) :=
    put_of_mem (i := 1) (by simp)
  exact get16_of_bytes h0 h1

lemma put_append (bs cs : List UInt8) :
    put m off (bs ++ cs) = put (put m off bs) (off + bs.length) cs := by
  funext i
  by_cases hc : off + bs.length ≤ i
  · rw [put, put, if_pos (by omega), if_pos hc, List.getD_append_right _ _ _ _ (by omega)]
    have hd : i - off - bs.length = i - (off + bs.length) := by omega
    rw [hd]
    congr 1
    rw [put, if_pos (by omega), List.getD_eq_getElem?_getD, List.getElem?_eq_none (by omega)]
    rfl
  · rw [put, put, if_neg hc, put]
    split_ifs with hle
    · rw [List.getD_append _ _ _ _ (by omega)]
    · rfl

lemma get32_put (v : UInt32) : get32 (put m off (le32 v)) off = v := by
  have hdis : Disjoint (block off 2) (block (off + 2) 2) :=
    Set.disjoint_left.mpr fun i hi hi' => by
      have h1 := hi.2
      have h2 := hi'.1
      omega
  have hlo : get16 (put m off (le32 v)) off = UInt16.ofNat v.toNat := by
    rw [le32, put_append, get16_congr (put_eqOn_left hdis), get16_put]
  have hhi : get16 (put m off (le32 v)) (off + 2) = UInt16.ofNat (v.toNat / 65536) := by
    rw [le32, put_append]
    exact get16_put _
  exact get32_of_words hlo hhi

lemma put_ne {bs : List UInt8} {i : ℕ} (h : i < off ∨ off + bs.length ≤ i) :
    put m off bs i = m i :=
  put_of_notMem fun hi => by
    obtain ⟨h1, h2⟩ := hi
    omega

/-- A write beside a field. -/
lemma get16_put_ne {bs : List UInt8} {off' : ℕ} (h : off' + 2 ≤ off ∨ off + bs.length ≤ off') :
    get16 (put m off bs) off' = get16 m off' := by
  rw [get16, get16, put_ne (by omega), put_ne (by omega)]

lemma get32_put_ne {bs : List UInt8} {off' : ℕ} (h : off' + 4 ≤ off ∨ off + bs.length ≤ off') :
    get32 (put m off bs) off' = get32 m off' := by
  rw [get32, get32, get16_put_ne (by omega), get16_put_ne (by omega)]

/-- A field that has been cleared. -/
lemma get16_put_zeros {n d : ℕ} (h : d + 2 ≤ n) :
    get16 (put m off (List.replicate n 0)) (off + d) = 0 := by
  have hzero : ∀ i < n, put m off (List.replicate n 0) (off + i) = 0 := by
    intro i hi
    rw [put_of_mem (by rw [List.length_replicate]; exact hi), List.getElem_replicate]
  rw [get16, hzero d (by omega), Nat.add_assoc, hzero (d + 1) (by omega)]
  rfl

/-- A field determines its bytes. -/
lemma get16_inj {m' : Mem} (h : get16 m off = get16 m' off) : Set.EqOn m m' (block off 2) := by
  have h0 := (m off).toNat_lt
  have h1 := (m (off + 1)).toNat_lt
  have h0' := (m' off).toNat_lt
  have h1' := (m' (off + 1)).toNat_lt
  rw [get16, get16, ← UInt16.toNat_inj, UInt16.toNat_ofNat', UInt16.toNat_ofNat'] at h
  rintro i ⟨hle, hlt⟩
  apply UInt8.toNat_inj.mp
  obtain rfl | rfl : i = off ∨ i = off + 1 := by omega
  · omega
  · omega

end Fields

/-! ### The sum of the words -/

/-- The weight of a byte in its word. -/
def weight (i : ℕ) : ℕ := if i % 2 = 0 then 1 else 256

/-- The sum of the words of `n` bytes from `off` on. -/
def wordSum (m : Mem) (off n : ℕ) : ℕ := ∑ i ∈ Finset.range n, weight i * (m (off + i)).toNat

/-- What the bytes of a list add to a sum of words, the first being byte `d` of the sum. -/
def listSum (d : ℕ) (bs : List UInt8) : ℕ :=
  ∑ i ∈ Finset.range bs.length, weight (d + i) * (bs.getD i 0).toNat

section Sum

variable {m m' : Mem} {off n : ℕ}

lemma wordSum_congr (h : Set.EqOn m m' (block off n)) : wordSum m off n = wordSum m' off n := by
  refine Finset.sum_congr rfl fun i hi => ?_
  rw [h ⟨Nat.le_add_right off i, Nat.add_lt_add_left (Finset.mem_range.mp hi) off⟩]

/-- What a write inside of the bytes changes of their sum. -/
lemma wordSum_put {bs : List UInt8} {d : ℕ} (hn : d + bs.length ≤ n) :
    wordSum (put m (off + d) bs) off n
        + ∑ i ∈ Finset.range bs.length, weight (d + i) * (m (off + d + i)).toNat
      = wordSum m off n + listSum d bs := by
  obtain ⟨e, rfl⟩ := Nat.exists_eq_add_of_le hn
  have hbefore : ∑ i ∈ Finset.range d, weight i * (put m (off + d) bs (off + i)).toNat =
      ∑ i ∈ Finset.range d, weight i * (m (off + i)).toNat := by
    refine Finset.sum_congr rfl fun i hi => ?_
    rw [put_of_notMem fun hmem => ?_]
    have hlt := Finset.mem_range.mp hi
    have hle := hmem.1
    omega
  have hafter : ∑ i ∈ Finset.range e,
        weight (d + bs.length + i) * (put m (off + d) bs (off + (d + bs.length + i))).toNat =
      ∑ i ∈ Finset.range e, weight (d + bs.length + i) * (m (off + (d + bs.length + i))).toNat := by
    refine Finset.sum_congr rfl fun i _ => ?_
    rw [put_of_notMem fun hmem => ?_]
    have hlt := hmem.2
    omega
  have hinside : ∑ i ∈ Finset.range bs.length,
      weight (d + i) * (put m (off + d) bs (off + (d + i))).toNat = listSum d bs := by
    refine Finset.sum_congr rfl fun i hi => ?_
    have hlt := Finset.mem_range.mp hi
    rw [← Nat.add_assoc, put_of_mem hlt, List.getD_eq_getElem?_getD, List.getElem?_eq_getElem hlt,
      Option.getD_some]
  rw [wordSum, wordSum, Finset.sum_range_add, Finset.sum_range_add, Finset.sum_range_add,
    Finset.sum_range_add, hbefore, hafter, hinside]
  simp only [Nat.add_assoc]
  omega

lemma weight_even {d : ℕ} (h : d % 2 = 0) : weight d = 1 := if_pos h

lemma weight_odd {d : ℕ} (h : d % 2 = 1) : weight d = 256 := if_neg (by omega)

lemma listSum_le16 {d : ℕ} (h : d % 2 = 0) (v : UInt16) : listSum d (le16 v) = v.toNat := by
  have hlt := v.toNat_lt
  rw [listSum, length_le16, Finset.sum_range_succ, Finset.sum_range_one, Nat.add_zero,
    weight_even h, weight_odd (by omega)]
  simp only [le16, List.getD_cons_zero, List.getD_cons_succ, UInt8.toNat_ofNat']
  omega

/-- A field that is overwritten. -/
lemma wordSum_put16 (m : Mem) (off : ℕ) (v : UInt16) {d : ℕ} (hd : d % 2 = 0) (hn : d + 2 ≤ n) :
    wordSum (put m (off + d) (le16 v)) off n + (get16 m (off + d)).toNat
      = wordSum m off n + v.toNat := by
  have hput : wordSum (put m (off + d) (le16 v)) off n
      + ∑ i ∈ Finset.range (le16 v).length, weight (d + i) * (m (off + d + i)).toNat
      = wordSum m off n + listSum d (le16 v) := wordSum_put hn
  have hlo := (m (off + d)).toNat_lt
  have hhi := (m (off + d + 1)).toNat_lt
  have hget : (get16 m (off + d)).toNat
      = (m (off + d)).toNat + 256 * (m (off + d + 1)).toNat := by
    rw [get16, UInt16.toNat_ofNat']
    exact Nat.mod_eq_of_lt (by omega)
  rw [length_le16, Finset.sum_range_succ, Finset.sum_range_one, Nat.add_zero, Nat.add_zero,
    weight_even hd, weight_odd (by omega), listSum_le16 hd] at hput
  omega

/-- A write over zeros adds its bytes. -/
lemma wordSum_put_zero {bs : List UInt8} {d : ℕ} (hn : d + bs.length ≤ n)
    (hz : ∀ i ∈ block (off + d) bs.length, m i = 0) :
    wordSum (put m (off + d) bs) off n = wordSum m off n + listSum d bs := by
  have hold : ∑ i ∈ Finset.range bs.length, weight (d + i) * (m (off + d + i)).toNat = 0 := by
    refine Finset.sum_eq_zero fun i hi => ?_
    rw [hz _ ⟨Nat.le_add_right _ _, Nat.add_lt_add_left (Finset.mem_range.mp hi) _⟩]
    rfl
  rw [← wordSum_put hn, hold, Nat.add_zero]

/-- An even number of bytes and the bytes behind them. -/
lemma wordSum_add (m : Mem) (off : ℕ) {a : ℕ} (ha : a % 2 = 0) (b : ℕ) :
    wordSum m off (a + b) = wordSum m off a + wordSum m (off + a) b := by
  rw [wordSum, Finset.sum_range_add, ← wordSum, wordSum]
  congr 1
  refine Finset.sum_congr rfl fun i _ => ?_
  have hweight : weight (a + i) = weight i := by
    rw [weight, weight]
    congr 1
    exact propext ⟨fun h => by omega, fun h => by omega⟩
  rw [hweight, Nat.add_assoc]

/-- A 32-bit field has two words. -/
lemma wordSum_get32 (m : Mem) (off : ℕ) :
    wordSum m off 4 = (get32 m off).toNat % 65536 + (get32 m off).toNat / 65536 := by
  have hget : ∀ off, (get16 m off).toNat = wordSum m off 2 := by
    intro off
    have hlo := (m off).toNat_lt
    have hhi := (m (off + 1)).toNat_lt
    rw [wordSum, Finset.sum_range_succ, Finset.sum_range_one, Nat.add_zero, weight_even rfl,
      weight_odd rfl, get16, UInt16.toNat_ofNat']
    omega
  have hlo := (get16 m off).toNat_lt
  have hhi := (get16 m (off + 2)).toNat_lt
  rw [show 4 = 2 + 2 from rfl, wordSum_add m off rfl, ← hget, ← hget, get32,
    UInt32.toNat_ofNat_of_lt' (by change _ < 2 ^ 32; omega)]
  omega

lemma listSum_append (d : ℕ) (as bs : List UInt8) :
    listSum d (as ++ bs) = listSum d as + listSum (d + as.length) bs := by
  rw [listSum, listSum, listSum, List.length_append, Finset.sum_range_add]
  congr 1
  · refine Finset.sum_congr rfl fun i hi => ?_
    rw [List.getD_append _ _ _ _ (Finset.mem_range.mp hi)]
  · refine Finset.sum_congr rfl fun i _ => ?_
    rw [List.getD_append_right _ _ _ _ (Nat.le_add_right _ _), Nat.add_sub_cancel_left,
      Nat.add_assoc]

/-- Writes one after the other, at places given from `off` on. -/
def putAll (off : ℕ) (l : List (ℕ × List UInt8)) (m : Mem) : Mem :=
  l.foldl (fun m p => put m (off + p.1) p.2) m

/-- What the bytes of several writes add. -/
def listSums : List (ℕ × List UInt8) → ℕ
  | [] => 0
  | (d, bs) :: l => listSum d bs + listSums l

lemma listSums_nil : listSums [] = 0 := by
  rw [listSums]

lemma listSums_cons (d : ℕ) (bs : List UInt8) (l : List (ℕ × List UInt8)) :
    listSums ((d, bs) :: l) = listSum d bs + listSums l := by
  rw [listSums]

/-- Writes to different places, all over zeros, add their bytes. -/
lemma wordSum_putAll : ∀ {l : List (ℕ × List UInt8)} {m : Mem},
    l.Pairwise (fun p q => p.1 + p.2.length ≤ q.1 ∨ q.1 + q.2.length ≤ p.1) →
    (∀ p ∈ l, p.1 + p.2.length ≤ n ∧ ∀ i ∈ block (off + p.1) p.2.length, m i = 0) →
    wordSum (putAll off l m) off n = wordSum m off n + listSums l := by
  intro l
  induction l with
  | nil => exact fun _ _ => rfl
  | cons p l ih =>
      intro m hdis hz
      obtain ⟨hp, hdis⟩ := List.pairwise_cons.mp hdis
      obtain ⟨hn, hzp⟩ := hz p List.mem_cons_self
      have hrest : wordSum (putAll off l (put m (off + p.1) p.2)) off n =
          wordSum (put m (off + p.1) p.2) off n + listSums l := by
        refine ih hdis fun q hq => ?_
        obtain ⟨hnq, hzq⟩ := hz q (List.mem_cons_of_mem p hq)
        refine ⟨hnq, fun i hi => ?_⟩
        rw [put_of_notMem fun hmem => ?_, hzq i hi]
        have hpq := hp q hq
        obtain ⟨h1, h2⟩ := hi
        obtain ⟨h3, h4⟩ := hmem
        omega
      rw [putAll, List.foldl_cons, listSums_cons p.1 p.2, ← Nat.add_assoc,
        ← wordSum_put_zero hn hzp]
      exact hrest

lemma listSum_le32 {d : ℕ} (h : d % 2 = 0) (v : UInt32) :
    listSum d (le32 v) = v.toNat % 65536 + v.toNat / 65536 := by
  have hlt := v.toNat_lt
  rw [listSum, length_le32, Finset.sum_range_succ, Finset.sum_range_succ, Finset.sum_range_succ,
    Finset.sum_range_one, Nat.add_zero, weight_even h, weight_odd (by omega),
    weight_even (by omega), weight_odd (by omega)]
  simp only [le32, le16, List.cons_append, List.nil_append, List.getD_cons_zero,
    List.getD_cons_succ, UInt8.toNat_ofNat', UInt16.toNat_ofNat']
  omega

lemma listSum_singleton {d : ℕ} (h : d % 2 = 1) (v : UInt8) : listSum d [v] = 256 * v.toNat := by
  rw [listSum, List.length_singleton, Finset.sum_range_one, Nat.add_zero, weight_odd h,
    List.getD_cons_zero]

end Sum

end Memory
