import Dperf.SocketPool

/-!
Which sockets of its pool a client without RSS opens.

* `nthSocket`: what `socket_table_get_socket` returns at its `k`-th call.
* `Once`: as many calls as there are sockets return each of them exactly once.
  Without `client_hop` the calls go round the pool as `Rings` has it.
* `hop_residue`: with `client_hop`, `next` moves by 65536, or to the start of the pool, or to 65535
  behind the last socket, so that it keeps to three residues.
* `poolUsed_iff`: with `client_hop` the whole pool is used only if it has one socket, or two and
  starts at the second.
-/

namespace Dperf

open Rings

section Walk

variable {n : ℕ} (st : SocketTable n) (pool : Fin n → Socket)

/-- `socket_pool.next` after `k` calls of `socket_table_get_socket`. -/
def nextAfter : ℕ → UInt32 → Option UInt32
  | 0, next => some next
  | k + 1, next => (socketTableGetSocket st pool 0 next).bind fun r => nextAfter k r.2

/-- The socket of the call after `k` calls. -/
def nthSocket (next : UInt32) (k : ℕ) : Option (Fin n) :=
  (nextAfter st pool k next).bind fun next =>
    (socketTableGetSocket st pool 0 next).map Prod.fst

/-- Every socket of the pool is returned by some call. -/
def PoolUsed (next : UInt32) : Prop := ∀ i : Fin n, ∃ k, nthSocket st pool next k = some i

/-- Any `n` calls one after the other return each socket exactly once. -/
def Once (next : UInt32) : Prop :=
  ∀ (k : ℕ) (i : Fin n), ∃! d, d < n ∧ nthSocket st pool next (k + d) = some i

/-- Where a call without RSS leaves `next`. -/
def hop (next : UInt32) : UInt32 :=
  if st.clientHop then poolWrap n (poolWrap n (next + 1) + 65535) else poolWrap n (next + 1)

variable {st} {next : UInt32}

lemma getSocket_hop (hrss : st.rss = false) (h : next.toNat < n) :
    socketTableGetSocket st pool 0 next = some (⟨next.toNat, h⟩, hop st next) := by
  have hwrap : ∀ v : UInt32, (if n ≤ v.toNat then 0 else v) = poolWrap n v := fun _ => rfl
  rw [socketTableGetSocket, if_pos hrss, dif_pos h, hop]
  simp only [hwrap, Option.map_some]
  by_cases hhop : st.clientHop = true
  · rw [if_pos hhop, if_pos hhop]
  · rw [if_neg hhop, if_neg hhop]

lemma hop_lt (h : next.toNat < n) : (hop st next).toNat < n := by
  have hn : 0 < n := by omega
  rw [hop]
  split_ifs <;> exact toNat_poolWrap_lt hn _

lemma iterate_hop_lt (h : next.toNat < n) (k : ℕ) : ((hop st)^[k] next).toNat < n := by
  induction k with
  | zero => exact h
  | succ k ih =>
      rw [Function.iterate_succ_apply']
      exact hop_lt ih

lemma nextAfter_eq (hrss : st.rss = false) : ∀ (k : ℕ) {next : UInt32}, next.toNat < n →
    nextAfter st pool k next = some ((hop st)^[k] next) := by
  intro k
  induction k with
  | zero => exact fun _ => rfl
  | succ k ih =>
      intro next h
      rw [nextAfter, getSocket_hop pool hrss h, Option.bind_some, ih (hop_lt h)]
      rfl

/-- The sockets are the places of `next`. -/
lemma nthSocket_eq_some (hrss : st.rss = false) (h : next.toNat < n) {k : ℕ} {i : Fin n} :
    nthSocket st pool next k = some i ↔ ((hop st)^[k] next).toNat = i := by
  rw [nthSocket, nextAfter_eq pool hrss k h, Option.bind_some,
    getSocket_hop pool hrss (iterate_hop_lt h k), Option.map_some, Option.some.injEq, Fin.ext_iff]

/-! ### Without a hop -/

lemma iterate_hop_eq (hhop : st.clientHop = false) (k : ℕ) :
    ((hop st)^[k] next).toNat = (Rings.next n)^[k] next.toNat := by
  induction k with
  | zero => rfl
  | succ k ih =>
      rw [Function.iterate_succ_apply', Function.iterate_succ_apply', ← ih, hop,
        if_neg (by rw [hhop]; exact Bool.false_ne_true), toNat_poolWrap_succ st.pool_lt]

/-- Without `client_hop` the calls go round the pool. -/
lemma once_of_noHop (hrss : st.rss = false) (hhop : st.clientHop = false) (h : next.toNat < n) :
    Once st pool next := by
  intro k i
  have hstart : (Rings.next n)^[k] next.toNat < n := by
    rw [← iterate_hop_eq hhop]
    exact iterate_hop_lt h k
  have heq : ∀ d, nthSocket st pool next (k + d) = some i ↔
      (Rings.next n)^[d] ((Rings.next n)^[k] next.toNat) = i := fun d => by
    rw [nthSocket_eq_some pool hrss h, iterate_hop_eq hhop, ← Function.iterate_add_apply,
      Nat.add_comm]
  simp only [heq]
  exact existsUnique_iterate_next hstart i.isLt

lemma Once.poolUsed (h : Once st pool next) : PoolUsed st pool next := by
  intro i
  obtain ⟨d, ⟨-, hd⟩, -⟩ := h 0 i
  exact ⟨0 + d, hd⟩

/-! ### With a hop -/

/-- A hop keeps the residue, or goes to one of two places. -/
lemma hop_residue (hhop : st.clientHop = true) (next : UInt32) :
    (hop st next).toNat % 65536 = next.toNat % 65536 ∨ (hop st next).toNat = 0 ∨
      (hop st next).toNat = 65535 := by
  have hsize := st.pool_lt
  have hsucc := toNat_poolWrap_succ hsize next
  have hwrap : ∀ v : UInt32, (poolWrap n v).toNat = 0 ∨ (poolWrap n v).toNat = v.toNat := by
    intro v
    rw [poolWrap]
    split_ifs
    · exact .inl rfl
    · exact .inr rfl
  have hadd : (poolWrap n (next + 1) + 65535).toNat =
      ((poolWrap n (next + 1)).toNat + 65535) % 2 ^ 32 := UInt32.toNat_add _ _
  rw [hop, if_pos hhop]
  rcases hwrap (poolWrap n (next + 1) + 65535) with hzero | heq
  · exact .inr (.inl hzero)
  · rw [heq, hadd, hsucc]
    by_cases hlast : n ≤ next.toNat + 1
    · rw [next_of_le hlast]
      exact .inr (.inr rfl)
    · -- a sum that wraps loses a multiple of 65536
      rw [next_of_lt (by omega)]
      exact .inl (by omega)

/-- The residues that the walk meets. -/
lemma iterate_hop_residue (hhop : st.clientHop = true) (next : UInt32) (k : ℕ) :
    ((hop st)^[k] next).toNat % 65536 = next.toNat % 65536 ∨
      ((hop st)^[k] next).toNat % 65536 = 0 ∨ ((hop st)^[k] next).toNat % 65536 = 65535 := by
  induction k with
  | zero => exact .inl rfl
  | succ k ih =>
      rw [Function.iterate_succ_apply']
      rcases hop_residue hhop ((hop st)^[k] next) with hkept | hzero | hlast
      · rwa [hkept]
      · exact .inr (.inl (by rw [hzero]))
      · exact .inr (.inr (by rw [hlast]))

/-- From the second of two sockets, the walk goes to the first. -/
lemma hop_two {st : SocketTable 2} (hhop : st.clientHop = true) (h : next.toNat = 1) :
    (hop st next).toNat = 0 := by
  have hsucc := toNat_poolWrap_succ st.pool_lt next
  rw [h, next_of_le (le_refl 2)] at hsucc
  have hzero : poolWrap 2 (next + 1) = 0 := UInt32.toNat_inj.mp hsucc
  rw [hop, if_pos hhop, hzero]
  rfl

/-- With `client_hop`, a pool of more than two sockets has one that is never returned. -/
lemma PoolUsed.small (hrss : st.rss = false) (hhop : st.clientHop = true) (h : next.toNat < n)
    (hused : PoolUsed st pool next) : n = 1 ∨ n = 2 ∧ next.toNat = 1 := by
  by_contra hno
  -- a socket beside the residues of the start, of 0 and of 65535
  obtain ⟨i, hi, hne, hsmall⟩ : ∃ i, i < n ∧ i ≠ next.toNat % 65536 ∧ (i = 1 ∨ i = 2) := by
    by_cases h1 : next.toNat % 65536 = 1
    · exact ⟨2, by omega, by omega, .inr rfl⟩
    · exact ⟨1, by omega, by omega, .inl rfl⟩
  obtain ⟨k, hk⟩ := hused ⟨i, hi⟩
  have hplace : ((hop st)^[k] next).toNat = i := (nthSocket_eq_some pool hrss h).mp hk
  have hres := iterate_hop_residue hhop next k
  rw [hplace] at hres
  omega

end Walk

/-- **The whole pool.** Without RSS, the calls return every socket, and without `client_hop` each
once a round, exactly if `client_hop` is off, or the pool has one socket, or it has two and the
walk starts at the second. -/
theorem poolUsed_iff {n : ℕ} (st : SocketTable n) (pool : Fin n → Socket) {next : UInt32}
    (hrss : st.rss = false) (h : next.toNat < n) :
    PoolUsed st pool next ∧ (st.clientHop = false → Once st pool next) ↔
      st.clientHop = false ∨ n = 1 ∨ n = 2 ∧ next.toNat = 1 := by
  have honce := fun hhop => once_of_noHop pool hrss hhop h
  refine ⟨fun hused => ?_, fun hsmall => ⟨fun i => ?_, honce⟩⟩
  · by_cases hhop : st.clientHop = true
    · exact .inr (PoolUsed.small pool hrss hhop h hused.1)
    · exact .inl (by simpa using hhop)
  · by_cases hhop : st.clientHop = false
    · exact (honce hhop).poolUsed pool i
    rcases hsmall with hno | rfl | ⟨rfl, hsecond⟩
    · exact absurd hno hhop
    · have hfirst : next.toNat = i := by
        have hlt := i.isLt
        omega
      exact ⟨0, (nthSocket_eq_some pool hrss h).mpr hfirst⟩
    · rw [Bool.not_eq_false] at hhop
      by_cases hi : i.val = 1
      · exact ⟨0, (nthSocket_eq_some pool hrss h).mpr (hsecond.trans hi.symm)⟩
      · refine ⟨1, (nthSocket_eq_some pool hrss h).mpr ?_⟩
        have hlt := i.isLt
        calc ((hop st)^[1] next).toNat = 0 := hop_two hhop hsecond
          _ = i := by omega

/-- A table without RSS. -/
def SocketTable.withHop {n : ℕ} (st : SocketTable n) (clientHop : Bool) : SocketTable n :=
  { st with rss := false, clientHop := clientHop }

/-- A pool of two sockets, without RSS. -/
def SocketTable.pair (clientHop : Bool) : SocketTable 2 :=
  (SocketTable.twoPorts 0).withHop clientHop

/-- Without `client_hop` both are used, from the second on. -/
theorem poolUsed_pair : PoolUsed (.pair false) (fun _ => {}) 1 ∧
    ((SocketTable.pair false).clientHop = false → Once (.pair false) (fun _ => {}) 1) :=
  (poolUsed_iff (.pair false) (fun _ => {}) rfl (by decide)).mpr (.inl rfl)

/-- With `client_hop` the second is never returned if the walk starts at the first. -/
theorem poolUsed_pair_fails : (SocketTable.pair true).rss = false ∧
    ¬ PoolUsed (.pair true) (fun _ => {}) 0 := by
  refine ⟨rfl, fun hused => ?_⟩
  rcases PoolUsed.small (fun _ => {}) rfl rfl (by decide) hused with hone | ⟨-, hsecond⟩
  · exact absurd hone (by decide)
  · exact absurd hsecond (by decide)

end Dperf
