import Dperf.Lib.Rings
import Dperf.System

/-!
How a client goes round its socket pool, and where `socket_pool.next` points: the search of
`socket_table_get_socket` on the memory that it really reads.

* `SocketPool`: the memory from `socket_pool.base` on, with what stands behind the pool, and
  `next`.
* `getSocketRss`, `getSocket`: the places read and the socket found. They go round the pool as
  `Rings` has it (`getSocketRss_eq`), and are the functions of `SocketTable` as long as they stay
  in the pool (`getSocketRss_pool`).
* `PicksLast`: a call that leaves `next` behind the pool. `socketPool_inBounds_iff` says that there
  is no other way out.
-/

namespace Dperf

open Rings

/-- `struct socket_pool`: `base i` is what is found at `&base[i]`. -/
structure SocketPool where
  base : ℕ → Socket
  next : UInt32 := 0

section Search

variable {n : ℕ} (st : SocketTable n) (base : ℕ → Socket)

/-- The test in the loop of `socket_table_get_socket_rss`: the socket is one of this worker, and
no other worker has taken it. -/
def rssPicks (sk : Socket) : Prop :=
  sk.lport.toNat % st.rssNum.toNat = st.rssId.toNat ∧ sk.laddr ≠ 0

instance (sk : Socket) : Decidable (rssPicks st sk) := inferInstanceAs (Decidable (_ ∧ _))

/-- `if (sp->next >= sp->num) sp->next = 0`, in a pool of `num` sockets. -/
def poolWrap (num : ℕ) (next : UInt32) : UInt32 := if num ≤ next.toNat then 0 else next

/-- `socket_table_get_socket_rss`, with a bound on the turns of its loop: the places it reads,
and the socket with the new `next`. -/
def getSocketRss : ℕ → UInt32 → List ℕ × Option (ℕ × UInt32)
  | 0, _ => ([], none)
  | fuel + 1, next =>
      let sk := base next.toNat
      let next' := next + 1
      if ¬ rssPicks st sk then
        let r := getSocketRss fuel (poolWrap n next')
        (next.toNat :: r.1, r.2)
      else ([next.toNat], some (next.toNat, next'))

/-- `socket_table_get_socket`. -/
def getSocket (fuel : ℕ) (next : UInt32) : List ℕ × Option (ℕ × UInt32) :=
  let r :=
    if st.rss = false then ([next.toNat], some (next.toNat, poolWrap n (next + 1)))
    else getSocketRss st base fuel next
  (r.1, r.2.map fun p => if st.clientHop then (p.1, poolWrap n (p.2 + 65535)) else p)

/-! ### The search goes round the pool -/

/-- `next` moves as the places of a ring, the wrap of 32 bits included. -/
lemma toNat_poolWrap_succ (hn : n < 2 ^ 32) (next : UInt32) :
    (poolWrap n (next + 1)).toNat = Rings.next n next.toNat := by
  have hlt := next.toNat_lt
  have hadd : (next + 1).toNat = (next.toNat + 1) % 2 ^ 32 := UInt32.toNat_add _ _
  rw [poolWrap, Rings.next, hadd]
  by_cases htop : next.toNat + 1 = 2 ^ 32
  · have hle : n ≤ next.toNat + 1 := by omega
    rw [if_pos hle, htop]
    split_ifs
    · rfl
    · rw [hadd, htop, Nat.mod_self]
  · rw [Nat.mod_eq_of_lt (by omega)]
    split_ifs
    · rfl
    · rw [hadd, Nat.mod_eq_of_lt (by omega)]

lemma getSocketRss_eq (fuel : ℕ) : ∀ next : UInt32, getSocketRss st base fuel next =
    (visits (fun i => rssPicks st (base i)) n fuel next.toNat,
      (find (fun i => rssPicks st (base i)) n fuel next.toNat).map
        fun i => (i, UInt32.ofNat (i + 1))) := by
  induction fuel with
  | zero => exact fun _ => rfl
  | succ fuel ih =>
      intro next
      rw [getSocketRss, visits, find]
      dsimp only
      by_cases hp : rssPicks st (base next.toNat)
      · rw [if_neg (not_not.mpr hp), if_pos hp, if_pos hp, Option.map_some, UInt32.ofNat_add,
          UInt32.ofNat_toNat]
        rfl
      · rw [if_pos hp, if_neg hp, if_neg hp, ih, toNat_poolWrap_succ st.pool_lt]

/-- In the pool, the search is the one of `SocketTable`. -/
lemma getSocketRss_pool (hn : 0 < n) (fuel : ℕ) : ∀ next : UInt32, next.toNat < n →
    (socketTableGetSocketRss st (fun i => base i) fuel next).map (fun r => (r.1.val, r.2)) =
      (getSocketRss st base fuel next).2 := by
  induction fuel with
  | zero => exact fun _ _ => rfl
  | succ fuel ih =>
      intro next hnext
      have hwrap : (poolWrap n (next + 1)).toNat < n := by
        rw [toNat_poolWrap_succ st.pool_lt]
        exact next_lt hn
      rw [socketTableGetSocketRss, getSocketRss, dif_pos hnext]
      dsimp only
      by_cases hp : rssPicks st (base next.toNat)
      · rw [if_neg (not_not.mpr hp), if_neg (not_or.mpr ⟨not_not.mpr hp.1, hp.2⟩), Option.map_some]
      · have hskip : (base next.toNat).lport.toNat % st.rssNum.toNat ≠ st.rssId.toNat ∨
            (base next.toNat).laddr = 0 := by
          by_contra hno
          rw [not_or, not_not] at hno
          exact hp hno
        rw [if_pos hp, if_pos hskip]
        exact ih _ hwrap

end Search

/-! ### Where `next` points -/

section Bounds

variable {n : ℕ} (st : SocketTable n)

/-- Every place that the next call reads is in the pool, however long its loop runs. -/
def InBounds (s : SocketPool) : Prop :=
  ∀ fuel, ∀ i ∈ (getSocket st s.base fuel s.next).1, i < n

/-- Without `client_hop`, the call finds the socket in the last slot. -/
structure PicksLast (s : SocketPool) : Prop where
  rss : st.rss = true
  noHop : st.clientHop = false
  last : rssPicks st (s.base (n - 1))
  first : ∀ i, s.next.toNat ≤ i → i < n - 1 → ¬ rssPicks st (s.base i)

/-- The calls of `socket_table_get_socket` that pass the test `G`, and between them any writes to
the sockets: openings, hand-overs and everything else. -/
inductive PoolStep (G : SocketPool → Prop) : SocketPool → SocketPool → Prop
  | get {s : SocketPool} {fuel i : ℕ} {next : UInt32} (hG : G s)
      (h : (getSocket st s.base fuel s.next).2 = some (i, next)) :
      PoolStep G s { s with next := next }
  | write (s : SocketPool) (base : ℕ → Socket) : PoolStep G s { s with base := base }

variable {st} {s : SocketPool}

lemma toNat_poolWrap_lt (hn : 0 < n) (next : UInt32) : (poolWrap n next).toNat < n := by
  rw [poolWrap]
  split_ifs
  · exact hn
  · omega

/-- The next call reads places of the pool only, if and only if it starts at one. -/
lemma inBounds_iff : InBounds st s ↔ s.next.toNat < n := by
  have hreads : ∀ fuel, (getSocket st s.base fuel s.next).1 =
      if st.rss = false then [s.next.toNat]
      else visits (fun i => rssPicks st (s.base i)) n fuel s.next.toNat := by
    intro fuel
    rw [getSocket]
    dsimp only
    split_ifs
    · rfl
    · rw [getSocketRss_eq]
  constructor
  · intro h
    refine h 1 _ ?_
    rw [hreads]
    split_ifs
    · exact List.mem_singleton_self _
    · exact List.mem_cons_self
  · intro hnext fuel i hi
    rw [hreads] at hi
    split_ifs at hi
    · rw [List.mem_singleton.mp hi]
      exact hnext
    · exact visits_lt (by omega) fuel hnext i hi

/-- A call that starts in the pool leaves it if and only if it picks the last slot. -/
lemma getSocket_next_lt_iff {fuel i : ℕ} {next : UInt32} (hs : s.next.toNat < n)
    (h : (getSocket st s.base fuel s.next).2 = some (i, next)) :
    next.toNat < n ↔ ¬ PicksLast st s := by
  have hn : 0 < n := by omega
  have hsize := st.pool_lt
  rw [getSocket] at h
  dsimp only at h
  by_cases hhop : st.clientHop = true
  · -- the hop is followed by the test
    have hno : ¬ PicksLast st s := fun hp => by simp [hp.noHop] at hhop
    obtain ⟨p, -, hp⟩ := Option.map_eq_some_iff.mp h
    rw [if_pos hhop, Prod.mk.injEq] at hp
    exact ⟨fun _ => hno, fun _ => hp.2 ▸ toNat_poolWrap_lt hn _⟩
  by_cases hrss : st.rss = false
  · have hno : ¬ PicksLast st s := fun hp => by simp [hp.rss] at hrss
    rw [if_pos hrss, Option.map_some, if_neg hhop, Option.some.injEq, Prod.mk.injEq] at h
    exact ⟨fun _ => hno, fun _ => h.2 ▸ toNat_poolWrap_lt hn _⟩
  rw [if_neg hrss, getSocketRss_eq] at h
  dsimp only at h
  rw [Option.map_map] at h
  obtain ⟨j, hj, hp⟩ := Option.map_eq_some_iff.mp h
  rw [Function.comp_apply, if_neg hhop, Prod.mk.injEq] at hp
  obtain ⟨hpj, hplace⟩ := find_sound hj
  have hjn : j < n := by omega
  have hnext : next.toNat = j + 1 := by
    rw [← hp.2]
    exact UInt32.toNat_ofNat_of_lt' (by change _ < 2 ^ 32; omega)
  rw [hnext]
  constructor
  · -- a slot before the last one has been found
    intro hlt hlast
    rcases find_first hs hj with ⟨hle, -⟩ | ⟨-, hafter, -⟩
    · exact hlast.first j hle (by omega) hpj
    · exact hafter (n - 1) (by omega) (by omega) hlast.last
  · intro hno
    by_contra hend
    obtain rfl : j = n - 1 := by omega
    rcases find_first hs hj with ⟨-, hbefore⟩ | ⟨hlt, -⟩
    · exact hno ⟨by simpa using hrss, by simpa using hhop, hpj, hbefore⟩
    · omega

/-- The steps that do not pick the last slot without a hop stay in the pool. -/
lemma PoolStep.next_lt {s' : SocketPool} (h : PoolStep st (fun s => ¬ PicksLast st s) s s')
    (hs : s.next.toNat < n) : s'.next.toNat < n := by
  cases h with
  | get hG hget => exact (getSocket_next_lt_iff hs hget).mpr hG
  | write => exact hs

/-- **Round the pool.** From the start of a pool that has a socket, calls that do not pick the
last slot without `client_hop` read places of the pool only; after one that does, the next call
reads behind it. -/
theorem socketPool_inBounds_iff (st : SocketTable n) :
    (∀ s₀ s, s₀.next = 0 → Relation.ReflTransGen (PoolStep st fun s => ¬ PicksLast st s) s₀ s →
      0 < n → InBounds st s) ∧
    (∀ s₀, s₀.next = 0 → (InBounds st s₀ ↔ 0 < n)) ∧
    ∀ s fuel i next, InBounds st s → (getSocket st s.base fuel s.next).2 = some (i, next) →
      (InBounds st { s with next := next } ↔ ¬ PicksLast st s) := by
  refine ⟨fun s₀ s h₀ h hn => ?_, fun s₀ h₀ => ?_, fun s fuel i next hs h => ?_⟩
  · rw [inBounds_iff]
    induction h with
    | refl => exact h₀ ▸ hn
    | tail _ hstep ih => exact hstep.next_lt ih
  · rw [inBounds_iff, h₀]
    exact Iff.rfl
  · rw [inBounds_iff] at hs ⊢
    exact getSocket_next_lt_iff hs h

end Bounds

/-- The table of one client address with two ports and one server address and port, for a worker
of two. -/
def SocketTable.twoPorts (rssId : UInt8) : SocketTable 2 where
  serverIpNum := 1
  serverIpMin := 2
  serverIpMax := 2
  serverPortNum := 1
  serverPortMin := 80
  serverPortMax := 80
  clientPortNum := 2
  clientPortMin := 1
  clientPortMax := 2
  serverIpPortNum := 1
  clientHop := false
  rss := true
  rssId := rssId
  rssNum := 2
  ht low := if low = 1 then some 0 else none
  serverIp_eq := SocketTable.single.serverIp_eq
  serverPort_eq := SocketTable.single.serverPort_eq
  clientPort_eq := by decide
  serverIpPort_eq := SocketTable.single.serverIpPort_eq
  inPool := by
    intro low base h
    split at h
    · cases h
      decide
    · cases h
  pool_lt := by decide

/-- Its pool as `socket_table_init` leaves it. -/
def SocketPool.twoPorts : SocketPool where
  base i := socketInit (.single .single) 1 (UInt16.ofNat (i + 1)) 2 80 0

/-- The worker of the odd ports picks the first slot, and stays in the pool. -/
theorem socketPool_inBounds_odd :
    InBounds (SocketTable.twoPorts 1) { SocketPool.twoPorts with next := 1 } := by
  have h := socketPool_inBounds_iff (SocketTable.twoPorts 1)
  have hstart : InBounds (SocketTable.twoPorts 1) .twoPorts :=
    (h.2.1 .twoPorts rfl).mpr (by decide)
  refine (h.2.2 .twoPorts 1 0 1 hstart (by decide)).mpr fun hp => ?_
  exact hp.first 0 (by decide) (by decide) (by decide)

/-- The worker of the even ports picks the last slot first, and then reads behind the pool. -/
theorem socketPool_leaves_bounds : ∃ s,
    Relation.ReflTransGen (PoolStep (SocketTable.twoPorts 0) fun _ => True) .twoPorts s ∧
      ¬ InBounds (SocketTable.twoPorts 0) s := by
  have hget : (getSocket (SocketTable.twoPorts 0) SocketPool.twoPorts.base 2
      SocketPool.twoPorts.next).2 = some (1, 2) := by decide
  refine ⟨_, .single (.get trivial hget), ?_⟩
  rw [inBounds_iff]
  decide

end Dperf
