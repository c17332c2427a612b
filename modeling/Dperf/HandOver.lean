import Dperf.Addresses
import Dperf.Rss

/-!
The hand-over of sockets between the workers of a client with RSS, with the counters of the
workers: the pools of `Rss`, each with its worker.

* `RssClient`: the workers of a port. `RssClient.lookup` is `socket_client_lookup` with the
  hand-over, `RssClient.step` the step of one worker. `lookup_port` says that the pools change as in
  `Rss`.
* `TablesKept`: which sockets have their addresses still, in every run.
* `Sound`: in a run that takes over open sockets only, the counters agree with the pools, and a
  socket of another worker that has not been taken over is closed.
* `handOver_iff`: when the counters and the live sockets are right after a hand-over.
-/

namespace Dperf

variable {k n : ℕ}

/-- The workers of a port with `k` queues; `taken` lists the sockets of a worker that others have
taken over. -/
structure RssClient (k n : ℕ) where
  workers : Fin k → Worker n
  taken : Fin k → List (Fin n) := fun _ => []

/-- `net_stats_socket_dup`. -/
def netStatsSocketDup (s : NetStats) : NetStats :=
  { s with socketDup := s.socketDup + 1, socketOpen := s.socketOpen + 1
           socketCurrent := s.socketCurrent + 1 }

/-- The worker that opens the sockets of a port. -/
def rssIdx (k : ℕ) [NeZero k] (port : UInt16) : Fin k := Fin.ofNat k port.toNat

namespace RssClient

/-- The socket `i` of a worker. -/
def sk (s : RssClient k n) (q : Fin k) (i : Fin n) : Socket := (s.workers q).pool i

/-- The workers after one of them has worked. -/
def put (s : RssClient k n) (q : Fin k) (w : Worker n) : RssClient k n :=
  { s with workers := Function.update s.workers q w }

/-- A function of one socket of a worker. -/
def on (s : RssClient k n) (q : Fin k) (i : Fin n) (f : View → View) : RssClient k n :=
  s.put q ((s.workers q).on i f)

/-! ### Packets -/

section Lookup

variable [NeZero k] (st : SocketTable n) (m : Mbuf) (q : Fin k)

/-- `socket_client_check_rss` on the socket `i`, with the counter of `socket_dup`. -/
def checkRss (i : Fin n) (s : RssClient k n) : RssClient k n :=
  let idx := rssIdx k m.th.dport
  if idx ≠ q then
    match st.commonLookup m.daddr m.saddr m.th.dport m.th.sport with
    | none => s
    | some j =>
        let sk2 := s.sk idx j
        if sk2.laddr = m.daddr ∧ sk2.faddr = m.saddr then
          let s := s.on q i fun v => { v with sk := socketDup v.sk sk2 }.count netStatsSocketDup
          let s := s.on idx j fun v => { v with sk.laddr := 0, sk.faddr := 0 }
          { s with taken := Function.update s.taken idx (j :: s.taken idx) }
        else s
  else s

/-- `socket_client_lookup` of a worker. -/
def lookup (s : RssClient k n) : Option (Fin n) × RssClient k n :=
  match socketClientLookup st (s.workers q).pool m with
  | none => (none, s)
  | some i => (some i, s.checkRss st m q i)

end Lookup

/-- One event of the worker `q`, at the time of `c`. -/
def step [NeZero k] (st : SocketTable n) (ws : Fin k → WorkSpace) (q : Fin k) (c : Clock)
    (e : Event) (s : RssClient k n) : Option (RssClient k n) :=
  match e with
  | .recv p m =>
      if p = (ws q).cfg.protocol then
        let r := s.lookup st m q
        some (r.2.put q (l4Process ((ws q).at c) m r.1 (r.2.workers q)))
      else some (s.put q (l4Drop ((ws q).at c) p m (s.workers q)))
  | e => (Dperf.step (st.queue q) ((ws q).at c) e (s.workers q)).map (s.put q)

/-- A test on the packets of a run: the workers before the packet, the worker that receives it. -/
abbrev Test (k n : ℕ) := RssClient k n → Fin k → Mbuf → Prop

/-- Runs whose packets all pass the test `G` when they are looked up. -/
def Runs [NeZero k] (st : SocketTable n) (ws : Fin k → WorkSpace) (G : Test k n) :
    RssClient k n → RssClient k n → Prop :=
  Relation.ReflTransGen fun s s' => ∃ (q : Fin k) (c : Clock) (e : Event),
    (∀ m, e = .recv (ws q).cfg.protocol m → G s q m) ∧ s.step st ws q c e = some s'

/-! ### What is wanted -/

/-- The worker `q` takes the socket `i` over for the packet. -/
structure TakesOver [NeZero k] (st : SocketTable n) (s : RssClient k n) (q : Fin k) (m : Mbuf)
    (i : Fin n) : Prop where
  other : rssIdx k m.th.dport ≠ q
  found : socketClientLookup st (s.workers q).pool m = some i
  source : socketClientLookup st (s.workers (rssIdx k m.th.dport)).pool m = some i

/-- What is taken over is open where it is taken from. -/
def TakesOpen [NeZero k] (st : SocketTable n) : Test k n := fun s q m =>
  ∀ i, s.TakesOver st q m i → (s.sk (rssIdx k m.th.dport) i).state ≠ .closed

/-- `socket_current` of every worker is the number of its open sockets. -/
def Counts (s : RssClient k n) : Prop :=
  ∀ q, (s.workers q).stats.socketCurrent.toNat = (s.workers q).openCount

/-- Of what has been handed over, at most one worker has a socket with an address. -/
def LiveOnce (s : RssClient k n) : Prop :=
  ∀ p, ∀ i ∈ s.taken p, ∀ q q', (s.sk q i).laddr ≠ 0 → (s.sk q' i).laddr ≠ 0 → q = q'

/-! ### Fields -/

section Fields

variable (s : RssClient k n) {q q' : Fin k} {i : Fin n} (w : Worker n) (f : View → View)

@[simp] lemma workers_put_self : (s.put q w).workers q = w := Function.update_self ..

@[simp] lemma workers_put_ne (h : q' ≠ q) : (s.put q w).workers q' = s.workers q' :=
  Function.update_of_ne h ..

@[simp] lemma taken_put : (s.put q w).taken = s.taken := rfl

lemma workers_on_self : (s.on q i f).workers q = (s.workers q).on i f := workers_put_self ..

lemma workers_on_ne (h : q' ≠ q) : (s.on q i f).workers q' = s.workers q' :=
  workers_put_ne s _ h

end Fields

/-! ### The pools -/

/-- The pools of the workers, as `Rss` has them. -/
def port (s : RssClient k n) : RssPort k where
  pools q :=
    { base := fun i => if h : i < n then s.sk q ⟨i, h⟩ else {}
      next := (s.workers q).next }
  taken q := (s.taken q).map Fin.val

lemma port_base (s : RssClient k n) (q : Fin k) (i : Fin n) :
    (s.port.pools q).base i = s.sk q i := dif_pos i.isLt

lemma port_on (s : RssClient k n) (q : Fin k) (i : Fin n) (f : View → View) :
    (s.on q i f).port = s.port.set q i (f ((s.workers q).view i)).sk := by
  rw [port, RssPort.set, RssPort.mk.injEq]
  refine ⟨funext fun q' => ?_, rfl⟩
  by_cases hq : q' = q
  · subst hq
    rw [Function.update_self, SocketPool.mk.injEq, workers_on_self]
    refine ⟨funext fun j => ?_, rfl⟩
    by_cases hj : j = i
    · subst hj
      rw [Function.update_self, dif_pos i.isLt, sk, workers_on_self, Worker.on,
        Worker.pool_put_self]
    · rw [Function.update_of_ne hj]
      refine dite_congr rfl (fun hlt => ?_) fun _ => rfl
      rw [sk, workers_on_self, Worker.on, Worker.pool_put_ne _ (Fin.ne_of_val_ne hj)]
      rfl
  · rw [Function.update_of_ne hq, SocketPool.mk.injEq, workers_on_ne s f hq]
    refine ⟨funext fun j => dite_congr rfl (fun hlt => ?_) fun _ => rfl, rfl⟩
    rw [sk, workers_on_ne s f hq]
    rfl

/-! ### Hand-overs -/

/-- The worker `q` has taken the socket `i` over from the worker `p`. -/
def takeOver (s : RssClient k n) (q p : Fin k) (i : Fin n) : RssClient k n :=
  { (s.on q i fun v => { v with sk := socketDup v.sk (s.sk p i) }.count netStatsSocketDup).on p i
      fun v => { v with sk.laddr := 0, sk.faddr := 0 } with
    taken := Function.update s.taken p (i :: s.taken p) }

section TakeOver

variable {s : RssClient k n} {q q' p : Fin k} {i j : Fin n}

/-- The worker that has taken the socket over. -/
lemma workers_takeOver_self (h : p ≠ q) : (s.takeOver q p i).workers q =
    (s.workers q).on i
      fun v => { v with sk := socketDup v.sk (s.sk p i) }.count netStatsSocketDup :=
  (workers_on_ne _ _ h.symm).trans (workers_on_self ..)

/-- The worker that it has been taken from. -/
lemma workers_takeOver_source (h : p ≠ q) : (s.takeOver q p i).workers p =
    (s.workers p).on i fun v => { v with sk.laddr := 0, sk.faddr := 0 } := by
  refine (workers_on_self ..).trans ?_
  rw [workers_on_ne s _ h]

lemma workers_takeOver_ne (hq : q' ≠ q) (hp : q' ≠ p) :
    (s.takeOver q p i).workers q' = s.workers q' :=
  (workers_on_ne _ _ hp).trans (workers_on_ne s _ hq)

lemma sk_takeOver_self (h : p ≠ q) :
    (s.takeOver q p i).sk q i = socketDup (s.sk q i) (s.sk p i) := by
  rw [sk, workers_takeOver_self h, Worker.on, Worker.pool_put_self]
  rfl

lemma sk_takeOver_source (h : p ≠ q) :
    (s.takeOver q p i).sk p i = { s.sk p i with laddr := 0, faddr := 0 } := by
  rw [sk, workers_takeOver_source h, Worker.on, Worker.pool_put_self]
  rfl

/-- The other sockets. -/
lemma sk_takeOver_ne (h : p ≠ q) (hq : q' ≠ q ∨ j ≠ i) (hp : q' ≠ p ∨ j ≠ i) :
    (s.takeOver q p i).sk q' j = s.sk q' j := by
  rw [sk, sk]
  by_cases hqq : q' = q
  · subst hqq
    rw [workers_takeOver_self h, Worker.on,
      Worker.pool_put_ne _ (hq.resolve_left (not_not.mpr rfl))]
  · by_cases hpp : q' = p
    · subst hpp
      rw [workers_takeOver_source h, Worker.on,
        Worker.pool_put_ne _ (hp.resolve_left (not_not.mpr rfl))]
    · rw [workers_takeOver_ne hqq hpp]

lemma port_takeOver (s : RssClient k n) (h : p ≠ q) (i : Fin n) :
    (s.takeOver q p i).port =
      { (s.port.set q i (socketDup (s.sk q i) (s.sk p i))).set p i
          { s.sk p i with laddr := 0, faddr := 0 } with
        taken := Function.update s.port.taken p (i.val :: s.port.taken p) } := by
  have hself := port_on s q i
    fun v => { v with sk := socketDup v.sk (s.sk p i) }.count netStatsSocketDup
  have hsource := port_on
    (s.on q i fun v => { v with sk := socketDup v.sk (s.sk p i) }.count netStatsSocketDup) p i
    fun v => { v with sk.laddr := 0, sk.faddr := 0 }
  rw [hself, workers_on_ne s _ h] at hsource
  have htaken := Function.comp_update (List.map Fin.val) s.taken p (i :: s.taken p)
  exact congrArg₂ RssPort.mk (congrArg RssPort.pools hsource) htaken

lemma mem_taken_takeOver : j ∈ (s.takeOver q p i).taken q' ↔
    q' = p ∧ j = i ∨ j ∈ s.taken q' := by
  change j ∈ Function.update s.taken p (i :: s.taken p) q' ↔ _
  by_cases hq : q' = p
  · subst hq
    rw [Function.update_self, List.mem_cons]
    exact or_congr_left (and_iff_right rfl).symm
  · rw [Function.update_of_ne hq]
    exact (or_iff_right fun h => hq h.1).symm

end TakeOver

section Lookup

variable [NeZero k] {st : SocketTable n} {s : RssClient k n} {q : Fin k} {m : Mbuf} {i : Fin n}

lemma lookup_fst : (s.lookup st m q).1 = socketClientLookup st (s.workers q).pool m := by
  rw [lookup]
  cases socketClientLookup st (s.workers q).pool m <;> rfl

lemma socketClientLookup_eq_some {pool : Fin n → Socket} :
    socketClientLookup st pool m = some i ↔
      st.commonLookup m.daddr m.saddr m.th.dport m.th.sport = some i ∧
        (pool i).laddr = m.daddr ∧ (pool i).faddr = m.saddr := by
  rw [socketClientLookup, Option.filter_eq_some_iff, decide_eq_true_iff]

/-- The two lookups find the socket of the same place. -/
lemma lookup_takeOver (h : s.TakesOver st q m i) :
    (s.lookup st m q).2 = s.takeOver q (rssIdx k m.th.dport) i := by
  obtain ⟨hsame, hsource⟩ := socketClientLookup_eq_some.mp h.source
  rw [lookup, h.found]
  dsimp only
  rw [checkRss, if_pos h.other, hsame]
  exact if_pos hsource

/-- Else nothing changes. -/
lemma lookup_same (h : ∀ i, ¬ s.TakesOver st q m i) : (s.lookup st m q).2 = s := by
  rw [lookup]
  cases hfound : socketClientLookup st (s.workers q).pool m with
  | none => rfl
  | some i =>
      dsimp only
      rw [checkRss]
      dsimp only
      have hsame := (socketClientLookup_eq_some.mp hfound).1
      by_cases hother : rssIdx k m.th.dport ≠ q
      · rw [if_pos hother, hsame]
        dsimp only
        refine if_neg fun hsource => h i ⟨hother, hfound, ?_⟩
        exact socketClientLookup_eq_some.mpr ⟨hsame, hsource⟩
      · exact if_neg hother

lemma lookup_cases (st : SocketTable n) (s : RssClient k n) (q : Fin k) (m : Mbuf) :
    (∃ i, s.TakesOver st q m i ∧ (s.lookup st m q).2 = s.takeOver q (rssIdx k m.th.dport) i) ∨
      (∀ i, ¬ s.TakesOver st q m i) ∧ (s.lookup st m q).2 = s := by
  by_cases h : ∃ i, s.TakesOver st q m i
  · obtain ⟨i, hi⟩ := h
    exact .inl ⟨i, hi, lookup_takeOver hi⟩
  · rw [not_exists] at h
    exact .inr ⟨h, lookup_same h⟩

/-- The lookup changes the pools as the one of `Rss` does. -/
theorem lookup_port (st : SocketTable n) (s : RssClient k n) (q : Fin k) (m : Mbuf) :
    socketClientLookupRss st m q s.port = ((s.lookup st m q).1, (s.lookup st m q).2.port) := by
  have hpool : (fun i : Fin n => (s.port.pools q).base i) = (s.workers q).pool :=
    funext (port_base s q)
  rw [socketClientLookupRss, lookup, hpool]
  cases hfound : socketClientLookup st (s.workers q).pool m with
  | none => rfl
  | some i =>
      refine Prod.ext rfl ?_
      dsimp only
      rw [socketClientCheckRss, checkRss, (socketClientLookup_eq_some.mp hfound).1]
      dsimp only
      by_cases hother : rssIdx k m.th.dport ≠ q
      · rw [if_pos hother, port_base, port_base]
        refine (if_pos hother).trans ?_
        by_cases hsource : (s.sk (rssIdx k m.th.dport) i).laddr = m.daddr ∧
            (s.sk (rssIdx k m.th.dport) i).faddr = m.saddr
        · rw [if_pos hsource]
          exact (if_pos hsource).trans (port_takeOver s hother i).symm
        · rw [if_neg hsource]
          exact if_neg hsource
      · rw [if_neg hother]
        exact if_neg hother

end Lookup

/-! ### The tables -/

/-- Every worker has all sockets of the port; those that were taken over from it have lost their
addresses, and were its own. A lookup finds the socket of the packet's port. -/
structure TablesKept [NeZero k] (st : SocketTable n) (s : RssClient k n) : Prop where
  server : st.serverIpMin ≠ 0
  port : ∀ q q' i, (s.sk q i).lport = (s.sk q' i).lport
  gone : ∀ q i, (s.sk q i).laddr = 0 ↔ i ∈ s.taken q
  owner : ∀ q i, i ∈ s.taken q → rssIdx k (s.sk q i).lport = q
  slot : ∀ q m i, socketClientLookup st (s.workers q).pool m = some i →
    i ∉ s.taken q ∧ (s.sk q i).lport = m.th.dport

lemma addrs_eq_iff {a b : Socket} : a.addrs = b.addrs ↔
    a.laddr = b.laddr ∧ a.faddr = b.faddr ∧ a.lport = b.lport ∧ a.fport = b.fport := by
  rw [Socket.addrs, Socket.addrs, Prod.mk.injEq, Prod.mk.injEq, Prod.mk.injEq]

/-- A lookup reads addresses only. -/
lemma socketClientLookup_congr {st : SocketTable n} {pool pool' : Fin n → Socket} {m : Mbuf}
    (h : ∀ i, (pool i).addrs = (pool' i).addrs) :
    socketClientLookup st pool m = socketClientLookup st pool' m := by
  rw [socketClientLookup, socketClientLookup]
  congr 1
  funext i
  obtain ⟨hl, hf, -⟩ := addrs_eq_iff.mp (h i)
  rw [hl, hf]

section Kept

variable [NeZero k] {st : SocketTable n} {s s' : RssClient k n} {q p : Fin k} {m : Mbuf} {i : Fin n}

/-- Nobody writes to an address, and nothing is handed over. -/
lemma TablesKept.of_addrs (h : TablesKept st s) (ha : ∀ q i, (s'.sk q i).addrs = (s.sk q i).addrs)
    (ht : s'.taken = s.taken) : TablesKept st s' := by
  have hl := fun q i => (addrs_eq_iff.mp (ha q i)).1
  have hp := fun q i => (addrs_eq_iff.mp (ha q i)).2.2.1
  refine ⟨h.server, fun q q' i => ?_, fun q i => ?_, fun q i hi => ?_, fun q m i hi => ?_⟩
  · rw [hp, hp]
    exact h.port q q' i
  · rw [hl, ht]
    exact h.gone q i
  · rw [hp]
    exact h.owner q i (ht ▸ hi)
  · rw [hp, ht]
    exact h.slot q m i ((socketClientLookup_congr (ha q)).symm.trans hi)

/-- The place of a packet that is handed over. -/
lemma TablesKept.takesOver (h : TablesKept st s) (ho : s.TakesOver st q m i) :
    rssIdx k (s.sk q i).lport = rssIdx k m.th.dport ∧ i ∉ s.taken (rssIdx k m.th.dport) := by
  rw [(h.slot _ _ _ ho.found).2]
  exact ⟨rfl, (h.slot _ _ _ ho.source).1⟩

lemma socketDup_addrs (dst src : Socket) : (socketDup dst src).addrs = dst.addrs := by
  rw [socketDup]
  split_ifs <;> rfl

/-- A hand-over takes the addresses of one socket of its owner. -/
lemma TablesKept.takeOver (h : TablesKept st s) (hpq : p ≠ q)
    (howner : rssIdx k (s.sk q i).lport = p) : TablesKept st (s.takeOver q p i) := by
  have haddrs : ∀ q' j, ¬ (q' = p ∧ j = i) →
      ((s.takeOver q p i).sk q' j).addrs = (s.sk q' j).addrs := by
    intro q' j hne
    by_cases hq : q' = q ∧ j = i
    · obtain ⟨rfl, rfl⟩ := hq
      rw [sk_takeOver_self hpq, socketDup_addrs]
    · rw [not_and_or] at hne hq
      rw [sk_takeOver_ne hpq hq hne]
  have hgone : ((s.takeOver q p i).sk p i).laddr = 0 ∧ ((s.takeOver q p i).sk p i).faddr = 0 := by
    rw [sk_takeOver_source hpq]
    exact ⟨rfl, rfl⟩
  have hport : ∀ q' j, ((s.takeOver q p i).sk q' j).lport = (s.sk q' j).lport := by
    intro q' j
    by_cases hne : q' = p ∧ j = i
    · obtain ⟨rfl, rfl⟩ := hne
      rw [sk_takeOver_source hpq]
    · exact (addrs_eq_iff.mp (haddrs q' j hne)).2.2.1
  refine ⟨h.server, fun q' q'' j => ?_, fun q' j => ?_, fun q' j hj => ?_, fun q' m j hj => ?_⟩
  · rw [hport, hport]
    exact h.port q' q'' j
  · rw [mem_taken_takeOver]
    by_cases hne : q' = p ∧ j = i
    · obtain ⟨rfl, rfl⟩ := hne
      exact iff_of_true hgone.1 (.inl ⟨rfl, rfl⟩)
    · rw [(addrs_eq_iff.mp (haddrs q' j hne)).1, or_iff_right hne]
      exact h.gone q' j
  · rw [hport]
    rcases mem_taken_takeOver.mp hj with ⟨rfl, rfl⟩ | hj
    · rw [h.port q' q]
      exact howner
    · exact h.owner q' j hj
  · obtain ⟨hplace, hladdr, hfaddr⟩ := socketClientLookup_eq_some.mp hj
    have hne : ¬ (q' = p ∧ j = i) := by
      rintro ⟨rfl, rfl⟩
      -- no server has the address 0
      obtain ⟨_, -, hrange, -⟩ := SocketTable.commonLookup_eq_some.mp hplace
      have hzero : m.saddr = 0 := hfaddr.symm.trans hgone.2
      have hle := hrange.2.1
      rw [hzero] at hle
      exact h.server (UInt32.le_antisymm hle UInt32.zero_le)
    obtain ⟨hl, hf, -⟩ := addrs_eq_iff.mp (haddrs q' j hne)
    rw [hport, mem_taken_takeOver, or_iff_right hne]
    refine h.slot q' m j (socketClientLookup_eq_some.mpr ⟨hplace, ?_, ?_⟩)
    · exact hl.symm.trans hladdr
    · exact hf.symm.trans hfaddr

/-- The worker that receives the packet keeps its addresses. -/
lemma lookup_addrs (st : SocketTable n) (s : RssClient k n) (q : Fin k) (m : Mbuf) (i : Fin n) :
    ((s.lookup st m q).2.sk q i).addrs = (s.sk q i).addrs := by
  rcases lookup_cases st s q m with ⟨j, hj, heq⟩ | ⟨-, heq⟩
  · rw [heq]
    by_cases hij : i = j
    · rw [hij, sk_takeOver_self hj.other, socketDup_addrs]
    · rw [sk_takeOver_ne hj.other (.inr hij) (.inr hij)]
  · rw [heq]

/-- A step is a lookup, if it is about a packet, and a step of the worker alone. -/
lemma step_split {ws : Fin k → WorkSpace} {c : Clock} {e : Event}
    (hs : ∀ q, (ws q).cfg.server = false) (h : s.step st ws q c e = some s') :
    ∃ u w, (u = s ∨ ∃ m, e = .recv (ws q).cfg.protocol m ∧ u = (s.lookup st m q).2) ∧
      Dperf.step (st.queue q) ((ws q).at c) e (u.workers q) = some w ∧ s' = u.put q w := by
  have halone : ∀ e,
      (Dperf.step (st.queue q) ((ws q).at c) e (s.workers q)).map (s.put q) = some s' →
      ∃ u w, (u = s ∨ ∃ m, e = .recv (ws q).cfg.protocol m ∧ u = (s.lookup st m q).2) ∧
        Dperf.step (st.queue q) ((ws q).at c) e (u.workers q) = some w ∧ s' = u.put q w := by
    intro e h
    obtain ⟨w, hw, rfl⟩ := Option.map_eq_some_iff.mp h
    exact ⟨s, w, .inl rfl, hw, rfl⟩
  cases e with
  | recv p m =>
      rw [step] at h
      by_cases hp : p = (ws q).cfg.protocol
      · subst hp
        rw [if_pos rfl] at h
        have hfound : socketLookup (st.queue q) ((ws q).at c)
            ((s.lookup st m q).2.workers q).pool m = (s.lookup st m q).1 := by
          have hsame : socketClientLookup st ((s.lookup st m q).2.workers q).pool m =
              socketClientLookup st (s.workers q).pool m :=
            socketClientLookup_congr (lookup_addrs st s q m)
          have hclient : ¬ ((ws q).at c).cfg.server = true := by
            rw [show ((ws q).at c).cfg.server = false from hs q]
            exact Bool.false_ne_true
          rw [lookup_fst, ← hsame]
          exact if_neg hclient
        refine ⟨_, _, .inr ⟨m, rfl, rfl⟩, ?_, (Option.some.inj h).symm⟩
        rw [Dperf.step, recvPacket, hfound]
        exact congrArg some (if_pos rfl)
      · rw [if_neg hp] at h
        refine ⟨s, _, .inl rfl, ?_, (Option.some.inj h).symm⟩
        rw [Dperf.step, recvPacket]
        exact congrArg some (if_neg hp)
  | launch | socketTimer | timeoutTimer | ackFlush | setLaunchInterval | stop => exact halone _ h

lemma TablesKept.lookup (h : TablesKept st s) (q : Fin k) (m : Mbuf) :
    TablesKept st (s.lookup st m q).2 := by
  rcases lookup_cases st s q m with ⟨i, hi, heq⟩ | ⟨-, heq⟩
  · rw [heq]
    exact h.takeOver hi.other (h.takesOver hi).1
  · rwa [heq]

/-- A worker that works alone. -/
lemma TablesKept.put (h : TablesKept st s) {w : Worker n}
    (hw : ∀ i, (w.pool i).addrs = ((s.workers q).pool i).addrs) : TablesKept st (s.put q w) := by
  refine h.of_addrs (fun q' i => ?_) rfl
  by_cases hq : q' = q
  · subst hq
    rw [sk, workers_put_self]
    exact hw i
  · rw [sk, workers_put_ne s _ hq]
    rfl

lemma TablesKept.runs {ws : Fin k → WorkSpace} {G : Test k n} (hs : ∀ q, (ws q).cfg.server = false)
    (h : TablesKept st s) (hr : Runs st ws G s s') : TablesKept st s' := by
  induction hr with
  | refl => exact h
  | tail _ hstep ih =>
      obtain ⟨q, c, e, -, hstep⟩ := hstep
      obtain ⟨u, w, hu, hw, rfl⟩ := step_split hs hstep
      have hkept : TablesKept st u := by
        rcases hu with rfl | ⟨m, -, rfl⟩
        · exact ih
        · exact ih.lookup q m
      have hclient : ((ws q).at c).cfg.server = false := hs q
      exact hkept.put fun i => step_addrs hclient hw i

end Kept

/-! ### The counters -/

/-- The counters agree with the pools, and what a worker does not open is closed until it takes it
over. -/
structure Sound [NeZero k] (ws : Fin k → WorkSpace) (s : RssClient k n) : Prop where
  counted : ∀ q, Counted (ws q) (s.workers q)
  idle : ∀ q i, rssIdx k (s.sk q i).lport ≠ q → i ∉ s.taken (rssIdx k (s.sk q i).lport) →
    (s.sk q i).state = .closed

/-- A closed socket takes over an open one. -/
lemma counted_dup {ws : WorkSpace} {w : Worker n} {i : Fin n} {src : Socket} (hn : n < 2 ^ 32)
    (h : Counted ws w) (hc : (w.pool i).state = .closed) (ho : src.state ≠ .closed)
    (hr : src.state ≠ .timeWait) :
    Counted ws (w.on i fun v => { v with sk := socketDup v.sk src }.count netStatsSocketDup) := by
  have hlt := w.otherOpen_lt i
  have hopened : Tallied (w.otherOpen i)
      { w.view i with sk := socketDup (w.pool i) src, stats := netStatsSocketOpen w.stats } :=
    (h.view i).opened (by omega) hc rfl ho hr fun _ => id
  exact h.put (hopened.touch rfl rfl rfl) fun _ => queuedOpen_open ho

/-- The socket that is taken over stays as it is, but for its addresses. -/
lemma counted_cleared {ws : WorkSpace} {w : Worker n} (h : Counted ws w) (i : Fin n) :
    Counted ws (w.on i fun v => { v with sk.laddr := 0, sk.faddr := 0 }) :=
  h.put ((h.view i).touch rfl rfl rfl) fun hu => queuedOpen_kept (h.queued hu i) rfl rfl

section Sound

variable [NeZero k] {st : SocketTable n} {ws : Fin k → WorkSpace} {s s' : RssClient k n}
  {q : Fin k} {m : Mbuf} {i : Fin n}

/-- The socket that takes over is closed. -/
lemma Sound.shut (h : Sound ws s) (ht : TablesKept st s) (hi : s.TakesOver st q m i) :
    (s.sk q i).state = .closed := by
  obtain ⟨howner, hleft⟩ := ht.takesOver hi
  refine h.idle q i ?_ ?_
  · rw [howner]
    exact hi.other
  · rwa [howner]

lemma Sound.takeOver (h : Sound ws s) (ht : TablesKept st s) (hi : s.TakesOver st q m i)
    (ho : (s.sk (rssIdx k m.th.dport) i).state ≠ .closed) :
    Sound ws (s.takeOver q (rssIdx k m.th.dport) i) := by
  have hother := hi.other
  obtain ⟨howner, hleft⟩ := ht.takesOver hi
  have hshut := h.shut ht hi
  generalize rssIdx k m.th.dport = p at hother howner hleft ho ⊢
  constructor
  · intro q'
    by_cases hq : q' = q
    · subst hq
      rw [workers_takeOver_self hother]
      exact counted_dup st.pool_lt (h.counted _) hshut ho ((h.counted p).recycle i)
    · by_cases hp : q' = p
      · subst hp
        rw [workers_takeOver_source hother]
        exact counted_cleared (h.counted _) i
      · rw [workers_takeOver_ne hq hp]
        exact h.counted q'
  · intro q' j hne hfree
    by_cases hji : j = i
    · -- it has been taken over now
      subst hji
      refine absurd ?_ hfree
      have hkept := ht.takeOver hother howner
      rw [mem_taken_takeOver, hkept.port q' q, sk_takeOver_self hother,
        (addrs_eq_iff.mp (socketDup_addrs ..)).2.2.1, howner]
      exact .inl ⟨rfl, rfl⟩
    · rw [sk_takeOver_ne hother (.inr hji) (.inr hji)] at hne hfree ⊢
      rw [mem_taken_takeOver, not_or] at hfree
      exact h.idle q' j hne hfree.2

lemma Sound.lookup (h : Sound ws s) (ht : TablesKept st s) (hG : TakesOpen st s q m) :
    Sound ws (s.lookup st m q).2 := by
  rcases lookup_cases st s q m with ⟨i, hi, heq⟩ | ⟨-, heq⟩
  · rw [heq]
    exact h.takeOver ht hi (hG i hi)
  · rwa [heq]

/-- The test of `socket_table_get_socket_rss` on the table of a worker. -/
lemma rssPicks_queue (hk : k < 256) (st : SocketTable n) (q : Fin k) (sk : Socket) :
    rssPicks (st.queue q) sk ↔ rssIdx k sk.lport = q ∧ sk.laddr ≠ 0 := by
  have hid : (UInt8.ofNat q).toNat = q.val :=
    UInt8.toNat_ofNat_of_lt' (by change _ < 256; omega)
  have hnum : (UInt8.ofNat k).toNat = k := UInt8.toNat_ofNat_of_lt' hk
  rw [rssPicks, SocketTable.queue]
  dsimp only
  rw [hid, hnum, rssIdx, Fin.ext_iff, Fin.val_ofNat]

/-- A worker that works alone. -/
lemma Sound.put (h : Sound ws s) (hs : (ws q).cfg.server = false) (hk : k < 256) {c : Clock}
    {e : Event} {w : Worker n}
    (hw : Dperf.step (st.queue q) ((ws q).at c) e (s.workers q) = some w) :
    Sound ws (s.put q w) := by
  have hclient : ((ws q).at c).cfg.server = false := hs
  constructor
  · intro q'
    by_cases hq : q' = q
    · subst hq
      rw [workers_put_self]
      exact (h.counted q').step hw
    · rw [workers_put_ne s w hq]
      exact h.counted q'
  · intro q' i hne hfree
    by_cases hq : q' = q
    · subst hq
      have haddrs := addrs_eq_iff.mp (step_addrs hclient hw i)
      have hsk : (s.put q' w).sk q' i = w.pool i := by rw [sk, workers_put_self]
      rw [taken_put] at hfree
      rw [hsk] at hne hfree ⊢
      rw [haddrs.2.2.1] at hne hfree
      refine step_shut hclient rfl ((h.counted q').at c) hw ?_ (h.idle q' i hne hfree)
      rw [rssPicks_queue hk]
      exact fun hpick => hne hpick.1
    · have hsk : (s.put q w).sk q' i = s.sk q' i := by
        rw [sk, workers_put_ne s w hq]
        rfl
      rw [taken_put] at hfree
      rw [hsk] at hne hfree ⊢
      exact h.idle q' i hne hfree

/-- A run that takes over open sockets only. -/
lemma Sound.runs (hs : ∀ q, (ws q).cfg.server = false) (hk : k < 256) (h : Sound ws s)
    (ht : TablesKept st s) (hr : Runs st ws (TakesOpen st) s s') : Sound ws s' := by
  induction hr with
  | refl => exact h
  | @tail s₁ s₂ hr₁ hstep ih =>
      have ht₁ := ht.runs hs hr₁
      obtain ⟨q, c, e, hG, hstep⟩ := hstep
      obtain ⟨u, w, hu, hw, rfl⟩ := step_split hs hstep
      have hsound : Sound ws u := by
        rcases hu with rfl | ⟨m, he, rfl⟩
        · exact ih
        · exact ih.lookup ht₁ (hG m he)
      exact hsound.put (hs q) hk hw

/-- The counters are right after a lookup if and only if it takes nothing over that is closed. -/
lemma Sound.counts_lookup_iff (h : Sound ws s) (ht : TablesKept st s) (q : Fin k) (m : Mbuf) :
    Counts (s.lookup st m q).2 ↔ TakesOpen st s q m := by
  constructor
  · intro hcounts i hi hclosed
    have hshut := h.shut ht hi
    have hcount := hcounts q
    have hold := (h.counted q).current
    have hlt := (s.workers q).otherOpen_lt i
    have hn := st.pool_lt
    have hbefore : openNum ((s.workers q).pool i) = 0 := openNum_closed hshut
    have hafter : openNum (socketDup ((s.workers q).pool i) (s.sk (rssIdx k m.th.dport) i)) = 0 :=
      openNum_closed hclosed
    rw [lookup_takeOver hi, workers_takeOver_self hi.other, Worker.openCount_eq _ i, Worker.on,
      Worker.otherOpen_put, Worker.pool_put_self] at hcount
    rw [Worker.openCount_eq _ i, hbefore] at hold
    -- `socket_current` is one more, the open sockets are as many
    change ((s.workers q).stats.socketCurrent + 1).toNat = (s.workers q).otherOpen i +
      openNum (socketDup ((s.workers q).pool i) (s.sk (rssIdx k m.th.dport) i)) at hcount
    rw [hafter, UInt64.toNat_add, hold, UInt64.toNat_one, Nat.mod_eq_of_lt (by omega)] at hcount
    omega
  · intro hG q'
    exact ((h.lookup ht hG).counted q').current

/-- After a hand-over, all workers but one have a socket with an address. -/
lemma TablesKept.liveOnce_iff (h : TablesKept st s) :
    LiveOnce s ↔ k ≤ 2 ∨ ∀ p, s.taken p = [] := by
  have hothers : ∀ p i, i ∈ s.taken p → ∀ q, (s.sk q i).laddr ≠ 0 ↔ q ≠ p := by
    intro p i hi q
    rw [Ne, h.gone]
    refine not_congr ⟨fun hq => ?_, fun hq => hq ▸ hi⟩
    rw [← h.owner q i hq, h.port q p, h.owner p i hi]
  constructor
  · intro hlive
    by_contra hno
    rw [not_or, not_forall] at hno
    obtain ⟨hk, p, hp⟩ := hno
    obtain ⟨i, hi⟩ := List.exists_mem_of_ne_nil _ hp
    have hcard : 1 < (Finset.univ.erase p).card := by
      rw [Finset.card_erase_of_mem (Finset.mem_univ p), Finset.card_univ, Fintype.card_fin]
      omega
    obtain ⟨q, hq, q', hq', hne⟩ := Finset.one_lt_card.mp hcard
    exact hne (hlive p i hi q q' ((hothers p i hi q).mpr (Finset.ne_of_mem_erase hq))
      ((hothers p i hi q').mpr (Finset.ne_of_mem_erase hq')))
  · rintro (hk | hnone) p i hi q q' hq hq'
    · rw [hothers p i hi] at hq hq'
      omega
    · rw [hnone p] at hi
      cases hi

end Sound

/-! ### From the configuration -/

/-- The workers of a client port at the start of their loops. -/
structure Start (ws : Fin k → WorkSpace) (c : TableConfig) (st : SocketTable n)
    (s : RssClient k n) : Prop where
  client : ∀ q, (ws q).cfg.server = false
  table : c.server = false
  /-- `THREAD_NUM_MAX` -/
  threads : k ≤ 64
  size : n = c.configGetTotalSocketNum.toNat
  initial : ∀ q, Initial (ws q) (s.workers q)
  taken : ∀ q, s.taken q = []
  pool : ∀ q, ∃ seed fuel t, socketTableInit (ws q) seed c fuel = some t ∧ c.Describes t st ∧
    ∀ i : Fin n, (s.workers q).pool i = t.pool i

section Start

variable {ws : Fin k → WorkSpace} {c : TableConfig} {st : SocketTable n} {s : RssClient k n}

/-- The first server address is not 0. -/
lemma serverIpMin_ne_zero (hc : c.Accepted) : c.serverIpMin ≠ 0 := by
  obtain ⟨ip, num, hparse⟩ := hc.servers
  have hlen := (configParseIpRange_some hparse).1
  have hget : ∀ idx, c.serverIpGet idx ≠ 0 := by
    intro idx
    have hlt := Nat.mod_lt idx hlen
    rw [TableConfig.serverIpGet, List.getD_eq_getElem _ _ hlt]
    exact configParseIpRange_ne_zero hparse _ (List.getElem_mem hlt)
  rw [TableConfig.serverIpMin]
  split_ifs
  · exact hget _
  · exact hget _

/-- The tables of all workers have the same places. -/
lemma Start.filled (h : Start ws c st s) (hc : c.Accepted)
    (hov : c.listen.toInt + c.listenNum.toInt < 2 ^ 31) (hcount : c.tupleNum < 2 ^ 32) :
    ∃ ps, c.Enumerates ps ∧ ∀ q, ∃ seed t, Filled (ws q) seed c ps c.clientIps t ∧
      c.Describes t st ∧ ∀ i : Fin n, (s.workers q).pool i = t.pool i := by
  obtain ⟨fuel, ps, hps, e⟩ := (hc.geometry hov hcount).places_some
  refine ⟨ps, e, fun q => ?_⟩
  obtain ⟨seed, fuel', t, ht, hst, hpool⟩ := h.pool q
  obtain ⟨ps', hps', rfl⟩ := Option.map_eq_some_iff.mp ht
  obtain rfl := places_unique hps hps'
  exact ⟨seed, _, socketPortTableInit_filled e c.clientIps hc.clientIps_nodup, hst, hpool⟩

/-- The table of every worker is right. -/
lemma Start.right (h : Start ws c st s) (hc : c.Accepted)
    (hov : c.listen.toInt + c.listenNum.toInt < 2 ^ 31) (hcount : c.tupleNum < 2 ^ 32) (q : Fin k) :
    ∃ t, TablesRight (ws q) c t st ∧ (∀ i : Fin n, (s.workers q).pool i = t.pool i) ∧
      ∀ m, socketLookup st (ws q) (fun i => t.pool i) m =
        socketClientLookup st (s.workers q).pool m := by
  obtain ⟨ps, e, hfilled⟩ := h.filled hc hov hcount
  obtain ⟨seed, t, hfill, ⟨g, hn, hht, rfl⟩, hpool⟩ := hfilled q
  have hsize := h.size.trans (hc.totalSocketNum hov hcount)
  have hserver : (ws q).cfg.server = c.server := (h.client q).trans h.table.symm
  refine ⟨t, hfill.right e hserver hc hov hsize, hpool, fun m => ?_⟩
  rw [socketLookup, if_neg (by rw [h.client q]; exact Bool.false_ne_true)]
  exact congrArg (fun pool => socketClientLookup _ pool m) (funext fun i => (hpool i).symm)

lemma Start.kept [NeZero k] (h : Start ws c st s) (hc : c.Accepted)
    (hov : c.listen.toInt + c.listenNum.toInt < 2 ^ 31) (hcount : c.tupleNum < 2 ^ 32) :
    TablesKept st s := by
  obtain ⟨ps, e, hfilled⟩ := h.filled hc hov hcount
  have hsize := h.size.trans (hc.totalSocketNum hov hcount)
  -- the entry of a socket
  have hentry : ∀ i : Fin n, ∃ ip p, ip ≠ 0 ∧
      ∀ q, (s.sk q i).laddr = ip ∧ (s.sk q i).lport = p := by
    intro i
    obtain ⟨j, ip, p, hj, hp, hi⟩ := e.exists_slot (lt_of_lt_of_eq i.isLt hsize)
    refine ⟨ip, p.1, hc.clientIps_ne_zero ip (List.mem_of_getElem? hj), fun q => ?_⟩
    obtain ⟨seed, t, hfill, -, hpool⟩ := hfilled q
    rw [sk, hpool, hi, hfill.pool j ip hj p hp, portEntry, socketInit, h.client q,
      if_neg Bool.false_ne_true]
    exact ⟨rfl, rfl⟩
  have hnone : ∀ q i, i ∉ s.taken q := by
    intro q i hi
    rw [h.taken q] at hi
    cases hi
  refine ⟨?_, fun q q' i => ?_, fun q i => ?_, fun q i hi => absurd hi (hnone q i),
    fun q m i hi => ?_⟩
  · obtain ⟨-, t, -, ⟨g, -, -, rfl⟩, -⟩ := hfilled 0
    exact serverIpMin_ne_zero hc
  · obtain ⟨ip, p, -, hsame⟩ := hentry i
    rw [(hsame q).2, (hsame q').2]
  · obtain ⟨ip, p, hip, hsame⟩ := hentry i
    rw [(hsame q).1]
    exact iff_of_false hip (hnone q i)
  · obtain ⟨t, hright, hpool, hlookup⟩ := h.right hc hov hcount q
    have htuple := congrArg Tuple.clientPort (hright.slot m i ((hlookup m).trans hi))
    rw [← hpool, h.table] at htuple
    exact ⟨hnone q i, UInt16.toNat_inj.mp (Nat.cast_inj.mp htuple)⟩

lemma Start.sound [NeZero k] (h : Start ws c st s) : Sound ws s where
  counted q := (h.initial q).counted
  idle q i _ _ := (h.initial q).closed i

/-- A packet of the configuration that comes to another worker than the one that opens its socket
takes the socket over. -/
lemma Start.takesOver [NeZero k] (h : Start ws c st s) (hc : c.Accepted)
    (hov : c.listen.toInt + c.listenNum.toInt < 2 ^ 31) (hcount : c.tupleNum < 2 ^ 32) {q : Fin k}
    {m : Mbuf} (hm : c.Configured (m.tuple c.server)) (hq : rssIdx k m.th.dport ≠ q) :
    ∃ i, s.TakesOver st q m i := by
  have hfound : ∀ q, ∃ i, socketClientLookup st (s.workers q).pool m = some i := by
    intro q
    obtain ⟨t, hright, -, hlookup⟩ := h.right hc hov hcount q
    rw [← hlookup, ← Option.isSome_iff_exists]
    exact (hright.found m).mpr hm
  obtain ⟨i, hi⟩ := hfound q
  obtain ⟨j, hj⟩ := hfound (rssIdx k m.th.dport)
  have hsame := (socketClientLookup_eq_some.mp hi).1.symm.trans (socketClientLookup_eq_some.mp hj).1
  obtain rfl := Option.some.inj hsame
  exact ⟨i, hq, hi, hj⟩

end Start

/-- **Hand-overs.** In a run that takes over open sockets only, `socket_current` of every worker is
the number of its open sockets after the next lookup if and only if that takes over no closed one
either. In any run, at most one worker has an address in its socket for what has been handed over
if and only if there are no more than two workers or nothing has been handed over. -/
theorem handOver_iff [NeZero k] {ws : Fin k → WorkSpace} {c : TableConfig} {st : SocketTable n}
    {s₀ : RssClient k n} (h : Start ws c st s₀) (hc : c.Accepted)
    (hov : c.listen.toInt + c.listenNum.toInt < 2 ^ 31) (hcount : c.tupleNum < 2 ^ 32) :
    (∀ s, Runs st ws (TakesOpen st) s₀ s → ∀ q m,
      Counts (s.lookup st m q).2 ↔ TakesOpen st s q m) ∧
    ∀ s, Runs st ws (fun _ _ _ => True) s₀ s → ∀ q m,
      LiveOnce (s.lookup st m q).2 ↔ k ≤ 2 ∨ ∀ p, (s.lookup st m q).2.taken p = [] := by
  have hkept := h.kept hc hov hcount
  have hk : k < 256 := lt_of_le_of_lt h.threads (by decide)
  constructor
  · intro s hr q m
    exact (h.sound.runs h.client hk hkept hr).counts_lookup_iff (hkept.runs h.client hr) q m
  · intro s hr q m
    exact ((hkept.runs h.client hr).lookup q m).liveOnce_iff

/-- Every accepted configuration of a client has a start. -/
lemma exists_start {c : TableConfig} (hc : c.Accepted)
    (hs : c.server = false) (ws : WorkSpace) (hws : ws.cfg.server = false) (hk : k ≤ 64)
    (hov : c.listen.toInt + c.listenNum.toInt < 2 ^ 31) (hcount : c.tupleNum < 2 ^ 32) :
    ∃ (st : SocketTable c.configGetTotalSocketNum.toNat) (s : RssClient k _),
      Start (fun _ => ws) c st s := by
  obtain ⟨fuel, ps, hps, e, hfill, st, hst⟩ := hc.tables ws (fun _ _ _ _ => 0) hov hcount
  have hsize := hc.totalSocketNum hov hcount
  refine ⟨st, { workers := fun _ => { pool := fun i => Tables.pool _ i } }, fun _ => hws, hs, hk,
    rfl, fun _ => ⟨fun i => ?_, rfl, rfl, rfl, rfl, rfl⟩, fun _ => rfl,
    fun _ => ⟨_, fuel, _, by rw [socketTableInit, hps, Option.map_some], hst, fun _ => rfl⟩⟩
  exact hfill.socketNew e (fun _ _ _ _ => by decide) (lt_of_lt_of_eq i.isLt hsize)

/-- What `socket_table_init` leaves for the client ports 1 and 2. -/
def twoPorts : Tables :=
  (socketTableInit (.single .single) (fun _ _ _ _ => 0) (.rssClient 2) 3).getD {}

lemma init_twoPorts : socketTableInit (.single .single) (fun _ _ _ _ => 0) (.rssClient 2) 3 =
    some twoPorts := by
  rw [twoPorts, socketTableInit]
  rfl

lemma accepted_twoPorts : (TableConfig.rssClient 2).Accepted :=
  TableConfig.rssClient_accepted (show configParseClientPortRange 1 2 = true by decide)

lemma size_twoPorts : 2 < 2 ^ 32 := by
  decide

/-- Their socket table. -/
def twoPortsTable : SocketTable 2 :=
  (TableConfig.rssClient 2).socketTable (accepted_twoPorts.geometry (by decide) (by decide))
    size_twoPorts twoPorts.ht (by
      intro low base h
      have hht : twoPorts.ht = Function.update (fun _ => none) 0xF101 (some 0) := rfl
      rw [hht, Function.update_apply] at h
      split_ifs at h
      obtain rfl := Option.some.inj h
      decide)

/-- Two workers with this table, which open one socket at each launch. -/
def twoWorkers : RssClient 2 2 where
  workers _ := { pool := fun i => twoPorts.pool i, launch := { launchNum := 1 } }

lemma twoWorkers_start :
    Start (fun _ => .single .single) (.rssClient 2) twoPortsTable twoWorkers where
  client := fun _ => rfl
  table := rfl
  threads := by decide
  size := by decide
  initial := by
    refine fun _ => ⟨fun i => ?_, rfl, rfl, rfl, rfl, rfl⟩
    fin_cases i <;> exact ⟨_, _, _, _, _, by decide, rfl⟩
  taken := fun _ => rfl
  pool := fun _ => ⟨_, 3, twoPorts, init_twoPorts, ⟨_, _, _, rfl⟩, fun _ => rfl⟩

/-- A packet for the client port 1, from the server. -/
def strayPacket : Mbuf :=
  { Mbuf.single false thAck 0 0 [] with saddr := 0x0606F201, daddr := 0x0606F101 }

/-- Worker 1 launches the socket of client port 1, and worker 0 takes it over with a packet: the
counters are right. -/
theorem handOver_two_workers : ∃ s : RssClient 2 2,
    Start (fun _ => .single .single) (.rssClient 2) twoPortsTable twoWorkers ∧
    Runs twoPortsTable (fun _ => .single .single) (TakesOpen twoPortsTable) twoWorkers s ∧
    s.TakesOver twoPortsTable 0 strayPacket 0 ∧ (s.sk 1 0).state = .synSent ∧
    Counts (s.lookup twoPortsTable strayPacket 0).2 ∧
    LiveOnce (s.lookup twoPortsTable strayPacket 0).2 := by
  have hlaunch : (twoWorkers.step twoPortsTable (fun _ => .single .single) 1 (.single 1)
      (.launch 2)).any (fun s => (s.sk 1 0).state == .synSent &&
        socketClientLookup twoPortsTable (s.workers 0).pool strayPacket == some 0 &&
        socketClientLookup twoPortsTable (s.workers 1).pool strayPacket == some 0) = true := by
    decide
  obtain ⟨s, hs, hopen⟩ := (Option.any_eq_true _ _).mp hlaunch
  rw [Bool.and_eq_true, Bool.and_eq_true, beq_iff_eq, beq_iff_eq, beq_iff_eq] at hopen
  obtain ⟨⟨hstate, hfound⟩, hsource⟩ := hopen
  have hruns : Runs twoPortsTable (fun _ => .single .single) (TakesOpen twoPortsTable) twoWorkers
      s := .single ⟨1, .single 1, .launch 2, fun m he => (by cases he), hs⟩
  have htakes : s.TakesOver twoPortsTable 0 strayPacket 0 := ⟨by decide, hfound, hsource⟩
  have hiff := handOver_iff twoWorkers_start accepted_twoPorts (by decide) (by decide)
  refine ⟨s, twoWorkers_start, hruns, htakes, hstate, (hiff.1 s hruns 0 strayPacket).mpr ?_,
    (hiff.2 s (.single ⟨1, .single 1, .launch 2, fun _ _ => trivial, hs⟩) 0 strayPacket).mpr
      (.inl (le_refl 2))⟩
  intro i hi
  obtain rfl := Option.some.inj (hsource.symm.trans hi.source)
  change (s.sk 1 0).state ≠ .closed
  rw [hstate]
  decide

/-- The packet comes to worker 0 before worker 1 has opened the socket: `socket_current` of worker 0
is 1, and no socket is open. -/
theorem handOver_stray : (TableConfig.rssClient 2).Accepted ∧
    ∃ (st : SocketTable 2) (s : RssClient 2 2),
      Start (fun _ => .single .single) (.rssClient 2) st s ∧
        ¬ Counts (s.lookup st strayPacket 0).2 := by
  have hc := accepted_twoPorts
  obtain ⟨st, s, hstart⟩ := exists_start (k := 2) hc rfl (.single .single) rfl
    (by decide) (by decide) (by decide)
  refine ⟨hc, st, s, hstart, fun hcounts => ?_⟩
  have hconf : (TableConfig.rssClient 2).Configured (strayPacket.tuple false) :=
    ⟨by decide, by decide, by decide, by decide⟩
  obtain ⟨i, hi⟩ := hstart.takesOver hc (by decide) (by decide) hconf (q := 0) (by decide)
  have hopen := (hstart.sound.counts_lookup_iff (hstart.kept hc (by decide) (by decide)) 0 _).mp
    hcounts
  exact hopen i hi ((hstart.initial _).closed i)

end RssClient

end Dperf
