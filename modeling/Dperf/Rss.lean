import Dperf.SocketPool
import Dperf.TableInit

/-!
RSS on a client: the workers of a port have a table each of all its sockets, open those whose
port has their own remainder, and take a socket over from the worker that opened it when its
packets come to them.

* `RssPort`: the pools of the workers. `RssPort.taken` keeps which slots other workers have
  taken over.
* `socketClientCheckRss`, `socketClientLookupRss`: the take-over. `RssStep` is all that can happen
  to the pools.
* `RssPort.Kept`: a slot keeps its port, and its address until it is taken over.
* `rssReturns_iff`: the search for the next socket ends if and only if one is left.
-/

namespace Dperf

variable {n k : ℕ}

/-- The socket pools of the workers of a port with `k` queues. -/
structure RssPort (k : ℕ) where
  pools : Fin k → SocketPool
  taken : Fin k → List ℕ := fun _ => []

/-- The table of a worker after `work_space_init_rss`. -/
def SocketTable.queue (st : SocketTable n) (q : Fin k) : SocketTable n :=
  { st with rss := true, rssId := UInt8.ofNat q, rssNum := UInt8.ofNat k }

namespace RssPort

/-- A write to one socket of a worker. -/
def set (s : RssPort k) (q : Fin k) (i : ℕ) (sk : Socket) : RssPort k :=
  { s with
    pools := Function.update s.pools q
      { s.pools q with base := Function.update (s.pools q).base i sk } }

lemma set_base (s : RssPort k) (q q' : Fin k) (i j : ℕ) (sk : Socket) :
    ((s.set q i sk).pools q').base j =
      if q' = q ∧ j = i then sk else (s.pools q').base j := by
  rw [set]
  by_cases hq : q' = q
  · subst hq
    by_cases hj : j = i
    · subst hj
      simp
    · simp [hj]
  · simp [hq]

lemma set_taken (s : RssPort k) (q : Fin k) (i : ℕ) (sk : Socket) :
    (s.set q i sk).taken = s.taken := rfl

end RssPort

/-! ### Taking over a socket -/

/-- `socket_dup`, without its counter. -/
def socketDup (dst src : Socket) : Socket :=
  let dst :=
    -- TCP: a connection cannot be broken, so the socket is kept alive here
    if src.flags ≠ 0 then
      { dst with rcvNxt := src.rcvNxt, sndNxt := src.sndNxt, sndUna := src.sndUna,
                 flags := src.flags, keepalive := src.keepalive }
    -- UDP: close keepalive, just count
    else { dst with keepalive := false }
  { dst with timerTsc := src.timerTsc, state := src.state }

section Lookup

variable [NeZero k] (st : SocketTable n) (m : Mbuf) (q : Fin k)

/-- `socket_client_check_rss` on the socket `i`. All workers of the port are in
`socket_table_hash`, and their tables differ in their sockets only. -/
def socketClientCheckRss (i : Fin n) (s : RssPort k) : RssPort k :=
  let idx := Fin.ofNat k m.th.dport.toNat
  if idx ≠ q then
    match st.commonLookup m.daddr m.saddr m.th.dport m.th.sport with
    | none => s
    | some j =>
        let sk2 := (s.pools idx).base j
        if sk2.laddr = m.daddr ∧ sk2.faddr = m.saddr then
          let s := s.set q i (socketDup ((s.pools q).base i) sk2)
          let s := s.set idx j { sk2 with laddr := 0, faddr := 0 }
          { s with taken := Function.update s.taken idx (j.val :: s.taken idx) }
        else s
  else s

/-- `socket_client_lookup` of a worker with RSS. -/
def socketClientLookupRss (s : RssPort k) : Option (Fin n) × RssPort k :=
  match socketClientLookup st (fun i => (s.pools q).base i) m with
  | none => (none, s)
  | some i => (some i, socketClientCheckRss st m q i s)

end Lookup

/-! ### Runs -/

/-- What happens to the pools: a worker gets a socket to open; a worker looks up the socket of a
packet; a handler writes to a socket, but not to its addresses; the memory behind a pool changes. -/
inductive RssStep [NeZero k] (st : SocketTable n) : RssPort k → RssPort k → Prop
  | get {s : RssPort k} {q : Fin k} {fuel i : ℕ} {next : UInt32}
      (h : (getSocket (st.queue q) (s.pools q).base fuel (s.pools q).next).2 = some (i, next)) :
      RssStep st s { s with pools := Function.update s.pools q { s.pools q with next := next } }
  | lookup (s : RssPort k) (q : Fin k) (m : Mbuf) :
      RssStep st s (socketClientLookupRss st m q s).2
  | write (s : RssPort k) (q : Fin k) (i : ℕ) (sk : Socket)
      (h : i < n → sk.laddr = ((s.pools q).base i).laddr ∧ sk.faddr = ((s.pools q).base i).faddr ∧
        sk.lport = ((s.pools q).base i).lport ∧ sk.fport = ((s.pools q).base i).fport) :
      RssStep st s (s.set q i sk)

/-- The pools that the steps lead to. -/
abbrev RssRuns [NeZero k] (st : SocketTable n) : RssPort k → RssPort k → Prop :=
  Relation.ReflTransGen (RssStep st)

/-- The call of `socket_table_get_socket_rss` of a worker returns. -/
def RssReturns (st : SocketTable n) (s : RssPort k) (q : Fin k) : Prop :=
  ∃ fuel, (getSocketRss (st.queue q) (s.pools q).base fuel (s.pools q).next).2.isSome

/-- A socket that was the worker's at first, and that no other worker has taken over. -/
def SocketLeft (st : SocketTable n) (s₀ s : RssPort k) (q : Fin k) : Prop :=
  ∃ i < n, rssPicks (st.queue q) ((s₀.pools q).base i) ∧ i ∉ s.taken q

/-- The place that the call starts at is behind the pool, and looks like a socket of the
worker. -/
def LooksLeft (st : SocketTable n) (s : RssPort k) (q : Fin k) : Prop :=
  ∃ i, n ≤ i ∧ (i = (s.pools q).next.toNat ∨ i = 0) ∧
    rssPicks (st.queue q) ((s.pools q).base i)

/-! ### What becomes of a slot -/

/-- The slots of the pools have the ports of `s₀`, and its addresses but for those that are taken
over. -/
def RssPort.Kept (n : ℕ) (s₀ s : RssPort k) : Prop :=
  ∀ q, ∀ i < n, ((s.pools q).base i).lport = ((s₀.pools q).base i).lport ∧
    ((s.pools q).base i).laddr = if i ∈ s.taken q then 0 else ((s₀.pools q).base i).laddr

section Kept

variable {st : SocketTable n} {s₀ s s' : RssPort k}

lemma RssPort.Kept.start (h : ∀ q, s₀.taken q = []) : RssPort.Kept n s₀ s₀ := by
  intro q i _
  rw [h q, if_neg List.not_mem_nil]
  exact ⟨rfl, rfl⟩

/-- A write that leaves port and address alone. -/
lemma RssPort.Kept.set (h : RssPort.Kept n s₀ s) {q : Fin k} {i : ℕ} {sk : Socket}
    (hp : i < n → sk.lport = ((s.pools q).base i).lport)
    (ha : i < n → sk.laddr = ((s.pools q).base i).laddr) : RssPort.Kept n s₀ (s.set q i sk) := by
  intro q' j hj
  have hold := h q' j hj
  rw [RssPort.set_base, RssPort.set_taken]
  by_cases heq : q' = q ∧ j = i
  · obtain ⟨rfl, rfl⟩ := heq
    rw [if_pos ⟨rfl, rfl⟩]
    exact ⟨(hp hj).trans hold.1, (ha hj).trans hold.2⟩
  · rw [if_neg heq]
    exact hold

lemma socketDup_lport (dst src : Socket) : (socketDup dst src).lport = dst.lport := by
  rw [socketDup]
  dsimp only
  split_ifs <;> rfl

lemma socketDup_laddr (dst src : Socket) : (socketDup dst src).laddr = dst.laddr := by
  rw [socketDup]
  dsimp only
  split_ifs <;> rfl

/-- The slot that is taken over loses its address. -/
lemma RssPort.Kept.take (h : RssPort.Kept n s₀ s) (q : Fin k) (i : ℕ) {sk : Socket}
    (hp : sk.lport = ((s.pools q).base i).lport) (ha : sk.laddr = 0) :
    RssPort.Kept n s₀ { s.set q i sk with
      taken := Function.update s.taken q (i :: s.taken q) } := by
  intro q' j hj
  have hold := h q' j hj
  change (((s.set q i sk).pools q').base j).lport = _ ∧ (((s.set q i sk).pools q').base j).laddr =
    if j ∈ Function.update s.taken q (i :: s.taken q) q' then 0 else _
  rw [RssPort.set_base]
  by_cases hq : q' = q
  · subst hq
    simp only [Function.update_self, List.mem_cons]
    by_cases hji : j = i
    · subst hji
      simp only [and_self, if_true, true_or]
      exact ⟨hp.trans hold.1, ha⟩
    · simpa [hji] using hold
  · simp only [Function.update_of_ne hq]
    rw [if_neg fun heq => hq heq.1]
    exact hold

lemma RssPort.Kept.checkRss [NeZero k] (h : RssPort.Kept n s₀ s) (m : Mbuf) (q : Fin k)
    (i : Fin n) : RssPort.Kept n s₀ (socketClientCheckRss st m q i s) := by
  rw [socketClientCheckRss]
  dsimp only
  split_ifs with hidx
  · split
    · exact h
    · split_ifs
      · rename_i j _ _
        have hdup := h.set (q := q) (i := i) (fun _ => socketDup_lport _ _)
          (fun _ => socketDup_laddr _ ((s.pools (Fin.ofNat k m.th.dport.toNat)).base j))
        refine hdup.take _ j ?_ rfl
        rw [RssPort.set_base, if_neg fun heq => hidx heq.1]
      · exact h
  · exact h

/-- A step keeps what is known of the slots. -/
lemma RssPort.Kept.step [NeZero k] (h : RssPort.Kept n s₀ s) (hs : RssStep st s s') :
    RssPort.Kept n s₀ s' := by
  cases hs with
  | @get q =>
      intro q' i hi
      have hold := h q' i hi
      by_cases hq : q' = q
      · subst hq
        simpa using hold
      · simpa [hq] using hold
  | lookup q m =>
      rw [socketClientLookupRss]
      split
      · exact h
      · exact h.checkRss m q _
  | write q i sk hsk => exact h.set (fun hi => (hsk hi).2.2.1) fun hi => (hsk hi).1

lemma RssPort.Kept.runs [NeZero k] (h : RssPort.Kept n s₀ s) (hs : RssRuns st s s') :
    RssPort.Kept n s₀ s' := by
  induction hs with
  | refl => exact h
  | tail _ hstep ih => exact ih.step hstep

/-- A slot of the pool is still the worker's if it was, and nobody has taken it over. -/
lemma RssPort.Kept.picks_iff (h : RssPort.Kept n s₀ s) (q : Fin k) {i : ℕ} (hi : i < n) :
    rssPicks (st.queue q) ((s.pools q).base i) ↔
      rssPicks (st.queue q) ((s₀.pools q).base i) ∧ i ∉ s.taken q := by
  obtain ⟨hport, haddr⟩ := h q i hi
  rw [rssPicks, rssPicks, hport, haddr]
  split_ifs with htaken
  · simp [htaken]
  · simp [htaken]

/-- The call returns if a slot of the pool, or the place that it starts at, is a socket of the
worker. -/
lemma rssReturns_iff_exists (q : Fin k) : RssReturns st s q ↔
    (∃ i < n, rssPicks (st.queue q) ((s.pools q).base i)) ∨ LooksLeft st s q := by
  have hfind : RssReturns st s q ↔ ∃ fuel,
      (Rings.find (fun i => rssPicks (st.queue q) ((s.pools q).base i)) n fuel
        (s.pools q).next.toNat).isSome := by
    refine exists_congr fun fuel => ?_
    rw [getSocketRss_eq, Option.isSome_map]
  rw [hfind, Rings.exists_find_iff]
  constructor
  · rintro ⟨i, hp, hplace⟩
    rcases Nat.lt_or_ge i n with hlt | hge
    · exact .inl ⟨i, hlt, hp⟩
    · exact .inr ⟨i, hge, by omega, hp⟩
  · rintro (⟨i, hlt, hp⟩ | ⟨i, -, hplace, hp⟩)
    · exact ⟨i, hp, .inr (.inl hlt)⟩
    · exact ⟨i, hp, by omega⟩

end Kept

/-! ### From the configuration -/

/-- The workers of the port of a client at the start of their loops. -/
structure RssStart (ws : WorkSpace) (c : TableConfig) (st : SocketTable n) (s : RssPort k) :
    Prop where
  size : n = c.configGetTotalSocketNum.toNat
  taken : ∀ q, s.taken q = []
  next : ∀ q, (s.pools q).next = 0
  pool : ∀ q, ∃ seed fuel t, socketTableInit ws seed c fuel = some t ∧ c.Describes t st ∧
    ∀ i < n, (s.pools q).base i = t.pool i

section Start

variable {ws : WorkSpace} {c : TableConfig} {st : SocketTable n} {s : RssPort k}

/-- Every client port has a place, the first one at the first port and address of the server. -/
lemma TableConfig.Accepted.port_mem (hc : c.Accepted)
    (hov : c.listen.toInt + c.listenNum.toInt < 2 ^ 31)
    {ps : List (UInt16 × UInt16 × UInt32)} (e : c.Enumerates ps)
    {port : ℕ} (hlo : c.lportMin.toInt ≤ port) (hhi : (port : ℤ) ≤ c.lportMax.toInt) :
    (UInt16.ofNat port).toNat = port ∧
      (UInt16.ofNat port, c.serverPortMin, c.serverIpMin) ∈ ps := by
  obtain ⟨hcmin, -, hcmax, hcpos, -, -⟩ := hc.clientPorts
  obtain ⟨hmin, hn, hmax, hnpos, -⟩ := hc.serverPorts hov
  obtain ⟨-, hiprange, -, hspos⟩ := hc.serverIps_range
  have hcp : (UInt16.ofNat port).toNat = port := by
    have hlt := c.clientPortMax.toNat_lt
    exact UInt16.toNat_ofNat_of_lt' (by change _ < 2 ^ 16; omega)
  refine ⟨hcp, (e.mem _).mpr ⟨fun hzero => ?_, UInt32.le_refl _, ?_, ?_, ?_, UInt16.le_refl _, ?_⟩⟩
  · rw [← UInt16.toNat_inj, hcp, UInt16.toNat_zero] at hzero
    omega
  · rw [UInt32.le_iff_toNat_le]
    dsimp only
    omega
  · rw [UInt16.le_iff_toNat_le, hcp]
    omega
  · rw [UInt16.le_iff_toNat_le, hcp]
    omega
  · rw [UInt16.le_iff_toNat_le]
    dsimp only
    omega

/-- At the start, a socket is left to a worker if and only if one of the client ports is its. -/
lemma RssStart.returns_iff (h : RssStart ws c st s) (hs : ws.cfg.server = false)
    (hc : c.Accepted) (hov : c.listen.toInt + c.listenNum.toInt < 2 ^ 31)
    (hcount : c.tupleNum < 2 ^ 32) (hk : k < 256) (q : Fin k) :
    RssReturns st s q ↔
      ∃ port : ℤ, c.lportMin.toInt ≤ port ∧ port ≤ c.lportMax.toInt ∧ port % k = q.val := by
  obtain ⟨hcmin, -, hcmax, hcpos, -, -⟩ := hc.clientPorts
  have hsize := h.size.trans (hc.totalSocketNum hov hcount)
  have hips := hc.clientIps_pos
  obtain ⟨seed, fuel, t, ht, ⟨g, -, -, -⟩, hpool⟩ := h.pool q
  obtain ⟨fuel', ps, hps, e, hfill, -⟩ := hc.tables ws seed hov hcount
  obtain ⟨ps', hps', rfl⟩ := Option.map_eq_some_iff.mp ht
  obtain rfl := places_unique hps hps'
  have hid : (UInt8.ofNat q).toNat = q.val :=
    UInt8.toNat_ofNat_of_lt' (by change _ < 256; omega)
  have hnum : (UInt8.ofNat k).toNat = k := UInt8.toNat_ofNat_of_lt' hk
  have hpicks : ∀ j ip p, c.clientIps[j]? = some ip → p ∈ ps → j * c.block + c.index p < n →
      (rssPicks (st.queue q) ((s.pools q).base (j * c.block + c.index p)) ↔
        p.1.toNat % k = q.val) := by
    intro j ip p hj hp hlt
    have hip := hc.clientIps_ne_zero ip (List.mem_of_getElem? hj)
    rw [hpool _ hlt, hfill.pool j ip hj p hp, portEntry, socketInit, hs, rssPicks,
      if_neg Bool.false_ne_true, SocketTable.queue]
    dsimp only
    rw [hid, hnum]
    exact and_iff_left hip
  rw [rssReturns_iff_exists]
  constructor
  · rintro (⟨i, hi, hp⟩ | ⟨i, hi, hplace, -⟩)
    · obtain ⟨j, ip, p, hj, hmem, rfl⟩ := e.exists_slot (hsize ▸ hi)
      obtain ⟨-, -, -, hlo, hhi, -⟩ := (e.mem p).mp hmem
      rw [UInt16.le_iff_toNat_le] at hlo hhi
      have hport := (hpicks j ip p hj hmem hi).mp hp
      exact ⟨p.1.toNat, by omega, by omega, by exact_mod_cast hport⟩
    · -- `next` is 0, and the pool is not empty
      rw [h.next q, UInt32.toNat_zero] at hplace
      have hpos := Nat.mul_pos hips (hc.block_pos hov)
      omega
  · rintro ⟨port, hlo, hhi, hport⟩
    obtain ⟨port, rfl⟩ := Int.eq_ofNat_of_zero_le (show 0 ≤ port by omega)
    obtain ⟨hcp, hmem⟩ := hc.port_mem hov e hlo hhi
    have hlt : 0 * c.block + c.index (UInt16.ofNat port, c.serverPortMin, c.serverIpMin)
        < n := by
      rw [hsize]
      exact add_lt_mul (e.index_lt hmem) hips
    refine .inl ⟨_, hlt, (hpicks 0 _ _ (List.getElem?_eq_getElem hips) hmem hlt).mpr ?_⟩
    rw [hcp]
    exact_mod_cast hport

/-- Every accepted configuration has a start. -/
lemma TableConfig.Accepted.exists_rssStart (hc : c.Accepted) (ws : WorkSpace) (k : ℕ)
    (hov : c.listen.toInt + c.listenNum.toInt < 2 ^ 31) (hcount : c.tupleNum < 2 ^ 32) :
    ∃ (st : SocketTable c.configGetTotalSocketNum.toNat) (s : RssPort k), RssStart ws c st s := by
  obtain ⟨fuel, ps, hps, -, -, st, hst⟩ := hc.tables ws (fun _ _ _ _ => 0) hov hcount
  exact ⟨st, { pools := fun _ => { base := Tables.pool _ } }, rfl, fun _ => rfl, fun _ => rfl,
    fun _ => ⟨_, fuel, _, by rw [socketTableInit, hps, Option.map_some], hst, fun _ _ => rfl⟩⟩

end Start

/-- **The search for a socket of the worker.** In every state that is reached, the call of a
worker returns if and only if one of the sockets that were its at the start has not been taken over,
or the call starts behind the pool at what looks like one. At the start it returns if and only if
one of the client ports has the remainder of the worker. -/
theorem rssReturns_iff [NeZero k] (st : SocketTable n) :
    (∀ s₀ s : RssPort k, (∀ q, s₀.taken q = []) → RssRuns st s₀ s → ∀ q,
      RssReturns st s q ↔ SocketLeft st s₀ s q ∨ LooksLeft st s q) ∧
    ∀ ws (c : TableConfig), ws.cfg.server = false → c.Accepted →
      c.listen.toInt + c.listenNum.toInt < 2 ^ 31 → c.tupleNum < 2 ^ 32 → k < 256 →
      ∀ s : RssPort k, RssStart ws c st s → ∀ q, RssReturns st s q ↔
        ∃ port : ℤ, c.lportMin.toInt ≤ port ∧ port ≤ c.lportMax.toInt ∧ port % k = q.val := by
  refine ⟨fun s₀ s hfree hruns q => ?_, fun ws c hs hc hov hcount hk s hstart q =>
    hstart.returns_iff hs hc hov hcount hk q⟩
  have hkept := (RssPort.Kept.start hfree).runs hruns
  rw [rssReturns_iff_exists, SocketLeft]
  refine or_congr_left (exists_congr fun i => and_congr_right fun hi => ?_)
  exact hkept.picks_iff q hi

/-- A client of one address, for one server address and port. -/
def TableConfig.rssClient (lportMax : Int32) : TableConfig :=
  { TableConfig.single 80 1 with server := false, lportMax := lportMax }

lemma TableConfig.rssClient_accepted {lportMax : Int32}
    (h : configParseClientPortRange 1 lportMax = true) :
    (TableConfig.rssClient lportMax).Accepted :=
  have hsingle := TableConfig.single_accepted (by decide)
  { clients := hsingle.clients
    some_client := hsingle.some_client
    port := fun _ => List.mem_singleton_self _
    servers := hsingle.servers
    unique := hsingle.unique
    listen := hsingle.listen
    lports := h
    queue := hsingle.queue }

/-- With two client ports, both of two workers get their first socket. -/
theorem rssReturns_two_ports :
    ∃ (st : SocketTable 2) (s : RssPort 2), RssStart (.single .single) (.rssClient 2) st s ∧
      ∀ q, RssReturns st s q := by
  have hc := TableConfig.rssClient_accepted (show configParseClientPortRange 1 2 = true by decide)
  obtain ⟨st, s, hstart⟩ := hc.exists_rssStart (.single .single) 2 (by decide) (by decide)
  refine ⟨st, s, hstart, fun q => ?_⟩
  refine ((rssReturns_iff st).2 _ _ rfl hc (by decide) (by decide) (by decide) s hstart q).mpr ?_
  fin_cases q
  · exact ⟨2, by decide, by decide, by decide⟩
  · exact ⟨1, by decide, by decide, by decide⟩

/-- With `client_port_range 1 1` and two workers, the first call of worker 0 never returns. -/
theorem rssReturns_one_port : (TableConfig.rssClient 1).Accepted ∧
    ∃ (st : SocketTable 1) (s : RssPort 2), RssStart (.single .single) (.rssClient 1) st s ∧
      ¬ RssReturns st s 0 := by
  have hc := TableConfig.rssClient_accepted (show configParseClientPortRange 1 1 = true by decide)
  obtain ⟨st, s, hstart⟩ := hc.exists_rssStart (.single .single) 2 (by decide) (by decide)
  refine ⟨hc, st, s, hstart, fun hret => ?_⟩
  obtain ⟨port, hlo, hhi, hport⟩ :=
    (hstart.returns_iff rfl hc (by decide) (by decide) (by decide) 0).mp hret
  change (1 : ℤ) ≤ port at hlo
  change port ≤ (1 : ℤ) at hhi
  change port % 2 = 0 at hport
  omega

end Dperf
