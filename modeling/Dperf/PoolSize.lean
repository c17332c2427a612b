import Dperf.TableInit

/-!
The size of the socket pool: `config_get_total_socket_num` computes it in 32 bits, the loops of
`socket_table_init` fill it.

* `socketTableInitOn`: `socket_table_init` on any memory, so that a write behind the pool can be
  seen. `slotWrites` lists its writes (`socketPortTableInit_writes`).
* `WrapFits`: the arithmetic that makes size and loops agree, with all casts and overflows
  (`poolFits_iff_wrapFits`).
* `poolFits_iff`: if the last server port does not overflow, they agree if and only if there are
  less than `2 ^ 32` tuples.
-/

namespace Dperf

open Loops

variable {ws : WorkSpace} {seed : Seeds} {c : TableConfig} {ps : List (UInt16 × UInt16 × UInt32)}

/-- `socket_table_init` on the memory `mem` from `socket_pool.base` on. -/
def socketTableInitOn (mem : ℕ → Socket) (ws : WorkSpace) (seed : Seeds) (c : TableConfig)
    (fuel : ℕ) : Option Tables :=
  (places c fuel).map fun ps => socketPortTableInit ws seed c ps c.clientIps { pool := mem }

/-- The loops end, they initialise the number of sockets that `work_space_alloc` has made room
for, and the memory behind the pool stays. `Tables.next` starts at 0 and counts the calls of
`socket_init`, without the wrap of a 32-bit `socket_pool.next`. -/
def PoolFits (ws : WorkSpace) (seed : Seeds) (c : TableConfig) : Prop :=
  ∃ fuel, ∀ mem, ∃ t, socketTableInitOn mem ws seed c fuel = some t ∧
    t.next = c.configGetTotalSocketNum.toNat ∧
    ∀ k, c.configGetTotalSocketNum.toNat ≤ k → t.pool k = mem k

/-! ### The writes of the loops -/

/-- The places and sockets that the loops write, from `next` on. -/
def slotWrites (ws : WorkSpace) (seed : Seeds) (c : TableConfig)
    (ps : List (UInt16 × UInt16 × UInt32)) : ℕ → List UInt32 → List (ℕ × Socket)
  | _, [] => []
  | next, ip :: ips =>
      ps.map (fun p => (next + c.index p, portEntry ws seed ip p)) ++
        slotWrites ws seed c ps (next + ps.length) ips

lemma socketPortTableInit_writes (ips : List UInt32) : ∀ t : Tables,
    (socketPortTableInit ws seed c ps ips t).next = t.next + ips.length * ps.length ∧
    (socketPortTableInit ws seed c ps ips t).pool =
      (slotWrites ws seed c ps t.next ips).foldl
        (fun pool w => Function.update pool w.1 w.2) t.pool := by
  induction ips with
  | nil => exact fun t => ⟨by rw [List.length_nil, Nat.zero_mul]; rfl, rfl⟩
  | cons ip ips ih =>
      intro t
      obtain ⟨hnext, hpool⟩ := ih
        { socketPortTableNew ws seed c ps ip t with
          ht := Function.update t.ht ip.toUInt16 (some t.next) }
      constructor
      · refine hnext.trans ?_
        rw [socketPortTableNew, List.length_cons, Nat.succ_mul]
        dsimp only
        omega
      · refine hpool.trans ?_
        rw [slotWrites, List.foldl_append, List.foldl_map]
        rfl

lemma exists_slotWrites {k : ℕ} : ∀ {ips : List UInt32} {next : ℕ},
    (∃ w ∈ slotWrites ws seed c ps next ips, w.1 = k) ↔
      ∃ j < ips.length, ∃ p ∈ ps, k = next + j * ps.length + c.index p := by
  intro ips
  induction ips with
  | nil =>
      intro next
      simp only [slotWrites, List.not_mem_nil, false_and, exists_false, List.length_nil,
        Nat.not_lt_zero]
  | cons ip ips ih =>
      intro next
      simp only [slotWrites, List.mem_append, or_and_right, exists_or, ih, List.length_cons]
      constructor
      · rintro (⟨w, hw, rfl⟩ | ⟨j, hj, p, hp, rfl⟩)
        · obtain ⟨p, hp, rfl⟩ := List.mem_map.mp hw
          exact ⟨0, Nat.succ_pos _, p, hp, by rw [Nat.zero_mul, Nat.add_zero]⟩
        · exact ⟨j + 1, Nat.succ_lt_succ hj, p, hp, by rw [Nat.succ_mul]; omega⟩
      · rintro ⟨j, hj, p, hp, rfl⟩
        cases j with
        | zero =>
            refine .inl ⟨_, List.mem_map_of_mem hp, ?_⟩
            rw [Nat.zero_mul, Nat.add_zero]
        | succ j => exact .inr ⟨j, Nat.lt_of_succ_lt_succ hj, p, hp, by rw [Nat.succ_mul]; omega⟩

/-- The memory from `T` on stays if and only if all writes are below. -/
lemma keeps_iff {ips : List UInt32} {T : ℕ} :
    (∀ mem, ∀ k, T ≤ k → (socketPortTableInit ws seed c ps ips { pool := mem }).pool k = mem k) ↔
      ∀ j < ips.length, ∀ p ∈ ps, j * ps.length + c.index p < T := by
  have hpool : ∀ mem, (socketPortTableInit ws seed c ps ips { pool := mem }).pool =
      (slotWrites ws seed c ps 0 ips).foldl (fun pool w => Function.update pool w.1 w.2) mem :=
    fun mem => (socketPortTableInit_writes ips { pool := mem }).2
  constructor
  · intro h j hj p hp
    by_contra hge
    have hwrite : ∃ w ∈ slotWrites ws seed c ps 0 ips, w.1 = j * ps.length + c.index p :=
      exists_slotWrites.mpr ⟨j, hj, p, hp, by rw [Nat.zero_add]⟩
    -- what is written does not depend on the memory, but the memory stays
    have hsame : ∀ mem mem' : ℕ → Socket,
        mem (j * ps.length + c.index p) = mem' (j * ps.length + c.index p) := by
      intro mem mem'
      rw [← h mem _ (Nat.le_of_not_lt hge), ← h mem' _ (Nat.le_of_not_lt hge), hpool, hpool]
      exact foldl_update_congr mem mem' hwrite
    cases congrArg Socket.laddr (hsame (fun _ => {}) (fun _ => { laddr := 1 }))
  · intro h mem k hk
    rw [hpool]
    refine foldl_update_not_mem mem fun w hw heq => ?_
    obtain ⟨j, hj, p, hp, hplace⟩ := exists_slotWrites.mp ⟨w, hw, heq⟩
    have hlt := h j hj p hp
    omega

/-! ### The arithmetic -/

namespace TableConfig

/-- The turns of the loop over the server ports, which are 16 bits wide. -/
def portTurns (c : TableConfig) : ℕ := c.serverPortMax.toNat + 1 - c.serverPortMin.toNat

/-- The sockets of a client port. -/
def row (c : TableConfig) : ℕ := c.portTurns * c.serverIps.length

/-- The size and the loops agree. The last server port has a successor; the product in 32 bits,
of `listen_num`, is the number of turns, of which there are less than `2 ^ 32`; the indices, whose
rows are as far apart as `listen_num` says, stay in a port table. -/
structure WrapFits (c : TableConfig) : Prop where
  ends : c.serverPortMax.toNat ≠ 65535
  count_lt : c.clientIps.length * (c.clientPortNum.toNat * c.row) < 2 ^ 32
  count_eq : c.clientIps.length * (c.clientPortNum.toNat * c.row) ≡
    c.clientIps.length *
      (c.clientPortNum.toNat * (c.listenNum.toUInt32.toNat * c.serverIps.length)) [MOD 2 ^ 32]
  index : ∀ k < c.clientPortNum.toNat, ∀ t < c.row,
    (k * (c.listenNum.toUInt32.toNat * c.serverIps.length) + t) % 2 ^ 32 <
      c.clientPortNum.toNat * c.row

/-- The values of a loop are those from its start on, one a turn. -/
lemma range_iff {α : Type*} {f : α → ℕ} {l : List α} {lo k : ℕ} (hl : l.map f = List.range' lo k)
    (i : ℕ) : (∃ x ∈ l, lo ≤ f x ∧ f x - lo = i) ↔ i < k := by
  have hmem : ∀ y, (∃ x ∈ l, f x = y) ↔ lo ≤ y ∧ y < lo + k := by
    intro y
    rw [← List.mem_range'_1, ← hl, List.mem_map]
  constructor
  · rintro ⟨x, hx, hlo, rfl⟩
    have hlt := ((hmem (f x)).mp ⟨x, hx, rfl⟩).2
    omega
  · intro hi
    obtain ⟨x, hx, heq⟩ := (hmem (lo + i)).mpr ⟨by omega, by omega⟩
    exact ⟨x, hx, by omega, by omega⟩

lemma Accepted.serverIps_length (h : c.Accepted) : c.serverIps.length = c.serverIpNum.toNat := by
  have hmap := congrArg List.length h.serverIps_range.1
  rwa [List.length_map, List.length_range'] at hmap

/-- The turns of the loops: so many, and with these indices. -/
lemma Accepted.places_index (h : c.Accepted) (hend : c.serverPortMax.toNat ≠ 65535) :
    ∃ fuel ps, places c fuel = some ps ∧ ps.length = c.clientPortNum.toNat * c.row ∧
      ∀ i, (∃ p ∈ ps, c.index p = i) ↔ ∃ k < c.clientPortNum.toNat, ∃ t < c.row,
        i = (k * (c.listenNum.toUInt32.toNat * c.serverIps.length) + t) % 2 ^ 32 := by
  have hlast := c.serverPortMax.toNat_lt
  obtain ⟨hips, hiprange, hiplt, hipos⟩ := h.serverIps_range
  obtain ⟨hcmin, hcnum, hcmax, -, -, -⟩ := h.clientPorts
  have hS := h.serverIps_length
  obtain ⟨fuel, lc, lp, li, hplaces, hmapc, hmapp, hmapi⟩ := c.places_ranges (by omega) hiplt
  have hC : c.clientPortMax.toNat + 1 - c.clientPortMin.toNat = c.clientPortNum.toNat := by omega
  have hI : c.serverIpMax.toNat + 1 - c.serverIpMin.toNat = c.serverIps.length := by omega
  rw [hC] at hmapc
  rw [hI] at hmapi
  have hlenc := congrArg List.length hmapc
  have hlenp := congrArg List.length hmapp
  have hleni := congrArg List.length hmapi
  rw [List.length_map, List.length_range'] at hlenc hlenp hleni
  have hrow : c.serverIpPortNum.toNat =
      (c.listenNum.toUInt32.toNat * c.serverIps.length) % 2 ^ 32 := by
    rw [serverIpPortNum, UInt32.toNat_mul, hS, Nat.mul_comm]
  refine ⟨fuel, _, hplaces, ?_, fun i => ?_⟩
  · rw [List.length_product, List.length_product, hlenc, hlenp, hleni, row, portTurns]
  · have hindex : ∀ cp sp sip, c.clientPortMin.toNat ≤ cp.toNat → c.serverPortMin.toNat ≤ sp.toNat →
        c.serverIpMin.toNat ≤ sip.toNat → c.index (cp, sp, sip) =
          ((cp.toNat - c.clientPortMin.toNat) *
            (c.listenNum.toUInt32.toNat * c.serverIps.length) +
            ((sp.toNat - c.serverPortMin.toNat) * c.serverIps.length +
              (sip.toNat - c.serverIpMin.toNat))) % 2 ^ 32 := by
      intro cp sp sip hcp hsp hsip
      rw [index, portIndex]
      dsimp only
      rw [UInt32.toNat_add, UInt32.toNat_add, UInt32.toNat_mul, UInt32.toNat_mul,
        UInt16.toNat_toUInt32, UInt16.toNat_toUInt32,
        UInt16.toNat_sub_of_le _ _ (UInt16.le_iff_toNat_le.mpr hcp),
        UInt16.toNat_sub_of_le _ _ (UInt16.le_iff_toNat_le.mpr hsp),
        UInt32.toNat_sub_of_le _ _ (UInt32.le_iff_toNat_le.mpr hsip), hrow, ← hS]
      simp only [Nat.mul_mod_mod, Nat.mod_add_mod, Nat.add_mod_mod, Nat.add_assoc]
    have hge : ∀ {α : Type} {f : α → ℕ} {l : List α} {lo k : ℕ}, l.map f = List.range' lo k →
        ∀ x ∈ l, lo ≤ f x := fun hl x hx =>
      (List.mem_range'_1.mp (hl ▸ List.mem_map_of_mem hx)).1
    constructor
    · rintro ⟨⟨cp, sp, sip⟩, hp, rfl⟩
      rw [List.mem_product, List.mem_product] at hp
      obtain ⟨hcp, hsp, hsip⟩ := hp
      have hcp' := hge hmapc cp hcp
      have hsp' := hge hmapp sp hsp
      have hsip' := hge hmapi sip hsip
      have hk := (range_iff hmapc _).mp ⟨cp, hcp, hcp', rfl⟩
      have hq := (range_iff hmapp _).mp ⟨sp, hsp, hsp', rfl⟩
      have hr := (range_iff hmapi _).mp ⟨sip, hsip, hsip', rfl⟩
      exact ⟨_, hk, _, add_lt_mul hr hq, hindex cp sp sip hcp' hsp' hsip'⟩
    · rintro ⟨k, hk, t, ht, rfl⟩
      have hpos : 0 < c.serverIps.length := by omega
      obtain ⟨cp, hcp, hcp', rfl⟩ := (range_iff hmapc k).mpr hk
      obtain ⟨sp, hsp, hsp', hq⟩ := (range_iff hmapp (t / c.serverIps.length)).mpr
        ((Nat.div_lt_iff_lt_mul hpos).mpr ht)
      obtain ⟨sip, hsip, hsip', hr⟩ := (range_iff hmapi (t % c.serverIps.length)).mpr
        (Nat.mod_lt t hpos)
      refine ⟨(cp, sp, sip), List.mem_product.mpr ⟨hcp, List.mem_product.mpr ⟨hsp, hsip⟩⟩, ?_⟩
      rw [hindex cp sp sip hcp' hsp' hsip', hq, hr, Nat.div_add_mod']

end TableConfig

/-- Size and loops agree if and only if the arithmetic says so. -/
lemma poolFits_iff_wrapFits (ws : WorkSpace) (seed : Seeds) (hc : c.Accepted) :
    PoolFits ws seed c ↔ c.WrapFits := by
  have htotal : c.configGetTotalSocketNum.toNat = c.clientIps.length * (c.clientPortNum.toNat *
      (c.listenNum.toUInt32.toNat * c.serverIps.length)) % 2 ^ 32 := by
    rw [hc.totalSocketNum_eq, hc.serverIps_length]
    exact UInt32.toNat_ofNat ..
  have hips := hc.clientIps_pos
  have hbound := c.configGetTotalSocketNum.toNat_lt
  constructor
  · rintro ⟨fuel, h⟩
    have hend : c.serverPortMax.toNat ≠ 65535 := by
      intro htop
      obtain ⟨t, ht, -⟩ := h fun _ => {}
      have hports : ∀ x : UInt16, x ≤ c.serverPortMax := fun x => by
        have hx := x.toNat_lt
        rw [UInt16.le_iff_toNat_le]
        omega
      obtain ⟨ps, hps, -⟩ := Option.map_eq_some_iff.mp ht
      rw [places] at hps
      obtain ⟨lc, -, hps⟩ := Option.bind_eq_some_iff.mp hps
      rw [countUp_none hports, Option.bind_none] at hps
      cases hps
    obtain ⟨fuel', ps, hps, hlen, hindex⟩ := hc.places_index hend
    have hrun : ∀ mem, (socketPortTableInit ws seed c ps c.clientIps { pool := mem }).next =
          c.configGetTotalSocketNum.toNat ∧
        ∀ k, c.configGetTotalSocketNum.toNat ≤ k →
          (socketPortTableInit ws seed c ps c.clientIps { pool := mem }).pool k = mem k := by
      intro mem
      obtain ⟨t, ht, hnext, hmem⟩ := h mem
      obtain ⟨ps', hps', rfl⟩ := Option.map_eq_some_iff.mp ht
      rw [places_unique hps hps']
      exact ⟨hnext, hmem⟩
    have hcount : c.clientIps.length * (c.clientPortNum.toNat * c.row) =
        c.configGetTotalSocketNum.toNat := by
      rw [← (hrun fun _ => {}).1, (socketPortTableInit_writes _ _).1, hlen, Nat.zero_add]
    refine ⟨hend, by omega, ?_, fun k hk t ht => ?_⟩
    · rw [Nat.ModEq, hcount, Nat.mod_eq_of_lt hbound, htotal]
    · -- the last port table is the one that reaches furthest
      obtain ⟨p, hp, hidx⟩ := (hindex _).mpr ⟨k, hk, t, ht, rfl⟩
      have hlt := keeps_iff.mp (fun mem => (hrun mem).2) (c.clientIps.length - 1) (by omega) p hp
      obtain ⟨m, hm⟩ : ∃ m, c.clientIps.length = m + 1 := ⟨_, (Nat.sub_add_cancel hips).symm⟩
      rw [hidx, hlen, ← hcount, hm, Nat.add_sub_cancel, Nat.succ_mul] at hlt
      omega
  · intro h
    obtain ⟨fuel, ps, hps, hlen, hindex⟩ := hc.places_index h.ends
    have hcount : c.configGetTotalSocketNum.toNat =
        c.clientIps.length * (c.clientPortNum.toNat * c.row) := by
      rw [htotal, ← h.count_eq, Nat.mod_eq_of_lt h.count_lt]
    refine ⟨fuel, fun mem => ⟨_, by rw [socketTableInitOn, hps, Option.map_some], ?_, ?_⟩⟩
    · rw [(socketPortTableInit_writes _ _).1, hlen, hcount, Nat.zero_add]
    · refine keeps_iff.mpr (fun j hj p hp => ?_) mem
      obtain ⟨k, hk, t, ht, hidx⟩ := (hindex _).mp ⟨p, hp, rfl⟩
      rw [hcount, hlen]
      exact add_lt_mul (hidx ▸ h.index k hk t ht) hj

/-- Without overflow of the last server port, only the number of tuples counts. -/
lemma TableConfig.Accepted.wrapFits_iff (hc : c.Accepted)
    (hov : c.listen.toInt + c.listenNum.toInt < 2 ^ 31) : c.WrapFits ↔ c.tupleNum < 2 ^ 32 := by
  obtain ⟨hpmin, hpnum, hpmax, hpos, hplt, hP⟩ := hc.serverPorts hov
  have hturns : c.portTurns = c.serverPortNum.toNat := by
    rw [TableConfig.portTurns]
    omega
  have hlisten : c.listenNum.toUInt32.toNat = c.serverPortNum.toNat := by
    rw [hP]
    exact UInt32.toNat_ofNat_of_lt' (by have := c.serverPortNum.toNat_lt; change _ < 2 ^ 32; omega)
  have htuples : c.tupleNum = (c.clientIps.length * (c.clientPortNum.toNat * c.row) : ℕ) := by
    rw [hc.tupleNum_eq hov, TableConfig.block, TableConfig.row, hturns, hc.serverIps_length]
  rw [htuples]
  constructor
  · intro h
    exact_mod_cast h.count_lt
  · intro h
    have hlt : c.clientIps.length * (c.clientPortNum.toNat * c.row) < 2 ^ 32 := by exact_mod_cast h
    have hle := Nat.le_mul_of_pos_left (c.clientPortNum.toNat * c.row) hc.clientIps_pos
    refine ⟨by omega, hlt, ?_, fun k hk t ht => ?_⟩
    · rw [hlisten, TableConfig.row, hturns]
    · rw [hlisten, ← hturns, ← TableConfig.row]
      have hidx := add_lt_mul ht hk
      rwa [Nat.mod_eq_of_lt (by omega)]

/-- **The size of the pool.** The size that `work_space_alloc` asks for is the number of sockets
that `socket_table_init` initialises, and nothing is written behind the pool: if the last server port
does not overflow, exactly for less than `2 ^ 32` tuples; else exactly where the wrapped numbers
happen to agree. -/
theorem poolFits_iff (ws : WorkSpace) (seed : Seeds) (c : TableConfig) (hc : c.Accepted) :
    PoolFits ws seed c ↔
      (c.listen.toInt + c.listenNum.toInt < 2 ^ 31 ∧ c.tupleNum < 2 ^ 32) ∨
      (2 ^ 31 ≤ c.listen.toInt + c.listenNum.toInt ∧ c.WrapFits) := by
  rw [poolFits_iff_wrapFits ws seed hc]
  by_cases hov : c.listen.toInt + c.listenNum.toInt < 2 ^ 31
  · rw [hc.wrapFits_iff hov]
    exact ⟨fun h => .inl ⟨hov, h⟩, fun h => h.elim And.right fun h' => by omega⟩
  · exact ⟨fun h => .inr ⟨not_lt.mp hov, h⟩, fun h => h.elim (fun h' => by omega) And.right⟩

/-- A server on one port has its sockets. -/
theorem poolFits_single : PoolFits (.single .single) (fun _ _ _ _ => 0) (.single 80 1) :=
  (poolFits_iff _ _ _ (TableConfig.single_accepted (by decide))).mpr
    (.inl ⟨by decide, by decide⟩)

/-- The client addresses 6.6.241.1 to 6.6.241.4. -/
def IpRange.four : IpRange where
  start := { pad := 0, ip := 0x0606F101 }
  list := [0x0606F101, 0x0606F102, 0x0606F103, 0x0606F104]
  valid := fun b => if b - 1 < 4 then 0x0606F101 + (b - 1) else 0

/-- A server with one address and the ports from 1 to 32768, for four clients with 32768 ports
each. -/
def TableConfig.fourClients : TableConfig :=
  { TableConfig.single 1 32768 with clientIpGroup := [.four], lportMax := 32768 }

lemma TableConfig.fourClients_accepted : TableConfig.fourClients.Accepted :=
  have hsingle := TableConfig.single_accepted (by decide)
  { clients := by
      intro r hr
      rw [List.mem_singleton.mp hr]
      exact ⟨{ pad := 0, ip := 0x0606F101 }, 4, [], rfl⟩
    some_client := List.cons_ne_nil _ _
    port := fun hs => by cases hs
    servers := hsingle.servers
    unique := by
      have hcheck : configCheckClientAddr false [.four] = true := by decide
      exact ⟨false, hcheck⟩
    listen := hsingle.listen
    lports := by
      have hcheck : configParseClientPortRange 1 32768 = true := by decide
      exact hcheck
    queue := hsingle.queue }

/-- There are `2 ^ 32` tuples, and the size of the pool is 0. -/
theorem poolFits_four_clients : TableConfig.fourClients.Accepted ∧
    TableConfig.fourClients.configGetTotalSocketNum = 0 ∧
    ∀ ws seed, ¬ PoolFits ws seed .fourClients := by
  have hc := TableConfig.fourClients_accepted
  refine ⟨hc, by decide, fun ws seed h => ?_⟩
  have hcount := (hc.wrapFits_iff (by decide)).mp ((poolFits_iff_wrapFits ws seed hc).mp h)
  exact absurd hcount (by decide)

end Dperf
