import Dperf.Lib.Loops
import Dperf.System
import Mathlib.Data.List.GetD
import Mathlib.Data.List.ProdSigma

/-!
The socket table of a worker, from its configuration: the checks of `config.c` that the table
rests on, and `socket_table_init` of `socket.c`.

* `configParseListen`, `ipRangeInit`, `ipRangeAdd`, `configCheckClientAddr`: the checks, in the
  32 bits of an `int`. `TableConfig.Accepted` collects them.
* `socketTableInit`: the loops over the client addresses, the ports and the server addresses.
  The pool is a function of the index, so that a write outside of it can be seen.
* `SlotsRight`: every configured 4-tuple owns exactly one socket, and the lookups find it.
  `socketTable_right_iff` says when.
-/

namespace Dperf

open Loops

/-! ### Address ranges -/

/-- `ipaddr_t`: the upper 96 bits, and the lower 32 that hold an IPv4 address. -/
structure IpAddr where
  pad : BitVec 96
  ip : UInt32
  deriving DecidableEq

/-- `ipaddr_last_byte`. -/
def IpAddr.lastByte (a : IpAddr) : UInt32 := a.ip &&& 0xff

/-- `struct ip_range`: `num` is the length of the list. -/
structure IpRange where
  start : IpAddr
  list : List UInt32
  valid : UInt32 → UInt32

/-- `ip_range_init` on a cleared range. -/
def ipRangeInit (start : IpAddr) (num : Int32) : Option IpRange :=
  let lastByte := start.lastByte
  -- the last byte cannot be 255, the address cannot be 0.0.0.0
  if start.ip = 0 ∨ num ≤ 0 ∨ 255 ≤ lastByte + num.toUInt32 - 1 then none
  else some {
    start := start
    list := (List.range num.toUInt32.toNat).map fun i => start.ip + UInt32.ofNat i
    valid := fun b => if b - lastByte < num.toUInt32 then start.ip + (b - lastByte) else 0 }

/-- `ip_range_add`. -/
def ipRangeAdd (r : IpRange) (addr : IpAddr) : Option IpRange :=
  if r.list.length = 0 ∨ 255 ≤ r.list.length then none
  -- the first 14 bytes
  else if r.start.pad ≠ addr.pad ∨ r.start.ip >>> 16 ≠ addr.ip >>> 16 then none
  else
    let last := addr.lastByte
    if last = 0 ∨ last = 255 then none
    else if r.valid last = 0 then
      some { r with list := r.list ++ [addr.ip], valid := Function.update r.valid last addr.ip }
    else none

/-- `config_parse_ip_range`, once the addresses are read. A server has no addresses in `rest`
(`split`). -/
def configParseIpRange (ip : IpAddr) (num : Int32) (rest : List IpAddr) : Option IpRange :=
  if ip.ip = 0 then none
  else
    rest.foldl (fun r addr => r.bind fun r =>
      if addr.ip = 0 then none
      else (ipRangeInit addr 1).bind fun _ => ipRangeAdd r addr) (ipRangeInit ip num)

/-! ### Checks -/

/-- The test of `config_parse_listen`, where the sum of two `int` may overflow. -/
def configParseListen (listen listenNum : Int32) : Bool :=
  decide (0 < listen ∧ 0 < listenNum ∧ listen + listenNum < 65535)

/-- The test of `config_parse_client_port_range`. -/
def configParseClientPortRange (lportMin lportMax : Int32) : Bool :=
  decide (0 < lportMin ∧ lportMin < 65536 ∧ 0 < lportMax ∧ lportMax < 65536 ∧
    lportMin ≤ lportMax)

/-- The loop of `config_check_client_addr` over the addresses: whether each meets a free entry
of `client_ip`. -/
def checkClientAddrs : (UInt16 → Bool) → List UInt32 → Bool
  | _, [] => true
  | clientIp, ip :: ips =>
      if clientIp ip.toUInt16 then false
      else checkClientAddrs (Function.update clientIp ip.toUInt16 true) ips

/-- `config_check_client_addr`. The array has one entry less than there are values; `tail` is
what stands behind it. -/
def configCheckClientAddr (tail : Bool) (clients : List IpRange) : Bool :=
  checkClientAddrs (fun low => low == 0xffff && tail) (clients.flatMap IpRange.list)

/-- What `socket_table_init` reads of the configuration, for one worker: its port has the
ranges `portClients` and `portServers`, `queueId` is its queue there. -/
structure TableConfig where
  server : Bool
  flowFdir : Bool
  queueId : ℕ
  clientIpGroup : List IpRange
  portClients : IpRange
  portServers : IpRange
  listen : Int32
  listenNum : Int32
  lportMin : Int32
  lportMax : Int32
  clientHop : Bool

namespace TableConfig

variable (c : TableConfig)

/-- The configuration has passed the checks of `config_parse`; `config_check_flow` sets
`FLOW_FDIR` only if the port has as many queues as server addresses. -/
structure Accepted : Prop where
  clients : ∀ r ∈ c.clientIpGroup, ∃ ip num rest, configParseIpRange ip num rest = some r
  some_client : c.clientIpGroup ≠ []
  port : c.server = false → c.portClients ∈ c.clientIpGroup
  servers : ∃ ip num, configParseIpRange ip num [] = some c.portServers
  unique : ∃ tail, configCheckClientAddr tail c.clientIpGroup = true
  listen : configParseListen c.listen c.listenNum = true
  lports : configParseClientPortRange c.lportMin c.lportMax = true
  queue : c.flowFdir = true → c.queueId < c.portServers.list.length

/-! ### The fields of the table -/

/-- The client addresses that get a port table. -/
def clientIps : List UInt32 :=
  if c.server then c.clientIpGroup.flatMap IpRange.list else c.portClients.list

/-- `ip_range_get`. -/
def serverIpGet (idx : ℕ) : UInt32 :=
  c.portServers.list.getD (idx % c.portServers.list.length) 0

def serverIpNum : UInt32 := if c.flowFdir then 1 else UInt32.ofNat c.portServers.list.length

def serverIpMin : UInt32 := if c.flowFdir then c.serverIpGet c.queueId else c.serverIpGet 0

def serverIpMax : UInt32 :=
  if c.flowFdir then c.serverIpGet c.queueId else c.serverIpGet 0 + c.serverIpNum - 1

def serverIpPortNum : UInt32 := c.serverIpNum * c.listenNum.toUInt32

def serverPortMin : UInt16 := c.listen.toUInt32.toUInt16

def serverPortMax : UInt16 := (c.listen + c.listenNum - 1).toUInt32.toUInt16

def serverPortNum : UInt16 := c.listenNum.toUInt32.toUInt16

def clientPortMin : UInt16 := c.lportMin.toUInt32.toUInt16

def clientPortMax : UInt16 := c.lportMax.toUInt32.toUInt16

def clientPortNum : UInt16 := (c.lportMax - c.lportMin + 1).toUInt32.toUInt16

/-- `config_client_ip_range_socket_num`, a product of `int`. -/
def configClientIpRangeSocketNum (r : IpRange) : UInt32 :=
  (Int32.ofNat r.list.length * c.listenNum * (c.lportMax - c.lportMin + 1)).toUInt32

/-- `config_get_total_socket_num`, the size of the pool. -/
def configGetTotalSocketNum : UInt32 :=
  let num :=
    if c.server then
      c.clientIpGroup.foldl (fun num r => num + c.configClientIpRangeSocketNum r) 0
    else c.configClientIpRangeSocketNum c.portClients
  if c.flowFdir then num else num * UInt32.ofNat c.portServers.list.length

/-- The index of `socket_port_table_get`. -/
def portIndex (clientPort serverPort : UInt16) (serverIp : UInt32) : UInt32 :=
  (clientPort - c.clientPortMin).toUInt32 * c.serverIpPortNum
    + (serverPort - c.serverPortMin).toUInt32 * c.serverIpNum + (serverIp - c.serverIpMin)

end TableConfig

/-! ### `socket_table_init` -/

/-- What the loops of `socket_table_init` write: the pool, `socket_pool.next`, `ht`. -/
structure Tables where
  pool : ℕ → Socket := fun _ => {}
  next : ℕ := 0
  ht : UInt16 → Option ℕ := fun _ => none

/-- What `rand_r` returned for the socket of a client address and port and a server address
and port. -/
abbrev Seeds := UInt32 → UInt16 → UInt32 → UInt16 → UInt32

/-- `socket_port_table_new`, the loops over the ports and the server addresses given by their
values: the sockets of one client address, from `next` on. -/
def socketPortTableNew (ws : WorkSpace) (seed : Seeds) (c : TableConfig)
    (places : List (UInt16 × UInt16 × UInt32)) (clientIp : UInt32) (t : Tables) : Tables :=
  { t with
    pool := places.foldl (fun pool p =>
      Function.update pool (t.next + (c.portIndex p.1 p.2.1 p.2.2).toNat)
        (socketInit ws clientIp p.1 p.2.2 p.2.1 (seed clientIp p.1 p.2.2 p.2.1))) t.pool
    next := t.next + places.length }

/-- `socket_port_table_init_ip_group` and `socket_port_table_init_ip_range`. -/
def socketPortTableInit (ws : WorkSpace) (seed : Seeds) (c : TableConfig)
    (places : List (UInt16 × UInt16 × UInt32)) (clientIps : List UInt32) (t : Tables) : Tables :=
  clientIps.foldl (fun t ip =>
    let pt := t.next
    let t := socketPortTableNew ws seed c places ip t
    { t with ht := Function.update t.ht ip.toUInt16 (some pt) }) t

/-- The loops over the client ports, an `int`, over the server ports and over the server
addresses. -/
def places (c : TableConfig) (fuel : ℕ) : Option (List (UInt16 × UInt16 × UInt32)) :=
  (countUp c.clientPortMax.toNat fuel c.clientPortMin.toNat).bind fun clientPorts =>
    (countUp c.serverPortMax fuel c.serverPortMin).bind fun serverPorts =>
      (countUp c.serverIpMax fuel c.serverIpMin).map fun serverIps =>
        (clientPorts.map Nat.toUInt16) ×ˢ serverPorts ×ˢ serverIps

/-- The places do not depend on the bound. -/
lemma places_unique {c : TableConfig} {fuel fuel' : ℕ} {ps ps' : List (UInt16 × UInt16 × UInt32)}
    (h : places c fuel = some ps) (h' : places c fuel' = some ps') : ps = ps' := by
  rw [places] at h h'
  obtain ⟨cs, hcs, h⟩ := Option.bind_eq_some_iff.mp h
  obtain ⟨cs', hcs', h'⟩ := Option.bind_eq_some_iff.mp h'
  obtain ⟨ss, hss, h⟩ := Option.bind_eq_some_iff.mp h
  obtain ⟨ss', hss', h'⟩ := Option.bind_eq_some_iff.mp h'
  obtain ⟨is, his, rfl⟩ := Option.map_eq_some_iff.mp h
  obtain ⟨is', his', rfl⟩ := Option.map_eq_some_iff.mp h'
  rw [countUp_unique hcs hcs', countUp_unique hss hss', countUp_unique his his']

/-- `socket_table_init`, with a bound on the turns of its loops. -/
def socketTableInit (ws : WorkSpace) (seed : Seeds) (c : TableConfig) (fuel : ℕ) : Option Tables :=
  (places c fuel).map fun ps => socketPortTableInit ws seed c ps c.clientIps {}

/-! ### What the checks say -/

/-- A positive `int` as an unsigned number. -/
lemma cast_toUInt32 {x : Int32} (h : 0 < x) : (x.toUInt32.toNat : ℤ) = x.toInt ∧ 0 < x.toInt := by
  have hpos : 0 < x.toInt := Int32.lt_iff_toInt_lt.mp h
  have hle : 0 ≤ x := Int32.le_iff_toInt_le.mpr (le_of_lt hpos)
  rw [Int32.toNat_toUInt32_of_le hle]
  exact ⟨Int32.cast_toNatClampNeg x hle, hpos⟩

/-- A positive `int` that fits in 16 bits, as a port. -/
lemma cast_toUInt16 {x : Int32} (h : 0 < x) (hlt : x.toInt < 65536) :
    (x.toUInt32.toUInt16.toNat : ℤ) = x.toInt := by
  have hcast := (cast_toUInt32 h).1
  rw [UInt32.toNat_toUInt16]
  omega

/-- A sum of positive `int` that does not overflow. -/
lemma toInt_add_of_lt {x y : Int32} (hx : 0 < x) (hy : 0 < y)
    (hlt : x.toInt + y.toInt < 2 ^ 31) : (x + y).toInt = x.toInt + y.toInt := by
  have hx' := (cast_toUInt32 hx).2
  have hy' := (cast_toUInt32 hy).2
  rw [Int32.toInt_add]
  exact Int.bmod_eq_of_le (by omega) (by omega)

lemma toNat_lastByte (a : IpAddr) : a.lastByte.toNat = a.ip.toNat % 256 := by
  rw [IpAddr.lastByte, UInt32.toNat_and]
  exact Nat.and_two_pow_sub_one_eq_mod _ 8

/-- The addresses of a range that ends below `2 ^ 32`. -/
lemma toNat_add_ofNat {a : UInt32} {i k : ℕ} (h : a.toNat + k < 2 ^ 32) (hi : i < k) :
    (a + UInt32.ofNat i).toNat = a.toNat + i := by
  have hof : (UInt32.ofNat i).toNat = i :=
    UInt32.toNat_ofNat_of_lt' (by change _ < 2 ^ 32; omega)
  rw [UInt32.toNat_add, hof]
  exact Nat.mod_eq_of_lt (by omega)

/-- A new range: its addresses follow each other, and the last one has a successor. -/
lemma ipRangeInit_some {start : IpAddr} {num : Int32} {r : IpRange}
    (h : ipRangeInit start num = some r) :
    ∃ k, 0 < k ∧ k ≤ 255 ∧ start.ip.toNat + k < 2 ^ 32 ∧
      r.list = ((List.range k).map fun i => start.ip + UInt32.ofNat i) ∧
      start.lastByte.toNat + k ≤ 255 ∧ ∀ b, r.valid b =
        if (b - start.lastByte).toNat < k then start.ip + (b - start.lastByte) else 0 := by
  rw [ipRangeInit] at h
  split_ifs at h with hbad
  rw [not_or, not_or] at hbad
  obtain ⟨-, hnum, hlast⟩ := hbad
  rw [Int32.not_le] at hnum
  obtain ⟨hcast, hpos⟩ := cast_toUInt32 hnum
  have hlt := num.toInt_lt
  have hl := toNat_lastByte start
  have hip : start.ip.toNat < 2 ^ 32 := start.ip.toNat_lt
  -- the sum of the test does not overflow
  have hsum :
      (start.lastByte + num.toUInt32).toNat = start.lastByte.toNat + num.toUInt32.toNat := by
    rw [UInt32.toNat_add]
    exact Nat.mod_eq_of_lt (by omega)
  have hone : (1 : UInt32) ≤ start.lastByte + num.toUInt32 := by
    rw [UInt32.le_iff_toNat_le, hsum]
    change 1 ≤ _
    omega
  rw [UInt32.le_iff_toNat_le, UInt32.toNat_sub_of_le _ _ hone, hsum] at hlast
  change ¬ 255 ≤ _ - 1 at hlast
  refine ⟨num.toUInt32.toNat, by omega, by omega, by omega, ?_, by omega, fun b => ?_⟩
  · rw [← Option.some.inj h]
  · rw [← Option.some.inj h]
    rfl

lemma ipRangeAdd_some {r r' : IpRange} {addr : IpAddr} (h : ipRangeAdd r addr = some r') :
    r'.list = r.list ++ [addr.ip] ∧ r'.list.length ≤ 255 := by
  rw [ipRangeAdd] at h
  dsimp only at h
  split_ifs at h with hlen
  rw [← Option.some.inj h]
  rw [not_or] at hlen
  refine ⟨rfl, ?_⟩
  rw [List.length_append, List.length_singleton]
  omega

/-- What holds of a new range and survives an address more holds of a range that is parsed. -/
lemma configParseIpRange_induct {P : IpRange → Prop} {ip : IpAddr} {num : Int32}
    {rest : List IpAddr} {r : IpRange} (h : configParseIpRange ip num rest = some r)
    (hinit : ∀ r, ip.ip ≠ 0 → ipRangeInit ip num = some r → P r)
    (hadd : ∀ r r' addr, P r → addr.ip ≠ 0 → ipRangeAdd r addr = some r' → P r') : P r := by
  rw [configParseIpRange] at h
  split_ifs at h with hip
  have hstep : ∀ (rest : List IpAddr) (r₀ : Option IpRange), (∀ r, r₀ = some r → P r) →
      ∀ r, rest.foldl (fun r addr => r.bind fun r =>
        if addr.ip = 0 then none
        else (ipRangeInit addr 1).bind fun _ => ipRangeAdd r addr) r₀ = some r → P r := by
    intro rest
    induction rest with
    | nil => exact fun r₀ h₀ => h₀
    | cons addr rest ih =>
        intro r₀ h₀
        rw [List.foldl_cons]
        refine ih _ fun r hr => ?_
        obtain ⟨r₁, hr₁, hr⟩ := Option.bind_eq_some_iff.mp hr
        split_ifs at hr with hzero
        obtain ⟨-, -, hr⟩ := Option.bind_eq_some_iff.mp hr
        exact hadd r₁ r addr (h₀ r₁ hr₁) hzero hr
  exact hstep rest _ (fun r₀ h₀ => hinit r₀ hip h₀) r h

/-- A range has an address, and its number fits in a byte. -/
lemma configParseIpRange_some {ip : IpAddr} {num : Int32} {rest : List IpAddr} {r : IpRange}
    (h : configParseIpRange ip num rest = some r) : 0 < r.list.length ∧ r.list.length ≤ 255 := by
  refine configParseIpRange_induct (P := fun r => 0 < r.list.length ∧ r.list.length ≤ 255) h
    (fun r₀ _ h₀ => ?_) fun r₀ r₁ addr _ _ hadd => ?_
  · obtain ⟨k, hk, hk', -, hlist, -⟩ := ipRangeInit_some h₀
    rw [hlist, List.length_map, List.length_range]
    exact ⟨hk, hk'⟩
  · obtain ⟨hlist, hlen⟩ := ipRangeAdd_some hadd
    refine ⟨?_, hlen⟩
    rw [hlist, List.length_append, List.length_singleton]
    omega

/-- No address of a range is 0.0.0.0. -/
lemma configParseIpRange_ne_zero {ip : IpAddr} {num : Int32} {rest : List IpAddr} {r : IpRange}
    (h : configParseIpRange ip num rest = some r) : ∀ a ∈ r.list, a ≠ 0 := by
  refine configParseIpRange_induct (P := fun r => ∀ a ∈ r.list, a ≠ 0) h
    (fun r₀ hip h₀ => ?_) fun r₀ r₁ addr ih hzero hadd => ?_
  · obtain ⟨k, hk, hk', hlt, hlist, -⟩ := ipRangeInit_some h₀
    rw [hlist]
    intro a ha hzero
    obtain ⟨i, hi, rfl⟩ := List.mem_map.mp ha
    have hik := List.mem_range.mp hi
    -- the sum does not wrap, and its first part is not 0
    have hsum := toNat_add_ofNat hlt hik
    rw [hzero, UInt32.toNat_zero] at hsum
    exact hip (UInt32.toNat_inj.mp (by rw [UInt32.toNat_zero]; omega))
  · rw [(ipRangeAdd_some hadd).1]
    intro a ha
    rcases List.mem_append.mp ha with ha | ha
    · exact ih a ha
    · rw [List.mem_singleton.mp ha]
      exact hzero

/-- Addresses that pass the check differ in their last two bytes. -/
lemma checkClientAddrs_nodup : ∀ {ips : List UInt32} {clientIp : UInt16 → Bool},
    checkClientAddrs clientIp ips = true →
      (ips.map UInt32.toUInt16).Nodup ∧ ∀ ip ∈ ips, clientIp ip.toUInt16 = false := by
  intro ips
  induction ips with
  | nil => exact fun _ => ⟨List.nodup_nil, fun ip hip => absurd hip List.not_mem_nil⟩
  | cons ip ips ih =>
      intro clientIp h
      rw [checkClientAddrs] at h
      split_ifs at h with hfree
      obtain ⟨hnd, hnew⟩ := ih h
      have hne : ∀ ip' ∈ ips, ip'.toUInt16 ≠ ip.toUInt16 := by
        intro ip' hip' heq
        have hfree' := hnew ip' hip'
        rw [heq, Function.update_self] at hfree'
        cases hfree'
      refine ⟨List.nodup_cons.mpr ⟨fun hmem => ?_, hnd⟩, fun ip' hip' => ?_⟩
      · obtain ⟨ip', hip', heq⟩ := List.mem_map.mp hmem
        exact hne ip' hip' heq
      · rcases List.mem_cons.mp hip' with rfl | hip'
        · exact Bool.eq_false_iff.mpr hfree
        · have hfree' := hnew ip' hip'
          rwa [Function.update_of_ne (hne ip' hip')] at hfree'

namespace TableConfig

variable {c : TableConfig}

/-! ### The geometry -/

/-- The server addresses of the worker. -/
def serverIps (c : TableConfig) : List UInt32 :=
  if c.flowFdir then [c.serverIpGet c.queueId] else c.portServers.list

/-- The number of tuples: client addresses, client ports, server ports, server addresses. -/
def tupleNum (c : TableConfig) : ℤ :=
  c.clientIps.length * (c.lportMax.toInt - c.lportMin.toInt + 1) * c.listenNum.toInt
    * c.serverIps.length

/-- The server ports are what the configuration says if the last one does not overflow. -/
lemma Accepted.serverPorts (h : c.Accepted) (hov : c.listen.toInt + c.listenNum.toInt < 2 ^ 31) :
    (c.serverPortMin.toNat : ℤ) = c.listen.toInt ∧
    (c.serverPortNum.toNat : ℤ) = c.listenNum.toInt ∧
    (c.serverPortMax.toNat : ℤ) = c.listen.toInt + c.listenNum.toInt - 1 ∧
    0 < c.listenNum.toInt ∧ c.serverPortMax.toNat < 65534 ∧
    c.listenNum.toUInt32 = UInt32.ofNat c.serverPortNum.toNat := by
  obtain ⟨hl, hn, hsum⟩ := of_decide_eq_true h.listen
  have hl' := (cast_toUInt32 hl).2
  have hn' := (cast_toUInt32 hn).2
  rw [Int32.lt_iff_toInt_lt, toInt_add_of_lt hl hn hov] at hsum
  change _ < (65535 : ℤ) at hsum
  have hmax : (c.listen + c.listenNum - 1).toInt = c.listen.toInt + c.listenNum.toInt - 1 := by
    rw [Int32.toInt_sub, toInt_add_of_lt hl hn hov]
    exact Int.bmod_eq_of_le (by change _ ≤ _ - (1 : ℤ); omega) (by change _ - (1 : ℤ) < _; omega)
  have hpos : 0 < c.listen + c.listenNum - 1 := by
    rw [Int32.lt_iff_toInt_lt, hmax]
    change (0 : ℤ) < _
    omega
  have hlast : (c.serverPortMax.toNat : ℤ) = c.listen.toInt + c.listenNum.toInt - 1 := by
    rw [serverPortMax, cast_toUInt16 hpos (by omega), hmax]
  have hnum : (c.serverPortNum.toNat : ℤ) = c.listenNum.toInt := cast_toUInt16 hn (by omega)
  refine ⟨cast_toUInt16 hl (by omega), hnum, hlast, hn', by omega, ?_⟩
  have hcast := (cast_toUInt32 hn).1
  rw [← hnum] at hcast
  rw [← Nat.cast_inj.mp hcast, UInt32.ofNat_toNat]

lemma Accepted.clientPorts (h : c.Accepted) :
    (c.clientPortMin.toNat : ℤ) = c.lportMin.toInt ∧
    (c.clientPortNum.toNat : ℤ) = c.lportMax.toInt - c.lportMin.toInt + 1 ∧
    (c.clientPortMax.toNat : ℤ) = c.lportMax.toInt ∧
    0 < c.lportMin.toInt ∧ c.lportMin.toInt ≤ c.lportMax.toInt ∧
    (c.lportMax - c.lportMin + 1).toUInt32 = UInt32.ofNat c.clientPortNum.toNat := by
  obtain ⟨hmin, hmin', hmax, hmax', hle⟩ := of_decide_eq_true h.lports
  have h1 := (cast_toUInt32 hmin).2
  rw [Int32.lt_iff_toInt_lt] at hmin' hmax'
  rw [Int32.le_iff_toInt_le] at hle
  change _ < (65536 : ℤ) at hmin' hmax'
  have hsub : (c.lportMax - c.lportMin).toInt = c.lportMax.toInt - c.lportMin.toInt := by
    rw [Int32.toInt_sub]
    exact Int.bmod_eq_of_le (by omega) (by omega)
  have hnum : (c.lportMax - c.lportMin + 1).toInt = c.lportMax.toInt - c.lportMin.toInt + 1 := by
    rw [Int32.toInt_add, hsub]
    exact Int.bmod_eq_of_le (by change _ ≤ _ + (1 : ℤ); omega) (by change _ + (1 : ℤ) < _; omega)
  have hpos : 0 < c.lportMax - c.lportMin + 1 := by
    rw [Int32.lt_iff_toInt_lt, hnum]
    change (0 : ℤ) < _
    omega
  have hcount : (c.clientPortNum.toNat : ℤ) = c.lportMax.toInt - c.lportMin.toInt + 1 := by
    rw [clientPortNum, cast_toUInt16 hpos (by omega), hnum]
  refine ⟨cast_toUInt16 hmin (by omega), hcount, cast_toUInt16 hmax (by omega), h1, hle, ?_⟩
  have hcast := (cast_toUInt32 hpos).1
  rw [hnum, ← hcount] at hcast
  rw [← Nat.cast_inj.mp hcast, UInt32.ofNat_toNat]

/-- The server addresses of the worker follow each other, and the last one has a successor. -/
lemma Accepted.serverIps_range (h : c.Accepted) :
    c.serverIps.map UInt32.toNat = List.range' c.serverIpMin.toNat c.serverIpNum.toNat ∧
    c.serverIpMax.toNat + 1 = c.serverIpMin.toNat + c.serverIpNum.toNat ∧
    c.serverIpMax.toNat + 1 < 2 ^ 32 ∧ 0 < c.serverIpNum.toNat := by
  obtain ⟨ip, num, hparse⟩ := h.servers
  rw [configParseIpRange] at hparse
  split_ifs at hparse
  obtain ⟨k, hk, hk', hlt, hlist, -⟩ := ipRangeInit_some hparse
  have hlen : c.portServers.list.length = k := by
    rw [hlist, List.length_map, List.length_range]
  have hof : ∀ i, i < k → (ip.ip + UInt32.ofNat i).toNat = ip.ip.toNat + i :=
    fun i hi => toNat_add_ofNat hlt hi
  have hget : ∀ i, i < k → (c.serverIpGet i).toNat = ip.ip.toNat + i := by
    intro i hi
    rw [serverIpGet, hlen, Nat.mod_eq_of_lt hi, hlist, List.getD_eq_getElem _ _ (by simpa using hi),
      List.getElem_map, List.getElem_range, hof i hi]
  by_cases hf : c.flowFdir = true
  · have hq := h.queue hf
    rw [hlen] at hq
    have hmin := hget _ hq
    rw [serverIps, serverIpMin, serverIpMax, serverIpNum, if_pos hf, if_pos hf, if_pos hf,
      if_pos hf]
    refine ⟨rfl, rfl, by omega, by decide⟩
  · have hnum : (UInt32.ofNat k).toNat = k :=
      UInt32.toNat_ofNat_of_lt' (by change _ < 2 ^ 32; omega)
    have hmin := hget 0 hk
    rw [serverIps, serverIpMin, serverIpMax, serverIpNum, if_neg hf, if_neg hf, if_neg hf,
      if_neg hf, hlen, hnum]
    have hadd : (c.serverIpGet 0 + UInt32.ofNat k).toNat = ip.ip.toNat + k := by
      rw [UInt32.toNat_add, hmin, hnum]
      exact Nat.mod_eq_of_lt (by omega)
    have hone : (1 : UInt32) ≤ c.serverIpGet 0 + UInt32.ofNat k := by
      rw [UInt32.le_iff_toNat_le, hadd]
      change 1 ≤ _
      omega
    have hmax : (c.serverIpGet 0 + UInt32.ofNat k - 1).toNat = ip.ip.toNat + k - 1 := by
      rw [UInt32.toNat_sub_of_le _ _ hone, hadd]
      rfl
    refine ⟨?_, by omega, by omega, hk⟩
    rw [hlist, List.map_map, hmin, List.range'_eq_map_range]
    refine List.map_congr_left fun i hi => ?_
    exact hof i (List.mem_range.mp hi)

/-- Client addresses of a group that is accepted have different low 16 bits. -/
lemma Accepted.clientIps_nodup (h : c.Accepted) : (c.clientIps.map UInt32.toUInt16).Nodup := by
  obtain ⟨tail, hcheck⟩ := h.unique
  have hnd := (checkClientAddrs_nodup hcheck).1
  rw [clientIps]
  split_ifs with hs
  · exact hnd
  · rw [List.map_flatMap, List.nodup_flatMap] at hnd
    exact hnd.1 _ (h.port (Bool.eq_false_iff.mpr hs))

lemma Accepted.clientIps_pos (h : c.Accepted) : 0 < c.clientIps.length := by
  have hrange : ∀ r ∈ c.clientIpGroup, 0 < r.list.length := by
    intro r hr
    obtain ⟨ip, num, rest, hparse⟩ := h.clients r hr
    exact (configParseIpRange_some hparse).1
  rw [clientIps]
  split_ifs with hs
  · obtain ⟨r, hr⟩ := List.exists_mem_of_ne_nil _ h.some_client
    obtain ⟨ip, hip⟩ := List.exists_mem_of_length_pos (hrange r hr)
    exact List.length_pos_of_mem (List.mem_flatMap.mpr ⟨r, hr, hip⟩)
  · exact hrange _ (h.port (Bool.eq_false_iff.mpr hs))

lemma Accepted.clientIps_ne_zero (h : c.Accepted) : ∀ ip ∈ c.clientIps, ip ≠ 0 := by
  have hrange : ∀ r ∈ c.clientIpGroup, ∀ ip ∈ r.list, ip ≠ 0 := by
    intro r hr
    obtain ⟨ip, num, rest, hparse⟩ := h.clients r hr
    exact configParseIpRange_ne_zero hparse
  rw [clientIps]
  split_ifs with hs
  · intro ip hip
    obtain ⟨r, hr, hmem⟩ := List.mem_flatMap.mp hip
    exact hrange r hr ip hmem
  · exact hrange _ (h.port (Bool.eq_false_iff.mpr hs))

/-- The size of a port table. -/
def block (c : TableConfig) : ℕ :=
  c.clientPortNum.toNat * (c.serverPortNum.toNat * c.serverIpNum.toNat)

lemma Accepted.block_pos (h : c.Accepted) (hov : c.listen.toInt + c.listenNum.toInt < 2 ^ 31) :
    0 < c.block := by
  obtain ⟨-, hsnum, -, hspos, -, -⟩ := h.serverPorts hov
  obtain ⟨-, hcnum, -, -, hle, -⟩ := h.clientPorts
  obtain ⟨-, -, -, hips⟩ := h.serverIps_range
  exact Nat.mul_pos (by omega) (Nat.mul_pos (by omega) hips)

/-- The tuples fill one port table for each client address. -/
lemma Accepted.tupleNum_eq (h : c.Accepted) (hov : c.listen.toInt + c.listenNum.toInt < 2 ^ 31) :
    c.tupleNum = (c.clientIps.length * c.block : ℕ) := by
  have hlen : c.serverIps.length = c.serverIpNum.toNat := by
    have hmap := congrArg List.length h.serverIps_range.1
    rwa [List.length_map, List.length_range'] at hmap
  rw [tupleNum, block, hlen, ← (h.serverPorts hov).2.1, ← h.clientPorts.2.1]
  push_cast
  ring

/-- The size of the pool is a product in 32 bits. -/
lemma Accepted.totalSocketNum_eq (h : c.Accepted) :
    c.configGetTotalSocketNum = UInt32.ofNat (c.clientIps.length *
      (c.clientPortNum.toNat * (c.listenNum.toUInt32.toNat * c.serverIpNum.toNat))) := by
  obtain ⟨-, -, -, -, -, hC⟩ := h.clientPorts
  have hrange : ∀ r : IpRange, c.configClientIpRangeSocketNum r =
      UInt32.ofNat (r.list.length * (c.listenNum.toUInt32.toNat * c.clientPortNum.toNat)) := by
    intro r
    rw [configClientIpRangeSocketNum, Int32.toUInt32_mul, Int32.toUInt32_mul, hC,
      UInt32.ofNat_mul, UInt32.ofNat_mul, ← UInt32.mul_assoc, UInt32.ofNat_toNat]
    rfl
  have hfold : ∀ (l : List IpRange) (num : UInt32),
      l.foldl (fun num r => num + c.configClientIpRangeSocketNum r) num = num +
        UInt32.ofNat ((l.flatMap IpRange.list).length
          * (c.listenNum.toUInt32.toNat * c.clientPortNum.toNat)) := by
    intro l
    induction l with
    | nil => exact fun num => by rw [List.flatMap_nil, List.length_nil, Nat.zero_mul]; grind
    | cons r l ih =>
        intro num
        rw [List.foldl_cons, ih, hrange, List.flatMap_cons, List.length_append, Nat.add_mul,
          UInt32.ofNat_add, UInt32.add_assoc]
  have hnum : (if c.server then
        c.clientIpGroup.foldl (fun num r => num + c.configClientIpRangeSocketNum r) 0
      else c.configClientIpRangeSocketNum c.portClients) = UInt32.ofNat
        (c.clientIps.length * (c.listenNum.toUInt32.toNat * c.clientPortNum.toNat)) := by
    rw [clientIps]
    split_ifs
    · rw [hfold, UInt32.zero_add]
    · exact hrange _
  have hsplit : c.clientIps.length *
        (c.clientPortNum.toNat * (c.listenNum.toUInt32.toNat * c.serverIpNum.toNat)) =
      c.clientIps.length * (c.listenNum.toUInt32.toNat * c.clientPortNum.toNat)
        * c.serverIpNum.toNat := by
    ring
  rw [hsplit, UInt32.ofNat_mul, UInt32.ofNat_toNat, configGetTotalSocketNum, hnum, serverIpNum]
  split_ifs
  · exact (UInt32.mul_one _).symm
  · rfl

/-- The pool has one socket for each tuple: the products and sums do not wrap. -/
lemma Accepted.totalSocketNum (h : c.Accepted)
    (hov : c.listen.toInt + c.listenNum.toInt < 2 ^ 31) (hcount : c.tupleNum < 2 ^ 32) :
    c.configGetTotalSocketNum.toNat = c.clientIps.length * c.block := by
  obtain ⟨-, -, -, -, -, hP⟩ := h.serverPorts hov
  have hlt := h.tupleNum_eq hov
  have hport : (UInt32.ofNat c.serverPortNum.toNat).toNat = c.serverPortNum.toNat :=
    UInt32.toNat_ofNat_of_lt' (by have := c.serverPortNum.toNat_lt; change _ < 2 ^ 32; omega)
  rw [h.totalSocketNum_eq, hP, hport, UInt32.toNat_ofNat_of_lt']
  · rfl
  · change c.clientIps.length * c.block < 2 ^ 32
    omega

/-- The fields of the table fit together. -/
structure Geometry (c : TableConfig) : Prop where
  serverIp : c.serverIpMax.toNat + 1 = c.serverIpMin.toNat + c.serverIpNum.toNat
  serverPort : c.serverPortMax.toNat + 1 = c.serverPortMin.toNat + c.serverPortNum.toNat
  clientPort : c.clientPortMax.toNat + 1 = c.clientPortMin.toNat + c.clientPortNum.toNat
  serverIpPort : c.serverIpPortNum.toNat = c.serverPortNum.toNat * c.serverIpNum.toNat
  skipZero : 0 < c.clientPortMin.toNat
  serverIp_lt : c.serverIpMax.toNat + 1 < 2 ^ 32
  serverPort_lt : c.serverPortMax.toNat + 1 < 2 ^ 16
  block_lt : c.clientPortNum.toNat * (c.serverPortNum.toNat * c.serverIpNum.toNat) < 2 ^ 32

/-- An accepted configuration with less than `2 ^ 32` tuples whose last server port does not
overflow has a table. -/
lemma Accepted.geometry (h : c.Accepted) (hov : c.listen.toInt + c.listenNum.toInt < 2 ^ 31)
    (hcount : c.tupleNum < 2 ^ 32) : c.Geometry := by
  obtain ⟨hpmin, hpnum, hpmax, -, hplt, hP⟩ := h.serverPorts hov
  obtain ⟨hcmin, hcnum, hcmax, hcpos, hcle, -⟩ := h.clientPorts
  obtain ⟨-, hip, hiplt, -⟩ := h.serverIps_range
  have hblock : c.block < 2 ^ 32 := by
    have htuples := h.tupleNum_eq hov
    have hle : 1 * c.block ≤ c.clientIps.length * c.block := Nat.mul_le_mul_right _ h.clientIps_pos
    omega
  have hC : 0 < c.clientPortNum.toNat := by omega
  have hrow : c.serverPortNum.toNat * c.serverIpNum.toNat < 2 ^ 32 := by
    have hle : 1 * (c.serverPortNum.toNat * c.serverIpNum.toNat) ≤ c.block :=
      Nat.mul_le_mul_right _ hC
    omega
  refine ⟨hip, by omega, by omega, ?_, by omega, hiplt, by omega, hblock⟩
  rw [serverIpPortNum, hP, UInt32.toNat_mul, UInt32.toNat_ofNat_of_lt'
    (by have := c.serverPortNum.toNat_lt; change _ < 2 ^ 32; omega), Nat.mul_comm]
  exact Nat.mod_eq_of_lt hrow

/-- The table of the configuration, over the port tables of `ht`. -/
def socketTable {n : ℕ} (g : c.Geometry) (hn : n < 2 ^ 32) (ht : UInt16 → Option ℕ)
    (hht : ∀ low base, ht low = some base → base + c.block ≤ n) : SocketTable n where
  serverIpNum := c.serverIpNum
  serverIpMin := c.serverIpMin
  serverIpMax := c.serverIpMax
  serverPortNum := c.serverPortNum
  serverPortMin := c.serverPortMin
  serverPortMax := c.serverPortMax
  clientPortNum := c.clientPortNum
  clientPortMin := c.clientPortMin
  clientPortMax := c.clientPortMax
  serverIpPortNum := c.serverIpPortNum
  clientHop := c.clientHop
  rss := false
  rssId := 0
  rssNum := 0
  ht := ht
  serverIp_eq := g.serverIp
  serverPort_eq := g.serverPort
  clientPort_eq := g.clientPort
  serverIpPort_eq := g.serverIpPort
  inPool := by
    intro low base h
    have hle := hht low base h
    rw [block, ← g.serverIpPort] at hle
    exact hle
  pool_lt := hn

/-- The range test of the lookup, on the fields of the configuration. -/
def InRange (c : TableConfig) (p : UInt16 × UInt16 × UInt32) : Prop :=
  p.1 ≠ 0 ∧ c.serverIpMin ≤ p.2.2 ∧ p.2.2 ≤ c.serverIpMax ∧
    c.clientPortMin ≤ p.1 ∧ p.1 ≤ c.clientPortMax ∧
    c.serverPortMin ≤ p.2.1 ∧ p.2.1 ≤ c.serverPortMax

/-- The index in a port table. -/
def index (c : TableConfig) (p : UInt16 × UInt16 × UInt32) : ℕ :=
  (c.portIndex p.1 p.2.1 p.2.2).toNat

/-- In range, the index is computed in mixed radix without wrapping. -/
lemma Geometry.index_eq (g : c.Geometry) {p : UInt16 × UInt16 × UInt32} (h : c.InRange p) :
    c.index p = (p.1.toNat - c.clientPortMin.toNat)
        * (c.serverPortNum.toNat * c.serverIpNum.toNat)
      + ((p.2.1.toNat - c.serverPortMin.toNat) * c.serverIpNum.toNat
        + (p.2.2.toNat - c.serverIpMin.toNat)) := by
  have hfree : ∀ low base, (fun _ : UInt16 => (none : Option ℕ)) low = some base →
      base + c.block ≤ 0 := fun low base h => by cases h
  have hblock : c.clientPortNum.toNat * c.serverIpPortNum.toNat < 2 ^ 32 := by
    rw [g.serverIpPort]
    exact g.block_lt
  have hidx : c.index p = (p.1.toNat - c.clientPortMin.toNat) * c.serverIpPortNum.toNat
      + (p.2.1.toNat - c.serverPortMin.toNat) * c.serverIpNum.toNat
      + (p.2.2.toNat - c.serverIpMin.toNat) :=
    ((socketTable g (by decide) _ hfree).toNat_index h hblock).1
  rw [hidx, g.serverIpPort, Nat.add_assoc]

/-- The loops over the ports and addresses run through the entries in range, in the order of
their indices. -/
structure Enumerates (c : TableConfig) (ps : List (UInt16 × UInt16 × UInt32)) : Prop where
  mem : ∀ p, p ∈ ps ↔ c.InRange p
  index : ps.map c.index = List.range c.block

/-- A loop over a counter that does not overflow meets the values in its range. -/
lemma mem_of_range {α : Type*} {f : α → ℕ} (hf : Function.Injective f) {l : List α} {lo hi : ℕ}
    (hl : l.map f = List.range' lo (hi + 1 - lo)) (x : α) : x ∈ l ↔ lo ≤ f x ∧ f x ≤ hi := by
  rw [← List.mem_map_of_injective hf, hl, List.mem_range'_1]
  omega

/-- The differences to the start of a range. -/
lemma map_sub_of_range {α : Type*} {f : α → ℕ} {l : List α} {lo k : ℕ}
    (hl : l.map f = List.range' lo k) : l.map (fun x => f x - lo) = List.range k := by
  have hmap : l.map (fun x => f x - lo) = (l.map f).map (· - lo) := by
    rw [List.map_map]
    rfl
  rw [hmap, hl, List.range'_eq_map_range, List.map_map]
  calc (List.range k).map ((· - lo) ∘ (lo + ·))
      = (List.range k).map id := List.map_congr_left fun i _ => Nat.add_sub_cancel_left ..
    _ = List.range k := List.map_id _

/-- The loops end if the last server port has a successor, and run through the ranges of ports
and addresses. -/
lemma places_ranges (hpl : c.serverPortMax.toNat + 1 < 2 ^ 16)
    (hil : c.serverIpMax.toNat + 1 < 2 ^ 32) :
    ∃ (fuel : ℕ) (lc lp : List UInt16) (li : List UInt32),
      places c fuel = some (lc ×ˢ lp ×ˢ li) ∧
      lc.map UInt16.toNat =
        List.range' c.clientPortMin.toNat (c.clientPortMax.toNat + 1 - c.clientPortMin.toNat) ∧
      lp.map UInt16.toNat =
        List.range' c.serverPortMin.toNat (c.serverPortMax.toNat + 1 - c.serverPortMin.toNat) ∧
      li.map UInt32.toNat =
        List.range' c.serverIpMin.toNat (c.serverIpMax.toNat + 1 - c.serverIpMin.toNat) := by
  have hcp := c.clientPortMax.toNat_lt
  have haddp : ∀ x : UInt16, x ≤ c.serverPortMax → (x + 1).toNat = x.toNat + 1 := by
    intro x hx
    rw [UInt16.le_iff_toNat_le] at hx
    rw [UInt16.toNat_add]
    exact Nat.mod_eq_of_lt (by change _ + 1 < _; omega)
  have haddi : ∀ x : UInt32, x ≤ c.serverIpMax → (x + 1).toNat = x.toNat + 1 := by
    intro x hx
    rw [UInt32.le_iff_toNat_le] at hx
    rw [UInt32.toNat_add]
    exact Nat.mod_eq_of_lt (by change _ + 1 < _; omega)
  have hlec : ∀ x, x ≤ c.clientPortMax.toNat ↔ id x ≤ id c.clientPortMax.toNat := fun x => Iff.rfl
  obtain ⟨lc, hlc, hmapc⟩ := countUp_eq hlec (fun x _ => rfl) (2 ^ 32) c.clientPortMin.toNat
    (by simp only [id]; omega)
  obtain ⟨lp, hlp, hmapp⟩ := countUp_eq (fun x => UInt16.le_iff_toNat_le) haddp (2 ^ 32)
    c.serverPortMin (by omega)
  obtain ⟨li, hli, hmapi⟩ := countUp_eq (fun x => UInt32.le_iff_toNat_le) haddi (2 ^ 32)
    c.serverIpMin (by omega)
  -- a client port of the loop fits in 16 bits
  have hback : (lc.map Nat.toUInt16).map UInt16.toNat = lc := by
    rw [List.map_map]
    calc lc.map (UInt16.toNat ∘ Nat.toUInt16) = lc.map id := by
          refine List.map_congr_left fun x hx => ?_
          have hx' := (mem_of_range (f := id) Function.injective_id hmapc x).mp hx
          exact UInt16.toNat_ofNat_of_lt' (by change x < 2 ^ 16; simp only [id] at hx'; omega)
      _ = lc := List.map_id _
  rw [List.map_id, ← hback] at hmapc
  simp only [id] at hmapc
  exact ⟨2 ^ 32, lc.map Nat.toUInt16, lp, li,
    by rw [places, hlc, Option.bind_some, hlp, Option.bind_some, hli, Option.map_some],
    hmapc, hmapp, hmapi⟩

/-- The loops end, and enumerate the entries in range. -/
lemma Geometry.places_some (g : c.Geometry) :
    ∃ fuel ps, places c fuel = some ps ∧ c.Enumerates ps := by
  obtain ⟨fuel, lc, lp, li, hplaces, hmapc, hmapp, hmapi⟩ :=
    places_ranges g.serverPort_lt g.serverIp_lt
  have hmem : ∀ p, p ∈ lc ×ˢ lp ×ˢ li ↔ c.InRange p := by
    rintro ⟨cp, sp, sip⟩
    have hzero : cp ≠ 0 ↔ cp.toNat ≠ 0 := not_congr UInt16.toNat_inj.symm
    rw [List.mem_product, List.mem_product, InRange,
      mem_of_range (f := UInt16.toNat) (fun x y => UInt16.toNat_inj.mp) hmapc,
      mem_of_range (fun x y => UInt16.toNat_inj.mp) hmapp,
      mem_of_range (fun x y => UInt32.toNat_inj.mp) hmapi]
    simp only [UInt16.le_iff_toNat_le, UInt32.le_iff_toNat_le, hzero]
    have hskip := g.skipZero
    omega
  refine ⟨fuel, lc ×ˢ lp ×ˢ li, hplaces, hmem, ?_⟩
  · have hnum : ∀ {hi lo k : ℕ}, hi + 1 = lo + k → hi + 1 - lo = k := fun h => by omega
    rw [hnum g.clientPort] at hmapc
    rw [hnum g.serverPort] at hmapp
    rw [hnum g.serverIp] at hmapi
    have hscale : ∀ {α : Type} {f : α → ℕ} {l : List α} {lo k m : ℕ}, l.map f = List.range' lo k →
        l.map (fun x => (f x - lo) * m) = (List.range k).map (· * m) := by
      intro α f l lo k m h
      rw [← map_sub_of_range h, List.map_map]
      rfl
    have hinner := map_product (hscale (m := c.serverIpNum.toNat) hmapp) (map_sub_of_range hmapi)
    have houter := map_product
      (hscale (m := c.serverPortNum.toNat * c.serverIpNum.toNat) hmapc) hinner
    rw [block, ← houter]
    exact List.map_congr_left fun p hp => g.index_eq ((hmem p).mp hp)

/-- An index below the size of a port table has an entry. -/
lemma Enumerates.exists_index {ps : List (UInt16 × UInt16 × UInt32)} (e : c.Enumerates ps) {r : ℕ}
    (hr : r < c.block) : ∃ p ∈ ps, c.index p = r := by
  have hmem : r ∈ ps.map c.index := by
    rw [e.index]
    exact List.mem_range.mpr hr
  exact List.mem_map.mp hmem

lemma Enumerates.index_lt {ps : List (UInt16 × UInt16 × UInt32)} (e : c.Enumerates ps)
    {p : UInt16 × UInt16 × UInt32} (hp : p ∈ ps) : c.index p < c.block := by
  have hmem := List.mem_map_of_mem (f := c.index) hp
  rw [e.index] at hmem
  exact List.mem_range.mp hmem

lemma Enumerates.length {ps : List (UInt16 × UInt16 × UInt32)} (e : c.Enumerates ps) :
    ps.length = c.block := by
  rw [← List.length_map (f := c.index), e.index, List.length_range]

end TableConfig

/-! ### The loops over the client addresses -/

section Fill

variable {ws : WorkSpace} {seed : Seeds} {c : TableConfig} {ps : List (UInt16 × UInt16 × UInt32)}

/-- The socket of an entry of the port table of a client address. -/
def portEntry (ws : WorkSpace) (seed : Seeds) (ip : UInt32) (p : UInt16 × UInt16 × UInt32) :
    Socket :=
  socketInit ws ip p.1 p.2.2 p.2.1 (seed ip p.1 p.2.2 p.2.1)

/-- The port tables of the addresses stand one after the other, and the rest of the pool is
untouched. -/
structure Filled (ws : WorkSpace) (seed : Seeds) (c : TableConfig)
    (ps : List (UInt16 × UInt16 × UInt32)) (ips : List UInt32) (t : Tables) : Prop where
  next : t.next = ips.length * c.block
  pool : ∀ j ip, ips[j]? = some ip → ∀ p ∈ ps,
    t.pool (j * c.block + c.index p) = portEntry ws seed ip p
  free : ∀ k, t.next ≤ k → t.pool k = {}
  ht : ∀ j ip, ips[j]? = some ip → t.ht ip.toUInt16 = some (j * c.block)
  other : ∀ low base, t.ht low = some base →
    ∃ j ip, ips[j]? = some ip ∧ ip.toUInt16 = low ∧ base = j * c.block

/-- The entries of a list with one more at its end. -/
lemma getElem?_concat_some {α : Type*} {l : List α} {a b : α} {j : ℕ}
    (h : (l ++ [a])[j]? = some b) : l[j]? = some b ∨ j = l.length ∧ b = a := by
  rcases lt_trichotomy j l.length with hj | hj | hj
  · rw [List.getElem?_append_left hj] at h
    exact .inl h
  · rw [hj, List.getElem?_concat_length] at h
    exact .inr ⟨hj, (Option.some.inj h).symm⟩
  · rw [List.getElem?_eq_none (by rw [List.length_append, List.length_singleton]; omega)] at h
    cases h

/-- A slot of the pool is an entry of the port table of a client address. -/
lemma TableConfig.Enumerates.exists_slot (e : c.Enumerates ps) {ips : List UInt32} {i : ℕ}
    (hi : i < ips.length * c.block) :
    ∃ j ip p, ips[j]? = some ip ∧ p ∈ ps ∧ i = j * c.block + c.index p := by
  have hblock : 0 < c.block := Nat.pos_of_ne_zero fun h0 => by rw [h0] at hi; omega
  obtain ⟨p, hp, hr⟩ := e.exists_index (Nat.mod_lt i hblock)
  have hdiv : i / c.block < ips.length := (Nat.div_lt_iff_lt_mul hblock).mpr hi
  refine ⟨i / c.block, _, p, List.getElem?_eq_getElem hdiv, hp, ?_⟩
  rw [hr, Nat.div_add_mod']

/-- An entry of an earlier port table lies before the next one. -/
lemma add_lt_mul {j r B k : ℕ} (hr : r < B) (hj : j < k) : j * B + r < k * B := by
  calc j * B + r < j * B + B := by omega
    _ = (j + 1) * B := (Nat.succ_mul j B).symm
    _ ≤ k * B := Nat.mul_le_mul_right B hj

/-- `socket_port_table_new` and the entry of `ht` for one more client address. -/
lemma Filled.concat {ips : List UInt32} {t : Tables} {ip : UInt32} (e : c.Enumerates ps)
    (h : Filled ws seed c ps ips t) (hnew : ip.toUInt16 ∉ ips.map UInt32.toUInt16) :
    Filled ws seed c ps (ips ++ [ip])
      { socketPortTableNew ws seed c ps ip t with
        ht := Function.update t.ht ip.toUInt16 (some t.next) } := by
  have hkeys : (ps.map fun p => t.next + c.index p).Nodup := by
    have hmap : ps.map (fun p => t.next + c.index p) = (ps.map c.index).map (t.next + ·) := by
      rw [List.map_map]
      rfl
    rw [hmap, e.index]
    exact List.Nodup.map (fun a b hab => Nat.add_left_cancel hab) List.nodup_range
  have hold : ∀ k, (∀ p ∈ ps, t.next + c.index p ≠ k) →
      (socketPortTableNew ws seed c ps ip t).pool k = t.pool k :=
    fun k hk => foldl_update_not_mem t.pool hk
  have hmem : ∀ p ∈ ps, (socketPortTableNew ws seed c ps ip t).pool (t.next + c.index p)
      = portEntry ws seed ip p := fun p hp => foldl_update_mem t.pool hkeys hp
  have hnext : t.next + ps.length = (ips ++ [ip]).length * c.block := by
    rw [h.next, e.length, List.length_append, List.length_singleton, Nat.succ_mul]
  constructor
  case next => exact hnext
  case pool =>
    intro j ip' hj p hp
    change (socketPortTableNew ws seed c ps ip t).pool _ = _
    rcases getElem?_concat_some hj with hj | ⟨rfl, rfl⟩
    · have hlt := add_lt_mul (e.index_lt hp) (List.getElem?_eq_some_iff.mp hj).1
      rw [hold _ fun p' _ => by rw [h.next]; omega]
      exact h.pool j ip' hj p hp
    · rw [← h.next]
      exact hmem p hp
  case free =>
    intro k hk
    change (socketPortTableNew ws seed c ps ip t).pool k = _
    change t.next + ps.length ≤ k at hk
    rw [hold k fun p hp => by have := e.index_lt hp; have := e.length; omega]
    exact h.free k (by omega)
  case ht =>
    intro j ip' hj
    change Function.update t.ht ip.toUInt16 (some t.next) ip'.toUInt16 = _
    rcases getElem?_concat_some hj with hj | ⟨rfl, rfl⟩
    · have hne : ip'.toUInt16 ≠ ip.toUInt16 := fun heq =>
        hnew (heq ▸ List.mem_map_of_mem (List.mem_of_getElem? hj))
      rw [Function.update_of_ne hne]
      exact h.ht j ip' hj
    · rw [Function.update_self, h.next]
  case other =>
    intro low base hlow
    change Function.update t.ht ip.toUInt16 (some t.next) low = some base at hlow
    by_cases heq : low = ip.toUInt16
    · rw [heq, Function.update_self] at hlow
      refine ⟨ips.length, ip, List.getElem?_concat_length, heq.symm, ?_⟩
      rw [← h.next, Option.some.inj hlow]
    · rw [Function.update_of_ne heq] at hlow
      obtain ⟨j, ip', hj, hip', hbase⟩ := h.other low base hlow
      refine ⟨j, ip', ?_, hip', hbase⟩
      rw [List.getElem?_append_left (List.getElem?_eq_some_iff.mp hj).1, hj]

/-- The loops over client addresses that differ in their low 16 bits. -/
lemma socketPortTableInit_filled (e : c.Enumerates ps) (ips : List UInt32)
    (hnd : (ips.map UInt32.toUInt16).Nodup) :
    Filled ws seed c ps ips (socketPortTableInit ws seed c ps ips {}) := by
  induction ips using List.reverseRecOn with
  | nil =>
      refine ⟨(Nat.zero_mul _).symm, fun j ip hj => ?_, fun k _ => rfl, fun j ip hj => ?_,
        fun low base hlow => ?_⟩
      · cases hj
      · cases hj
      · cases hlow
  | append_singleton ips ip ih =>
      rw [List.map_append, List.nodup_append] at hnd
      obtain ⟨hnd, -, hdisj⟩ := hnd
      rw [socketPortTableInit, List.foldl_concat]
      exact (ih hnd).concat e fun hmem => hdisj _ hmem _ List.mem_cons_self rfl

end Fill

/-! ### Tuples -/

/-- A 4-tuple. A port of the configuration need not fit in 16 bits. -/
@[ext] structure Tuple where
  clientIp : UInt32
  clientPort : ℤ
  serverIp : UInt32
  serverPort : ℤ

/-- The tuple of a socket. -/
def Socket.tuple (server : Bool) (sk : Socket) : Tuple :=
  if server then
    { clientIp := sk.faddr, clientPort := sk.fport.toNat
      serverIp := sk.laddr, serverPort := sk.lport.toNat }
  else
    { clientIp := sk.laddr, clientPort := sk.lport.toNat
      serverIp := sk.faddr, serverPort := sk.fport.toNat }

/-- The tuple of a packet that is received. -/
def Mbuf.tuple (server : Bool) (m : Mbuf) : Tuple :=
  if server then
    { clientIp := m.saddr, clientPort := m.th.sport.toNat
      serverIp := m.daddr, serverPort := m.th.dport.toNat }
  else
    { clientIp := m.daddr, clientPort := m.th.dport.toNat
      serverIp := m.saddr, serverPort := m.th.sport.toNat }

/-- A tuple of the configuration, with a server address of the worker. -/
structure TableConfig.Configured (c : TableConfig) (t : Tuple) : Prop where
  clientIp : t.clientIp ∈ c.clientIps
  clientPort : c.lportMin.toInt ≤ t.clientPort ∧ t.clientPort ≤ c.lportMax.toInt
  serverIp : t.serverIp ∈ c.serverIps
  serverPort : c.listen.toInt ≤ t.serverPort ∧ t.serverPort < c.listen.toInt + c.listenNum.toInt

/-- The tuple of an entry of a port table. -/
def tupleAt (ip : UInt32) (p : UInt16 × UInt16 × UInt32) : Tuple :=
  { clientIp := ip, clientPort := p.1.toNat, serverIp := p.2.2, serverPort := p.2.1.toNat }

lemma tupleAt_inj {ip ip' : UInt32} {p p' : UInt16 × UInt16 × UInt32}
    (h : tupleAt ip p = tupleAt ip' p') : ip = ip' ∧ p = p' := by
  rw [tupleAt, tupleAt, Tuple.mk.injEq] at h
  obtain ⟨hip, hcp, hsip, hsp⟩ := h
  refine ⟨hip, Prod.ext ?_ (Prod.ext ?_ hsip)⟩
  · exact UInt16.toNat_inj.mp (Nat.cast_inj.mp hcp)
  · exact UInt16.toNat_inj.mp (Nat.cast_inj.mp hsp)

lemma portEntry_tuple (ws : WorkSpace) (seed : Seeds) (ip : UInt32)
    (p : UInt16 × UInt16 × UInt32) :
    (portEntry ws seed ip p).tuple ws.cfg.server = tupleAt ip p := by
  rw [Socket.tuple, portEntry, socketInit, tupleAt]
  split_ifs <;> rfl

/-- The configured tuples are those of the entries of the port tables. -/
lemma TableConfig.Accepted.configured_iff {c : TableConfig} (h : c.Accepted)
    (hov : c.listen.toInt + c.listenNum.toInt < 2 ^ 31) (t : Tuple) :
    c.Configured t ↔ ∃ ip ∈ c.clientIps, ∃ p, c.InRange p ∧ t = tupleAt ip p := by
  obtain ⟨hpmin, hpnum, hpmax, -, hplt, -⟩ := h.serverPorts hov
  obtain ⟨hcmin, hcnum, hcmax, hcpos, -, -⟩ := h.clientPorts
  obtain ⟨hips, hip, -, -⟩ := h.serverIps_range
  have hmax := c.clientPortMax.toNat_lt
  have hmem : ∀ sip, sip ∈ c.serverIps ↔ c.serverIpMin ≤ sip ∧ sip ≤ c.serverIpMax := by
    intro sip
    have hnum : c.serverIpNum.toNat = c.serverIpMax.toNat + 1 - c.serverIpMin.toNat := by omega
    rw [hnum] at hips
    rw [UInt32.le_iff_toNat_le, UInt32.le_iff_toNat_le]
    exact TableConfig.mem_of_range (fun x y => UInt32.toNat_inj.mp) hips sip
  have hzero : ∀ x : UInt16, x ≠ 0 ↔ x.toNat ≠ 0 := fun x => not_congr UInt16.toNat_inj.symm
  constructor
  · intro ht
    have hcp := ht.clientPort
    have hsp := ht.serverPort
    have hcp' : (UInt16.ofNat t.clientPort.toNat).toNat = t.clientPort.toNat :=
      UInt16.toNat_ofNat_of_lt' (by change _ < 2 ^ 16; omega)
    have hsp' : (UInt16.ofNat t.serverPort.toNat).toNat = t.serverPort.toNat :=
      UInt16.toNat_ofNat_of_lt' (by change _ < 2 ^ 16; omega)
    obtain ⟨hsip, hsip'⟩ := (hmem _).mp ht.serverIp
    refine ⟨t.clientIp, ht.clientIp, (UInt16.ofNat t.clientPort.toNat,
      UInt16.ofNat t.serverPort.toNat, t.serverIp), ?_, ?_⟩
    · simp only [TableConfig.InRange, hzero, UInt16.le_iff_toNat_le, hcp', hsp']
      exact ⟨by omega, hsip, hsip', by omega, by omega, by omega, by omega⟩
    · rw [tupleAt]
      ext
      · rfl
      · change t.clientPort = ((UInt16.ofNat t.clientPort.toNat).toNat : ℤ)
        rw [hcp']
        omega
      · rfl
      · change t.serverPort = ((UInt16.ofNat t.serverPort.toNat).toNat : ℤ)
        rw [hsp']
        omega
  · rintro ⟨ip, hipmem, p, ⟨-, hsip, hsip', hcp, hcp', hsp, hsp'⟩, rfl⟩
    rw [UInt16.le_iff_toNat_le] at hcp hcp' hsp hsp'
    refine ⟨hipmem, ?_, (hmem _).mpr ⟨hsip, hsip'⟩, ?_⟩
    · change _ ≤ (p.1.toNat : ℤ) ∧ (p.1.toNat : ℤ) ≤ _
      omega
    · change _ ≤ (p.2.1.toNat : ℤ) ∧ (p.2.1.toNat : ℤ) < _
      omega

/-! ### Every tuple has its slot -/

/-- The address and the entry that a lookup reads from the packet. -/
def Mbuf.entry (server : Bool) (m : Mbuf) : UInt32 × UInt16 × UInt16 × UInt32 :=
  if server then (m.saddr, m.th.sport, m.th.dport, m.daddr)
  else (m.daddr, m.th.dport, m.th.sport, m.saddr)

lemma Mbuf.tuple_eq (server : Bool) (m : Mbuf) :
    m.tuple server = tupleAt (m.entry server).1 (m.entry server).2 := by
  rw [Mbuf.tuple, Mbuf.entry]
  split_ifs <;> rfl

lemma SocketTable.commonLookup_eq_some {n : ℕ} {st : SocketTable n} {cip sip : UInt32}
    {cp sp : UInt16} {i : Fin n} : st.commonLookup cip sip cp sp = some i ↔
      ∃ base, st.ht cip.toUInt16 = some base ∧ st.inRange cp sp sip ∧
        i.val = st.portTableGet base cp sp sip := by
  rw [SocketTable.commonLookup]
  split
  · rename_i hb
    simp only [hb, reduceCtorEq, false_and, exists_const]
  · rename_i base hb
    split_ifs with hr
    · simp only [hb, Option.some.injEq, hr, true_and, exists_eq_left', Fin.ext_iff]
      exact eq_comm
    · simp only [hr, false_and, and_false, exists_const]

/-- A lookup finds the entry of the packet, if its addresses are the packet's. -/
lemma socketLookup_eq_some {n : ℕ} {ws : WorkSpace} {server : Bool} (hs : ws.cfg.server = server)
    {st : SocketTable n} {pool : Fin n → Socket} {m : Mbuf} {i : Fin n} :
    socketLookup st ws pool m = some i ↔
      st.commonLookup (m.entry server).1 (m.entry server).2.2.2 (m.entry server).2.1
        (m.entry server).2.2.1 = some i ∧
      ((pool i).tuple server).clientIp = (m.entry server).1 ∧
      ((pool i).tuple server).serverIp = (m.entry server).2.2.2 := by
  rw [socketLookup, hs]
  cases server with
  | true =>
      rw [if_pos rfl, socketServerLookup, Option.filter_eq_some_iff, decide_eq_true_iff]
      exact and_congr_right fun _ => and_comm
  | false =>
      rw [if_neg Bool.false_ne_true, socketClientLookup, Option.filter_eq_some_iff,
        decide_eq_true_iff]
      exact Iff.rfl

/-- `t` and `st` are what `socket_table_init` leaves behind, in a pool of `n` sockets. -/
def TableConfig.Describes {n : ℕ} (c : TableConfig) (t : Tables) (st : SocketTable n) : Prop :=
  ∃ g hn hht, st = c.socketTable g hn t.ht hht

/-- Every tuple of the configuration has one slot, the slots are in the pool, and the lookups
find the slots of these tuples and no others. -/
structure TablesRight {n : ℕ} (ws : WorkSpace) (c : TableConfig) (t : Tables) (st : SocketTable n) :
    Prop where
  owner : ∀ τ, c.Configured τ → ∃! i : Fin n, (t.pool i).tuple c.server = τ
  inPool : ∀ k, n ≤ k → t.pool k = {}
  found : ∀ m, (socketLookup st ws (fun i => t.pool i) m).isSome ↔ c.Configured (m.tuple c.server)
  slot : ∀ m i, socketLookup st ws (fun i => t.pool i) m = some i →
    (t.pool i).tuple c.server = m.tuple c.server

/-- `socket_table_init` ends, and what it leaves behind is right. -/
def SlotsRight (ws : WorkSpace) (seed : Seeds) (c : TableConfig) : Prop :=
  ∃ fuel t, socketTableInit ws seed c fuel = some t ∧
    ∃ st : SocketTable c.configGetTotalSocketNum.toNat, c.Describes t st ∧ TablesRight ws c t st

section Right

variable {n : ℕ} {ws : WorkSpace} {seed : Seeds} {c : TableConfig}
  {ps : List (UInt16 × UInt16 × UInt32)} {t : Tables}

/-- A lookup in the tables that the loops have filled. -/
lemma Filled.lookup (e : c.Enumerates ps) (h : Filled ws seed c ps c.clientIps t)
    (hs : ws.cfg.server = c.server) {g : c.Geometry} {hn : n < 2 ^ 32}
    {hht : ∀ low base, t.ht low = some base → base + c.block ≤ n} {m : Mbuf} {i : Fin n} :
    socketLookup (c.socketTable g hn t.ht hht) ws (fun i => t.pool i) m = some i ↔
      ∃ j, c.clientIps[j]? = some (m.entry c.server).1 ∧ c.InRange (m.entry c.server).2 ∧
        i.val = j * c.block + c.index (m.entry c.server).2 := by
  rw [socketLookup_eq_some hs, SocketTable.commonLookup_eq_some]
  constructor
  · rintro ⟨⟨base, hbase, hr, hi⟩, hip, -⟩
    obtain ⟨j, ip, hj, -, rfl⟩ := h.other _ _ hbase
    have hidx : i.val = j * c.block + c.index (m.entry c.server).2 := hi
    have hpool : t.pool i = portEntry ws seed ip (m.entry c.server).2 := by
      rw [hidx]
      exact h.pool j ip hj _ ((e.mem _).mpr hr)
    rw [hpool, ← hs, portEntry_tuple, hs] at hip
    exact ⟨j, hip ▸ hj, hr, hidx⟩
  · rintro ⟨j, hj, hr, hi⟩
    have hpool : t.pool i = portEntry ws seed (m.entry c.server).1 (m.entry c.server).2 := by
      rw [hi]
      exact h.pool j _ hj _ ((e.mem _).mpr hr)
    have htuple :
        (t.pool i).tuple c.server = tupleAt (m.entry c.server).1 (m.entry c.server).2 := by
      rw [hpool, ← hs, portEntry_tuple]
    refine ⟨⟨_, h.ht j _ hj, hr, hi⟩, ?_, ?_⟩
    · rw [htuple, tupleAt]
    · rw [htuple, tupleAt]

/-- The pool is one that a worker can start from. -/
lemma Filled.socketNew (e : c.Enumerates ps) (h : Filled ws seed c ps c.clientIps t)
    (hseed : ∀ ip cp sip sp, seed ip cp sip sp < 0x80000000) {i : ℕ}
    (hi : i < c.clientIps.length * c.block) : SocketNew ws (t.pool i) := by
  obtain ⟨j, ip, p, hj, hp, rfl⟩ := e.exists_slot hi
  rw [h.pool j ip hj p hp]
  exact ⟨ip, p.1, p.2.2, p.2.1, _, hseed .., rfl⟩

/-- Where the last server port does not overflow, the tables are right. -/
lemma Filled.right (e : c.Enumerates ps) (h : Filled ws seed c ps c.clientIps t)
    (hs : ws.cfg.server = c.server) (hc : c.Accepted)
    (hov : c.listen.toInt + c.listenNum.toInt < 2 ^ 31) (hsize : n = c.clientIps.length * c.block)
    {g : c.Geometry} {hn : n < 2 ^ 32}
    {hht : ∀ low base, t.ht low = some base → base + c.block ≤ n} :
    TablesRight ws c t (c.socketTable g hn t.ht hht) := by
  have hpool : ∀ {j ip p}, c.clientIps[j]? = some ip → p ∈ ps →
      (t.pool (j * c.block + c.index p)).tuple c.server = tupleAt ip p := by
    intro j ip p hj hp
    rw [h.pool j ip hj p hp, ← hs, portEntry_tuple]
  have hlt : ∀ {j ip p}, c.clientIps[j]? = some ip → p ∈ ps → j * c.block + c.index p < n := by
    intro j ip p hj hp
    rw [hsize]
    exact add_lt_mul (e.index_lt hp) (List.getElem?_eq_some_iff.mp hj).1
  constructor
  case owner =>
    intro τ hτ
    obtain ⟨ip, hip, p, hp, rfl⟩ := (hc.configured_iff hov τ).mp hτ
    obtain ⟨j, hj⟩ := List.mem_iff_getElem?.mp hip
    refine ⟨⟨j * c.block + c.index p, hlt hj ((e.mem p).mpr hp)⟩, hpool hj ((e.mem p).mpr hp), ?_⟩
    intro i hi
    -- the slot has a client address and an entry, and these are the tuple's
    have hival : i.val < c.clientIps.length * c.block := lt_of_lt_of_eq i.isLt hsize
    obtain ⟨j', ip', p', hj', hp', hi'⟩ := e.exists_slot hival
    rw [hi', hpool hj' hp'] at hi
    obtain ⟨rfl, rfl⟩ := tupleAt_inj hi
    have hnd := List.Nodup.of_map _ hc.clientIps_nodup
    have hjj : j' = j :=
      (List.getElem?_inj (List.getElem?_eq_some_iff.mp hj').1 hnd).mp (hj'.trans hj.symm)
    exact Fin.ext (hjj ▸ hi')
  case inPool =>
    intro k hk
    exact h.free k (by rw [h.next, ← hsize]; exact hk)
  case found =>
    intro m
    rw [Option.isSome_iff_exists, hc.configured_iff hov, Mbuf.tuple_eq]
    constructor
    · rintro ⟨i, hi⟩
      obtain ⟨j, hj, hr, -⟩ := (h.lookup e hs).mp hi
      exact ⟨_, List.mem_of_getElem? hj, _, hr, rfl⟩
    · rintro ⟨ip, hip, p, hp, heq⟩
      obtain ⟨rfl, rfl⟩ := tupleAt_inj heq
      obtain ⟨j, hj⟩ := List.mem_iff_getElem?.mp hip
      exact ⟨⟨_, hlt hj ((e.mem _).mpr hp)⟩, (h.lookup e hs).mpr ⟨j, hj, hp, rfl⟩⟩
  case slot =>
    intro m i hi
    obtain ⟨j, hj, hr, hidx⟩ := (h.lookup e hs).mp hi
    rw [hidx, hpool hj ((e.mem _).mpr hr), Mbuf.tuple_eq]

/-- A port from `2 ^ 16` on is the port of no socket. -/
lemma Socket.tuple_serverPort_lt (server : Bool) (sk : Socket) :
    (sk.tuple server).serverPort < 2 ^ 16 := by
  have hl := sk.lport.toNat_lt
  have hf := sk.fport.toNat_lt
  rw [Socket.tuple]
  split_ifs
  · change (sk.lport.toNat : ℤ) < _
    omega
  · change (sk.fport.toNat : ℤ) < _
    omega

/-- For an accepted configuration with less than `2 ^ 32` tuples whose last server port does not
overflow, the loops end and fill the pool. -/
lemma TableConfig.Accepted.tables (hc : c.Accepted) (ws : WorkSpace) (seed : Seeds)
    (hov : c.listen.toInt + c.listenNum.toInt < 2 ^ 31) (hcount : c.tupleNum < 2 ^ 32) :
    ∃ fuel ps, places c fuel = some ps ∧ c.Enumerates ps ∧
      Filled ws seed c ps c.clientIps (socketPortTableInit ws seed c ps c.clientIps {}) ∧
      ∃ st : SocketTable c.configGetTotalSocketNum.toNat,
        c.Describes (socketPortTableInit ws seed c ps c.clientIps {}) st := by
  have g := hc.geometry hov hcount
  obtain ⟨fuel, ps, hps, e⟩ := g.places_some
  have hfill : Filled ws seed c ps c.clientIps _ :=
    socketPortTableInit_filled e c.clientIps hc.clientIps_nodup
  have hht : ∀ low base, (socketPortTableInit ws seed c ps c.clientIps {}).ht low = some base →
      base + c.block ≤ c.configGetTotalSocketNum.toNat := by
    intro low base hlow
    obtain ⟨j, ip, hj, -, rfl⟩ := hfill.other low base hlow
    rw [hc.totalSocketNum hov hcount, ← Nat.succ_mul]
    exact Nat.mul_le_mul_right _ (List.getElem?_eq_some_iff.mp hj).1
  exact ⟨fuel, ps, hps, e, hfill, _, g, c.configGetTotalSocketNum.toNat_lt, hht, rfl⟩

/-- For an accepted configuration with less than `2 ^ 32` tuples, `socket_table_init` ends and
gives every tuple its slot exactly if `listen` and `listen_num` have a sum in the range of an
`int`. Else the check of `config_parse_listen` compares a sum that wrapped, and the last server
port is not one. -/
theorem socketTable_right_iff (ws : WorkSpace) (seed : Seeds) (c : TableConfig)
    (hs : ws.cfg.server = c.server) (hc : c.Accepted) (hcount : c.tupleNum < 2 ^ 32) :
    SlotsRight ws seed c ↔ c.listen.toInt + c.listenNum.toInt < 2 ^ 31 := by
  constructor
  · rintro ⟨fuel, t, -, st, -, hright⟩
    by_contra hov
    obtain ⟨-, hn, -⟩ := of_decide_eq_true hc.listen
    have hnpos := (cast_toUInt32 hn).2
    obtain ⟨-, -, -, -, hle, -⟩ := hc.clientPorts
    obtain ⟨ip, hip⟩ := List.exists_mem_of_length_pos hc.clientIps_pos
    obtain ⟨hips, -, -, hpos⟩ := hc.serverIps_range
    have hsip : 0 < c.serverIps.length := by
      have hlen := congrArg List.length hips
      rw [List.length_map, List.length_range'] at hlen
      omega
    obtain ⟨sip, hsip⟩ := List.exists_mem_of_length_pos hsip
    have hlast : c.Configured
        { clientIp := ip, clientPort := c.lportMin.toInt, serverIp := sip,
          serverPort := c.listen.toInt + c.listenNum.toInt - 1 } :=
      ⟨hip, ⟨le_refl _, hle⟩, hsip, by constructor <;> (dsimp only; omega)⟩
    obtain ⟨i, hi, -⟩ := hright.owner _ hlast
    have hlt := Socket.tuple_serverPort_lt c.server (t.pool i)
    rw [hi] at hlt
    dsimp only at hlt
    omega
  · intro hov
    have hsize := hc.totalSocketNum hov hcount
    obtain ⟨fuel, ps, hps, e, hfill, st, g, hn, hht, rfl⟩ := hc.tables ws seed hov hcount
    exact ⟨fuel, _, by rw [socketTableInit, hps, Option.map_some], _, ⟨g, hn, hht, rfl⟩,
      hfill.right e hs hc hov hsize⟩

end Right

/-- A range of one address. -/
def IpRange.single (ip : UInt32) : IpRange where
  start := { pad := 0, ip := ip }
  list := [ip + 0]
  valid := fun b => if b - (ip &&& 0xff) < 1 then ip + (b - (ip &&& 0xff)) else 0

/-- A server with one address, for the ports of one client. -/
def TableConfig.single (listen listenNum : Int32) : TableConfig where
  server := true
  flowFdir := false
  queueId := 0
  clientIpGroup := [.single 0x0606F101]
  portClients := .single 0x0606F101
  portServers := .single 0x0606F201
  listen := listen
  listenNum := listenNum
  lportMin := 1
  lportMax := 65535
  clientHop := false

lemma TableConfig.single_accepted {listen listenNum : Int32}
    (h : configParseListen listen listenNum = true) :
    (TableConfig.single listen listenNum).Accepted where
  clients := by
    intro r hr
    rw [List.mem_singleton.mp hr]
    exact ⟨{ pad := 0, ip := 0x0606F101 }, 1, [], rfl⟩
  some_client := List.cons_ne_nil _ _
  port := fun hs => by cases hs
  servers := ⟨{ pad := 0, ip := 0x0606F201 }, 1, rfl⟩
  unique := by
    have hcheck : configCheckClientAddr false [.single 0x0606F101] = true := by decide
    exact ⟨false, hcheck⟩
  listen := h
  lports := by
    have hcheck : configParseClientPortRange 1 65535 = true := by decide
    exact hcheck
  queue := fun hf => by cases hf

/-- The default port of a server. -/
theorem socketTable_right_single :
    SlotsRight (.single (.singleServer true)) (fun _ _ _ _ => 0) (.single 80 1) :=
  (socketTable_right_iff _ _ _ rfl (TableConfig.single_accepted (by decide)) (by decide)).mpr
    (by decide)

/-- `listen 2147483647 1` is accepted, the last server port is 65535, and the loop over the
server ports does not end. -/
theorem socketTable_listen_overflow : ∃ c : TableConfig, c.Accepted ∧ c.tupleNum < 2 ^ 32 ∧
    c.server = true ∧ ∀ ws seed, (∀ fuel, socketTableInit ws seed c fuel = none) ∧
      ¬ SlotsRight ws seed c := by
  refine ⟨.single 2147483647 1, TableConfig.single_accepted (by decide), by decide, rfl,
    fun ws seed => ?_⟩
  have hnone : ∀ fuel, socketTableInit ws seed (.single 2147483647 1) fuel = none := by
    intro fuel
    have hports : ∀ x : UInt16, x ≤ (TableConfig.single 2147483647 1).serverPortMax := by
      intro x
      have hx := x.toNat_lt
      rw [UInt16.le_iff_toNat_le]
      change x.toNat ≤ 65535
      omega
    have hplaces : places (.single 2147483647 1) fuel = none := by
      rw [places]
      cases countUp (TableConfig.single 2147483647 1).clientPortMax.toNat fuel
          (TableConfig.single 2147483647 1).clientPortMin.toNat with
      | none => rfl
      | some l => rw [Option.bind_some, countUp_none hports, Option.bind_none]
    rw [socketTableInit, hplaces, Option.map_none]
  refine ⟨hnone, ?_⟩
  rintro ⟨fuel, t, ht, -⟩
  rw [hnone] at ht
  cases ht

end Dperf
