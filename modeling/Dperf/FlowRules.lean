import Dperf.AddressRanges

/-!
The workers of a port, and how its packets are spread over them: the checks of `config.c` on ports
and server addresses, `config_port_get`, and the rules of `flow.c`.

* `configParsePorts`: the part of `config_parse` that gives the ports their queues and addresses,
  and decides on `cfg->flow`. `PortsChecked` is what it makes sure of.
* `flowInit`: the rules of a port. A rule takes the packets with one server address
  (`matches_flowNew`), or one `vtep_local`.
* `receivedOn_vxlan_iff`: under `vxlan` each queue has what is sent to its `vtep_local`.
* `FlowConfig.table`: what `socket_table_init` reads for a worker.
* `flow_steers`: under `FLOW_FDIR` a packet is received on the queue of the worker whose table has
  its socket, and no other worker has one.
-/

namespace Dperf

/-! ### Addresses -/

/-- `ipaddr_join`. -/
def ipaddrJoin (addr : IpAddr) (last : UInt32) : IpAddr := { addr with ip := last }

/-- `ip_range_get`, where the index is a `uint8_t`. -/
def ipRangeGet (r : IpRange) (idx : ℕ) : UInt32 := r.list.getD (idx % 256 % r.list.length) 0

/-- `ip_range_get2`. -/
def ipRangeGet2 (r : IpRange) (idx : ℕ) : IpAddr := ipaddrJoin r.start (ipRangeGet r idx)

/-- A range that no keyword has set. -/
def IpRange.unset : IpRange := ⟨⟨0, 0⟩, [], fun _ => 0⟩

/-! ### The configuration of the ports -/

/-- `cfg->flow`. -/
inductive Flow where
  | none | fdir | rss
  deriving DecidableEq

/-- `struct netif_port`: the queues, and the addresses of the port. -/
structure NetifPort where
  queueNum : ℕ
  clientIpRange : IpRange
  serverIpRange : IpRange
  vtepLocal : IpRange

/-- The fields of `struct config` that the workers and their ports rest on. `vxlans` has
`vtep_local`, and the `num` of `vtep_remote`. -/
structure FlowConfig where
  server : Bool
  ipv6 : Bool
  flood : Bool
  flow : Flow
  flowIsolate : Bool
  vxlan : Bool
  vxlans : List (IpRange × ℕ)
  cpuNum : ℕ
  ports : List NetifPort
  clientIpGroup : List IpRange
  serverIpGroup : List IpRange
  listen : Int32
  listenNum : Int32
  lportMin : Int32
  lportMax : Int32
  clientHop : Bool

/-- `config_ip_range_overlap`. -/
def configIpRangeOverlap (r₀ r₁ : IpRange) : Bool :=
  (List.range r₀.list.length).any fun i => (List.range r₁.list.length).any fun j =>
    ipRangeGet2 r₀ i == ipRangeGet2 r₁ j

/-- `config_check_server_addr`. -/
def configCheckServerAddr (cfg : FlowConfig) : Option FlowConfig :=
  let num := cfg.serverIpGroup.length
  if (List.range num).any fun i => (List.range num).any fun j => i != j &&
      configIpRangeOverlap (cfg.serverIpGroup.getD i .unset) (cfg.serverIpGroup.getD j .unset)
  then none else some cfg

/-- `config_port_queue_num`. -/
def configPortQueueNum (cfg : FlowConfig) : ℕ := cfg.cpuNum / cfg.ports.length

/-- `config_check_port`, without the names of the devices. -/
def configCheckPort (cfg : FlowConfig) : Option FlowConfig :=
  if cfg.cpuNum = 0 then none
  else if cfg.ports.length = 0 then none
  else if cfg.cpuNum % cfg.ports.length ≠ 0 then none
  else some { cfg with
    ports := cfg.ports.map fun p => { p with queueNum := configPortQueueNum cfg } }

/-- `config_check_vxlan`. -/
def configCheckVtep (cfg : FlowConfig) : Option FlowConfig :=
  if cfg.vxlans.length = 0 then some cfg
  else if cfg.vxlans.length ≠ cfg.ports.length then none
  else if (cfg.ports.zip cfg.vxlans).any fun p => p.2.1.list.length != p.1.queueNum ||
      decide (1 < p.2.2) && p.2.2 != p.1.queueNum then none
  else some { cfg with
    vxlan := true
    ports := cfg.ports.zipWith (fun p v => { p with vtepLocal := v.1 }) cfg.vxlans }

/-- `config_set_port_ip_range`. -/
def configSetPortIpRange (cfg : FlowConfig) : Option FlowConfig :=
  if cfg.ports.length = 0 then none
  else if cfg.clientIpGroup.length = 0 then none
  else if cfg.serverIpGroup.length = 0 then none
  else if cfg.ports.length ≠ cfg.serverIpGroup.length then none
  else if cfg.server = false ∧ cfg.clientIpGroup.length ≠ cfg.ports.length then none
  else some { cfg with ports := cfg.ports.mapIdx fun i p =>
    { p with
      clientIpRange := cfg.clientIpGroup.getD i .unset
      serverIpRange := cfg.serverIpGroup.getD i .unset } }

/-- `config_check_flow`. -/
def configCheckFlow (cfg : FlowConfig) : Option FlowConfig :=
  if cfg.cpuNum = cfg.ports.length ∧ cfg.flowIsolate = false then some { cfg with flow := .none }
  else if cfg.flow = .rss ∧ cfg.vxlan then none
  else
    let rss := cfg.ports.any fun p => p.queueNum != p.serverIpRange.list.length
    if rss then if cfg.flow ≠ .rss then none else some cfg
    else if cfg.flow ≠ .rss then some { cfg with flow := .fdir }
    else some cfg

/-- The checks of `config_parse` on ports and server addresses, in their order. -/
def configParsePorts (cfg : FlowConfig) : Option FlowConfig :=
  (configCheckServerAddr cfg).bind fun cfg => (configCheckPort cfg).bind fun cfg =>
    (configCheckVtep cfg).bind fun cfg => (configSetPortIpRange cfg).bind configCheckFlow

namespace FlowConfig

variable (cfg : FlowConfig)

/-- `port_idx` of `config_port_get`. -/
def portIdx (threadId : ℕ) : ℕ := threadId / configPortQueueNum cfg

/-- `queue_id` of `config_port_get`. -/
def queueId (threadId : ℕ) : ℕ := threadId % configPortQueueNum cfg

/-- A port that was not configured. -/
def noPort : NetifPort := ⟨0, .unset, .unset, .unset⟩

/-- `config_port_get`. -/
def configPortGet (threadId : ℕ) : NetifPort := cfg.ports.getD (cfg.portIdx threadId) noPort

/-- The server address of a worker. -/
def serverAddr (threadId : ℕ) : IpAddr :=
  ipRangeGet2 (cfg.configPortGet threadId).serverIpRange (cfg.queueId threadId)

/-- What `socket_table_init` reads for a worker. -/
def table (threadId : ℕ) : TableConfig where
  server := cfg.server
  flowFdir := decide (cfg.flow = .fdir)
  queueId := cfg.queueId threadId
  clientIpGroup := cfg.clientIpGroup
  portClients := (cfg.configPortGet threadId).clientIpRange
  portServers := (cfg.configPortGet threadId).serverIpRange
  listen := cfg.listen
  listenNum := cfg.listenNum
  lportMin := cfg.lportMin
  lportMax := cfg.lportMax
  clientHop := cfg.clientHop

end FlowConfig

/-! ### Rules -/

/-- The addresses of an IP packet. -/
structure IpPacket where
  ipv6 : Bool
  src : IpAddr
  dst : IpAddr

/-- A rule: the values and the masks of its IP item, and the queue of its action. -/
structure FlowRule where
  ipv6 : Bool
  src : IpAddr
  srcMask : IpAddr
  dst : IpAddr
  dstMask : IpAddr
  queue : ℕ

/-- The bits of a mask. -/
def IpAddr.masked (a mask : IpAddr) : IpAddr := ⟨a.pad &&& mask.pad, a.ip &&& mask.ip⟩

/-- A packet has the values of the rule under its masks. -/
def FlowRule.Matches (r : FlowRule) (p : IpPacket) : Prop :=
  p.ipv6 = r.ipv6 ∧ p.src.masked r.srcMask = r.src.masked r.srcMask ∧
    p.dst.masked r.dstMask = r.dst.masked r.dstMask

instance (r : FlowRule) (p : IpPacket) : Decidable (r.Matches p) :=
  inferInstanceAs (Decidable (_ ∧ _ ∧ _))

/-- The masks of `flow_pattern_init_ipv4`. -/
def maskOf (ip : UInt32) : IpAddr := ⟨0, if ip ≠ 0 then 0xffffffff else 0⟩

/-- `mask_zero` and `mask_full` of `flow_pattern_init_ipv6`. -/
def maskZero : IpAddr := ⟨0, 0⟩
def maskFull : IpAddr := ⟨BitVec.allOnes 96, 0xffffffff⟩

/-- `flow_new`. -/
def flowNew (rxq : ℕ) (sip dip : IpAddr) (ipv6 : Bool) : FlowRule :=
  if ipv6 then
    { ipv6 := true, src := sip, dst := dip, queue := rxq
      srcMask := if sip.ip ≠ 0 then maskFull else maskZero
      dstMask := if sip.ip ≠ 0 then maskZero else maskFull }
  else
    { ipv6 := false, src := ⟨0, sip.ip⟩, dst := ⟨0, dip.ip⟩, queue := rxq
      srcMask := maskOf sip.ip, dstMask := maskOf dip.ip }

/-- `flow_init_port`. -/
def flowInitPort (port : NetifPort) (server ipv6 : Bool) : List FlowRule :=
  (List.range port.queueNum).map fun queueId =>
    let serverIp := ipRangeGet2 port.serverIpRange queueId
    if server then flowNew queueId maskZero serverIp ipv6
    else flowNew queueId serverIp maskZero ipv6

/-- `flow_init_vxlan`: the outer headers have IPv4. -/
def flowInitVxlan (port : NetifPort) : List FlowRule :=
  (List.range port.queueNum).map fun queueId =>
    flowNew queueId maskZero (ipRangeGet2 port.vtepLocal queueId) false

/-- `flow_init`, for one port. `dpdk_init` calls it under `FLOW_FDIR`. -/
def flowInit (cfg : FlowConfig) (port : NetifPort) : List FlowRule :=
  if cfg.flow ≠ .fdir then []
  else if cfg.flood then []
  else if port.queueNum = 1 then []
  else if cfg.vxlan then flowInitVxlan port
  else flowInitPort port cfg.server cfg.ipv6

/-- A port that `port_config` has isolated gets only what a rule takes. Where the device has no
`rte_flow_isolate`, `port_config` warns and goes on. -/
def FlowConfig.isolated (cfg : FlowConfig) (isolates : Bool) : Bool := cfg.flowIsolate && isolates

/-- Without RSS, a packet is received on the queue of a rule that it matches, and what no rule takes
on queue 0, unless the port is isolated. -/
def ReceivedOn (isolates : Bool) (cfg : FlowConfig) (port : NetifPort) (p : IpPacket) (q : ℕ) :
    Prop :=
  (∃ r ∈ flowInit cfg port, r.Matches p ∧ r.queue = q) ∨
    (cfg.isolated isolates = false ∧ (∀ r ∈ flowInit cfg port, ¬ r.Matches p) ∧ q = 0)

instance (isolates : Bool) (cfg : FlowConfig) (port : NetifPort) (p : IpPacket) (q : ℕ) :
    Decidable (ReceivedOn isolates cfg port p q) :=
  inferInstanceAs (Decidable (_ ∨ _))

/-! ### What the checks make sure of -/

/-- An accepted configuration: each port has the same number of queues, and its own server
addresses; under `FLOW_FDIR` it has as many queues as server addresses. -/
structure PortsChecked (cfg : FlowConfig) : Prop where
  cpus : cfg.cpuNum = configPortQueueNum cfg * cfg.ports.length
  queues_pos : 0 < configPortQueueNum cfg
  queueNum : ∀ p ∈ cfg.ports, p.queueNum = configPortQueueNum cfg
  groups : cfg.ports.length = cfg.serverIpGroup.length
  servers : ∀ i (h : i < cfg.ports.length),
    (cfg.ports.get ⟨i, h⟩).serverIpRange = cfg.serverIpGroup.getD i .unset
  apart : ∀ i < cfg.serverIpGroup.length, ∀ j < cfg.serverIpGroup.length, i ≠ j →
    configIpRangeOverlap (cfg.serverIpGroup.getD i .unset) (cfg.serverIpGroup.getD j .unset) = false
  fdir : cfg.flow = .fdir → ∀ p ∈ cfg.ports, p.queueNum = p.serverIpRange.list.length
  vteps : cfg.vxlan = true → ∀ p ∈ cfg.ports,
    p.queueNum = p.vtepLocal.list.length ∧ ∃ v ∈ cfg.vxlans, p.vtepLocal = v.1

section Checks

variable {cfg cfg' : FlowConfig}

lemma configCheckServerAddr_some (h : configCheckServerAddr cfg = some cfg') :
    cfg' = cfg ∧ ∀ i < cfg.serverIpGroup.length, ∀ j < cfg.serverIpGroup.length, i ≠ j →
      configIpRangeOverlap (cfg.serverIpGroup.getD i .unset) (cfg.serverIpGroup.getD j .unset) =
        false := by
  rw [configCheckServerAddr] at h
  obtain ⟨hno, h⟩ := Option.ite_none_left_eq_some.mp h
  refine ⟨(Option.some.inj h).symm, fun i hi j hj hij => ?_⟩
  by_contra hover
  refine hno (List.any_eq_true.mpr ⟨i, List.mem_range.mpr hi, List.any_eq_true.mpr
    ⟨j, List.mem_range.mpr hj, ?_⟩⟩)
  rw [Bool.and_eq_true, bne_iff_ne]
  exact ⟨hij, by simpa using hover⟩

lemma configCheckPort_some (h : configCheckPort cfg = some cfg') :
    cfg.cpuNum = configPortQueueNum cfg * cfg.ports.length ∧ 0 < configPortQueueNum cfg ∧
      cfg' = { cfg with
        ports := cfg.ports.map fun p => { p with queueNum := configPortQueueNum cfg } } := by
  rw [configCheckPort] at h
  obtain ⟨hcpu, h⟩ := Option.ite_none_left_eq_some.mp h
  obtain ⟨hports, h⟩ := Option.ite_none_left_eq_some.mp h
  obtain ⟨hmod, h⟩ := Option.ite_none_left_eq_some.mp h
  have hmul : cfg.cpuNum = configPortQueueNum cfg * cfg.ports.length :=
    (Nat.div_mul_cancel (Nat.dvd_of_mod_eq_zero (not_not.mp hmod))).symm
  refine ⟨hmul, Nat.pos_of_ne_zero fun h0 => hcpu ?_, (Option.some.inj h).symm⟩
  rw [hmul, h0, Nat.zero_mul]

/-- The ports have `k` queues each. -/
def EvenQueues (k : ℕ) (cfg : FlowConfig) : Prop := ∀ p ∈ cfg.ports, p.queueNum = k

lemma configCheckVtep_some {k : ℕ} (hk : EvenQueues k cfg) (hx : cfg.vxlan = false)
    (h : configCheckVtep cfg = some cfg') :
    cfg'.ports.length = cfg.ports.length ∧ EvenQueues k cfg' ∧
      (cfg'.vxlan = true → ∀ p ∈ cfg'.ports,
        p.queueNum = p.vtepLocal.list.length ∧ ∃ v ∈ cfg.vxlans, p.vtepLocal = v.1) ∧
      cfg' = { cfg with vxlan := cfg'.vxlan, ports := cfg'.ports } := by
  rw [configCheckVtep] at h
  split_ifs at h with hnone hlen hbad
  · obtain rfl := Option.some.inj h
    refine ⟨rfl, hk, fun hv => ?_, rfl⟩
    rw [hx] at hv
    cases hv
  · obtain rfl := Option.some.inj h
    rw [not_not] at hlen
    -- each port is one of before, with its line
    have hzip : ∀ p ∈ cfg.ports.zipWith (fun (p : NetifPort) v => { p with vtepLocal := v.1 })
        cfg.vxlans, ∃ q v, (q, v) ∈ cfg.ports.zip cfg.vxlans ∧
          p = { q with vtepLocal := v.1 } := by
      intro p hp
      rw [← List.map_uncurry_zip_eq_zipWith] at hp
      obtain ⟨⟨q, v⟩, hqv, rfl⟩ := List.mem_map.mp hp
      exact ⟨q, v, hqv, rfl⟩
    refine ⟨by simp [hlen], fun p hp => ?_, fun _ p hp => ?_, rfl⟩
    · obtain ⟨q, v, hqv, rfl⟩ := hzip p hp
      exact hk q (List.of_mem_zip hqv).1
    · obtain ⟨q, v, hqv, rfl⟩ := hzip p hp
      have hgood : ¬ (v.1.list.length != q.queueNum ||
          decide (1 < v.2) && v.2 != q.queueNum) = true := fun hb =>
        hbad (List.any_eq_true.mpr ⟨(q, v), hqv, hb⟩)
      rw [Bool.or_eq_true, not_or, bne_iff_ne, not_not] at hgood
      exact ⟨hgood.1.symm, v, (List.of_mem_zip hqv).2, rfl⟩

lemma configSetPortIpRange_some (h : configSetPortIpRange cfg = some cfg') :
    cfg.ports.length = cfg.serverIpGroup.length ∧
      cfg' = { cfg with ports := cfg.ports.mapIdx fun i p =>
        { p with
          clientIpRange := cfg.clientIpGroup.getD i .unset
          serverIpRange := cfg.serverIpGroup.getD i .unset } } := by
  rw [configSetPortIpRange] at h
  obtain ⟨-, h⟩ := Option.ite_none_left_eq_some.mp h
  obtain ⟨-, h⟩ := Option.ite_none_left_eq_some.mp h
  obtain ⟨-, h⟩ := Option.ite_none_left_eq_some.mp h
  obtain ⟨hlen, h⟩ := Option.ite_none_left_eq_some.mp h
  obtain ⟨-, h⟩ := Option.ite_none_left_eq_some.mp h
  exact ⟨not_not.mp hlen, (Option.some.inj h).symm⟩

lemma configCheckFlow_some (h : configCheckFlow cfg = some cfg') :
    (cfg'.flow = .fdir → ∀ p ∈ cfg.ports, p.queueNum = p.serverIpRange.list.length) ∧
      cfg' = { cfg with flow := cfg'.flow } := by
  have hnum : ¬ (cfg.ports.any fun p => p.queueNum != p.serverIpRange.list.length) = true →
      ∀ p ∈ cfg.ports, p.queueNum = p.serverIpRange.list.length := by
    intro hno p hp
    by_contra hne
    exact hno (List.any_eq_true.mpr ⟨p, hp, bne_iff_ne.mpr hne⟩)
  rw [configCheckFlow] at h
  dsimp only at h
  split_ifs at h with hone hrss hany hfr hfr
  · obtain rfl := Option.some.inj h
    exact ⟨fun hf => (by cases hf), rfl⟩
  · obtain rfl := Option.some.inj h
    exact ⟨fun hf => absurd (hf.symm.trans (not_not.mp hfr)) (by decide), rfl⟩
  · obtain rfl := Option.some.inj h
    exact ⟨fun _ => hnum hany, rfl⟩
  · obtain rfl := Option.some.inj h
    exact ⟨fun _ => hnum hany, rfl⟩

/-- What an accepted configuration looks like. -/
theorem configParsePorts_checked (hx : cfg.vxlan = false) (h : configParsePorts cfg = some cfg') :
    PortsChecked cfg' ∧ cfg'.serverIpGroup = cfg.serverIpGroup ∧ cfg'.vxlans = cfg.vxlans := by
  rw [configParsePorts] at h
  obtain ⟨c₁, h₁, hports⟩ := Option.bind_eq_some_iff.mp h
  obtain ⟨c₂, h₂, hvteps⟩ := Option.bind_eq_some_iff.mp hports
  obtain ⟨c₃, h₃, hranges⟩ := Option.bind_eq_some_iff.mp hvteps
  obtain ⟨c₄, h₄, h₅⟩ := Option.bind_eq_some_iff.mp hranges
  clear h hports hvteps hranges
  obtain ⟨rfl, hapart⟩ := configCheckServerAddr_some h₁
  obtain ⟨hcpu, hpos, hc₂⟩ := configCheckPort_some h₂
  have heven : EvenQueues (configPortQueueNum c₁) c₂ := by
    rw [hc₂]
    intro p hp
    obtain ⟨q, -, rfl⟩ := List.mem_map.mp hp
    rfl
  obtain ⟨hlen₃, heven₃, hvtep, hc₃⟩ := configCheckVtep_some heven (by rw [hc₂]; exact hx) h₃
  obtain ⟨hgroups, hc₄⟩ := configSetPortIpRange_some h₄
  obtain ⟨hfdir, hc₅⟩ := configCheckFlow_some h₅
  have hlen₂ : c₂.ports.length = c₁.ports.length := by
    rw [hc₂]
    exact List.length_map _
  have hlen₄ : c₄.ports.length = c₃.ports.length := by
    rw [hc₄]
    exact List.length_mapIdx
  have hports : cfg'.ports = c₄.ports := by rw [hc₅]
  have hlen : cfg'.ports.length = c₁.ports.length := by rw [hports, hlen₄, hlen₃, hlen₂]
  have hcpus : cfg'.cpuNum = c₁.cpuNum := by rw [hc₅, hc₄, hc₃, hc₂]
  have hgroup : cfg'.serverIpGroup = c₁.serverIpGroup := by rw [hc₅, hc₄, hc₃, hc₂]
  have hgroup₃ : c₃.serverIpGroup = c₁.serverIpGroup := by rw [hc₃, hc₂]
  have hlines : cfg'.vxlans = c₁.vxlans := by rw [hc₅, hc₄, hc₃, hc₂]
  have hlines₂ : c₂.vxlans = c₁.vxlans := by rw [hc₂]
  have hx₃ : cfg'.vxlan = c₃.vxlan := by rw [hc₅, hc₄]
  have hqueues : configPortQueueNum cfg' = configPortQueueNum c₁ := by
    rw [configPortQueueNum, hcpus, hlen, configPortQueueNum]
  -- a port after `config_set_port_ip_range`
  have hmem : ∀ p ∈ c₄.ports, ∃ q ∈ c₃.ports, p.queueNum = q.queueNum ∧
      p.vtepLocal = q.vtepLocal := by
    rw [hc₄]
    intro p hp
    obtain ⟨i, hi, rfl⟩ := List.mem_mapIdx.mp hp
    exact ⟨_, List.getElem_mem hi, rfl, rfl⟩
  refine ⟨⟨?_, ?_, fun p hp => ?_, ?_, fun i hi => ?_, ?_, fun hf => ?_, fun hv p hp => ?_⟩,
    hgroup, hlines⟩
  · rw [hcpus, hqueues, hlen]
    exact hcpu
  · rw [hqueues]
    exact hpos
  · rw [hqueues]
    obtain ⟨q, hq, heq, -⟩ := hmem p (hports ▸ hp)
    exact heq.trans (heven₃ q hq)
  · rw [hports, hgroup, hlen₄, hgroups, hgroup₃]
  · rw [List.get_eq_getElem, hgroup, ← hgroup₃]
    simp only [hports, hc₄, List.getElem_mapIdx]
  · rw [hgroup]
    exact hapart
  · rw [hports]
    exact hfdir hf
  · obtain ⟨q, hq, heq, hvt⟩ := hmem p (hports ▸ hp)
    obtain ⟨hnum, v, hv', hloc⟩ := hvtep (hx₃ ▸ hv) q hq
    rw [heq, hvt, hlines, ← hlines₂]
    exact ⟨hnum, v, hv', hloc⟩

end Checks

/-! ### Which rule a packet matches -/

/-- The address of a packet that is the server's. -/
def IpPacket.serverSide (server : Bool) (p : IpPacket) : IpAddr := if server then p.dst else p.src

lemma IpAddr.masked_full (a : IpAddr) : a.masked maskFull = a := by
  have hpad : a.pad &&& BitVec.allOnes 96 = a.pad := BitVec.and_allOnes
  have hip : a.ip &&& 0xffffffff = a.ip := UInt32.and_neg_one
  rw [IpAddr.masked, maskFull]
  dsimp only
  rw [hpad, hip]

lemma IpAddr.masked_zero (a : IpAddr) : a.masked maskZero = maskZero := by
  have hpad : a.pad &&& 0#96 = 0#96 := BitVec.and_zero
  have hip : a.ip &&& 0 = 0 := UInt32.and_zero
  rw [IpAddr.masked, maskZero]
  dsimp only
  rw [hip]
  exact congrArg (IpAddr.mk · 0) hpad

lemma masked_maskOf {a b : IpAddr} (hb : b.ip ≠ 0) :
    a.masked (maskOf b.ip) = (IpAddr.mk 0 b.ip).masked (maskOf b.ip) ↔ a.ip = b.ip := by
  have hpad : ∀ x : BitVec 96, x &&& 0#96 = 0#96 := fun _ => BitVec.and_zero
  have hip : ∀ x : UInt32, x &&& 0xffffffff = x := fun _ => UInt32.and_neg_one
  rw [IpAddr.masked, IpAddr.masked, maskOf, if_pos hb]
  dsimp only
  rw [hip, hip, IpAddr.mk.injEq]
  exact ⟨And.right, fun h => ⟨(hpad _).trans (hpad _).symm, h⟩⟩

lemma masked_maskOf_zero (a b : IpAddr) : a.masked (maskOf 0) = b.masked (maskOf 0) := by
  have hmask : maskOf 0 = maskZero := rfl
  rw [hmask, IpAddr.masked_zero, IpAddr.masked_zero]

/-- The rule of a server address takes the packets that have it on the server's side. -/
lemma matches_flowNew {q : ℕ} {a : IpAddr} {server : Bool} {p : IpPacket} (ha : a.ip ≠ 0)
    (hpad : p.ipv6 = true → (p.serverSide server).pad = a.pad) :
    (if server then flowNew q maskZero a p.ipv6 else flowNew q a maskZero p.ipv6).Matches p ↔
      (p.serverSide server).ip = a.ip := by
  have hzero : ¬ maskZero.ip ≠ 0 := fun h => h rfl
  have hfull : ∀ b : IpAddr, b.pad = a.pad → (b = a ↔ b.ip = a.ip) := by
    rintro ⟨bpad, bip⟩ hb
    obtain ⟨apad, aip⟩ := a
    rw [IpAddr.mk.injEq]
    exact and_iff_right hb
  cases server <;> cases hv : p.ipv6
  · simp only [flowNew, FlowRule.Matches, hv, IpPacket.serverSide, Bool.false_eq_true, if_false,
      true_and, masked_maskOf ha]
    exact and_iff_left (masked_maskOf_zero _ _)
  · simp only [flowNew, FlowRule.Matches, hv, IpPacket.serverSide, Bool.false_eq_true, if_false,
      if_true, true_and, if_pos ha, IpAddr.masked_full, IpAddr.masked_zero, and_true]
    exact hfull _ (hpad hv)
  · simp only [flowNew, FlowRule.Matches, hv, IpPacket.serverSide, Bool.false_eq_true, if_false,
      if_true, true_and, masked_maskOf ha]
    exact and_iff_right (masked_maskOf_zero _ _)
  · simp only [flowNew, FlowRule.Matches, hv, IpPacket.serverSide, if_true, true_and,
      if_neg hzero, IpAddr.masked_full, IpAddr.masked_zero]
    exact hfull _ (hpad hv)

/-- The rule of a destination. -/
lemma matches_flowNew_dst {q : ℕ} {a : IpAddr} {p : IpPacket} (ha : a.ip ≠ 0)
    (hv : p.ipv6 = false) : (flowNew q maskZero a false).Matches p ↔ p.dst.ip = a.ip := by
  have h : (if true then flowNew q maskZero a p.ipv6 else flowNew q a maskZero p.ipv6).Matches p ↔
      (p.serverSide true).ip = a.ip :=
    matches_flowNew ha fun h => absurd (hv.symm.trans h) Bool.false_ne_true
  rw [if_pos rfl, hv] at h
  exact h

@[simp] lemma queue_flowNew (q : ℕ) (sip dip : IpAddr) (ipv6 : Bool) :
    (flowNew q sip dip ipv6).queue = q := by
  rw [flowNew]
  split_ifs <;> rfl

/-- Where the rule of one queue takes the packet and no other does, the packet is received there. -/
lemma exists_rule_iff {k q₀ : ℕ} {rule : ℕ → FlowRule} {p : IpPacket} (hq₀ : q₀ < k)
    (hrule : ∀ q < k, (rule q).Matches p ↔ q = q₀) (hqueue : ∀ q, (rule q).queue = q) (q : ℕ) :
    (∃ r ∈ (List.range k).map rule, r.Matches p ∧ r.queue = q) ↔ q = q₀ := by
  constructor
  · rintro ⟨r, hr, hmatch, rfl⟩
    obtain ⟨q', hq', rfl⟩ := List.mem_map.mp hr
    exact (hqueue q').trans ((hrule q' (List.mem_range.mp hq')).mp hmatch)
  · rintro rfl
    exact ⟨_, List.mem_map.mpr ⟨_, List.mem_range.mpr hq₀, rfl⟩, (hrule _ hq₀).mpr rfl, hqueue _⟩

/-- A port with one queue has no rule: it receives nothing if it is isolated. -/
lemma receivedOn_rules {isolates : Bool} {cfg : FlowConfig} {port : NetifPort} {p : IpPacket}
    {q₀ : ℕ} (hq₀ : q₀ < port.queueNum) (hrules : port.queueNum ≠ 1 → ∀ q,
      (∃ r ∈ flowInit cfg port, r.Matches p ∧ r.queue = q) ↔ q = q₀) (q : ℕ) :
    ReceivedOn isolates cfg port p q ↔
      (cfg.isolated isolates = true → 1 < port.queueNum) ∧ q = q₀ := by
  by_cases hone : port.queueNum = 1
  · have hnone : flowInit cfg port = [] := by
      rw [flowInit]
      split_ifs <;> rfl
    obtain rfl : q₀ = 0 := by omega
    rw [ReceivedOn, hnone, hone]
    simp
  · have htwo : 1 < port.queueNum := by omega
    obtain ⟨r, hr, hmatch, -⟩ := (hrules hone q₀).mpr rfl
    rw [ReceivedOn, hrules hone q, or_iff_left fun hno => hno.2.1 r hr hmatch]
    exact (and_iff_right fun _ => htwo).symm

/-! ### Workers and their addresses -/

section Workers

variable {cfg : FlowConfig} {t u : ℕ}

/-- A range of one start and one number, as a `server` and a `vxlan` line have it. -/
def IpRange.Parsed (r : IpRange) : Prop := ∃ ip num, configParseIpRange ip num [] = some r

/-- The server addresses come from `config_parse_ip_group`. -/
def FlowConfig.Parsed (cfg : FlowConfig) : Prop := ∀ r ∈ cfg.serverIpGroup, r.Parsed

namespace IpRange.Parsed

variable {r : IpRange} {q q' : ℕ}

lemma kept (h : r.Parsed) : r.Kept := by
  obtain ⟨ip, num, hparse⟩ := h
  rw [configParseIpRange] at hparse
  split_ifs at hparse with hzero
  exact (ipRangeInit_kept hparse).2

lemma ipRangeGet_eq (h : r.Parsed) (hq : q < r.list.length) :
    ipRangeGet r q = r.list.get ⟨q, hq⟩ := by
  obtain ⟨ip, num, hparse⟩ := h
  have hle := (configParseIpRange_some hparse).2
  rw [ipRangeGet, Nat.mod_eq_of_lt (by omega : q < 256), Nat.mod_eq_of_lt hq,
    List.getD_eq_getElem _ _ hq, List.get_eq_getElem]

lemma ipRangeGet_ne_zero (h : r.Parsed) (hq : q < r.list.length) : ipRangeGet r q ≠ 0 := by
  rw [h.ipRangeGet_eq hq]
  exact h.kept.ne_zero _ (List.get_mem _ _)

/-- No address of a range is on two queues. -/
lemma ipRangeGet_inj (h : r.Parsed) (hq : q < r.list.length) (hq' : q' < r.list.length) :
    ipRangeGet r q = ipRangeGet r q' ↔ q = q' := by
  rw [h.ipRangeGet_eq hq, h.ipRangeGet_eq hq', h.kept.nodup.of_map.get_inj_iff, Fin.mk.injEq]

end IpRange.Parsed

namespace PortsChecked

lemma portIdx_lt (h : PortsChecked cfg) (ht : t < cfg.cpuNum) :
    cfg.portIdx t < cfg.ports.length := by
  rw [FlowConfig.portIdx, Nat.div_lt_iff_lt_mul h.queues_pos, Nat.mul_comm, ← h.cpus]
  exact ht

lemma configPortGet_mem (h : PortsChecked cfg) (ht : t < cfg.cpuNum) :
    cfg.configPortGet t ∈ cfg.ports ∧
      (cfg.configPortGet t).serverIpRange = cfg.serverIpGroup.getD (cfg.portIdx t) .unset := by
  have hlt := h.portIdx_lt ht
  rw [FlowConfig.configPortGet, List.getD_eq_getElem _ _ hlt]
  exact ⟨List.getElem_mem hlt, h.servers _ hlt⟩

lemma servers_mem (h : PortsChecked cfg) (ht : t < cfg.cpuNum) :
    (cfg.configPortGet t).serverIpRange ∈ cfg.serverIpGroup := by
  have hlt := h.portIdx_lt ht
  rw [h.groups] at hlt
  rw [(h.configPortGet_mem ht).2, List.getD_eq_getElem _ _ hlt]
  exact List.getElem_mem hlt

lemma queueId_lt (h : PortsChecked cfg) (ht : t < cfg.cpuNum) :
    cfg.queueId t < (cfg.configPortGet t).queueNum := by
  rw [h.queueNum _ (h.configPortGet_mem ht).1]
  exact Nat.mod_lt _ h.queues_pos

/-- A worker is its port and its queue. -/
lemma worker_unique (hport : cfg.portIdx t = cfg.portIdx u)
    (hqueue : cfg.queueId t = cfg.queueId u) : t = u := by
  rw [FlowConfig.portIdx, FlowConfig.portIdx] at hport
  rw [FlowConfig.queueId, FlowConfig.queueId] at hqueue
  rw [← Nat.div_add_mod t (configPortQueueNum cfg), hport, hqueue, Nat.div_add_mod]

lemma parsed (h : PortsChecked cfg) (hp : cfg.Parsed) (ht : t < cfg.cpuNum) :
    (cfg.configPortGet t).serverIpRange.Parsed := hp _ (h.servers_mem ht)

/-- Under `FLOW_FDIR` a queue has the server address with its number. -/
lemma lt_length (h : PortsChecked cfg) (hf : cfg.flow = .fdir) (ht : t < cfg.cpuNum) {q : ℕ}
    (hq : q < (cfg.configPortGet t).queueNum) :
    q < (cfg.configPortGet t).serverIpRange.list.length := by
  rw [← h.fdir hf _ (h.configPortGet_mem ht).1]
  exact hq

/-- Two workers have different server addresses. -/
lemma serverAddr_ne (h : PortsChecked cfg) (hp : cfg.Parsed) (hf : cfg.flow = .fdir)
    (ht : t < cfg.cpuNum) (hu : u < cfg.cpuNum) (hne : u ≠ t) :
    cfg.serverAddr u ≠ cfg.serverAddr t := by
  intro heq
  rcases eq_or_ne (cfg.portIdx u) (cfg.portIdx t) with hport | hport
  · have hget : cfg.configPortGet u = cfg.configPortGet t := by
      rw [FlowConfig.configPortGet, FlowConfig.configPortGet, hport]
    have hip := congrArg IpAddr.ip heq
    rw [FlowConfig.serverAddr, FlowConfig.serverAddr, hget] at hip
    exact hne (worker_unique hport (((h.parsed hp ht).ipRangeGet_inj
      (h.lt_length hf ht (hget ▸ h.queueId_lt hu)) (h.lt_length hf ht (h.queueId_lt ht))).mp hip))
  · -- the ranges of two ports have no address in common
    have hlt := h.portIdx_lt ht
    have hlu := h.portIdx_lt hu
    rw [h.groups] at hlt hlu
    have hno := h.apart _ hlu _ hlt hport
    have hqu := h.lt_length hf hu (h.queueId_lt hu)
    have hqt := h.lt_length hf ht (h.queueId_lt ht)
    rw [← (h.configPortGet_mem hu).2, ← (h.configPortGet_mem ht).2] at hno
    refine Bool.false_ne_true (hno.symm.trans (List.any_eq_true.mpr ⟨cfg.queueId u,
      List.mem_range.mpr hqu, List.any_eq_true.mpr ⟨cfg.queueId t, List.mem_range.mpr hqt, ?_⟩⟩))
    exact beq_iff_eq.mpr heq

/-- The server address of a packet whose socket is in the worker's table. -/
lemma lookup_serverIp (h : PortsChecked cfg) (hp : cfg.Parsed) (hf : cfg.flow = .fdir)
    (ht : t < cfg.cpuNum) {n : ℕ} {st : SocketTable n} {tables : Tables}
    (hst : (cfg.table t).Describes tables st) {ws : WorkSpace} (hs : ws.cfg.server = cfg.server)
    {pool : Fin n → Socket} {m : Mbuf} {i : Fin n} (hi : socketLookup st ws pool m = some i) :
    (m.entry cfg.server).2.2.2 = (cfg.serverAddr t).ip := by
  obtain ⟨g, hn, hht, rfl⟩ := hst
  obtain ⟨-, -, hrange, -⟩ :=
    SocketTable.commonLookup_eq_some.mp ((socketLookup_eq_some hs).mp hi).1
  obtain ⟨-, hmin, hmax, -⟩ := hrange
  have hlt := h.lt_length hf ht (h.queueId_lt ht)
  have hfdir : (cfg.table t).flowFdir = true := decide_eq_true hf
  have hserver : (cfg.table t).serverIpGet (cfg.table t).queueId = (cfg.serverAddr t).ip := by
    rw [TableConfig.serverIpGet]
    change List.getD _ (cfg.queueId t % (cfg.configPortGet t).serverIpRange.list.length) 0 =
      ipRangeGet _ _
    rw [Nat.mod_eq_of_lt hlt, (h.parsed hp ht).ipRangeGet_eq hlt]
    exact List.getD_eq_getElem _ _ hlt
  change (cfg.table t).serverIpMin ≤ _ at hmin
  change _ ≤ (cfg.table t).serverIpMax at hmax
  rw [TableConfig.serverIpMin, if_pos hfdir, hserver] at hmin
  rw [TableConfig.serverIpMax, if_pos hfdir, hserver] at hmax
  exact UInt32.le_antisymm hmax hmin

end PortsChecked

/-- A packet on the wire of the worker's port, and what the worker reads of it. The port's server
addresses have one prefix. -/
structure OnPort (cfg : FlowConfig) (t : ℕ) (p : IpPacket) (m : Mbuf) : Prop where
  version : p.ipv6 = cfg.ipv6
  src : p.src.ip = m.saddr
  dst : p.dst.ip = m.daddr
  pad : p.ipv6 = true →
    (p.serverSide cfg.server).pad = (cfg.configPortGet t).serverIpRange.start.pad

lemma OnPort.serverSide_ip {p : IpPacket} {m : Mbuf} (hm : OnPort cfg t p m) :
    (p.serverSide cfg.server).ip = (m.entry cfg.server).2.2.2 := by
  rw [IpPacket.serverSide, Mbuf.entry]
  split_ifs
  · exact hm.dst
  · exact hm.src

/-- A packet with the server address of a worker has the queue of the worker, and no other. -/
lemma receivedOn_iff {isolates : Bool} (h : PortsChecked cfg) (hp : cfg.Parsed)
    (hf : cfg.flow = .fdir) (hflood : cfg.flood = false) (hx : cfg.vxlan = false)
    (ht : t < cfg.cpuNum) {p : IpPacket} {m : Mbuf} (hm : OnPort cfg t p m)
    (hip : (p.serverSide cfg.server).ip = (cfg.serverAddr t).ip) (q : ℕ) :
    ReceivedOn isolates cfg (cfg.configPortGet t) p q ↔
      (cfg.isolated isolates = true → 1 < (cfg.configPortGet t).queueNum) ∧
        q = cfg.queueId t := by
  have hqt := h.queueId_lt ht
  refine receivedOn_rules hqt (fun hone => ?_) q
  have hrules : flowInit cfg (cfg.configPortGet t) =
      flowInitPort (cfg.configPortGet t) cfg.server p.ipv6 := by
    rw [flowInit, if_neg (not_not.mpr hf), if_neg (by rw [hflood]; exact Bool.false_ne_true),
      if_neg hone, if_neg (by rw [hx]; exact Bool.false_ne_true), hm.version]
  -- the rule of a queue takes the packet exactly if it is the worker's
  have hrule : ∀ q' < (cfg.configPortGet t).queueNum,
      (if cfg.server then
          flowNew q' maskZero (ipRangeGet2 (cfg.configPortGet t).serverIpRange q') p.ipv6
        else flowNew q' (ipRangeGet2 (cfg.configPortGet t).serverIpRange q') maskZero
          p.ipv6).Matches p ↔ q' = cfg.queueId t := by
    intro q' hq'
    have hlt := h.lt_length hf ht hq'
    have hne : (ipRangeGet2 (cfg.configPortGet t).serverIpRange q').ip ≠ 0 :=
      (h.parsed hp ht).ipRangeGet_ne_zero hlt
    rw [matches_flowNew hne hm.pad, hip,
      ← (h.parsed hp ht).ipRangeGet_inj hlt (h.lt_length hf ht hqt)]
    exact eq_comm
  rw [hrules, flowInitPort]
  refine exists_rule_iff hqt hrule fun q' => ?_
  split_ifs <;> exact queue_flowNew _ _ _ _

/-- Under `vxlan` the rules are about the outer header: what is sent to a `vtep_local` is received
on the queue with its number, and on no other. -/
theorem receivedOn_vxlan_iff {isolates : Bool} {cfg₀ : FlowConfig} (hx₀ : cfg₀.vxlan = false)
    (hp : ∀ v ∈ cfg₀.vxlans, v.1.Parsed) (h : configParsePorts cfg₀ = some cfg)
    (hf : cfg.flow = .fdir) (hflood : cfg.flood = false) (hx : cfg.vxlan = true)
    (ht : t < cfg.cpuNum) {p : IpPacket} (hv : p.ipv6 = false)
    (hip : p.dst.ip = ipRangeGet (cfg.configPortGet t).vtepLocal (cfg.queueId t)) (q : ℕ) :
    ReceivedOn isolates cfg (cfg.configPortGet t) p q ↔
      (cfg.isolated isolates = true → 1 < (cfg.configPortGet t).queueNum) ∧
        q = cfg.queueId t := by
  obtain ⟨hcheck, -, hlines⟩ := configParsePorts_checked hx₀ h
  obtain ⟨hnum, v, hmem, hloc⟩ := hcheck.vteps hx _ (hcheck.configPortGet_mem ht).1
  have hparsed : (cfg.configPortGet t).vtepLocal.Parsed := hloc ▸ hp v (hlines ▸ hmem)
  have hqt := hcheck.queueId_lt ht
  refine receivedOn_rules hqt (fun hone => ?_) q
  have hrules : flowInit cfg (cfg.configPortGet t) = flowInitVxlan (cfg.configPortGet t) := by
    rw [flowInit, if_neg (not_not.mpr hf), if_neg (by rw [hflood]; exact Bool.false_ne_true),
      if_neg hone, if_pos hx]
  rw [hrules, flowInitVxlan]
  refine exists_rule_iff hqt (fun q' hq' => ?_) fun q' => queue_flowNew _ _ _ _
  have hne : (ipRangeGet2 (cfg.configPortGet t).vtepLocal q').ip ≠ 0 :=
    hparsed.ipRangeGet_ne_zero (hnum ▸ hq')
  rw [matches_flowNew_dst hne hv, hip, ← hparsed.ipRangeGet_inj (hnum ▸ hq') (hnum ▸ hqt)]
  exact eq_comm

/-- Under `FLOW_FDIR` **the rules and the socket tables agree**: a packet whose socket is in the
table of a worker is received on the queue of this worker and on no other, and no other worker of
the port has a socket for it. Only a port with one queue, which has no rule, receives nothing when
it is isolated. -/
theorem flow_steers (isolates : Bool) {cfg₀ : FlowConfig} (hx₀ : cfg₀.vxlan = false)
    (hp : cfg₀.Parsed) (h : configParsePorts cfg₀ = some cfg) (hf : cfg.flow = .fdir)
    (hflood : cfg.flood = false) (hx : cfg.vxlan = false) (ht : t < cfg.cpuNum) {n : ℕ}
    {st : SocketTable n} {tables : Tables} (hst : (cfg.table t).Describes tables st)
    {ws : WorkSpace} (hs : ws.cfg.server = cfg.server) {pool : Fin n → Socket} {p : IpPacket}
    {m : Mbuf} (hm : OnPort cfg t p m) {i : Fin n} (hi : socketLookup st ws pool m = some i) :
    (∀ q, ReceivedOn isolates cfg (cfg.configPortGet t) p q ↔
      (cfg.isolated isolates = true → 1 < (cfg.configPortGet t).queueNum) ∧ q = cfg.queueId t) ∧
    ∀ u < cfg.cpuNum, u ≠ t → cfg.serverAddr u ≠ cfg.serverAddr t ∧
      (cfg.portIdx u = cfg.portIdx t → ∀ (n' : ℕ) (st' : SocketTable n') (tables' : Tables)
        (ws' : WorkSpace) (pool' : Fin n' → Socket), (cfg.table u).Describes tables' st' →
        ws'.cfg.server = cfg.server → socketLookup st' ws' pool' m = none) := by
  obtain ⟨hcheck, hgroup, -⟩ := configParsePorts_checked hx₀ h
  have hp' : cfg.Parsed := fun r hr => hp r (hgroup ▸ hr)
  have hip := hcheck.lookup_serverIp hp' hf ht hst hs hi
  refine ⟨receivedOn_iff hcheck hp' hf hflood hx ht hm (hm.serverSide_ip.trans hip),
    fun u hu hne => ⟨hcheck.serverAddr_ne hp' hf ht hu hne, ?_⟩⟩
  intro hport n' st' tables' ws' pool' hst' hs'
  rw [Option.eq_none_iff_forall_ne_some]
  intro j hj
  have hip' := hcheck.lookup_serverIp hp' hf hu hst' hs' hj
  have hget : cfg.configPortGet u = cfg.configPortGet t := by
    rw [FlowConfig.configPortGet, FlowConfig.configPortGet, hport]
  refine hcheck.serverAddr_ne hp' hf ht hu hne ?_
  have heq := hip'.symm.trans hip
  rw [FlowConfig.serverAddr, FlowConfig.serverAddr, hget] at heq ⊢
  exact congrArg (ipaddrJoin _) heq

end Workers

/-- A range of two addresses. -/
def IpRange.pair (ip : UInt32) : IpRange where
  start := { pad := 0, ip := ip }
  list := [ip + 0, ip + 1]
  valid := fun b => if b - (ip &&& 0xff) < 2 then ip + (b - (ip &&& 0xff)) else 0

/-- A server with a port of two queues, before the checks. -/
def FlowConfig.pair : FlowConfig where
  server := true
  ipv6 := false
  flood := false
  flow := .none
  flowIsolate := false
  vxlan := false
  vxlans := []
  cpuNum := 2
  ports := [noPort]
  clientIpGroup := [.single 0x0606F101]
  serverIpGroup := [.pair 0x0606F201]
  listen := 80
  listenNum := 1
  lportMin := 1
  lportMax := 65535
  clientHop := false

/-- The server, after the checks. -/
def FlowConfig.pairChecked : FlowConfig :=
  { FlowConfig.pair with
    flow := .fdir
    ports := [⟨2, .single 0x0606F101, .pair 0x0606F201, .unset⟩] }

lemma FlowConfig.table_pairChecked_accepted : (FlowConfig.pairChecked.table 1).Accepted where
  clients := by
    intro r hr
    rw [List.mem_singleton.mp hr]
    exact ⟨{ pad := 0, ip := 0x0606F101 }, 1, [], rfl⟩
  some_client := List.cons_ne_nil _ _
  port := fun hs => by cases hs
  servers := ⟨{ pad := 0, ip := 0x0606F201 }, 2, rfl⟩
  unique := by
    have hcheck : configCheckClientAddr false [.single 0x0606F101] = true := by decide
    exact ⟨false, hcheck⟩
  listen := by
    have hcheck : configParseListen 80 1 = true := by decide
    exact hcheck
  lports := by
    have hcheck : configParseClientPortRange 1 65535 = true := by decide
    exact hcheck
  queue := fun _ => by decide

/-- A packet for the second address of the server. -/
def Mbuf.second : Mbuf where
  version := 4
  saddr := 0x0606F101
  daddr := 0x0606F202
  totLen := 40
  ip6Plen := 0
  th := { sport := 1, dport := 80, seq := 0, ack := 0, off := 5, flags := 2 }
  data := []

/-- The second worker has its socket, and its queue. -/
theorem flow_steers_second : ∃ (n : ℕ) (st : SocketTable n) (tables : Tables) (i : Fin n),
    (FlowConfig.pairChecked.table 1).Describes tables st ∧
    socketLookup st (.single (.singleServer true)) (fun i => tables.pool i) .second = some i ∧
    ∀ q, ReceivedOn true .pairChecked (FlowConfig.pairChecked.configPortGet 1)
      ⟨false, ⟨0, 0x0606F101⟩, ⟨0, 0x0606F202⟩⟩ q ↔ q = 1 := by
  have hc := FlowConfig.table_pairChecked_accepted
  obtain ⟨fuel, ps, hps, e, hfill, st, g, hn, hht, hst⟩ :=
    hc.tables (.single (.singleServer true)) (fun _ _ _ _ => 0) (by decide) (by decide)
  have hright : TablesRight (.single (.singleServer true)) (FlowConfig.pairChecked.table 1) _
      (TableConfig.socketTable g hn _ hht) :=
    hfill.right e rfl hc (by decide) (hc.totalSocketNum (by decide) (by decide))
  have hconf : (FlowConfig.pairChecked.table 1).Configured (Mbuf.second.tuple true) :=
    ⟨by decide, by decide, by decide, by decide⟩
  obtain ⟨i, hi⟩ := Option.isSome_iff_exists.mp ((hright.found .second).mpr hconf)
  rw [← hst] at hi
  refine ⟨_, st, _, i, ⟨g, hn, hht, hst⟩, hi, ?_⟩
  have hvxlan : FlowConfig.pair.vxlan = false := rfl
  have hparsed : FlowConfig.pair.Parsed := fun r hr =>
    ⟨{ pad := 0, ip := 0x0606F201 }, 2, by rw [List.mem_singleton.mp hr]; rfl⟩
  have honPort : OnPort .pairChecked 1 ⟨false, ⟨0, 0x0606F101⟩, ⟨0, 0x0606F202⟩⟩ .second :=
    ⟨rfl, rfl, rfl, fun h => by cases h⟩
  have hsteers := (flow_steers true hvxlan hparsed rfl rfl rfl rfl (by decide) ⟨g, hn, hht, hst⟩
    rfl honPort hi).1
  exact fun q => (hsteers q).trans (and_iff_right fun _ => by decide)

end Dperf
