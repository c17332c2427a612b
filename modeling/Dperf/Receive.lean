import Dperf.Custody
import Dperf.Worker

/-!
The receiving side of a worker: `loop.h`, and what it calls in `tcp.c`, `udp.c`, `icmp.c`,
`icmp6.c` and `arp.c`, as far as it decides who gets the mbuf.

* `RteMbuf.headers`: the fields that the functions on sockets read.
* `Core`: a worker and its mbufs. `Core.call` runs a function on the sockets; the packets that it
  sends are new mbufs.
* `L4Input`: what the run loops pass to `ipv4_input`, `ipv6_input` and `vxlan_input`. The lookup of a
  socket is a parameter: with RSS it works on other workers too.
-/

namespace Dperf.Wire

open Memory

/-! ### Headers -/

/-- `iph->version`. -/
def RteMbuf.version (m : RteMbuf) : UInt8 := m.data 14 >>> 4

/-- The low word of the destination address of the IP header. -/
def RteMbuf.daddr (m : RteMbuf) : UInt32 :=
  if m.version = 4 then get32 m.data 30 else get32 m.data 50

/-- What the functions on sockets read of a packet. -/
def RteMbuf.headers (m : RteMbuf) : Mbuf :=
  let th := mbufTcpHdr m.data
  let off := m.data (th + 12) >>> 4
  let data := (if m.version = 4 then 34 else 54) + off.toNat * 4
  { version := m.version
    saddr := htonl (if m.version = 4 then get32 m.data 26 else get32 m.data 34)
    daddr := htonl m.daddr
    totLen := htons (get16 m.data 16)
    ip6Plen := htons (get16 m.data 18)
    th :=
      { sport := htons (get16 m.data th)
        dport := htons (get16 m.data (th + 2))
        seq := htonl (get32 m.data (th + 4))
        ack := htonl (get32 m.data (th + 8))
        off := off
        flags := m.data (th + 13) }
    data := bytes (fun i => m.data (data + i)) 65536 }

/-- `rte_pktmbuf_adj`: nothing happens if the packet is shorter. -/
def RteMbuf.adj (m : RteMbuf) (len : ℕ) : RteMbuf :=
  if m.dataLen < len then m
  else { m with data := fun i => m.data (i + len), dataLen := m.dataLen - len }

/-! ### A worker with its mbufs -/

/-- A worker, and the places of its mbufs. -/
structure Core (n : ℕ) where
  worker : Worker n
  nic : Nic

/-- A packet that is built on a new mbuf. -/
def isNew {ι : Type} : Out ι → Bool
  | .sk _ (.sent ..) => true
  | .sk _ (.datagram ..) => true
  | _ => false

/-- How many packets a worker has built. -/
def newPackets {n : ℕ} (w : Worker n) : ℕ := w.trace.countP isNew

/-- New packets, each allocated and sent. -/
def transmit (p : PortSpace) : ℕ → Nic → Nic
  | 0, s => s
  | packets + 1, s =>
      let r := pktmbufAlloc s
      transmit p packets (workSpaceTxSend p r.1 r.2)

namespace Core

variable {n : ℕ}

/-- Run a function on the sockets. -/
def call (p : PortSpace) (f : Worker n → Worker n) (s : Core n) : Core n :=
  { worker := f s.worker
    nic := transmit p (newPackets (f s.worker) - newPackets s.worker) s.nic }

/-- Run a function on the mbufs. -/
def onNic (f : Nic → Nic) (s : Core n) : Core n := { s with nic := f s.nic }

end Core

variable {n : ℕ}

/-- A function that is given an mbuf. -/
abbrev L4Input (n : ℕ) := RteMbuf → Core n → Core n

/-- The lookup of a socket, with what it does to the tables. -/
abbrev Lookup (n : ℕ) := Mbuf → Worker n → Option (Fin n) × Worker n

section Input

variable (p : PortSpace)

/-- `work_space_is_local_addr`. -/
def workSpaceIsLocalAddr (m : RteMbuf) : Bool := m.daddr == p.localIp.w3

/-! ### TCP and UDP -/

/-- `tcp_reply_rst`. -/
def tcpReplyRst (m : RteMbuf) (s : Core n) : Core n :=
  -- not support rst yet
  if p.w.ws.vxlan then
    (s.call p fun w => Dperf.tcpReplyRst p.w.ws m.headers w).onNic (mbufFree2 m.id)
  else (s.call p fun w => Dperf.tcpReplyRst p.w.ws m.headers w).onNic (workSpaceTxSend p m.id)

/-- What `tcp_server_process` and `tcp_client_process` do with a packet without a socket. -/
def tcpNoSocket (m : RteMbuf) (s : Core n) : Core n :=
  if p.w.ws.kni && workSpaceIsLocalAddr p m then s.onNic (kniRecv p (some m.id))
  else if p.w.ws.cfg.tcpRst then tcpReplyRst p m s
  else (s.call p fun w => w.count fun t => { t with tcpDrop := t.tcpDrop + 1 }).onNic
    (mbufFree2 m.id)

/-- `tcp_process_rst`. -/
def tcpProcessRst (i : Fin n) (m : RteMbuf) (s : Core n) : Core n :=
  (s.call p fun w => w.on i Dperf.tcpProcessRst).onNic (mbufFree2 m.id)

/-- `tcp_server_process_syn`. -/
def tcpServerProcessSyn (i : Fin n) (m : RteMbuf) (s : Core n) : Core n :=
  (s.call p fun w => w.on i (Dperf.tcpServerProcessSyn p.w.ws m.headers.th)).onNic
    (mbufFree2 m.id)

/-- `tcp_server_process_data`. -/
def tcpServerProcessData (i : Fin n) (m : RteMbuf) (s : Core n) : Core n :=
  -- out:
  (s.call p fun w => w.on i (Dperf.tcpServerProcessData p.w.ws m.headers)).onNic
    (mbufFree2 m.id)

/-- `tcp_server_process`. -/
def tcpServerProcess (lookup : Lookup n) : L4Input n := fun m s =>
  let flags := m.headers.th.flags
  let r := lookup m.headers s.worker
  let s := s.call p fun _ => r.2
  match r.1 with
  | none => tcpNoSocket p m s
  | some i =>
      let s := s.call p fun w => w.count (tcpFlagsRxCount flags)
      if hasFlag flags (thSyn ||| thRst) = false ∧ hasFlag flags thAck then
        tcpServerProcessData p i m s
      else if flags = thSyn then tcpServerProcessSyn p i m s
      else if hasFlag flags thRst then tcpProcessRst p i m s
      else (s.call p fun w => w.count fun t => { t with tcpDrop := t.tcpDrop + 1 }).onNic
        (mbufFree2 m.id)

/-- `tcp_client_process_syn_ack`. -/
def tcpClientProcessSynAck (i : Fin n) (m : RteMbuf) (s : Core n) : Core n :=
  -- out:
  (s.call p fun w => w.on i (Dperf.tcpClientProcessSynAck p.w.ws m.headers.th)).onNic
    (mbufFree2 m.id)

/-- `tcp_client_process_data`, the flush of `tcp_ack_delay_add` included. -/
def tcpClientProcessData (i : Fin n) (m : RteMbuf) (s : Core n) : Core n :=
  -- out:
  (s.call p fun w =>
    let r := Dperf.tcpClientProcessData p.w.ws m.headers (w.view i)
    tcpAckDelayRest p.w.ws i r.1 (w.put i r.2)).onNic (mbufFree2 m.id)

/-- `tcp_client_process`. -/
def tcpClientProcess (lookup : Lookup n) : L4Input n := fun m s =>
  let flags := m.headers.th.flags
  let r := lookup m.headers s.worker
  let s := s.call p fun _ => r.2
  match r.1 with
  | none => tcpNoSocket p m s
  | some i =>
      let s := s.call p fun w => w.count (tcpFlagsRxCount flags)
      if hasFlag flags (thSyn ||| thRst) = false ∧ hasFlag flags thAck then
        tcpClientProcessData p i m s
      else if flags = thSyn ||| thAck then tcpClientProcessSynAck p i m s
      else if hasFlag flags thRst then tcpProcessRst p i m s
      else (s.call p fun w => w.count fun t => { t with tcpDrop := t.tcpDrop + 1 }).onNic
        (mbufFree2 m.id)

/-- `tcp_drop`. -/
def tcpDrop : L4Input n := fun m s =>
  if p.w.ws.kni && workSpaceIsLocalAddr p m then s.onNic (kniRecv p (some m.id))
  else (s.call p fun w => w.count fun t => { t with tcpDrop := t.tcpDrop + 1 }).onNic
    (mbufFree m.id)

/-- `udp_drop`. -/
def udpDrop : L4Input n := fun m s =>
  if p.w.ws.kni && workSpaceIsLocalAddr p m then s.onNic (kniRecv p (some m.id))
  else (s.call p fun w => w.count fun t => { t with udpDrop := t.udpDrop + 1 }).onNic
    (mbufFree2 m.id)

/-- What `udp_server_process` and `udp_client_process` do with a packet without a socket. -/
def udpNoSocket (m : RteMbuf) (s : Core n) : Core n :=
  if p.w.ws.kni && workSpaceIsLocalAddr p m then s.onNic (kniRecv p (some m.id))
  else (s.call p fun w => w.count fun t => { t with udpDrop := t.udpDrop + 1 }).onNic
    (mbufFree m.id)

/-- `udp_client_process`. -/
def udpClientProcess (lookup : Lookup n) : L4Input n := fun m s =>
  let r := lookup m.headers s.worker
  let s := s.call p fun _ => r.2
  match r.1 with
  | none => udpNoSocket p m s
  | some i => (s.call p fun w => w.on i (udpClientInput p.w.ws)).onNic (mbufFree m.id)

/-- `udp_server_process`. -/
def udpServerProcess (lookup : Lookup n) : L4Input n := fun m s =>
  let r := lookup m.headers s.worker
  let s := s.call p fun _ => r.2
  match r.1 with
  | none => udpNoSocket p m s
  | some i => (s.call p fun w => w.on i (udpSend p.w.ws)).onNic (mbufFree m.id)

/-! ### ICMP -/

/-- `icmp_process`. The answer is the request with other addresses, type and checksums. -/
def icmpProcess (m : RteMbuf) (s : Core n) : Core n :=
  if m.data 34 ≠ 8 then
    if p.w.ws.kni && workSpaceIsLocalAddr p m then s.onNic (kniRecv p (some m.id))
    else s.onNic (mbufFree m.id)
  else s.onNic (workSpaceTxSend p m.id)

/-- `ND_NEIGHBOR_SOLICIT` and `ND_NEIGHBOR_ADVERT`. -/
def ndNeighborSolicit : UInt8 := 135
def ndNeighborAdvert : UInt8 := 136

/-- `ICMP6_ECHO_REQUEST` and `ICMP6_ECHO_REPLY`. -/
def icmp6EchoRequest : UInt8 := 128
def icmp6EchoReply : UInt8 := 129

/-- `icmp6_is_neigh`. -/
def icmp6IsNeigh (m : RteMbuf) : Bool :=
  m.data 54 == ndNeighborSolicit || m.data 54 == ndNeighborAdvert

/-- `port_is_bond4`. -/
def portIsBond4 : Bool := p.bond && p.bondMode == 4

/-- `icmp6_send`. -/
def icmp6Send (m : RteMbuf) (s : Core n) : Core n :=
  let s := if icmp6IsNeigh m && portIsBond4 p then s.onNic (bondBroadcast p p.pciNum) else s
  s.onNic (workSpaceTxSend p m.id)

/-- `ip_range_exist`; `valid` has an address for each last byte, or zero. -/
def ipRangeExist (valid : UInt8 → UInt32) (ip : UInt32) : Bool :=
  ip == valid (htonl ip).toUInt8

/-- `ip_range_exist_ipv6`. -/
def ipRangeExistIpv6 (range : In6Addr × (UInt8 → UInt32)) (addr : In6Addr) : Bool :=
  decide ({ addr with w3 := range.1.w3 } = range.1) && ipRangeExist range.2 addr.w3

/-- `work_space_ip_exist`. -/
def workSpaceIpExist (ip : UInt32) : Bool :=
  if p.portIpv6 = false ∧ p.localIp.w3 = ip then true
  else if p.w.ws.vxlan then ipRangeExist p.vtepLocal ip
  else if p.w.ipv6 = false then ipRangeExist p.localIpRange.2 ip
  else false

/-- `work_space_ip6_exist`. -/
def workSpaceIp6Exist (addr : In6Addr) : Bool :=
  if p.portIpv6 ∧ p.localIp = addr then true
  else if p.w.ipv6 then ipRangeExistIpv6 p.localIpRange addr
  else false

/-- An IPv6 address of a packet. -/
def in6At (m : RteMbuf) (off : ℕ) : In6Addr :=
  ⟨get32 m.data off, get32 m.data (off + 4), get32 m.data (off + 8), get32 m.data (off + 12)⟩

/-- The type that the answer gets; its other fields are read by nobody here. -/
def RteMbuf.setType (m : RteMbuf) (type : UInt8) : RteMbuf :=
  { m with data := put m.data 54 [type] }

/-- `icmp6_ns_process`. -/
def icmp6NsProcess (m : RteMbuf) (s : Core n) : Core n :=
  let addr := in6At m 62
  -- ND_TTL
  if workSpaceIp6Exist p addr = false ∨ m.data 21 ≠ 255 then s.onNic (mbufFree m.id)
  else
    let s := s.onNic (kniBroadcast p)
    if p.neighIgnore ∧ p.localIp = addr then s.onNic (mbufFree m.id)
    else icmp6Send p (m.setType ndNeighborAdvert) s

/-- `icmp6_na_process`, without the update of the gateway's address. -/
def icmp6NaProcess (m : RteMbuf) (s : Core n) : Core n :=
  if p.w.ws.kni then s.onNic (kniRecv p (some m.id)) else s.onNic (mbufFree m.id)

/-- `icmp6_echo_process`. -/
def icmp6EchoProcess (m : RteMbuf) (s : Core n) : Core n :=
  if workSpaceIp6Exist p (in6At m 38) = false then s.onNic (mbufFree m.id)
  else icmp6Send p (m.setType icmp6EchoReply) s

/-- `icmp6_process`. -/
def icmp6Process (m : RteMbuf) (s : Core n) : Core n :=
  let type := m.data 54
  let code := m.data 55
  if code ≠ 0 then s.onNic (mbufFree m.id)
  else if type = icmp6EchoRequest then icmp6EchoProcess p m s
  else if type = ndNeighborSolicit then icmp6NsProcess p m s
  else if type = ndNeighborAdvert then icmp6NaProcess p m s
  else if type = icmp6EchoReply then
    if p.w.ws.kni && workSpaceIsLocalAddr p m then s.onNic (kniRecv p (some m.id))
    else s.onNic (mbufFree m.id)
  else s.onNic (mbufFree m.id)

/-! ### ARP -/

/-- `arp_send`. -/
def arpSend (m : RteMbuf) (s : Core n) : Core n :=
  let s := if portIsBond4 p then s.onNic (bondBroadcast p p.pciNum) else s
  s.onNic (workSpaceTxSend p m.id)

/-- `arp_process_request`, with `arp_reply`. -/
def arpProcessRequest (m : RteMbuf) (s : Core n) : Core n :=
  let dip := get32 m.data 38
  if workSpaceIpExist p dip = false then s.onNic (mbufFree m.id)
  else if p.neighIgnore ∧ dip ≠ p.localIp.w3 then s.onNic (mbufFree m.id)
  else arpSend p m s

/-- `arp_process_reply`, without the update of the gateway's address. -/
def arpProcessReply (m : RteMbuf) (s : Core n) : Core n := s.onNic (mbufFree m.id)

/-- `arp_process`. -/
def arpProcess (m : RteMbuf) (s : Core n) : Core n :=
  let op := get16 m.data 20
  let s := if p.w.ws.kni then s.onNic (kniBroadcast p) else s
  if op = htons 1 then arpProcessRequest p m s
  else if op = htons 2 then arpProcessReply m s
  else s.onNic (mbufFree m.id)

/-! ### `loop.h` -/

/-- Where a packet ends that nobody wants. -/
def otherProtocol (m : RteMbuf) (s : Core n) : Core n :=
  if p.w.ws.kni then s.onNic (kniRecv p (some m.id)) else s.onNic (mbufFree m.id)

/-- `vxlan_check`. The VNI has 24 bits. -/
def vxlanCheck (m : RteMbuf) : Bool :=
  m.data 23 == 17 && get32 m.data 30 == p.vtepIp && get16 m.data 36 == htons 4789 &&
    get32 m.data 46 &&& (0xFFFFFF : UInt32) == p.vni

/-- `vxlan_input`. -/
def vxlanInput (tcpInput udpInput : L4Input n) (m : RteMbuf) (s : Core n) : Core n :=
  if vxlanCheck p m then
    let inner := m.adj 50
    let type := get16 m.data (50 + 12)
    if type = htons 0x0800 ∧ p.w.ipv6 = false then
      let proto := m.data (50 + 23)
      if proto = 6 then tcpInput inner s
      else if proto = 17 then udpInput inner s
      else otherProtocol p inner s
    else if type = htons 0x86DD ∧ p.w.ipv6 = true then
      let proto := m.data (50 + 20)
      if proto = 6 then tcpInput inner s
      else if proto = 17 then udpInput inner s
      else otherProtocol p inner s
    -- out:
    else s.onNic (mbufFree m.id)
  else if m.data 23 = 1 then icmpProcess p m s
  else if get16 m.data 12 = htons 0x0806 then arpProcess p m s
  else otherProtocol p m s

/-- `ipv4_trim_options`: the headers are moved over the options. -/
def ipv4TrimOptions (m : RteMbuf) : Option RteMbuf :=
  let ihl := m.data 14 &&& 0xF
  if ihl < 5 then none
  else
    let skip := ihl.toNat * 4 - 20
    let totLen := htons (htons (get16 m.data 16) - UInt16.ofNat skip)
    let data := put (put m.data 14 [(m.data 14 &&& 0xF0) ||| 5]) 16 (le16 totLen)
    some ({ m with data := put data skip (bytes data 34) }.adj skip)

/-- `rte_ipv4_frag_pkt_is_fragmented`. -/
def isFragmented (m : RteMbuf) : Bool := htons (get16 m.data 20) &&& (0x3FFF : UInt16) != 0

/-- `ipv4_input`. -/
def ipv4Input (tcpInput udpInput : L4Input n) (m : RteMbuf) (s : Core n) : Core n :=
  let type := get16 m.data 12
  if type = htons 0x0800 then
    if m.ipCksumBad || m.l4CksumBad then s.onNic (mbufFree m.id)
    else
      let proto := m.data 23
      if isFragmented m then s.onNic (mbufFree m.id)
      else
        match if m.data 14 &&& 0xF ≠ 5 then ipv4TrimOptions m else some m with
        | none => s.onNic (mbufFree m.id)
        | some m =>
            if proto = 6 then tcpInput m s
            else if proto = 17 then udpInput m s
            else if proto = 1 then icmpProcess p m s
            else otherProtocol p m s
  else if type = htons 0x0806 then arpProcess p m s
  else otherProtocol p m s

/-- `ipv6_trim_options`: the next protocol. -/
def ipv6TrimOptions (m : RteMbuf) : UInt8 × RteMbuf :=
  let proto := m.data 54
  if proto = 60 then (0, m)
  else
    let optLen := (m.data 55).toUInt16 * 8 + 8
    let plen := htons (htons (get16 m.data 18) - optLen)
    let data := put (put m.data 18 (le16 plen)) 20 [proto]
    (proto, { m with data := put data optLen.toNat (bytes data 54) }.adj optLen.toNat)

/-- The dispatch of `ipv6_input` by a protocol other than `IPPROTO_DSTOPTS`. -/
def ipv6Dispatch (tcpInput udpInput : L4Input n) (proto : UInt8) (m : RteMbuf) (s : Core n) :
    Core n :=
  if proto = 6 then tcpInput m s
  else if proto = 17 then udpInput m s
  else if proto = 58 then icmp6Process p m s
  else otherProtocol p m s

/-- `ipv6_input`: `ipv6_trim_options` never returns `IPPROTO_DSTOPTS`, so that the dispatch is
repeated once at most. -/
def ipv6Input (tcpInput udpInput : L4Input n) (m : RteMbuf) (s : Core n) : Core n :=
  if get16 m.data 12 = htons 0x86DD then
    if m.l4CksumBad then s.onNic (mbufFree m.id)
    else
      let proto := m.data 20
      if proto = 60 then
        let r := ipv6TrimOptions m
        ipv6Dispatch p tcpInput udpInput r.1 r.2 s
      else ipv6Dispatch p tcpInput udpInput proto m s
  else otherProtocol p m s

end Input

end Dperf.Wire
