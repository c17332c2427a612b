import Dperf.Echo
import Dperf.Neighbour
import Dperf.Options

/-!
The frames of neighbour resolution, byte for byte: `arp.c` and `icmp6.c`, and what a new address of
the gateway does to the templates.

* `arpRequestGw`, `icmp6NsRequest`: the questions of a port.
* `arpAnswer`, `icmp6Answer`: the mbuf that a handler sends; `arpProcess_answer` and
  `icmp6Process_answer` say that this is what the receiving side sends. `arpGateway` and
  `icmp6Gateway`: the address that a handler takes for the gateway's.
* `icmp6SetCksum_verifies`: a checksum that is set is a right one.
* `l3Handler`: the handler that a frame gets to, which `l3Input_handler` ties to the inputs.
* `initTemplates_setDmac`: `mbuf_cache_set_dmac` gives the templates of a port that is configured
  with the address.
-/

namespace Dperf.Wire

open Memory OnesComplement

/-! ### Ethernet addresses -/

deriving instance DecidableEq for EthAddr

/-- An address that is not known. -/
def EthAddr.zero : EthAddr := ⟨0, 0, 0, 0, 0, 0⟩

/-- `g_mac_full`. -/
def gMacFull : EthAddr := ⟨0xff, 0xff, 0xff, 0xff, 0xff, 0xff⟩

/-- `eth_addr_is_zero`. -/
def ethAddrIsZero (a : EthAddr) : Bool :=
  a.b0 == 0 && a.b1 == 0 && a.b2 == 0 && a.b3 == 0 && a.b4 == 0 && a.b5 == 0

/-- The Ethernet address at a place. -/
def ethAt (m : Mem) (off : ℕ) : EthAddr :=
  ⟨m off, m (off + 1), m (off + 2), m (off + 3), m (off + 4), m (off + 5)⟩

/-! ### ARP -/

/-- `arp_set_arphdr`: the whole `struct arphdr`. -/
def arpSetArphdr (op : UInt16) (sip dip : UInt32) (sa da : EthAddr) : List UInt8 :=
  le16 (htons 1) ++ le16 (htons 0x0800) ++ [6, 4] ++ le16 (htons op) ++ sa.bytes ++ le32 sip
    ++ da.bytes ++ le32 dip

/-- `arp_set_request`. -/
def arpSetRequest (smac : EthAddr) (dip sip : UInt32) : List UInt8 :=
  ethHdr gMacFull smac 0x0806 ++ arpSetArphdr 1 sip dip smac .zero

section Handlers

variable (rte : Rte) (p : PortSpace) {n : ℕ}

/-- `arp_request_gw`: the requests in their order; `list` is that of `local_ip_range`, or of
`vtep_local`. -/
def arpRequestGw (list : List UInt32) : List (List UInt8) :=
  if p.portIpv6 then []
  else (p.localIp.w3 :: if p.neighIgnore then [] else list).map
    (arpSetRequest p.w.localMac p.gatewayIp.w3)

/-- `arp_reply`: all of the request is written over. -/
def arpReply (m : RteMbuf) : RteMbuf :=
  let sip := get32 m.data 38
  let dip := get32 m.data 28
  let dmac := ethAt m.data 6
  { m with data := put m.data 0 (ethHdr dmac p.w.localMac 0x0806
      ++ arpSetArphdr 2 sip dip p.w.localMac dmac) }

/-- `arp_process` and `arp_process_request`: the mbuf that is sent, if any. -/
def arpAnswer (m : RteMbuf) : Option RteMbuf :=
  if get16 m.data 20 = htons 1 then
    let dip := get32 m.data 38
    if workSpaceIpExist p dip = false then none
    else if p.neighIgnore ∧ dip ≠ p.localIp.w3 then none
    else some (arpReply p m)
  else none

/-- `arp_process` and `arp_process_reply`: the address that `work_space_update_gw` is given, if it
is called; `gatewayMac` is the one of the port. -/
def arpGateway (gatewayMac : EthAddr) (m : RteMbuf) : Option EthAddr :=
  if get16 m.data 20 = htons 2 ∧ p.gatewayIp.w3 = get32 m.data 28 ∧ ethAddrIsZero gatewayMac then
    some (ethAt m.data 6)
  else none

/-! ### Neighbour discovery -/

/-- `icmp6_multicast_ip6_addr`, in words. -/
def icmp6MulticastIp6Addr (unicast : In6Addr) : In6Addr :=
  ⟨0x02FF, 0, 0x01000000, (unicast.w3 &&& 0xFFFFFF00) ||| 0xFF⟩

/-- `icmp6_multicast_ether_addr`: the last word follows the prefix. -/
def icmp6MulticastEtherAddr (daddr : In6Addr) : EthAddr :=
  ethAt (put (fun _ => 0x33) 2 (le32 (icmp6MulticastIp6Addr daddr).w3)) 0

/-- A solicitation or an advertisement with its option, which has the address of the sender. -/
def ndFrame (dAddr sAddr : EthAddr) (src dst : In6Addr) (type : UInt8) (cksum : UInt16)
    (flags : UInt32) (target : In6Addr) (opt : UInt8) : List UInt8 :=
  ethHdr dAddr sAddr 0x86DD ++ [0x60, 0, 0, 0] ++ le16 (htons 32) ++ [58, 255] ++ src.bytes
    ++ dst.bytes ++ [type, 0] ++ le16 cksum ++ le32 flags ++ target.bytes ++ [opt, 1]
    ++ sAddr.bytes

/-- `icmp6_ns_request`: `icmp6_ns_eth_hdr_push`, `icmp6_ns_ip6_hdr_push` and `icmp6_ns_hdr_push`. -/
def icmp6NsRequest : List (List UInt8) :=
  if p.w.ipv6 = false then []
  else
    let ns := fun cksum => ndFrame (icmp6MulticastEtherAddr p.gatewayIp) p.w.localMac p.localIp
      (icmp6MulticastIp6Addr p.gatewayIp) ndNeighborSolicit cksum 0 p.gatewayIp 1
    [ns (rte.ipv6UdptcpCksum (image (ns 0)) 14 54)]

/-- `icmp6_nd_na_set`, with `icmp6_nd_opt_set`. -/
def icmp6NdNaSet (smac : EthAddr) (m : Mem) : Mem :=
  let m := put m 54 [ndNeighborAdvert, 0]
  let m := put m 56 (le16 0)
  -- ND_NA_FLAG_SOLICITED | ND_NA_FLAG_OVERRIDE
  let m := put m 58 (le32 0x60)
  let m := put m 78 [2, 1]
  put m 80 smac.bytes

/-- The checksum of an ICMPv6 message is cleared and computed. -/
def icmp6SetCksum (m : Mem) : Mem :=
  let m := put m 56 (le16 0)
  put m 56 (le16 (rte.ipv6UdptcpCksum m 14 54))

/-- `icmp6_ns_process`: the mbuf that is sent, if any. -/
def icmp6NsAnswer (m : RteMbuf) : Option RteMbuf :=
  let addr := in6At m 62
  if workSpaceIp6Exist p addr = false ∨ m.data 21 ≠ 255 then none
  else if p.neighIgnore ∧ p.localIp = addr then none
  else
    let data := put m.data 0 (ethAt m.data 6).bytes
    let data := put data 6 p.w.localMac.bytes
    let data := put data 38 (in6At m 22).bytes
    let data := put data 22 addr.bytes
    some { m with data := icmp6SetCksum rte (icmp6NdNaSet p.w.localMac data) }

/-- `icmp6_echo_process`: the mbuf that is sent, if any. -/
def icmp6EchoAnswer (m : RteMbuf) : Option RteMbuf :=
  if workSpaceIp6Exist p (in6At m 38) = false then none
  else
    let data := put m.data 0 (ethAt m.data 6).bytes
    let data := put data 6 p.w.localMac.bytes
    -- ip6h_swap_addr
    let data := put data 22 (in6At m 38).bytes
    let data := put data 38 (in6At m 22).bytes
    let data := put data 14 (le32 (get32 data 14 ||| htonl (p.w.tos.toUInt32 <<< 20)))
    let data := put data 54 [icmp6EchoReply, 0]
    some { m with data := icmp6SetCksum rte data }

/-- `icmp6_process`: the mbuf that is sent, if any. -/
def icmp6Answer (m : RteMbuf) : Option RteMbuf :=
  if m.data 55 ≠ 0 then none
  else if m.data 54 = icmp6EchoRequest then icmp6EchoAnswer rte p m
  else if m.data 54 = ndNeighborSolicit then icmp6NsAnswer rte p m
  else none

/-- `icmp6_process` and `icmp6_na_process`: the address that `work_space_update_gw` is given, if it
is called. -/
def icmp6Gateway (gatewayMac : EthAddr) (m : RteMbuf) : Option EthAddr :=
  if m.data 55 = 0 ∧ m.data 54 = ndNeighborAdvert ∧ p.gatewayIp = in6At m 22 ∧
      ethAddrIsZero gatewayMac then
    some (ethAt m.data 6)
  else none

/-! ### The handlers of the receiving side -/

/-- `arp_process` sends the mbuf of the answer, and no other. -/
lemma arpProcess_answer (m : RteMbuf) (s : Core n) :
    arpProcess p m s =
      let s := if p.w.ws.kni then s.onNic (kniBroadcast p) else s
      match arpAnswer p m with
      | some out => arpSend p out s
      | none => s.onNic (mbufFree m.id) := by
  rw [arpProcess, arpAnswer]
  dsimp only
  by_cases hop : get16 m.data 20 = htons 1
  · rw [if_pos hop, if_pos hop, arpProcessRequest]
    split_ifs <;> rfl
  · rw [if_neg hop, if_neg hop, arpProcessReply, ite_self]

variable {p} in
/-- Only the number and the type of an mbuf matter to `icmp6_send`. -/
lemma icmp6Send_congr {m m' : RteMbuf} (hid : m.id = m'.id) (htype : m.data 54 = m'.data 54)
    (s : Core n) : icmp6Send p m s = icmp6Send p m' s := by
  rw [icmp6Send, icmp6Send, icmp6IsNeigh, icmp6IsNeigh, hid, htype]

/-- The checksum is in its place, and nothing else. -/
lemma icmp6SetCksum_ne {m : Mem} {i : ℕ} (h : i < 56 ∨ 58 ≤ i) : icmp6SetCksum rte m i = m i := by
  rw [icmp6SetCksum, put_ne (by simpa using h), put_ne (by simpa using h)]

lemma icmp6NsProcess_answer (m : RteMbuf) (s : Core n) :
    ∃ s' : Core n, s'.nic.txQueue = s.nic.txQueue ∧ s'.nic.sent = s.nic.sent ∧
      icmp6NsProcess p m s =
        match icmp6NsAnswer rte p m with
        | some out => icmp6Send p out s'
        | none => s' := by
  obtain ⟨hqueue, hsent⟩ := kniBroadcast_tx p s.nic
  rw [icmp6NsProcess, icmp6NsAnswer]
  dsimp only
  split_ifs with hdrop hlocal
  · exact ⟨s.onNic (mbufFree m.id), rfl, rfl, rfl⟩
  · exact ⟨(s.onNic (kniBroadcast p)).onNic (mbufFree m.id), hqueue, hsent, rfl⟩
  · refine ⟨s.onNic (kniBroadcast p), hqueue, hsent, icmp6Send_congr ?_ ?_ _⟩
    · rfl
    · simp [RteMbuf.setType, icmp6SetCksum_ne, icmp6NdNaSet, put_ne, put_head]

/-- `icmp6_process` sends the mbuf of the answer, and no other. -/
lemma icmp6Process_answer (m : RteMbuf) (s : Core n) :
    ∃ s' : Core n, s'.nic.txQueue = s.nic.txQueue ∧ s'.nic.sent = s.nic.sent ∧
      icmp6Process p m s =
        match icmp6Answer rte p m with
        | some out => icmp6Send p out s'
        | none => s' := by
  have hfree : ∀ s : Core n, ∃ s' : Core n, s'.nic.txQueue = s.nic.txQueue ∧
      s'.nic.sent = s.nic.sent ∧ s.onNic (mbufFree m.id) = s' :=
    fun s => ⟨s.onNic (mbufFree m.id), rfl, rfl, rfl⟩
  have hkni : ∃ s' : Core n, s'.nic.txQueue = s.nic.txQueue ∧
      s'.nic.sent = s.nic.sent ∧ s.onNic (kniRecv p (some m.id)) = s' :=
    ⟨s.onNic (kniRecv p (some m.id)), (kniRecv_tx p (some m.id) s.nic).1,
      (kniRecv_tx p (some m.id) s.nic).2, rfl⟩
  rw [icmp6Process, icmp6Answer]
  split_ifs with hcode hecho hns hna hreply hlocal
  · exact hfree s
  · rw [icmp6EchoProcess, icmp6EchoAnswer]
    dsimp only
    split_ifs with he
    · exact hfree s
    · refine ⟨s, rfl, rfl, icmp6Send_congr ?_ ?_ _⟩
      · rfl
      · simp [RteMbuf.setType, icmp6SetCksum_ne, put_head]
  · exact icmp6NsProcess_answer rte p m s
  · rw [icmp6NaProcess]
    split_ifs
    · exact hkni
    · exact hfree s
  · exact hkni
  · exact hfree s
  · exact hfree s

end Handlers

/-! ### Frames on the wire -/

@[simp] lemma EthAddr.length_bytes (a : EthAddr) : a.bytes.length = 6 := rfl

@[simp] lemma In6Addr.length_bytes (a : In6Addr) : a.bytes.length = 16 := rfl

section Fields

variable {m : Mem} {off : ℕ}

lemma ethAt_eq {a : EthAddr} (h : Stands m off a.bytes) : ethAt m off = a := by
  simp only [EthAddr.bytes, stands_cons, Nat.add_assoc, Nat.reduceAdd] at h
  obtain ⟨h0, h1, h2, h3, h4, h5, -⟩ := h
  rw [ethAt, h0, h1, h2, h3, h4, h5]

lemma in6At_eq {m : RteMbuf} {a : In6Addr} (h : Stands m.data off a.bytes) : in6At m off = a := by
  simp only [In6Addr.bytes, stands_append, List.length_append, length_le32, Nat.reduceAdd] at h
  obtain ⟨⟨⟨h0, h1⟩, h2⟩, h3⟩ := h
  rw [in6At, h0.get32_eq, h1.get32_eq, h2.get32_eq, h3.get32_eq]

/-- A write beside a list. -/
lemma stands_put_ne {off' : ℕ} {l l' : List UInt8}
    (h : off + l.length ≤ off' ∨ off' + l'.length ≤ off) :
    Stands (put m off' l') off l ↔ Stands m off l :=
  ⟨fun hs => hs.congr fun i hi => (put_ne (by omega)).symm, fun hs => hs.put_ne h⟩

lemma ethAddrIsZero_iff {a : EthAddr} : ethAddrIsZero a = true ↔ a = .zero := by
  cases a
  simp [ethAddrIsZero, EthAddr.zero, and_assoc]

end Fields

/-- The parts of an ARP frame. -/
lemma stands_arpFrame {m : Mem} {dAddr sAddr sa da : EthAddr} {op : UInt16} {sip dip : UInt32} :
    Stands m 0 (ethHdr dAddr sAddr 0x0806 ++ arpSetArphdr op sip dip sa da) →
      Stands m 6 sAddr.bytes ∧ Stands m 12 (le16 (htons 0x0806)) ∧ Stands m 20 (le16 (htons op)) ∧
        Stands m 22 sa.bytes ∧ Stands m 28 (le32 sip) ∧ Stands m 38 (le32 dip) := by
  intro h
  simp only [ethHdr, arpSetArphdr, stands_append, List.length_append, EthAddr.length_bytes,
    length_le16, length_le32, List.length_cons, List.length_nil, Nat.zero_add, Nat.reduceAdd] at h
  obtain ⟨⟨⟨-, hs⟩, htype⟩, ⟨⟨⟨⟨⟨-, -⟩, hop⟩, hsa⟩, hsip⟩, -⟩, hdip⟩ := h
  exact ⟨hs, htype, hop, hsa, hsip, hdip⟩

/-- The parts of a solicitation or an advertisement. -/
lemma stands_ndFrame {m : Mem} {dAddr sAddr : EthAddr} {src dst : In6Addr} {type : UInt8}
    {cksum : UInt16} {flags : UInt32} {target : In6Addr} {opt : UInt8} :
    Stands m 0 (ndFrame dAddr sAddr src dst type cksum flags target opt) ↔
      Stands m 0 dAddr.bytes ∧ Stands m 6 sAddr.bytes ∧ Stands m 12 (le16 (htons 0x86DD)) ∧
        Stands m 14 [0x60, 0, 0, 0] ∧ Stands m 18 (le16 (htons 32)) ∧ Stands m 20 [58, 255] ∧
        Stands m 22 src.bytes ∧ Stands m 38 dst.bytes ∧ Stands m 54 [type, 0] ∧
        Stands m 56 (le16 cksum) ∧ Stands m 58 (le32 flags) ∧ Stands m 62 target.bytes ∧
        Stands m 78 [opt, 1] ∧ Stands m 80 sAddr.bytes := by
  simp only [ndFrame, ethHdr, stands_append, List.length_append, EthAddr.length_bytes,
    In6Addr.length_bytes, length_le16, length_le32, List.length_cons, List.length_nil,
    Nat.zero_add, Nat.reduceAdd, and_assoc]

/-! ### The checksum of a message -/

/-- The words of an ICMPv6 message with its pseudo header fold to all ones. -/
def Icmp6Verifies (m : Mem) : Prop := onesSum (pseudo6 m 14 + wordSum m 54 (l4Len6 m 14)) = 65535

instance (m : Mem) : Decidable (Icmp6Verifies m) := inferInstanceAs (Decidable (_ = _))

section Cksum

variable {rte : Rte} {m m' : Mem}

/-- What the checksum is about, but for the message itself, is before the message. -/
lemma pseudo6_put (cksum : UInt16) :
    pseudo6 (put m 56 (le16 cksum)) 14 = pseudo6 m 14 ∧
      l4Len6 (put m 56 (le16 cksum)) 14 = l4Len6 m 14 := by
  have hlen : get16 (put m 56 (le16 cksum)) 18 = get16 m 18 := get16_put_ne (.inl (by decide))
  have haddrs : wordSum (put m 56 (le16 cksum)) 22 32 = wordSum m 22 32 :=
    wordSum_congr fun i hi => put_ne (.inl (lt_of_lt_of_le hi.2 (by decide)))
  have hnxt : put m 56 (le16 cksum) 20 = m 20 := put_ne (.inl (by decide))
  rw [pseudo6, pseudo6, l4Len6, l4Len6]
  simp only [Nat.reduceAdd, hlen, haddrs, hnxt]
  exact ⟨trivial, trivial⟩

/-- The checksum of the message with a cleared checksum is the right one. -/
lemma icmp6Verifies_put (hr : rte.Rfc1071) (hzero : get16 m 56 = 0) (hlen : 4 ≤ l4Len6 m 14)
    (hnxt : m 20 ≠ 0) : Icmp6Verifies (put m 56 (le16 (rte.ipv6UdptcpCksum m 14 54))) := by
  obtain ⟨hpseudo, hsame⟩ := pseudo6_put (m := m) (rte.ipv6UdptcpCksum m 14 54)
  have hsum := wordSum_put16 m 54 (rte.ipv6UdptcpCksum m 14 54) (d := 2) rfl hlen
  have hcksum := hr.ipv6UdptcpCksum m 14 54
  have hpos : 0 < (m 20).toNat := by
    rw [Nat.pos_iff_ne_zero]
    exact fun h => hnxt (UInt8.toNat_inj.mp h)
  have hpseudo' : 0 < pseudo6 m 14 := by
    rw [pseudo6]
    simp only [Nat.reduceAdd]
    omega
  simp only [Nat.reduceAdd, hzero, UInt16.toNat_zero, Nat.add_zero] at hsum
  rw [Icmp6Verifies, hpseudo, hsame, hsum, onesSum_eq_ones]
  rw [Nat.ModEq] at hcksum ⊢
  omega

/-- **A checksum that is set is right**, whatever the message. -/
lemma icmp6SetCksum_verifies (hr : rte.Rfc1071) (hlen : 4 ≤ l4Len6 (icmp6SetCksum rte m) 14)
    (hnxt : icmp6SetCksum rte m 20 ≠ 0) : Icmp6Verifies (icmp6SetCksum rte m) := by
  refine icmp6Verifies_put hr (get16_put 0) ?_ ?_
  · rwa [icmp6SetCksum, (pseudo6_put _).2] at hlen
  · rwa [icmp6SetCksum, put_ne (.inl (by decide))] at hnxt

/-- A message of 32 bytes. -/
lemma icmp6Verifies_congr (h : Set.EqOn m m' (block 0 86)) (hlen : get16 m 18 = htons 32) :
    Icmp6Verifies m ↔ Icmp6Verifies m' := by
  have hlen' : get16 m' 18 = htons 32 := by
    rw [← hlen]
    exact (get16_congr (h.mono (Set.Ico_subset_Ico (by decide) (by decide)))).symm
  have hblock : ∀ off n, off + n ≤ 86 → wordSum m off n = wordSum m' off n := fun off n hle =>
    wordSum_congr (h.mono (Set.Ico_subset_Ico (Nat.zero_le _) (by omega)))
  rw [Icmp6Verifies, Icmp6Verifies, pseudo6, pseudo6, l4Len6, l4Len6]
  simp only [Nat.reduceAdd, hlen, hlen', hblock 22 32 (by decide),
    h (show 20 ∈ block 0 86 by decide)]
  rw [hblock 54 _ (by decide)]

end Cksum

/-! ### Where a frame goes -/

/-- The handlers of neighbours and of echo requests. -/
inductive Handler where
  | arp | icmp | icmp6 | other

/-- The handler that a frame gets to, and the mbuf that it is given. -/
def l3Handler (p : PortSpace) (m : RteMbuf) : Handler × RteMbuf :=
  if p.w.ws.vxlan then
    -- vxlan_input
    if vxlanCheck p m then (.other, m)
    else if m.data 23 = 1 then (.icmp, m)
    else if get16 m.data 12 = htons 0x0806 then (.arp, m)
    else (.other, m)
  else if p.w.ipv6 then
    -- ipv6_input
    if get16 m.data 12 = htons 0x86DD then
      if m.l4CksumBad then (.other, m)
      else if m.data 20 = 60 then
        let r := ipv6TrimOptions m
        if r.1 = 58 then (.icmp6, r.2) else (.other, m)
      else if m.data 20 = 58 then (.icmp6, m)
      else (.other, m)
    else (.other, m)
  else
    -- ipv4_input
    if get16 m.data 12 = htons 0x0800 then
      if m.ipCksumBad || m.l4CksumBad then (.other, m)
      else if isFragmented m then (.other, m)
      else
        match if m.data 14 &&& 0xF ≠ 5 then ipv4TrimOptions m else some m with
        | none => (.other, m)
        | some m' => if m.data 23 = 1 then (.icmp, m') else (.other, m)
    else if get16 m.data 12 = htons 0x0806 then (.arp, m)
    else (.other, m)

/-- The `l3_input` that a worker runs with. -/
def l3Input {n : ℕ} (p : PortSpace) (tcpInput udpInput : L4Input n) (m : RteMbuf) (s : Core n) :
    Core n :=
  if p.w.ws.vxlan then vxlanInput p tcpInput udpInput m s
  else if p.w.ipv6 then ipv6Input p tcpInput udpInput m s
  else ipv4Input p tcpInput udpInput m s

/-- A frame gets to the handler, whatever the handlers of TCP and UDP are. -/
lemma l3Input_handler {n : ℕ} (p : PortSpace) (tcpInput udpInput : L4Input n) (m : RteMbuf)
    (s : Core n) :
    match l3Handler p m with
    | (.arp, m') => l3Input p tcpInput udpInput m s = arpProcess p m' s
    | (.icmp, m') => l3Input p tcpInput udpInput m s = icmpProcess p m' s
    | (.icmp6, m') => l3Input p tcpInput udpInput m s = icmp6Process p m' s
    | (.other, _) => True := by
  rw [l3Handler, l3Input]
  by_cases hv : p.w.ws.vxlan = true
  · simp only [hv, if_true]
    rw [vxlanInput]
    split_ifs <;> trivial
  rw [if_neg hv, if_neg hv]
  by_cases h6 : p.w.ipv6 = true
  · rw [if_pos h6, if_pos h6, ipv6Input]
    by_cases htype : get16 m.data 12 = htons 0x86DD
    swap
    · rw [if_neg htype]
      trivial
    rw [if_pos htype, if_pos htype]
    by_cases hbad : m.l4CksumBad = true
    · rw [if_pos hbad]
      trivial
    rw [if_neg hbad, if_neg hbad]
    dsimp only
    by_cases hopt : m.data 20 = 60
    · rw [if_pos hopt, if_pos hopt]
      by_cases hproto : (ipv6TrimOptions m).1 = 58
      · rw [if_pos hproto, hproto]
        rfl
      · rw [if_neg hproto]
        trivial
    · rw [if_neg hopt, if_neg hopt]
      by_cases hproto : m.data 20 = 58
      · rw [if_pos hproto, hproto]
        rfl
      · rw [if_neg hproto]
        trivial
  · rw [if_neg h6, if_neg h6, ipv4Input]
    by_cases htype : get16 m.data 12 = htons 0x0800
    swap
    · rw [if_neg htype, if_neg htype]
      by_cases harp : get16 m.data 12 = htons 0x0806
      · rw [if_pos harp, if_pos harp]
      · rw [if_neg harp]
        trivial
    rw [if_pos htype, if_pos htype]
    by_cases hbad : (m.ipCksumBad || m.l4CksumBad) = true
    · rw [if_pos hbad]
      trivial
    rw [if_neg hbad, if_neg hbad]
    by_cases hfrag : isFragmented m = true
    · rw [if_pos hfrag]
      trivial
    rw [if_neg hfrag]
    dsimp only
    rw [if_neg hfrag]
    cases (if m.data 14 &&& 0xF ≠ 5 then ipv4TrimOptions m else some m) with
    | none => trivial
    | some m' =>
        dsimp only
        by_cases hproto : m.data 23 = 1
        · rw [if_pos hproto, hproto]
          rfl
        · rw [if_neg hproto]
          trivial

/-! ### The templates of a port -/

/-- What the templates of a worker are built of, but for the gateway's address; `tcp_init` builds
three of them, `udp_init` one. -/
structure TemplateSpec where
  w : WireSpace
  udpData : List UInt8
  udp : Bool

/-- The templates of a worker; `none` has `l2_len` zero. -/
abbrev Templates := Cache → Option (List UInt8)

/-- `tcp_init` and `udp_init`, with the gateway's address of the port. -/
def initTemplates (rte : Rte) (gatewayMac : EthAddr) (s : TemplateSpec) : Templates := fun c =>
  if s.udp = (c == .udp) then template rte { s.w with gatewayMac := gatewayMac } s.udpData c
  else none

/-- `mbuf_cache_set_dmac`. -/
def mbufCacheSetDmac (ea : EthAddr) (data : Option (List UInt8)) : Option (List UInt8) :=
  data.map fun data => ea.bytes ++ data.drop 6

/-- Only the first bytes of a template depend on the gateway's address. -/
lemma mbufCacheInit_gatewayMac (rte : Rte) (w : WireSpace) (l3 : List UInt8) :
    ∃ rest, ∀ ea : EthAddr, mbufCacheInit rte { w with gatewayMac := ea } l3 =
      if (ea.bytes ++ rest).length ≤ mbufDataSize then some (ea.bytes ++ rest) else none := by
  by_cases hv : w.ws.vxlan = true
  · refine ⟨(vxlanHeaders rte w (14 + l3.length)
      ++ ethHdr w.vxlan.innerDmac w.vxlan.innerSmac (etherType w) ++ l3).drop 6, fun ea => ?_⟩
    rw [mbufCacheInit]
    simp only [hv, if_true]
    rfl
  · refine ⟨(ethHdr .zero w.localMac (etherType w) ++ l3).drop 6, fun ea => ?_⟩
    rw [mbufCacheInit]
    simp only [hv]
    rfl

lemma mbufCacheInit_setDmac (rte : Rte) (w : WireSpace) (l3 : List UInt8) (old ea : EthAddr) :
    mbufCacheSetDmac ea (mbufCacheInit rte { w with gatewayMac := old } l3) =
      mbufCacheInit rte { w with gatewayMac := ea } l3 := by
  obtain ⟨rest, hrest⟩ := mbufCacheInit_gatewayMac rte w l3
  rw [hrest old, hrest ea, mbufCacheSetDmac]
  simp only [List.length_append, EthAddr.length_bytes]
  split_ifs
  · rw [Option.map_some, List.drop_left' old.length_bytes]
  · rfl

/-- `work_space_update_gw` makes the templates those of a port that is configured with the
address. -/
lemma initTemplates_setDmac (rte : Rte) (old ea : EthAddr) (s : TemplateSpec) :
    (fun c => mbufCacheSetDmac ea (initTemplates rte old s c)) = initTemplates rte ea s := by
  funext c
  rw [initTemplates, initTemplates]
  split_ifs
  · cases c <;> exact mbufCacheInit_setDmac rte s.w _ old ea
  · rfl

end Dperf.Wire
