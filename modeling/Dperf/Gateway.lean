import Dperf.Lib.Discovery
import Dperf.NeighbourFrames

/-!
How a port finds its gateway: the hosts of a network that ask each other with
`neigh_resolve_gateway_mac_address`.

* `Site`, `Lan`: the hosts, and what they have learned, with the frames on the wire.
* `receive_ask`, `receive_tell`: what a host makes of a question and of an answer.
* `Follows`: a network follows the discovery of `Lib.Discovery`, frame for message
  (`Follows.step`).
* `gateways_found`: what a host may take for its gateway, what becomes of its templates, and when
  the gateway can be found at all.
-/

namespace Dperf.Wire

open Memory OnesComplement Discovery

/-! ### The hosts of a network -/

/-- An address that is asked for. -/
inductive NetAddr where
  | v4 (ip : UInt32)
  | v6 (addr : In6Addr)
  deriving DecidableEq

/-- The ports on one network, with the addresses of `local_ip_range` or `vtep_local`, and what the
templates of their workers are built of. `checks` says that the network card judges the checksums
of ICMPv6. Where a port has VXLAN, all ports are on IPv4, and none has an address whose second byte
is `IPPROTO_ICMP` or `IPPROTO_UDP`: `vxlan_input` reads the protocol from this byte of an ARP frame
before it looks at the type. -/
structure Site (ι : Type*) where
  rte : Rte
  port : ι → PortSpace
  addrs : ι → List UInt32
  workers : ι → List TemplateSpec
  checks : ι → Bool
  configCheckAf : ∀ i, (port i).portIpv6 = ((port i).w.ipv6 && !(port i).w.ws.vxlan)
  medium : (∀ i, (port i).w.ws.vxlan = false) ∨
    ∀ i, (port i).w.localMac.b1 ≠ 1 ∧ (port i).w.localMac.b1 ≠ 17 ∧ (port i).portIpv6 = false

/-- What the ports have learned: the gateways' addresses and the templates of the workers; and the
frames that have been sent, each by whom. -/
structure Lan (ι : Type*) where
  gatewayMac : ι → EthAddr
  templates : ι → List Templates
  wire : List (ι × List UInt8)

namespace Site

variable {ι : Type*} (S : Site ι)

/-- The ports before anybody has sent: `gateway_mac` is the configured one, or zero. -/
def start : Lan ι where
  gatewayMac := fun i => (S.port i).w.gatewayMac
  templates := fun i => (S.workers i).map (initTemplates S.rte (S.port i).w.gatewayMac)
  wire := []

/-- The address that a port asks for. -/
def gateway (i : ι) : NetAddr :=
  if (S.port i).portIpv6 then .v6 (S.port i).gatewayIp else .v4 (S.port i).gatewayIp.w3

/-- The addresses that a port answers for. -/
def Answers (i : ι) : NetAddr → Prop
  | .v4 ip => (S.port i).portIpv6 = false ∧ workSpaceIpExist (S.port i) ip = true ∧
      ¬ ((S.port i).neighIgnore = true ∧ ip ≠ (S.port i).localIp.w3)
  | .v6 addr => (S.port i).portIpv6 = true ∧ workSpaceIp6Exist (S.port i) addr = true ∧
      ¬ ((S.port i).neighIgnore = true ∧ (S.port i).localIp = addr)

/-- The ports as parties that find each other. -/
def parties : Parties ι NetAddr EthAddr where
  none := .zero
  address := fun i => (S.port i).w.localMac
  wants := S.gateway
  Answers := S.Answers

/-- `neigh_resolve_gateway_mac_address`: the frames that are sent; `alloc` says which mbufs can be
allocated. -/
def neighResolveGatewayMacAddress (i : ι) (queueId : UInt8) (alloc : ℕ → Bool) :
    List (List UInt8) :=
  let requests :=
    if queueId ≠ 0 then []
    else if (S.port i).portIpv6 then icmp6NsRequest S.rte (S.port i)
    else arpRequestGw (S.port i) (S.addrs i)
  (requests.zipIdx.filter fun r => alloc r.2).map Prod.fst

/-- What is made of a received frame: the address that `work_space_update_gw` is given, if it is
called, and the mbuf that is sent, if any. -/
def receive (i : ι) (gatewayMac : EthAddr) (m : RteMbuf) : Option EthAddr × Option RteMbuf :=
  match l3Handler (S.port i) m with
  | (.arp, m') => (arpGateway (S.port i) gatewayMac m', arpAnswer (S.port i) m')
  | (.icmp, m') => (none, icmpReply S.rte (S.port i).w m')
  | (.icmp6, m') => (icmp6Gateway (S.port i) gatewayMac m', icmp6Answer S.rte (S.port i) m')
  | (.other, _) => (none, none)

/-- The network card flags a wrong checksum of ICMPv6, if it checks them. -/
def Judged (i : ι) (m : RteMbuf) : Prop :=
  get16 m.data 12 = htons 0x86DD →
    m.l4CksumBad = (S.checks i && !decide (Icmp6Verifies m.data))

end Site

/-- `work_space_update_gw`, if there is an address. -/
def Lan.updateGw {ι : Type*} [DecidableEq ι] (l : Lan ι) (i : ι) : Option EthAddr → Lan ι
  | none => l
  | some ea => { l with
      gatewayMac := Function.update l.gatewayMac i ea
      templates := Function.update l.templates i
        ((l.templates i).map fun t c => mbufCacheSetDmac ea (t c)) }

/-- A worker asks, a port receives what another one has sent, or frames get lost. -/
inductive Site.Step {ι : Type*} [DecidableEq ι] (S : Site ι) : Lan ι → Lan ι → Prop
  | resolve (l : Lan ι) (i : ι) (queueId : UInt8) (alloc : ℕ → Bool) :
      S.Step l { l with
        wire := (S.neighResolveGatewayMacAddress i queueId alloc).map (i, ·) ++ l.wire }
  | receive (l : Lan ι) {i j : ι} {m : RteMbuf} (hne : i ≠ j) (hm : (i, m.frame) ∈ l.wire)
      (hj : S.Judged j m) :
      S.Step l { l.updateGw j (S.receive j (l.gatewayMac j) m).1 with
        wire := ((S.receive j (l.gatewayMac j) m).2.map fun out => (j, out.frame)).toList ++
          l.wire }
  | lose (l : Lan ι) {wire : List (ι × List UInt8)} (hsub : wire ⊆ l.wire) :
      S.Step l { l with wire := wire }

/-- Any number of steps. -/
abbrev Site.Runs {ι : Type*} [DecidableEq ι] (S : Site ι) : Lan ι → Lan ι → Prop :=
  Relation.ReflTransGen S.Step

/-! ### What a frame says -/

namespace Site

variable {ι : Type*} {S : Site ι}

/-- The frame of `i` is a question or an answer. -/
def Says (S : Site ι) (i : ι) (frame : List UInt8) : Message NetAddr EthAddr → Prop
  | .ask (.v4 ip) => ∃ sip, frame = arpSetRequest (S.port i).w.localMac ip sip
  | .tell (.v4 ip) mac => mac = (S.port i).w.localMac ∧ ∃ dmac dip,
      frame = ethHdr dmac mac 0x0806 ++ arpSetArphdr 2 ip dip mac dmac
  | .ask (.v6 addr) => (S.port i).portIpv6 = true ∧ Icmp6Verifies (image frame) ∧
      ∃ dmac src dst cksum, frame = ndFrame dmac (S.port i).w.localMac src dst ndNeighborSolicit
        cksum 0 addr 1
  | .tell (.v6 addr) mac => (S.port i).portIpv6 = true ∧ Icmp6Verifies (image frame) ∧
      mac = (S.port i).w.localMac ∧ ∃ dmac dst cksum,
        frame = ndFrame dmac mac addr dst ndNeighborAdvert cksum 0x60 addr 2

lemma vxlan_of_ipv6 {i j : ι} (h : (S.port i).portIpv6 = true) : (S.port j).w.ws.vxlan = false := by
  rcases S.medium with hm | hm
  · exact hm j
  · exact absurd (h.symm.trans (hm i).2.2) (by decide)

/-! ### ARP -/

/-- Where an ARP frame goes that was sent by `i`. -/
lemma l3Handler_arp {i j : ι} {m : RteMbuf} (htype : get16 m.data 12 = htons 0x0806)
    (hsha : Stands m.data 22 (S.port i).w.localMac.bytes) :
    l3Handler (S.port j) m = (if (S.port j).portIpv6 then .other else .arp, m) := by
  have hbyte : m.data 23 = (S.port i).w.localMac.b1 := (stands_cons.mp (stands_cons.mp hsha).2).1
  have hne6 : htons 0x0806 ≠ htons 0x86DD := by decide
  have hne4 : htons 0x0806 ≠ htons 0x0800 := by decide
  rw [l3Handler, S.configCheckAf j]
  by_cases hv : (S.port j).w.ws.vxlan = true
  · obtain ⟨hicmp, hudp, -⟩ := S.medium.resolve_left (fun h => by simp [h j] at hv) i
    have hcheck : ¬ vxlanCheck (S.port j) m = true := by
      simp [vxlanCheck, hbyte, hudp]
    simp [hv, hcheck, hbyte, hicmp, htype]
  · by_cases h6 : (S.port j).w.ipv6 = true
    · simp [hv, h6, htype, hne6]
    · simp [hv, h6, htype, hne4]

variable {i j : ι} {m : RteMbuf} {g mac : EthAddr}

/-- A request gets an answer from who has the address. -/
lemma receive_arpRequest {ip sip : UInt32}
    (hm : m.frame = arpSetRequest (S.port i).w.localMac ip sip) :
    (S.Answers j (.v4 ip) → ∃ out, S.receive j g m = (none, some out) ∧
      S.Says j out.frame (.tell (.v4 ip) (S.port j).w.localMac)) ∧
    (¬ S.Answers j (.v4 ip) → S.receive j g m = (none, none)) := by
  obtain ⟨hlen, hstands⟩ := frame_eq_iff.mp hm
  obtain ⟨hsrc, htype, hop, hsha, hsip, htip⟩ := stands_arpFrame hstands
  have hop' := hop.get16_eq
  have hreceive : S.receive j g m =
      if (S.port j).portIpv6 then (none, none) else (none, arpAnswer (S.port j) m) := by
    have hne : htons 1 ≠ htons 2 := by decide
    rw [Site.receive, l3Handler_arp htype.get16_eq hsha]
    cases (S.port j).portIpv6
    · simp [arpGateway, hop', hne]
    · rfl
  have hanswer : arpAnswer (S.port j) m =
      if workSpaceIpExist (S.port j) ip = false then none
      else if (S.port j).neighIgnore = true ∧ ip ≠ (S.port j).localIp.w3 then none
      else some (arpReply (S.port j) m) := by
    rw [arpAnswer, if_pos hop', htip.get32_eq]
  rw [hreceive, hanswer]
  constructor
  · rintro ⟨h4, hexist, hlocal⟩
    refine ⟨arpReply (S.port j) m, ?_, rfl, ethAt m.data 6, get32 m.data 28, ?_⟩
    · simp [h4, hexist, hlocal]
    · refine frame_eq_iff.mpr ⟨hlen, ?_⟩
      rw [arpReply, htip.get32_eq]
      show Stands (put m.data 0 _) 0 _
      exact stands_put
  · intro hno
    by_cases h6 : (S.port j).portIpv6 = true
    · rw [if_pos h6]
    · rw [if_neg h6]
      split_ifs with hexist hlocal
      · rfl
      · rfl
      · exact absurd ⟨by simpa using h6, by simpa using hexist, hlocal⟩ hno

/-- An answer is taken by who asks for the address and does not know it yet. -/
lemma receive_arpReply {dmac : EthAddr} {ip dip : UInt32}
    (hm : m.frame = ethHdr dmac (S.port i).w.localMac 0x0806 ++
      arpSetArphdr 2 ip dip (S.port i).w.localMac dmac) :
    S.receive j g m =
      (if S.gateway j = .v4 ip ∧ g = .zero then some (S.port i).w.localMac else none,
        none) := by
  obtain ⟨hlen, hstands⟩ := frame_eq_iff.mp hm
  obtain ⟨hsrc, htype, hop, hsha, hsip, -⟩ := stands_arpFrame hstands
  have hop' := hop.get16_eq
  rw [Site.receive, l3Handler_arp htype.get16_eq hsha, Site.gateway]
  cases h6 : (S.port j).portIpv6
  · have hne : htons 2 ≠ htons 1 := by decide
    simp [arpGateway, arpAnswer, hop', hne, hsip.get32_eq, ethAt_eq hsrc, ethAddrIsZero_iff]
  · simp

/-! ### Neighbour discovery -/

lemma eqOn_image (m : RteMbuf) : Set.EqOn m.data (image m.frame) (block 0 m.dataLen) := by
  intro i hi
  have hlt : i < m.dataLen := by simpa using hi.2
  simp [image, RteMbuf.frame, bytes, hlt]

section Nd

variable {dmac : EthAddr} {src dst target : In6Addr} {type : UInt8} {cksum : UInt16}
  {flags : UInt32} {opt : UInt8}

lemma length_ndFrame :
    (ndFrame dmac mac src dst type cksum flags target opt).length = 86 := by
  simp [ndFrame, ethHdr]

/-- What the handlers read of a solicitation or an advertisement. -/
structure IsNd (m : RteMbuf) (mac : EthAddr) (src : In6Addr) (type : UInt8) (target : In6Addr) :
    Prop where
  dataLen : m.dataLen = 86
  mac : ethAt m.data 6 = mac
  etherType : get16 m.data 12 = htons 0x86DD
  plen : get16 m.data 18 = htons 32
  nxt : m.data 20 = 58
  hops : m.data 21 = 255
  src : in6At m 22 = src
  type : m.data 54 = type
  code : m.data 55 = 0
  target : in6At m 62 = target

lemma isNd (hm : m.frame = ndFrame dmac mac src dst type cksum flags target opt) :
    IsNd m mac src type target := by
  obtain ⟨hlen, hstands⟩ := frame_eq_iff.mp hm
  obtain ⟨-, hmac, hether, -, hplen, hnxt, hsrc, -, htype, -, -, htarget, -, -⟩ :=
    stands_ndFrame.mp hstands
  obtain ⟨hnxt, hhops, -⟩ := by simpa only [stands_cons] using hnxt
  obtain ⟨htype, hcode, -⟩ := by simpa only [stands_cons] using htype
  exact ⟨hlen.trans length_ndFrame, ethAt_eq hmac, hether.get16_eq, hplen.get16_eq, hnxt, hhops,
    in6At_eq hsrc, htype, hcode, in6At_eq htarget⟩

/-- Where a solicitation or an advertisement goes. -/
lemma l3Handler_nd (h6 : (S.port i).portIpv6 = true) (h : IsNd m mac src type target)
    (hv : Icmp6Verifies (image m.frame)) (hj : S.Judged j m) :
    l3Handler (S.port j) m = (if (S.port j).portIpv6 then .icmp6 else .other, m) := by
  have hdata : Icmp6Verifies m.data :=
    (icmp6Verifies_congr (h.dataLen ▸ eqOn_image m) h.plen).mpr hv
  have hbad : m.l4CksumBad = false := by
    rw [hj h.etherType, decide_eq_true hdata]
    simp
  have hne4 : htons 0x86DD ≠ htons 0x0800 := by decide
  have hne : htons 0x86DD ≠ htons 0x0806 := by decide
  rw [l3Handler, S.configCheckAf j, vxlan_of_ipv6 h6]
  by_cases hj6 : (S.port j).w.ipv6 = true
  · simp [hj6, h.etherType, hbad, h.nxt]
  · simp [hj6, h.etherType, hne4, hne]

/-- An advertisement is taken by who asks for the address and does not know it yet. -/
lemma receive_advert (h6 : (S.port i).portIpv6 = true)
    (hm : m.frame = ndFrame dmac mac src dst ndNeighborAdvert cksum flags target opt)
    (hv : Icmp6Verifies (image m.frame)) (hj : S.Judged j m) :
    S.receive j g m =
      (if S.gateway j = .v6 src ∧ g = .zero then some mac else none, none) := by
  have h := isNd hm
  rw [Site.receive, l3Handler_nd h6 h hv hj, Site.gateway]
  have hecho : ndNeighborAdvert ≠ icmp6EchoRequest := by decide
  have hns : ndNeighborAdvert ≠ ndNeighborSolicit := by decide
  cases (S.port j).portIpv6
  · simp
  · simp [icmp6Gateway, icmp6Answer, h.code, h.type, hecho, hns, h.src, h.mac, ethAddrIsZero_iff]

/-- The answer to a solicitation, over its bytes. -/
lemma icmp6NsAnswer_frame (hr : S.rte.Rfc1071)
    (hm : m.frame = ndFrame dmac mac src dst ndNeighborSolicit cksum flags target opt)
    (hexist : workSpaceIp6Exist (S.port j) target = true)
    (hlocal : ¬ ((S.port j).neighIgnore = true ∧ (S.port j).localIp = target)) :
    ∃ out cksum', icmp6NsAnswer S.rte (S.port j) m = some out ∧
      out.frame = ndFrame mac (S.port j).w.localMac target src ndNeighborAdvert cksum' 0x60 target
        2 ∧ Icmp6Verifies (image out.frame) := by
  have h := isNd hm
  obtain ⟨hlen, hstands⟩ := frame_eq_iff.mp hm
  obtain ⟨-, -, hether, hvfc, hplen, hnxt, -, -, -, -, -, htarget, -, -⟩ :=
    stands_ndFrame.mp hstands
  let data := put (put (put (put m.data 0 mac.bytes) 6 (S.port j).w.localMac.bytes) 38 src.bytes)
    22 target.bytes
  let data' := icmp6NdNaSet (S.port j).w.localMac data
  let out : RteMbuf := { m with data := icmp6SetCksum S.rte data' }
  have hanswer : icmp6NsAnswer S.rte (S.port j) m = some out := by
    rw [icmp6NsAnswer, h.target, h.mac, h.src, h.hops, if_neg (by simp [hexist]), if_neg hlocal]
  have hout : Stands out.data 0 (ndFrame mac (S.port j).w.localMac target src ndNeighborAdvert
      (S.rte.ipv6UdptcpCksum (put data' 56 (le16 0)) 14 54) 0x60 target 2) := by
    rw [stands_ndFrame]
    simp (disch := simp) only [out, data', data, icmp6SetCksum, icmp6NdNaSet, stands_put_ne,
      stands_put, hether, hvfc, hplen, hnxt, htarget, and_self]
  have hframe := frame_eq_iff (m := out).mpr ⟨h.dataLen.trans length_ndFrame.symm, hout⟩
  have hnd := isNd hframe
  have hright : Icmp6Verifies out.data := by
    refine icmp6SetCksum_verifies hr ?_ ?_
    · show 4 ≤ l4Len6 out.data 14
      rw [l4Len6, hnd.plen]
      decide
    · exact hnd.nxt.trans_ne (by decide)
  exact ⟨out, _, hanswer, hframe,
    (icmp6Verifies_congr (hnd.dataLen ▸ eqOn_image out) hnd.plen).mp hright⟩

/-- A solicitation gets an answer from who has the address. -/
lemma receive_solicit (hr : S.rte.Rfc1071) (h6 : (S.port i).portIpv6 = true)
    (hm : m.frame = ndFrame dmac mac src dst ndNeighborSolicit cksum flags target opt)
    (hv : Icmp6Verifies (image m.frame)) (hj : S.Judged j m) :
    (S.Answers j (.v6 target) → ∃ out, S.receive j g m = (none, some out) ∧
      S.Says j out.frame (.tell (.v6 target) (S.port j).w.localMac)) ∧
    (¬ S.Answers j (.v6 target) → S.receive j g m = (none, none)) := by
  have h := isNd hm
  have hecho : ndNeighborSolicit ≠ icmp6EchoRequest := by decide
  have hna : ndNeighborSolicit ≠ ndNeighborAdvert := by decide
  have hreceive : S.receive j g m =
      if (S.port j).portIpv6 then (none, icmp6NsAnswer S.rte (S.port j) m) else (none, none) := by
    rw [Site.receive, l3Handler_nd h6 h hv hj]
    cases (S.port j).portIpv6
    · rfl
    · simp [icmp6Gateway, icmp6Answer, h.code, h.type, hecho, hna]
  rw [hreceive]
  constructor
  · rintro ⟨hj6, hexist, hlocal⟩
    obtain ⟨out, cksum', hout, hframe, hv'⟩ := icmp6NsAnswer_frame hr hm hexist hlocal
    rw [if_pos hj6, hout]
    exact ⟨out, rfl, hj6, hv', rfl, mac, src, cksum', hframe⟩
  · intro hno
    by_cases hj6 : (S.port j).portIpv6 = true
    · rw [if_pos hj6, icmp6NsAnswer, h.target]
      dsimp only
      split_ifs with hdrop hlocal
      · rfl
      · rfl
      · rw [not_or, Bool.not_eq_false] at hdrop
        exact absurd ⟨hj6, hdrop.1, hlocal⟩ hno
    · rw [if_neg hj6]

end Nd

/-! ### Questions and answers -/

/-- **A question** is answered by who has the address, and by nobody else. -/
lemma receive_ask (hr : S.rte.Rfc1071) {a : NetAddr} (hm : S.Says i m.frame (.ask a))
    (hj : S.Judged j m) :
    (S.Answers j a → ∃ out, S.receive j g m = (none, some out) ∧
      S.Says j out.frame (.tell a (S.port j).w.localMac)) ∧
    (¬ S.Answers j a → S.receive j g m = (none, none)) := by
  cases a with
  | v4 ip =>
      obtain ⟨sip, hframe⟩ := hm
      exact receive_arpRequest hframe
  | v6 addr =>
      obtain ⟨h6, hv, dmac, src, dst, cksum, hframe⟩ := hm
      exact receive_solicit hr h6 hframe hv hj

/-- **An answer** is taken by who asks for the address and does not know it yet. -/
lemma receive_tell {a : NetAddr} (hm : S.Says i m.frame (.tell a mac)) (hj : S.Judged j m) :
    S.receive j g m =
      (if S.gateway j = a ∧ g = .zero then some mac else none, none) := by
  cases a with
  | v4 ip =>
      obtain ⟨rfl, dmac, dip, hframe⟩ := hm
      exact receive_arpReply hframe
  | v6 addr =>
      obtain ⟨h6, hv, -, dmac, dst, cksum, hframe⟩ := hm
      exact receive_advert h6 hframe hv hj

/-- The checksum of a solicitation that a port sends. -/
lemma icmp6NsRequest_verifies {rte : Rte} (hr : rte.Rfc1071) {p : PortSpace} {frame : List UInt8}
    (hf : frame ∈ icmp6NsRequest rte p) : Icmp6Verifies (image frame) ∧ ∃ dmac src dst cksum,
      frame = ndFrame dmac p.w.localMac src dst ndNeighborSolicit cksum 0 p.gatewayIp 1 := by
  rw [icmp6NsRequest] at hf
  split_ifs at hf with h6
  · exact absurd hf List.not_mem_nil
  let ns := fun cksum => ndFrame (icmp6MulticastEtherAddr p.gatewayIp) p.w.localMac p.localIp
    (icmp6MulticastIp6Addr p.gatewayIp) ndNeighborSolicit cksum 0 p.gatewayIp 1
  obtain rfl : frame = ns (rte.ipv6UdptcpCksum (image (ns 0)) 14 54) := List.mem_singleton.mp hf
  refine ⟨?_, _, _, _, _, rfl⟩
  -- the frame is the one with a cleared checksum, but for the checksum
  have hzero : Stands (image (ns 0)) 0 (ns 0) := stands_getD
  obtain ⟨hd, hs, hether, hvfc, hplen, hnxt, hsrc, hdst, htype, hck, hfl, ht, ho, hm⟩ :=
    stands_ndFrame.mp hzero
  set cksum := rte.ipv6UdptcpCksum (image (ns 0)) 14 54
  have hput : Stands (put (image (ns 0)) 56 (le16 cksum)) 0 (ns cksum) := by
    rw [stands_ndFrame]
    simp (disch := simp) only [stands_put_ne, stands_put, hd, hs, hether, hvfc, hplen, hnxt, hsrc,
      hdst, htype, hfl, ht, ho, hm, and_self]
  obtain ⟨hnxt, -⟩ := by simpa only [stands_cons] using hnxt
  have hright : Icmp6Verifies (put (image (ns 0)) 56 (le16 cksum)) := by
    refine icmp6Verifies_put hr hck.get16_eq ?_ ?_
    · rw [l4Len6, hplen.get16_eq]
      decide
    · rw [hnxt]
      decide
  refine (icmp6Verifies_congr (fun k hk => ?_) ?_).mp hright
  · have hlt : k < (ns cksum).length := by
      rw [length_ndFrame]
      exact hk.2
    have hframe : Stands (image (ns cksum)) 0 (ns cksum) := stands_getD
    have hk' := (hput k hlt).trans (hframe k hlt).symm
    rwa [Nat.zero_add] at hk'
  · rw [get16_put_ne (.inl (by decide)), hplen.get16_eq]

/-- What a port sends to find its gateway is a question for it. -/
lemma says_request (hr : S.rte.Rfc1071) {queueId : UInt8} {alloc : ℕ → Bool} {frame : List UInt8}
    (hf : frame ∈ S.neighResolveGatewayMacAddress i queueId alloc) :
    S.Says i frame (.ask (S.gateway i)) := by
  have hmem : frame ∈ (if queueId ≠ 0 then []
      else if (S.port i).portIpv6 then icmp6NsRequest S.rte (S.port i)
      else arpRequestGw (S.port i) (S.addrs i)) := by
    obtain ⟨r, hr, rfl⟩ := List.mem_map.mp hf
    exact List.fst_mem_of_mem_zipIdx (List.mem_of_mem_filter hr)
  by_cases hq : queueId ≠ 0
  · rw [if_pos hq] at hmem
    exact absurd hmem List.not_mem_nil
  rw [if_neg hq] at hmem
  by_cases h6 : (S.port i).portIpv6 = true
  · rw [if_pos h6] at hmem
    obtain ⟨hv, hframe⟩ := icmp6NsRequest_verifies hr hmem
    rw [Site.gateway, if_pos h6]
    exact ⟨h6, hv, hframe⟩
  · rw [if_neg h6, arpRequestGw, if_neg h6] at hmem
    obtain ⟨sip, -, rfl⟩ := List.mem_map.mp hmem
    rw [Site.gateway, if_neg h6]
    exact ⟨sip, rfl⟩

/-- Where mbufs can be allocated, the worker of the first queue does ask. -/
lemma exists_request (S : Site ι) (i : ι) :
    ∃ frame, frame ∈ S.neighResolveGatewayMacAddress i 0 fun _ => true := by
  have hall : ∀ l : List (List UInt8),
      (l.zipIdx.filter fun _ => true).map Prod.fst = l := fun l => by simp
  rw [neighResolveGatewayMacAddress]
  simp only [hall]
  by_cases h6 : (S.port i).portIpv6 = true
  · have hw : (S.port i).w.ipv6 = true := by
      have haf := (S.configCheckAf i).symm.trans h6
      rw [Bool.and_eq_true] at haf
      exact haf.1
    simp [h6, icmp6NsRequest, hw]
  · simp [h6, arpRequestGw]

/-! ### Runs -/

/-- The network follows the discovery: its ports know what the parties know, its frames say no more
than has been said, and its templates are those of a port that is configured with what it knows. -/
structure Follows (S : Site ι) (l : Lan ι) (s : State ι NetAddr EthAddr) : Prop where
  known : s.known = l.gatewayMac
  said : ∀ i frame, (i, frame) ∈ l.wire → ∃ msg, (i, msg) ∈ s.said ∧ S.Says i frame msg
  templates : ∀ i, l.templates i = (S.workers i).map (initTemplates S.rte (l.gatewayMac i))

lemma follows_start (S : Site ι) : S.Follows S.start ⟨S.start.gatewayMac, ∅⟩ where
  known := rfl
  said := fun _ _ h => absurd h List.not_mem_nil
  templates := fun _ => rfl

/-- One more frame, and one more message. -/
lemma Follows.send {l : Lan ι} {s : State ι NetAddr EthAddr} (h : S.Follows l s)
    {frames : List (List UInt8)} {msg : Message NetAddr EthAddr}
    (hf : ∀ frame ∈ frames, S.Says i frame msg) :
    S.Follows { l with wire := frames.map (i, ·) ++ l.wire }
      { s with said := insert (i, msg) s.said } := by
  refine ⟨h.known, fun k frame hk => ?_, h.templates⟩
  rcases List.mem_append.mp hk with hk | hk
  · obtain ⟨frame, hmem, heq⟩ := List.mem_map.mp hk
    cases heq
    exact ⟨msg, Set.mem_insert _ _, hf frame hmem⟩
  · obtain ⟨msg', hsaid, hsays⟩ := h.said k frame hk
    exact ⟨msg', Set.mem_insert_of_mem _ hsaid, hsays⟩

variable [DecidableEq ι]

/-- An address is learned, and the templates are changed. -/
lemma Follows.updateGw {l : Lan ι} {s : State ι NetAddr EthAddr} (h : S.Follows l s) (i : ι)
    (ea : EthAddr) : S.Follows (l.updateGw i (some ea))
      { s with known := Function.update s.known i ea } := by
  refine ⟨by rw [h.known]; rfl, h.said, fun k => ?_⟩
  by_cases hk : k = i
  · subst hk
    simp only [Lan.updateGw, Function.update_self]
    rw [h.templates, List.map_map]
    exact List.map_congr_left fun t _ => initTemplates_setDmac S.rte _ ea t
  · simp only [Lan.updateGw, Function.update_of_ne hk]
    exact h.templates k

/-- **A step of the network** is at most a step of the discovery. -/
lemma Follows.step (hr : S.rte.Rfc1071) {l l' : Lan ι} {s : State ι NetAddr EthAddr}
    (h : S.Follows l s) (hstep : S.Step l l') :
    ∃ s', Discovery.Runs S.parties s s' ∧ S.Follows l' s' := by
  cases hstep with
  | resolve i queueId alloc =>
      exact ⟨_, .single (.ask s i), h.send fun frame hf => says_request hr hf⟩
  | @receive i j m hne hm hj =>
      obtain ⟨msg, hsaid, hsays⟩ := h.said i m.frame hm
      cases msg with
      | ask a =>
          obtain ⟨hyes, hno⟩ := receive_ask (g := l.gatewayMac j) hr hsays hj
          by_cases ha : S.Answers j a
          · obtain ⟨out, hreceive, hout⟩ := hyes ha
            refine ⟨_, .single (.tell s hne hsaid ha), ?_⟩
            rw [hreceive]
            have hsays' : ∀ frame ∈ [out.frame],
                S.Says j frame (.tell a (S.parties.address j)) := fun frame hf => by
              rw [List.mem_singleton.mp hf]
              exact hout
            exact h.send hsays'
          · refine ⟨s, .refl, ?_⟩
            rw [hno ha]
            exact h
      | tell a mac =>
          rw [receive_tell hsays hj]
          split_ifs with hlearn
          · obtain ⟨rfl, hnone⟩ := hlearn
            refine ⟨_, .single (.learn s hne hsaid ?_), h.updateGw j mac⟩
            rw [h.known]
            exact hnone
          · exact ⟨s, .refl, h⟩
  | lose hsub => exact ⟨s, .refl, h.known, fun i frame hf => h.said i frame (hsub hf), h.templates⟩

lemma Follows.runs (hr : S.rte.Rfc1071) {l l' : Lan ι} {s : State ι NetAddr EthAddr}
    (h : S.Follows l s) (hruns : S.Runs l l') :
    ∃ s', Discovery.Runs S.parties s s' ∧ S.Follows l' s' := by
  induction hruns with
  | refl => exact ⟨s, .refl, h⟩
  | tail _ hstep ih =>
      obtain ⟨s', hs', hf⟩ := ih
      obtain ⟨s'', hs'', hf'⟩ := hf.step hr hstep
      exact ⟨s'', hs'.trans hs'', hf'⟩

/-- The network can do what the discovery can: a question, its answer, and what is made of it. -/
lemma runs_learn (hr : S.rte.Rfc1071) {l : Lan ι} (hne : j ≠ i) (ha : S.Answers j (S.gateway i))
    (hnone : l.gatewayMac i = .zero) :
    ∃ l', S.Runs l l' ∧ l'.gatewayMac i = (S.port j).w.localMac := by
  -- what the network card makes of a frame
  have hmbuf : ∀ (k : ι) (frame : List UInt8), ∃ m : RteMbuf, m.frame = frame ∧ S.Judged k m := by
    intro k frame
    refine ⟨⟨0, image frame, frame.length, false,
      S.checks k && !decide (Icmp6Verifies (image frame))⟩, ?_, fun _ => rfl⟩
    exact frame_eq_iff.mpr ⟨rfl, stands_getD⟩
  obtain ⟨frame, hframe⟩ := S.exists_request i
  have hask := says_request hr hframe
  let asked : Lan ι := { l with
    wire := (S.neighResolveGatewayMacAddress i 0 fun _ => true).map (i, ·) ++ l.wire }
  have hresolve : S.Step l asked := .resolve l i 0 _
  obtain ⟨m, rfl, hj⟩ := hmbuf j frame
  obtain ⟨out, hreceive, hout⟩ := (receive_ask (g := l.gatewayMac j) hr hask hj).1 ha
  let answered : Lan ι := { l with wire := (j, out.frame) :: asked.wire }
  have hanswer : S.Step asked answered := by
    have hmem : (i, m.frame) ∈ asked.wire :=
      List.mem_append_left _ (List.mem_map_of_mem (f := (i, ·)) hframe)
    have hstep := Step.receive asked hne.symm hmem hj
    rwa [show asked.gatewayMac j = l.gatewayMac j from rfl, hreceive] at hstep
  obtain ⟨m', hm', hi⟩ := hmbuf i out.frame
  have hlearn := Step.receive answered hne (hm' ▸ List.mem_cons_self) hi
  rw [receive_tell (hm' ▸ hout) hi, if_pos ⟨rfl, hnone⟩] at hlearn
  refine ⟨_, ((Relation.ReflTransGen.single hresolve).tail hanswer).tail hlearn, ?_⟩
  exact Function.update_self _ _ _

end Site

/-- **The gateways of a network of dperf ports.** Over any network that loses, repeats and reorders
frames: a port's address of the gateway is the configured one, or, where none was configured, that
of another port which answers for the address asked for; the templates of its workers are those
that it would have had with this address configured; and a port that knows no address can come to
know one exactly if another port with an address answers. -/
theorem gateways_found {ι : Type*} [DecidableEq ι] {S : Site ι} (hr : S.rte.Rfc1071) {l : Lan ι}
    (hl : S.Runs S.start l) (i : ι) :
    (l.gatewayMac i = (S.port i).w.gatewayMac ∨
      (S.port i).w.gatewayMac = .zero ∧ S.parties.Has i (l.gatewayMac i)) ∧
    l.templates i = (S.workers i).map (initTemplates S.rte (l.gatewayMac i)) ∧
    ((∃ l', S.Runs l l' ∧ l'.gatewayMac i ≠ .zero) ↔
      l.gatewayMac i ≠ .zero ∨ ∃ mac, S.parties.Has i mac ∧ mac ≠ .zero) := by
  obtain ⟨s, hs, hf⟩ := S.follows_start.runs hr hl
  have htrue := (truthful_start (P := S.parties) rfl).runs hs
  have hknown := htrue.known i
  rw [hf.known] at hknown
  refine ⟨hknown, hf.templates i, ?_⟩
  by_cases hi : l.gatewayMac i = .zero
  swap
  · exact iff_of_true ⟨l, .refl, hi⟩ (.inl hi)
  constructor
  · rintro ⟨l', hl', hi'⟩
    obtain ⟨s', hs', hf'⟩ := hf.runs hr hl'
    refine .inr (has_of_learns htrue hs' ?_ ?_)
    · rw [hf.known]
      exact hi
    · rw [hf'.known]
      exact hi'
  · rintro (hi' | ⟨mac, ⟨j, hne, ha, rfl⟩, hmac⟩)
    · exact absurd hi hi'
    · obtain ⟨l', hl', heq⟩ := Site.runs_learn hr hne ha hi
      exact ⟨l', hl', heq ▸ hmac⟩

/-- An IPv6 port whose gateway is another one. -/
def PortSpace.pointing (localMac : EthAddr) (localIp gatewayIp : In6Addr) : PortSpace where
  w := { WireSpace.single true false with
    localMac := localMac
    gatewayMac := .zero
    ws := { WorkSpace.single .single with localIp := htonl localIp.w3 } }
  d := PortSpace.single.d
  queueId := 0
  txBurst := 1
  vtepIp := 0
  vni := 0
  neighIgnore := false
  portIpv6 := true
  localIp := localIp
  gatewayIp := gatewayIp
  localIpRange := ⟨localIp, fun _ => 0⟩
  vtepLocal := fun _ => 0
  bond := false
  bondMode := 0
  pciNum := 1
  kni := false
  localIp_eq := rfl

/-- Two ports, each the gateway of the other. Their network cards check ICMPv6. -/
def Site.two : Site Bool where
  rte := .rfc1071
  port
    | false => .pointing ⟨2, 0, 0, 0, 0, 1⟩ ⟨0, 0, 0, htonl 1⟩ ⟨0, 0, 0, htonl 2⟩
    | true => .pointing ⟨2, 0, 0, 0, 0, 2⟩ ⟨0, 0, 0, htonl 2⟩ ⟨0, 0, 0, htonl 1⟩
  addrs := fun _ => []
  workers := fun _ => [⟨.single true false, [], false⟩]
  checks := fun _ => true
  configCheckAf := by decide
  medium := .inl (by decide)

/-- The first one can find the second one. -/
theorem gateways_found_two :
    ∃ l', Site.two.Runs Site.two.start l' ∧ l'.gatewayMac false ≠ .zero := by
  have hstart : Site.two.Runs Site.two.start Site.two.start := .refl
  have hr : Site.two.rte.Rfc1071 := Rte.rfc1071_rfc1071
  refine (gateways_found hr hstart false).2.2.mpr
    (.inr ⟨⟨2, 0, 0, 0, 0, 2⟩, ⟨true, ?_, ?_, rfl⟩, ?_⟩)
  · decide
  · exact ⟨rfl, by decide, by decide⟩
  · decide

end Dperf.Wire
