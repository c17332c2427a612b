import Dperf.AddressRanges
import Dperf.Options
import Dperf.PacketSizes

/-!
VXLAN: what one worker encapsulates, and what the worker of the peer takes out.

* `VxlanLine`: a line of the configuration. `ofQueue` is what `vxlan_encapsulate` takes of it, and
  `workSpaceGetPort` what the receiving side does.
* `vxlanEncapsulate`: the packet of a template. `Carries`: an mbuf with this packet, whose outer
  addresses, checksums and source port may have been written since.
* `vxlan_roundTrip`: the mirrored peer takes out exactly the inner frame, and no one else does.
-/

namespace Dperf.Wire

open Memory

variable {n : ℕ}

/-! ### The configuration -/

/-- `ip_range_get`. -/
def IpRangeMem.ipRangeGet (r : IpRangeMem) (idx : UInt8) : UInt32 := r.list (idx % r.num).toNat

/-- `VNI_MAX`. -/
def vniMax : Int32 := 0xffffff

/-- `struct vxlan`, with what `config_parse_vxlan` checks. -/
structure VxlanLine where
  vni : Int32
  innerSmac : EthAddr
  innerDmac : EthAddr
  vtepLocal : IpRangeMem
  vtepRemote : IpRangeMem
  vni_pos : 0 < vni
  vni_le : vni ≤ vniMax
  num_pos : 0 < vtepRemote.num

/-- `VXLAN_HTON`. -/
def vxlanHton (vni : UInt32) : UInt32 := htonl (vni <<< 8)

/-- What `vxlan_encapsulate` takes of a line, the addresses as in `vxlan_set_iphdr`. -/
def VxlanLine.ofQueue (v : VxlanLine) (queueId : UInt8) : Vxlan where
  vni := v.vni.toUInt32
  innerSmac := v.innerSmac
  innerDmac := v.innerDmac
  saddr := v.vtepLocal.ipRangeGet queueId
  daddr := if 1 < v.vtepRemote.num then v.vtepRemote.ipRangeGet queueId
    else v.vtepRemote.ipRangeGet 0

/-- `work_space_get_port`; `vni` has 24 bits. -/
def workSpaceGetPort (v : VxlanLine) (queueId : UInt8) (p : PortSpace) : PortSpace :=
  { p with
    w := { p.w with vxlan := v.ofQueue queueId }
    queueId := queueId
    vtepIp := v.vtepLocal.ipRangeGet queueId
    vni := vxlanHton v.vni.toUInt32 &&& 0xFFFFFF }

/-- The peer of a queue: the remote addresses are its local ones, and it is the queue that has the
address which is sent to. -/
structure Mirrored (v : VxlanLine) (queueId : UInt8) (v' : VxlanLine) (queueId' : UInt8) :
    Prop where
  vni : v'.vni = v.vni
  vtepLocal : v'.vtepLocal = v.vtepRemote
  vtepRemote : v'.vtepRemote = v.vtepLocal
  queueId : v.vtepRemote.num = 1 ∨ queueId' = queueId

section Line

variable {v v' : VxlanLine} {queueId queueId' : UInt8}

lemma Mirrored.daddr (h : Mirrored v queueId v' queueId') :
    v'.vtepLocal.ipRangeGet queueId' = (v.ofQueue queueId).daddr := by
  have hpos := v.num_pos
  rw [VxlanLine.ofQueue, h.vtepLocal]
  dsimp only
  by_cases hnum : 1 < v.vtepRemote.num
  · rw [if_pos hnum]
    rcases h.queueId with hone | rfl
    · rw [hone] at hnum
      exact absurd hnum (by decide)
    · rfl
  · -- one address for all queues
    have hone : v.vtepRemote.num = 1 := by
      rw [UInt8.lt_iff_toNat_lt] at hpos hnum
      change 0 < _ at hpos
      change ¬ 1 < _ at hnum
      apply UInt8.toNat_inj.mp
      change _ = 1
      omega
    have hmod : ∀ idx : UInt8, (idx % 1).toNat = 0 := fun idx => by
      rw [UInt8.toNat_mod]
      exact Nat.mod_one _
    rw [if_neg hnum, IpRangeMem.ipRangeGet, IpRangeMem.ipRangeGet, hone, hmod, hmod]

lemma toNat_vni (v : VxlanLine) : v.vni.toUInt32.toNat < 2 ^ 24 := by
  obtain ⟨hcast, -⟩ := cast_toUInt32 v.vni_pos
  have hle := Int32.le_iff_toInt_le.mp v.vni_le
  change _ ≤ (16777215 : ℤ) at hle
  omega

/-- The VNI of a packet is in its lower 24 bits. -/
lemma toNat_vxlanHton {vni : UInt32} (h : vni.toNat < 2 ^ 24) :
    (vxlanHton vni).toNat < 2 ^ 24 ∧ (vni <<< 8).toNat = 256 * vni.toNat := by
  have hshift : (vni <<< 8).toNat = 256 * vni.toNat := by
    rw [UInt32.toNat_shiftLeft]
    change vni.toNat <<< 8 % 2 ^ 32 = _
    rw [Nat.shiftLeft_eq]
    omega
  refine ⟨?_, hshift⟩
  rw [vxlanHton, toNat_htonl, toNat_htons, toNat_htons, UInt16.toNat_ofNat', UInt16.toNat_ofNat',
    hshift]
  omega

lemma and_vniMask {x : UInt32} (h : x.toNat < 2 ^ 24) : x &&& 0xFFFFFF = x := by
  apply UInt32.toNat_inj.mp
  rw [UInt32.toNat_and]
  exact (Nat.and_two_pow_sub_one_eq_mod _ 24).trans (Nat.mod_eq_of_lt h)

/-- Different VNIs stay different. -/
lemma vxlanHton_injOn {vni vni' : UInt32} (h : vni.toNat < 2 ^ 24) (h' : vni'.toNat < 2 ^ 24)
    (heq : vxlanHton vni &&& 0xFFFFFF = vxlanHton vni' &&& 0xFFFFFF) : vni = vni' := by
  obtain ⟨hlt, hshift⟩ := toNat_vxlanHton h
  obtain ⟨hlt', hshift'⟩ := toNat_vxlanHton h'
  rw [and_vniMask hlt, and_vniMask hlt', vxlanHton, vxlanHton] at heq
  have hback := congrArg htonl heq
  rw [htonl_htonl, htonl_htonl] at hback
  have hnat := congrArg UInt32.toNat hback
  rw [hshift, hshift'] at hnat
  exact UInt32.toNat_inj.mp (by omega)

end Line

/-! ### The packet -/

/-- `vxlan_set_innter_eth_hdr`. -/
def vxlanSetInnterEthHdr (w : WireSpace) (data : List UInt8) : List UInt8 :=
  w.vxlan.innerDmac.bytes ++ w.vxlan.innerSmac.bytes ++ data.drop 12

/-- `vxlan_encapsulate`, with `vxlan_push_headers`: `data` is the packet of the template. -/
def vxlanEncapsulate (rte : Rte) (w : WireSpace) (data : List UInt8) : Option (List UInt8) :=
  let inner := vxlanSetInnterEthHdr w data
  if mbufDataSize < data.length + 50 then none
  else some (vxlanHeaders rte w data.length ++ inner)

/-- What is written later of the outer headers: the MAC addresses, the checksums and the source
port. -/
def SetLater (i : ℕ) : Prop := i < 12 ∨ i ∈ block 24 2 ∨ i ∈ block 34 2 ∨ i ∈ block 40 2

/-- The mbuf carries the packet, but for what is written later. -/
structure Carries (m : RteMbuf) (pkt : List UInt8) : Prop where
  dataLen : m.dataLen = pkt.length
  data : ∀ i < pkt.length, ¬ SetLater i → m.data i = pkt.getD i 0

section Packet

variable {rte : Rte} {w : WireSpace} {data pkt : List UInt8} {m : RteMbuf}

lemma length_vxlanSetInnterEthHdr (w : WireSpace) (h : 14 ≤ data.length) :
    (vxlanSetInnterEthHdr w data).length = data.length := by
  have hd : w.vxlan.innerDmac.bytes.length = 6 := rfl
  have hs : w.vxlan.innerSmac.bytes.length = 6 := rfl
  rw [vxlanSetInnterEthHdr, List.length_append, List.length_append, List.length_drop, hd, hs]
  omega

/-- The fields of the outer headers that are not written later, and what is behind them. -/
lemma stands_vxlanHeaders {data : Mem} {innerLen : ℕ} {inner : List UInt8}
    (h : Stands data 0 (vxlanHeaders rte w innerLen ++ inner)) :
    Stands data 12 (le16 (htons 0x0800)) ∧
      Stands data 16 (le16 (htons (UInt16.ofNat (36 + innerLen)))) ∧ Stands data 22 [64, 17] ∧
      Stands data 30 (le32 w.vxlan.daddr) ∧ Stands data 36 (le16 (htons 4789)) ∧
      Stands data 38 (le16 (htons (UInt16.ofNat (16 + innerLen)))) ∧
      Stands data 46 (le32 (vxlanHton w.vxlan.vni)) ∧ Stands data 50 inner := by
  simp only [vxlanHeaders, ethHdr, iphdr, udphdr, EthAddr.bytes, stands_append, List.length_append,
    length_le16, length_le32, List.length_cons, List.length_nil, Nat.zero_add, Nat.reduceAdd] at h
  obtain ⟨⟨⟨⟨⟨⟨-, htype⟩, hip⟩, hudp⟩, -⟩, hvni⟩, hinner⟩ := h
  obtain ⟨⟨⟨⟨⟨⟨⟨-, htot⟩, -⟩, -⟩, hproto⟩, -⟩, -⟩, hdaddr⟩ := hip
  obtain ⟨⟨⟨-, hdest⟩, hlen⟩, -⟩ := hudp
  exact ⟨htype, htot, hproto, hdaddr, hdest, hlen, hvni, hinner⟩

/-- What stays of the outer headers, and the inner frame. -/
structure Encapsulated (w : WireSpace) (m : RteMbuf) (inner : List UInt8) : Prop where
  dataLen : m.dataLen = 50 + inner.length
  small : 50 + inner.length ≤ mbufDataSize
  type : get16 m.data 12 = htons 0x0800
  totLen : get16 m.data 16 = htons (UInt16.ofNat (36 + inner.length))
  protocol : m.data 23 = 17
  daddr : get32 m.data 30 = w.vxlan.daddr
  dest : get16 m.data 36 = htons 4789
  len : get16 m.data 38 = htons (UInt16.ofNat (16 + inner.length))
  vni : get32 m.data 46 = vxlanHton w.vxlan.vni
  inner : Stands m.data 50 inner

lemma encapsulated (h : 14 ≤ data.length) (henc : vxlanEncapsulate rte w data = some pkt)
    (hm : Carries m pkt) : Encapsulated w m (vxlanSetInnterEthHdr w data) := by
  have hlen := length_vxlanSetInnterEthHdr w h
  rw [vxlanEncapsulate] at henc
  split_ifs at henc with hbig
  obtain rfl := Option.some.inj henc
  have hpkt : (vxlanHeaders rte w data.length ++ vxlanSetInnterEthHdr w data).length =
      50 + data.length := by
    rw [List.length_append, length_vxlanHeaders, hlen]
  -- a field that is not written later
  have hfield : ∀ {off : ℕ} {l : List UInt8},
      Stands (fun i => (vxlanHeaders rte w data.length ++ vxlanSetInnterEthHdr w data).getD i 0)
        off l → off + l.length ≤ 50 + data.length →
      42 ≤ off ∨ 12 ≤ off ∧ off + l.length ≤ 24 ∨ 26 ≤ off ∧ off + l.length ≤ 34 ∨
        36 ≤ off ∧ off + l.length ≤ 40 → Stands m.data off l := by
    intro off l hs hend hoff
    refine hs.congr fun i hi => hm.data _ (by omega) ?_
    rintro (hlt | ⟨h1, h2⟩ | ⟨h1, h2⟩ | ⟨h1, h2⟩) <;> omega
  obtain ⟨htype, htot, hproto, hdaddr, hdest, hudp, hvni, hinner⟩ :=
    stands_vxlanHeaders (stands_getD (l := vxlanHeaders rte w data.length ++
      vxlanSetInnterEthHdr w data))
  have htype' := hfield htype (by rw [length_le16]; omega) (by rw [length_le16]; omega)
  have htot' := hfield htot (by rw [length_le16]; omega) (by rw [length_le16]; omega)
  have hproto' := hfield hproto (by rw [List.length_cons, List.length_singleton]; omega)
    (by rw [List.length_cons, List.length_singleton]; omega)
  have hdaddr' := hfield hdaddr (by rw [length_le32]; omega) (by rw [length_le32]; omega)
  have hdest' := hfield hdest (by rw [length_le16]; omega) (by rw [length_le16]; omega)
  have hudp' := hfield hudp (by rw [length_le16]; omega) (by rw [length_le16]; omega)
  have hvni' := hfield hvni (by rw [length_le32]; omega) (by rw [length_le32]; omega)
  have hinner' := hfield hinner (by rw [hlen]) (.inl (by omega))
  rw [← hlen] at htot' hudp'
  refine ⟨?_, ?_, htype'.get16_eq, htot'.get16_eq, (stands_cons.mp (stands_cons.mp hproto').2).1,
    hdaddr'.get32_eq, hdest'.get16_eq, hudp'.get16_eq, hvni'.get32_eq, hinner'⟩
  · rw [hm.dataLen, hpkt, hlen]
  · omega

end Packet

/-! ### The receiver -/

section Receiver

variable (p : PortSpace) {w : WireSpace} {m : RteMbuf} {inner : List UInt8}

/-- What `vxlan_input` does with a frame that it has taken out. -/
def vxlanInner (tcpInput udpInput : L4Input n) (m : RteMbuf) (s : Core n) : Core n :=
  let type := get16 m.data 12
  if type = htons 0x0800 ∧ p.w.ipv6 = false then
    let proto := m.data 23
    if proto = 6 then tcpInput m s
    else if proto = 17 then udpInput m s
    else otherProtocol p m s
  else if type = htons 0x86DD ∧ p.w.ipv6 = true then
    let proto := m.data 20
    if proto = 6 then tcpInput m s
    else if proto = 17 then udpInput m s
    else otherProtocol p m s
  else s.onNic (mbufFree m.id)

lemma Encapsulated.adj (h : Encapsulated w m inner) :
    m.adj 50 = { m with data := fun i => m.data (i + 50), dataLen := inner.length } := by
  have hlen := h.dataLen
  rw [RteMbuf.adj, if_neg (by omega), hlen, Nat.add_sub_cancel_left]

lemma Encapsulated.adj_frame (h : Encapsulated w m inner) : (m.adj 50).frame = inner := by
  rw [h.adj]
  exact frame_eq_iff.mpr ⟨rfl, stands_shift.mpr h.inner⟩

/-- The receivers that accept the packet. -/
lemma Encapsulated.vxlanCheck_iff (h : Encapsulated w m inner) :
    vxlanCheck p m = true ↔
      p.vtepIp = w.vxlan.daddr ∧ p.vni = vxlanHton w.vxlan.vni &&& 0xFFFFFF := by
  rw [vxlanCheck, h.protocol, h.daddr, h.dest, h.vni]
  simp only [beq_self_eq_true, Bool.true_and, Bool.and_true, Bool.and_eq_true, beq_iff_eq,
    eq_comm (b := p.vtepIp), eq_comm (b := p.vni)]

lemma Encapsulated.vxlanInput_accepted (h : Encapsulated w m inner) (hc : vxlanCheck p m = true)
    (tcpInput udpInput : L4Input n) (s : Core n) :
    vxlanInput p tcpInput udpInput m s = vxlanInner p tcpInput udpInput (m.adj 50) s := by
  rw [vxlanInput, if_pos hc, h.adj]
  rfl

lemma Encapsulated.vxlanInput_rejected (h : Encapsulated w m inner) (hc : vxlanCheck p m = false)
    (tcpInput udpInput : L4Input n) (s : Core n) :
    vxlanInput p tcpInput udpInput m s = otherProtocol p m s := by
  have harp : ¬ htons 0x0800 = htons 0x0806 := by decide
  have hicmp : ¬ (17 : UInt8) = 1 := by decide
  rw [vxlanInput, hc, if_neg Bool.false_ne_true, h.protocol, if_neg hicmp, h.type, if_neg harp]

end Receiver

/-! ### Templates -/

section Template

variable {rte : Rte} {w : WireSpace} {udpData pkt : List UInt8} {c : Cache} {m : RteMbuf}

/-- `mbuf_cache_init` encapsulates the packet that it has built. -/
lemma template_encapsulate (h : template rte w udpData c = some pkt) (hv : w.ws.vxlan = true) :
    ∃ data len rest, 14 ≤ data.length ∧ vxlanEncapsulate rte w data = some pkt ∧
      vxlanSetInnterEthHdr w data =
        ethHdr w.vxlan.innerDmac w.vxlan.innerSmac (etherType w) ++
          (ipHeader w c.protocol len ++ rest) := by
  obtain ⟨rest, -, h⟩ := template_some h
  refine ⟨ethHdr w.gatewayMac w.localMac (etherType w) ++
    (ipHeader w c.protocol (UInt16.ofNat rest.length) ++ rest), _, rest, ?_, ?_, rfl⟩
  · rw [List.length_append, length_ethHdr]
    exact Nat.le_add_right 14 _
  · rw [mbufCacheInit, if_pos hv] at h
    split_ifs at h with hlen
    obtain rfl := Option.some.inj h
    rw [List.length_append, List.length_append, length_vxlanHeaders, length_ethHdr] at hlen
    generalize ipHeader w c.protocol (UInt16.ofNat rest.length) ++ rest = l3 at hlen ⊢
    have hdata : (ethHdr w.gatewayMac w.localMac (etherType w) ++ l3).length = 14 + l3.length := by
      rw [List.length_append, length_ethHdr]
    rw [vxlanEncapsulate, hdata, if_neg (by omega), List.append_assoc]
    rfl

/-- A worker of the family of the template gives its inner frame to the handler of its protocol. -/
lemma vxlanInner_template (p : PortSpace) (hp : p.w.ipv6 = w.ipv6) {len : UInt16}
    {rest : List UInt8} (h : Encapsulated w m
      (ethHdr w.vxlan.innerDmac w.vxlan.innerSmac (etherType w) ++
        (ipHeader w c.protocol len ++ rest)))
    (tcpInput udpInput : L4Input n) (s : Core n) :
    vxlanInner p tcpInput udpInput (m.adj 50) s =
      (if c = .udp then udpInput else tcpInput) (m.adj 50) s := by
  have hs : Stands (m.adj 50).data 0 (ethHdr w.vxlan.innerDmac w.vxlan.innerSmac (etherType w) ++
      (ipHeader w c.protocol len ++ rest)) := by
    rw [h.adj]
    exact stands_shift.mpr h.inner
  obtain ⟨heth, hl3⟩ := stands_append.mp hs
  rw [length_ethHdr] at hl3
  have htype : get16 (m.adj 50).data 12 = htons (etherType w) := by
    rw [ethHdr] at heth
    exact (stands_append.mp heth).2.get16_eq
  have hne : ¬ htons 0x86DD = htons 0x0800 := by decide
  rw [vxlanInner, htype, etherType, hp]
  dsimp only
  rw [ipHeader] at hl3
  cases h6 : w.ipv6 with
  | false =>
      rw [h6, if_neg Bool.false_ne_true, iphdr] at hl3
      simp only [stands_append, stands_cons, List.length_append, length_le16, List.length_cons,
        List.length_nil, Nat.reduceAdd] at hl3
      obtain ⟨⟨⟨⟨⟨-, -, hbyte, -⟩, -⟩, -⟩, -⟩, -⟩ := hl3
      rw [if_neg Bool.false_ne_true, if_pos ⟨rfl, rfl⟩, hbyte]
      cases c <;> rfl
  | true =>
      rw [h6, if_pos rfl, ip6Hdr] at hl3
      simp only [stands_append, stands_cons, List.length_append, length_le16, List.length_cons,
        List.length_nil, Nat.reduceAdd] at hl3
      obtain ⟨⟨⟨⟨-, hbyte, -⟩, -⟩, -⟩, -⟩ := hl3
      rw [if_pos rfl, if_neg (fun hc => hne hc.1), if_pos ⟨rfl, rfl⟩, hbyte]
      cases c <;> rfl

end Template

/-- **Round trip.** What is encapsulated for a queue passes the test of the mirrored queue, whatever
outer addresses, checksums and source port are written later, and is taken out byte for byte; the
packet of a template goes to the handler of its protocol. The outer lengths are those of the packet,
and a worker with another VNI or another address does not take the packet. -/
theorem vxlan_roundTrip (rte : Rte) {w : WireSpace} {v : VxlanLine} {queueId : UInt8}
    (hw : w.vxlan = v.ofQueue queueId) {data pkt : List UInt8} (hdata : 14 ≤ data.length)
    (henc : vxlanEncapsulate rte w data = some pkt) {m : RteMbuf} (hm : Carries m pkt) :
    (∀ v' queueId' p, Mirrored v queueId v' queueId' →
      vxlanCheck (workSpaceGetPort v' queueId' p) m = true ∧
      (m.adj 50).frame = vxlanSetInnterEthHdr w data ∧
      (∀ tcpInput udpInput (s : Core n),
        vxlanInput (workSpaceGetPort v' queueId' p) tcpInput udpInput m s =
          vxlanInner (workSpaceGetPort v' queueId' p) tcpInput udpInput (m.adj 50) s) ∧
      ∀ udpData c, w.ws.vxlan = true → template rte w udpData c = some pkt → p.w.ipv6 = w.ipv6 →
        ∀ tcpInput udpInput (s : Core n),
          vxlanInput (workSpaceGetPort v' queueId' p) tcpInput udpInput m s =
            (if c = .udp then udpInput else tcpInput) (m.adj 50) s) ∧
    (htons (get16 m.data 16)).toNat + 14 = m.dataLen ∧
    (htons (get16 m.data 38)).toNat + 34 = m.dataLen ∧
    ∀ v' queueId' p,
      v'.vni ≠ v.vni ∨ v'.vtepLocal.ipRangeGet queueId' ≠ (v.ofQueue queueId).daddr →
        vxlanCheck (workSpaceGetPort v' queueId' p) m = false ∧
        ∀ tcpInput udpInput (s : Core n),
          vxlanInput (workSpaceGetPort v' queueId' p) tcpInput udpInput m s =
            otherProtocol (workSpaceGetPort v' queueId' p) m s := by
  have he := encapsulated hdata henc hm
  have hlen := he.dataLen
  have hsmall := he.small
  rw [mbufDataSize] at hsmall
  have hcheck : ∀ v' queueId' p, vxlanCheck (workSpaceGetPort v' queueId' p) m = true ↔
      v'.vtepLocal.ipRangeGet queueId' = (v.ofQueue queueId).daddr ∧ v'.vni = v.vni := by
    intro v' queueId' p
    rw [he.vxlanCheck_iff, hw]
    refine and_congr_right fun _ => ⟨fun heq => ?_, fun heq => ?_⟩
    · exact congrArg Int32.ofUInt32 (vxlanHton_injOn (toNat_vni v') (toNat_vni v) heq)
    · rw [VxlanLine.ofQueue, ← heq]
      rfl
  refine ⟨fun v' queueId' p hmirror => ?_, ?_, ?_, fun v' queueId' p hne => ?_⟩
  · have hc := (hcheck v' queueId' p).mpr ⟨hmirror.daddr, hmirror.vni⟩
    refine ⟨hc, he.adj_frame, he.vxlanInput_accepted _ hc, fun udpData c hv ht hp tcp udp s => ?_⟩
    obtain ⟨data', len, rest, hdata', henc', hinner⟩ := template_encapsulate ht hv
    have he' := encapsulated hdata' henc' hm
    rw [hinner] at he'
    rw [he.vxlanInput_accepted _ hc]
    exact vxlanInner_template (workSpaceGetPort v' queueId' p) hp he' tcp udp s
  · rw [he.totLen, htons_htons, UInt16.toNat_ofNat']
    omega
  · rw [he.len, htons_htons, UInt16.toNat_ofNat']
    omega
  · have hc : vxlanCheck (workSpaceGetPort v' queueId' p) m = false := by
      rw [Bool.eq_false_iff, ne_eq, hcheck]
      tauto
    exact ⟨hc, he.vxlanInput_rejected _ hc⟩

/-- The ranges of 10.0.0.1 and of 10.0.0.2. -/
def vtepOne : IpRangeMem := (IpRangeMem.zero.ipRangeInit ⟨0, 0, 0, htonl 0x0a000001⟩ 1).2
def vtepTwo : IpRangeMem := (IpRangeMem.zero.ipRangeInit ⟨0, 0, 0, htonl 0x0a000002⟩ 1).2

/-- VNI 5 from 10.0.0.1 to 10.0.0.2. -/
def VxlanLine.one : VxlanLine where
  vni := 5
  innerSmac := ⟨2, 0, 0, 0, 0, 1⟩
  innerDmac := ⟨2, 0, 0, 0, 0, 2⟩
  vtepLocal := vtepOne
  vtepRemote := vtepTwo
  vni_pos := by decide
  vni_le := by decide
  num_pos := by decide

/-- The line of the peer. -/
def VxlanLine.two : VxlanLine :=
  { VxlanLine.one with vtepLocal := vtepTwo, vtepRemote := vtepOne, num_pos := by decide }

/-- The same with VNI 6. -/
def VxlanLine.other : VxlanLine :=
  { VxlanLine.two with vni := 6, vni_pos := by decide, vni_le := by decide }

/-- A worker with the first line. -/
def WireSpace.one : WireSpace := { WireSpace.singleVxlan with vxlan := VxlanLine.one.ofQueue 0 }

/-- A SYN template gets to the TCP handler of the peer, and not to one with VNI 6. -/
theorem vxlan_roundTrip_syn : ∃ pkt, template .zero .one [] .tcp = some pkt ∧
    (∀ tcpInput udpInput (s : Core 1),
      vxlanInput (workSpaceGetPort .two 0 .single) tcpInput udpInput (.received pkt) s =
        tcpInput ((RteMbuf.received pkt).adj 50) s) ∧
    vxlanCheck (workSpaceGetPort .other 0 .single) (.received pkt) = false := by
  obtain ⟨pkt, hpkt⟩ : ∃ pkt, template .zero .one [] .tcp = some pkt := ⟨_, rfl⟩
  obtain ⟨data, -, -, hdata, henc, -⟩ := template_encapsulate hpkt rfl
  have hw : WireSpace.one.vxlan = VxlanLine.one.ofQueue 0 := rfl
  have hm : Carries (.received pkt) pkt := ⟨rfl, fun _ _ _ => rfl⟩
  obtain ⟨hpeer, -, -, hother⟩ := vxlan_roundTrip (n := 1) .zero hw hdata henc hm
  have hmirror : Mirrored .one 0 .two 0 := ⟨rfl, rfl, rfl, .inr rfl⟩
  have hvni : VxlanLine.other.vni ≠ VxlanLine.one.vni := by decide
  exact ⟨pkt, hpkt, (hpeer .two 0 .single hmirror).2.2.2 [] .tcp rfl hpkt rfl,
    (hother .other 0 .single (.inl hvni)).1⟩

end Dperf.Wire
