import Dperf.Lib.ReturnCodes
import Dperf.PseudoSum
import Dperf.VxlanFrames

/-!
The lengths of a template: `struct mbuf_data`, and the functions of `mbuf_cache.c` that fill it.

* `MbufDataMem`: the struct. What stands in memory behind its array is a part of it, so that a
  write past the array can be seen.
* `Within`: what stands behind the array is as it was. Every function keeps it, also where it fails.
* `Built`, `Content`: the array holds the packet as far as it has been pushed, and the lengths are
  those of its parts. Each function that does not fail leads from one of these to the next.
* `templates_coherent`: the lengths of a template agree with the lengths in its headers.
  `mbufCacheInitTcp_bytes`, `mbufCacheInitUdp_bytes`: its bytes are those of the list.
-/

namespace Dperf.Wire

open Memory ReturnCodes

/-! ### `mbuf_cache.c` -/

/-- `struct mbuf_data`. -/
structure MbufDataMem where
  data : Mem
  ipv6 : Bool
  vxlan : Bool
  l2Len : UInt16
  l3Len : UInt16
  l4Len : UInt16
  dataLen : UInt16
  totalLen : UInt16

namespace MbufDataMem

/-- After `memset`; `behind` is what stands behind the array. -/
def zero (behind : Mem) (ipv6 : Bool) : MbufDataMem where
  data := fun i => if i < mbufDataSize then 0 else behind i
  ipv6 := ipv6
  vxlan := false
  l2Len := 0
  l3Len := 0
  l4Len := 0
  dataLen := 0
  totalLen := 0

/-- `mbuf_data_iphdr` and `mbuf_data_ip6hdr`: the place of the header. -/
def mbufDataIphdr (m : MbufDataMem) : ℕ := m.l2Len.toNat

/-- `mbuf_data_tcphdr` and `mbuf_data_uphdr`. -/
def mbufDataTcphdr (m : MbufDataMem) : ℕ := m.l2Len.toNat + m.l3Len.toNat

/-- `mbuf_data_ip_tot_len_add`. -/
def mbufDataIpTotLenAdd (m : MbufDataMem) (len : UInt16) : MbufDataMem :=
  let off := m.mbufDataIphdr + if m.ipv6 then 4 else 2
  { m with data := put m.data off (le16 (htons (htons (get16 m.data off) + len))) }

/-- `mbuf_data_ip_set_proto`. -/
def mbufDataIpSetProto (m : MbufDataMem) (proto : UInt8) : MbufDataMem :=
  { m with data := put m.data (m.mbufDataIphdr + if m.ipv6 then 6 else 9) [proto] }

/-- `mbuf_data_push`: what it returns, and the struct that it leaves. -/
def mbufDataPush (m : MbufDataMem) (data : List UInt8) (len : UInt16) : Int32 × MbufDataMem :=
  if mbufDataSize < m.totalLen.toNat + len.toNat then (-1, m)
  else (0, { m with
    data := put m.data m.totalLen.toNat (data.take len.toNat)
    totalLen := m.totalLen + len })

/-- `mbuf_data_push_l2`. -/
def mbufDataPushL2 (w : WireSpace) (m : MbufDataMem) : Int32 × MbufDataMem :=
  let eth := ethHdr w.gatewayMac w.localMac (if m.ipv6 then 0x86DD else 0x0800)
  { m with l2Len := 14 }.mbufDataPush eth 14

/-- `mbuf_data_push_ipv6`. -/
def mbufDataPushIpv6 (w : WireSpace) (m : MbufDataMem) : Int32 × MbufDataMem :=
  -- `ip6_nxt` and `ip6_plen` are set later
  let ip6h := ip6Hdr w.tos 0 0 w.sip w.dip
  { m with l3Len := 40 }.mbufDataPush ip6h 40

/-- `mbuf_data_push_ipv4`. -/
def mbufDataPushIpv4 (w : WireSpace) (m : MbufDataMem) : Int32 × MbufDataMem :=
  -- the protocol is set later
  let iph := iphdr w.tos 20 0 0 0 0
  { m with l3Len := 20 }.mbufDataPush iph 20

/-- `mbuf_data_push_ip`. -/
def mbufDataPushIp (w : WireSpace) (m : MbufDataMem) : Int32 × MbufDataMem :=
  if m.ipv6 then m.mbufDataPushIpv6 w else m.mbufDataPushIpv4 w

/-- `mbuf_data_push_tcp`. -/
def mbufDataPushTcp : MbufDataMem → Int32 × MbufDataMem :=
  andDo (fun m => { m with l4Len := 20 }.mbufDataPush (tcphdr 5) 20) fun m =>
    let m := m.mbufDataIpSetProto 6
    m.mbufDataIpTotLenAdd m.l4Len

/-- `th->th_off++`: the upper half of its byte. -/
def thOffIncr (b : UInt8) : UInt8 :=
  (b &&& (0x0F : UInt8)) ||| (((b >>> (4 : UInt8)) + 1) <<< (4 : UInt8))

/-- `mbuf_data_push_tcp_opt`. -/
def mbufDataPushTcpOpt (m : MbufDataMem) (opt : List UInt8) (len : ℕ) : Int32 × MbufDataMem :=
  if len % 4 ≠ 0 then (-1, m)
  else
    let off := m.mbufDataTcphdr + 12
    andDo (fun m => m.mbufDataPush opt (UInt16.ofNat len))
      (fun m => m.mbufDataIpTotLenAdd (UInt16.ofNat len))
      { m with
        data := put m.data off [thOffIncr (m.data off)]
        l4Len := m.l4Len + UInt16.ofNat len }

/-- `mbuf_data_push_tcp_mss`. -/
def mbufDataPushTcpMss (mss : UInt16) (m : MbufDataMem) : Int32 × MbufDataMem :=
  if mss = 0 then (0, m) else m.mbufDataPushTcpOpt ([2, 4] ++ le16 (htons mss)) 4

/-- `mbuf_data_push_tcp_wscale`. -/
def mbufDataPushTcpWscale (m : MbufDataMem) : Int32 × MbufDataMem :=
  m.mbufDataPushTcpOpt [1, 3, 3, 13] 4

/-- `mbuf_data_push_udp`. -/
def mbufDataPushUdp (m : MbufDataMem) : Int32 × MbufDataMem :=
  let m := { m with l4Len := 8 }.mbufDataIpSetProto 17
  (m.mbufDataIpTotLenAdd m.l4Len).mbufDataPush (udphdr 0 0 8) 8

/-- `mbuf_data_push_data`: `none` is `NULL`, and a string has no zero byte. -/
def mbufDataPushData (data : Option (List UInt8)) (m : MbufDataMem) : Int32 × MbufDataMem :=
  match data with
  | none => (0, m)
  | some str =>
      -- `strlen`
      let len := UInt16.ofNat str.length
      if len = 0 then (0, m)
      else andDo (fun m => m.mbufDataPush str len)
        (fun m => { m with dataLen := len }.mbufDataIpTotLenAdd len) m

/-- `vxlan_push_headers`. -/
def vxlanPushHeaders (vxhs : List UInt8) (m : MbufDataMem) : Int32 × MbufDataMem :=
  if mbufDataSize < m.totalLen.toNat + 50 then (-1, m)
  else
    let data := put m.data 50 (bytes m.data m.totalLen.toNat)
    (0, { m with data := put data 0 vxhs, totalLen := m.totalLen + 50, vxlan := true })

/-- `vxlan_encapsulate`. -/
def vxlanEncapsulate (rte : Rte) (w : WireSpace) (m : MbufDataMem) : Int32 × MbufDataMem :=
  let innerLen := m.totalLen.toNat
  -- `vxlan_set_innter_eth_hdr`
  let m := { m with data := put m.data 0 (w.vxlan.innerDmac.bytes ++ w.vxlan.innerSmac.bytes) }
  m.vxlanPushHeaders (vxlanHeaders rte w innerLen)

/-- `mbuf_cache_init`; `pool` says whether `mbuf_pool_create` succeeds. -/
def mbufCacheInit (rte : Rte) (w : WireSpace) (pool : Bool) :
    MbufDataMem → Int32 × MbufDataMem :=
  andThen (fun m => if w.ws.vxlan then m.vxlanEncapsulate rte w else (0, m))
    fun m => if pool then (0, m) else (-1, m)

/-- `mbuf_cache_init_tcp`. -/
def mbufCacheInitTcp (rte : Rte) (w : WireSpace) (pool : Bool) (mss : UInt16)
    (data : Option (List UInt8)) (behind : Mem) : Int32 × MbufDataMem :=
  (andThen (mbufDataPushL2 w) <| andThen (mbufDataPushIp w) <| andThen mbufDataPushTcp <|
    andThen (fun m => if 0 < mss then andThen (mbufDataPushTcpMss mss) mbufDataPushTcpWscale m
      else (0, m)) <|
    andThen (mbufDataPushData data) <| mbufCacheInit rte w pool) (zero behind w.ipv6)

/-- `mbuf_cache_init_udp`. -/
def mbufCacheInitUdp (rte : Rte) (w : WireSpace) (pool : Bool) (data : Option (List UInt8))
    (behind : Mem) : Int32 × MbufDataMem :=
  (andThen (mbufDataPushL2 w) <| andThen (mbufDataPushIp w) <| andThen mbufDataPushUdp <|
    andThen (mbufDataPushData data) <|
    andThen (fun m =>
      let len := m.l4Len + m.dataLen
      (0, { m with data := put m.data (m.mbufDataTcphdr + 4) (le16 (htons len)) })) <|
    mbufCacheInit rte w pool) (zero behind w.ipv6)

/-! ### `csum.c` -/

/-- `VXLAN_HEADERS_SIZE`, with `vxlan`. -/
def vxlanLen (m : MbufDataMem) : ℕ := if m.vxlan then 50 else 0

/-- The place of the IP header of the packet. -/
def ipOff (m : MbufDataMem) : ℕ := m.vxlanLen + m.l2Len.toNat

/-- The place of its TCP or UDP header. -/
def l4Off (m : MbufDataMem) : ℕ := m.ipOff + m.l3Len.toNat

/-- `L4_DATA_LEN`, as a `uint16_t`. -/
def l4DataLen (m : MbufDataMem) : UInt16 := m.l4Len + m.dataLen

/-- The L4 length of `csum_init_socket`: `csum_init_pseudo` takes `L4_DATA_LEN`, and the functions
for the inner packet take it from its IP header. -/
def csumL4Len (w : WireSpace) (m : MbufDataMem) : ℕ :=
  if w.ws.vxlan then Wire.l4Len w m.data else m.l4DataLen.toNat

end MbufDataMem

/-! ### Writes stay in the array -/

namespace MbufDataMem

/-- What stands behind the array is as it was, and the packet and its headers are in it. -/
structure Within (behind : Mem) (m : MbufDataMem) : Prop where
  behind : ∀ i, mbufDataSize ≤ i → m.data i = behind i
  totalLen : m.totalLen.toNat ≤ mbufDataSize
  l2Len : m.l2Len.toNat ≤ 14
  l3Len : m.l3Len.toNat ≤ 40

section Within

variable {behind : Mem} {m : MbufDataMem} {rte : Rte} {w : WireSpace}

/-- A write to the headers. -/
lemma Within.put (h : Within behind m) (off : ℕ) (bs : List UInt8)
    (hoff : off + bs.length ≤ mbufDataSize) :
    Within behind { m with data := put m.data off bs } where
  behind i hi := by
    rw [← h.behind i hi]
    exact put_ne (.inr (hoff.trans hi))
  totalLen := h.totalLen
  l2Len := h.l2Len
  l3Len := h.l3Len

lemma Within.setL4Len (h : Within behind m) (len : UInt16) :
    Within behind { m with l4Len := len } :=
  ⟨h.behind, h.totalLen, h.l2Len, h.l3Len⟩

lemma Within.setDataLen (h : Within behind m) (len : UInt16) :
    Within behind { m with dataLen := len } :=
  ⟨h.behind, h.totalLen, h.l2Len, h.l3Len⟩

lemma within_zero (behind : Mem) (ipv6 : Bool) : Within behind (zero behind ipv6) :=
  ⟨fun _ hi => if_neg (not_lt.mpr hi), Nat.zero_le _, Nat.zero_le _, Nat.zero_le _⟩

lemma Within.mbufDataIpTotLenAdd (h : Within behind m) (len : UInt16) :
    Within behind (m.mbufDataIpTotLenAdd len) := by
  have hl2 := h.l2Len
  refine h.put _ _ ?_
  rw [length_le16, mbufDataIphdr, mbufDataSize]
  split_ifs <;> omega

lemma Within.mbufDataIpSetProto (h : Within behind m) (proto : UInt8) :
    Within behind (m.mbufDataIpSetProto proto) := by
  have hl2 := h.l2Len
  refine h.put _ _ ?_
  rw [List.length_singleton, mbufDataIphdr, mbufDataSize]
  split_ifs <;> omega

/-- The test of `mbuf_data_push`. -/
lemma Within.mbufDataPush (h : Within behind m) (data : List UInt8) (len : UInt16) :
    Within behind (m.mbufDataPush data len).2 := by
  rw [MbufDataMem.mbufDataPush]
  split_ifs with hbig
  · exact h
  · have hroom := not_lt.mp hbig
    have htake : (data.take len.toNat).length ≤ len.toNat := List.length_take_le _ _
    have hput := h.put m.totalLen.toNat (data.take len.toNat) (by omega)
    refine ⟨hput.behind, ?_, h.l2Len, h.l3Len⟩
    rw [mbufDataSize] at hroom ⊢
    change (m.totalLen + len).toNat ≤ _
    rw [UInt16.toNat_add]
    omega

lemma keeps_pushL2 : Keeps (mbufDataPushL2 w) (Within behind) := fun m h =>
  Within.mbufDataPush (m := { m with l2Len := 14 }) ⟨h.behind, h.totalLen, le_rfl, h.l3Len⟩ _ _

lemma keeps_pushIp : Keeps (mbufDataPushIp w) (Within behind) := by
  intro m h
  rw [mbufDataPushIp]
  split_ifs
  · exact Within.mbufDataPush (m := { m with l3Len := 40 })
      ⟨h.behind, h.totalLen, h.l2Len, le_rfl⟩ _ _
  · have htwenty : (20 : UInt16).toNat ≤ 40 := by decide
    exact Within.mbufDataPush (m := { m with l3Len := 20 })
      ⟨h.behind, h.totalLen, h.l2Len, htwenty⟩ _ _

lemma keeps_pushTcp : Keeps mbufDataPushTcp (Within behind) :=
  Keeps.andDo (fun _ h => (h.setL4Len 20).mbufDataPush _ _)
    fun _ h => (h.mbufDataIpSetProto 6).mbufDataIpTotLenAdd _

lemma keeps_pushTcpOpt (opt : List UInt8) (len : ℕ) :
    Keeps (fun m => m.mbufDataPushTcpOpt opt len) (Within behind) := by
  intro m h
  dsimp only
  rw [mbufDataPushTcpOpt]
  split_ifs
  · exact h
  · have hl2 := h.l2Len
    have hl3 := h.l3Len
    have hput := h.put (m.mbufDataTcphdr + 12) [thOffIncr (m.data (m.mbufDataTcphdr + 12))] (by
        rw [List.length_singleton, mbufDataTcphdr, mbufDataSize]
        omega)
    exact Keeps.andDo (fun _ h => h.mbufDataPush _ _) (fun _ h => h.mbufDataIpTotLenAdd _) _
      (hput.setL4Len _)

lemma keeps_pushTcpMss (mss : UInt16) : Keeps (mbufDataPushTcpMss mss) (Within behind) := by
  intro m h
  rw [mbufDataPushTcpMss]
  split_ifs
  · exact h
  · exact keeps_pushTcpOpt _ 4 m h

lemma keeps_pushUdp : Keeps mbufDataPushUdp (Within behind) := fun _ h =>
  (((h.setL4Len 8).mbufDataIpSetProto 17).mbufDataIpTotLenAdd _).mbufDataPush _ _

lemma keeps_udpLen (len : MbufDataMem → UInt16) : Keeps
    (fun m => (0, { m with data := put m.data (m.mbufDataTcphdr + 4) (le16 (htons (len m))) }))
    (Within behind) := by
  intro m h
  have hl2 := h.l2Len
  have hl3 := h.l3Len
  refine h.put _ _ ?_
  rw [length_le16, mbufDataTcphdr, mbufDataSize]
  omega

lemma keeps_pushData (data : Option (List UInt8)) :
    Keeps (mbufDataPushData data) (Within behind) := by
  intro m h
  cases data with
  | none => exact h
  | some str =>
      rw [mbufDataPushData]
      split_ifs with hzero
      · exact h
      · exact Keeps.andDo (fun _ h => h.mbufDataPush _ _)
          (fun _ h => (h.setDataLen _).mbufDataIpTotLenAdd _) m h

/-- The test of `vxlan_push_headers`. -/
lemma Within.vxlanPushHeaders (h : Within behind m) {vxhs : List UInt8} (hlen : vxhs.length = 50) :
    Within behind (m.vxlanPushHeaders vxhs).2 := by
  rw [MbufDataMem.vxlanPushHeaders]
  split_ifs with hbig
  · exact h
  · have hroom := not_lt.mp hbig
    have hmove := h.put 50 (bytes m.data m.totalLen.toNat)
      (by rw [bytes, List.length_map, List.length_range]; omega)
    have hout := hmove.put 0 vxhs (by omega)
    refine ⟨hout.behind, ?_, h.l2Len, h.l3Len⟩
    rw [mbufDataSize] at hroom ⊢
    change (m.totalLen + 50).toNat ≤ _
    rw [UInt16.toNat_add]
    change (_ + 50) % _ ≤ _
    omega

lemma keeps_mbufCacheInit (pool : Bool) :
    Keeps (mbufCacheInit rte w pool) (Within behind) := by
  refine Keeps.andThen (fun m h => ?_) fun m h => ?_
  · split_ifs
    · have heth := h.put 0 (w.vxlan.innerDmac.bytes ++ w.vxlan.innerSmac.bytes)
        (show 12 ≤ mbufDataSize by decide)
      exact heth.vxlanPushHeaders (length_vxlanHeaders ..)
    · exact h
  · split_ifs <;> exact h

end Within

/-! ### What the array holds -/

/-- The size of the IP header. -/
def ipLen (w : WireSpace) : ℕ := if w.ipv6 then 40 else 20

/-- What is pushed of a string: its length is cut to 16 bits. -/
def text : Option (List UInt8) → List UInt8
  | none => []
  | some str => str.take (str.length % 2 ^ 16)

/-- The Ethernet header has been pushed. -/
structure Linked (w : WireSpace) (m : MbufDataMem) : Prop where
  ipv6 : m.ipv6 = w.ipv6
  vxlan : m.vxlan = false
  l2Len : m.l2Len = 14
  l4Len : m.l4Len = 0
  dataLen : m.dataLen = 0
  totalLen : m.totalLen = 14
  data : Stands m.data 0 (ethHdr w.gatewayMac w.localMac (etherType w))

/-- The IP header has been pushed, with the protocol `proto` and room for `n` bytes, and `rest`
after it; of the two last lengths one is `l4Len`, and the other `dataLen`. -/
structure Built (w : WireSpace) (proto : UInt8) (n : ℕ) (rest : List UInt8) (l4Len dataLen : ℕ)
    (m : MbufDataMem) : Prop where
  ipv6 : m.ipv6 = w.ipv6
  vxlan : m.vxlan = false
  l2Len : m.l2Len = 14
  l3Len : m.l3Len.toNat = ipLen w
  l4Len : m.l4Len.toNat = l4Len
  dataLen : m.dataLen.toNat = dataLen
  totalLen : m.totalLen.toNat = 14 + ipLen w + rest.length
  le : m.totalLen.toNat ≤ mbufDataSize
  data : Stands m.data 0 (ethHdr w.gatewayMac w.localMac (etherType w) ++
    (ipHeader w proto (UInt16.ofNat n) ++ rest))

/-- The header `l4` and the payload `str` have been pushed, and the lengths are theirs. -/
def Content (w : WireSpace) (proto : UInt8) (l4 str : List UInt8) (m : MbufDataMem) : Prop :=
  Built w proto (l4 ++ str).length (l4 ++ str) l4.length str.length m

/-- The headers before the IP header. -/
def outer (rte : Rte) (w : WireSpace) (innerLen : ℕ) : List UInt8 :=
  if w.ws.vxlan then
    vxlanHeaders rte w innerLen ++ ethHdr w.vxlan.innerDmac w.vxlan.innerSmac (etherType w)
  else ethHdr w.gatewayMac w.localMac (etherType w)

/-- The template is complete. -/
structure Finished (rte : Rte) (w : WireSpace) (proto : UInt8) (l4 str : List UInt8)
    (m : MbufDataMem) : Prop where
  ipv6 : m.ipv6 = w.ipv6
  vxlan : m.vxlan = w.ws.vxlan
  l2Len : m.l2Len = 14
  l3Len : m.l3Len.toNat = ipLen w
  l4Len : m.l4Len.toNat = l4.length
  dataLen : m.dataLen.toNat = str.length
  totalLen : m.totalLen.toNat = l3Off w + ipLen w + (l4 ++ str).length
  le : m.totalLen.toNat ≤ mbufDataSize
  data : Stands m.data 0 (outer rte w (14 + ipLen w + (l4 ++ str).length) ++
    (ipHeader w proto (UInt16.ofNat (l4 ++ str).length) ++ (l4 ++ str)))

section Content

variable {m : MbufDataMem} {rte : Rte} {w : WireSpace} {proto : UInt8} {n : ℕ}
  {rest l4 str data : List UInt8} {l4Len dataLen : ℕ} {len : UInt16}

lemma Built.setL4Len (h : Built w proto n rest l4Len dataLen m) (len : UInt16) :
    Built w proto n rest len.toNat dataLen { m with l4Len := len } :=
  ⟨h.ipv6, h.vxlan, h.l2Len, h.l3Len, rfl, h.dataLen, h.totalLen, h.le, h.data⟩

lemma Built.setDataLen (h : Built w proto n rest l4Len dataLen m) (len : UInt16) :
    Built w proto n rest l4Len len.toNat { m with dataLen := len } :=
  ⟨h.ipv6, h.vxlan, h.l2Len, h.l3Len, h.l4Len, rfl, h.totalLen, h.le, h.data⟩

lemma length_ipPacket (w : WireSpace) (proto : UInt8) (len : UInt16) (rest : List UInt8) :
    (ipHeader w proto len ++ rest).length = ipLen w + rest.length := by
  rw [List.length_append, length_ipHeader, ipLen]

/-- The place of the protocol in an IP header. -/
lemma ipHeader_proto (w : WireSpace) (len : UInt16) (rest : List UInt8) :
    ∃ pre suf, pre.length = (if w.ipv6 then 6 else 9) ∧
      ∀ proto, ipHeader w proto len ++ rest = pre ++ ([proto] ++ suf) := by
  cases h6 : w.ipv6 with
  | false =>
      refine ⟨[0x45, w.tos] ++ le16 (htons (20 + len)) ++ [0, 0] ++ le16 (htons 0x4000) ++ [64],
        (iphdr w.tos 0 0 0 0 0).drop 10 ++ rest, rfl, fun proto => ?_⟩
      rw [ipHeader, h6]
      rfl
  | true =>
      refine ⟨[(0x60 : UInt8) ||| (w.tos >>> 4), w.tos <<< 4, 0, 0] ++ le16 (htons len),
        (ip6Hdr w.tos 0 0 w.sip w.dip).drop 7 ++ rest, rfl, fun proto => ?_⟩
      rw [ipHeader, h6]
      rfl

/-- The place of the length. -/
lemma ipHeader_len (w : WireSpace) (proto : UInt8) (rest : List UInt8) :
    ∃ pre suf, pre.length = (if w.ipv6 then 4 else 2) ∧ ∀ len, ipHeader w proto len ++ rest =
      pre ++ (le16 (htons (if w.ipv6 then len else 20 + len)) ++ suf) := by
  cases h6 : w.ipv6 with
  | false =>
      refine ⟨[0x45, w.tos], (iphdr w.tos 0 proto 0 0 0).drop 4 ++ rest, rfl, fun len => ?_⟩
      rw [ipHeader, h6]
      rfl
  | true =>
      refine ⟨[(0x60 : UInt8) ||| (w.tos >>> 4), w.tos <<< 4, 0, 0],
        (ip6Hdr w.tos 0 proto w.sip w.dip).drop 6 ++ rest, rfl, fun len => ?_⟩
      rw [ipHeader, h6]
      rfl

lemma Built.mbufDataIpSetProto (h : Built w proto n rest l4Len dataLen m) (proto' : UInt8) :
    Built w proto' n rest l4Len dataLen (m.mbufDataIpSetProto proto') := by
  refine ⟨h.ipv6, h.vxlan, h.l2Len, h.l3Len, h.l4Len, h.dataLen, h.totalLen, h.le, ?_⟩
  have hdata := h.data
  obtain ⟨pre, suf, hpre, hip⟩ := ipHeader_proto w (UInt16.ofNat n) rest
  rw [hip, ← List.append_assoc] at hdata ⊢
  have hput := hdata.put_replace [proto'] rfl
  rw [List.length_append, length_ethHdr, hpre, ← h.ipv6] at hput
  rw [MbufDataMem.mbufDataIpSetProto, mbufDataIphdr, h.l2Len]
  split_ifs at hput ⊢ <;> exact hput

lemma Built.mbufDataIpTotLenAdd (h : Built w proto n rest l4Len dataLen m) (len : UInt16) :
    Built w proto (n + len.toNat) rest l4Len dataLen (m.mbufDataIpTotLenAdd len) := by
  refine ⟨h.ipv6, h.vxlan, h.l2Len, h.l3Len, h.l4Len, h.dataLen, h.totalLen, h.le, ?_⟩
  have hdata := h.data
  obtain ⟨pre, suf, hpre, hip⟩ := ipHeader_len w proto rest
  have hadd : UInt16.ofNat (n + len.toNat) = UInt16.ofNat n + len := by
    rw [UInt16.ofNat_add, UInt16.ofNat_toNat]
  rw [hip, ← List.append_assoc] at hdata ⊢
  have hoff : m.mbufDataIphdr + (if m.ipv6 then 4 else 2) =
      (ethHdr w.gatewayMac w.localMac (etherType w) ++ pre).length := by
    rw [List.length_append, length_ethHdr, hpre, mbufDataIphdr, h.l2Len, h.ipv6]
    rfl
  have hget := (stands_append.mp (stands_append.mp hdata).2).1.get16_eq
  rw [Nat.zero_add, ← hoff] at hget
  have hput := hdata.put_replace (le16 (htons (if w.ipv6 then UInt16.ofNat (n + len.toNat)
    else 20 + UInt16.ofNat (n + len.toNat)))) (by rw [length_le16, length_le16])
  rw [Nat.zero_add, ← hoff] at hput
  rw [MbufDataMem.mbufDataIpTotLenAdd, hget, htons_htons]
  convert hput using 4
  rw [hadd]
  split_ifs
  · rfl
  · rw [UInt16.add_assoc]

/-- What follows the IP header. -/
lemma Built.stands_rest (h : Built w proto n rest l4Len dataLen m) :
    Stands m.data m.mbufDataTcphdr rest := by
  have hrest := (stands_append.mp (stands_append.mp h.data).2).2
  rw [length_ethHdr, length_ipHeader, ← ipLen, ← h.l3Len, Nat.zero_add] at hrest
  rw [mbufDataTcphdr, h.l2Len]
  exact hrest

/-- A field after the IP header. -/
lemma Built.put_replace {pre suf old new : List UInt8}
    (h : Built w proto n (pre ++ (old ++ suf)) l4Len dataLen m) (hlen : new.length = old.length) :
    Built w proto n (pre ++ (new ++ suf)) l4Len dataLen
      { m with data := put m.data (m.mbufDataTcphdr + pre.length) new } := by
  have htotal := h.totalLen
  have hdata := h.data
  rw [← List.append_assoc (ipHeader w proto _), ← List.append_assoc] at hdata
  have hput := hdata.put_replace _ hlen
  rw [List.length_append, List.length_append, length_ethHdr, length_ipHeader, ← ipLen, ← h.l3Len,
    Nat.zero_add, ← Nat.add_assoc, List.append_assoc, List.append_assoc] at hput
  refine ⟨h.ipv6, h.vxlan, h.l2Len, h.l3Len, h.l4Len, h.dataLen, ?_, h.le, ?_⟩
  · rw [List.length_append, List.length_append] at htotal ⊢
    rw [hlen]
    exact htotal
  · rw [mbufDataTcphdr, h.l2Len]
    exact hput

/-- A push that does not fail. -/
lemma mbufDataPush_ok (h : ¬ (m.mbufDataPush data len).1 < 0) :
    m.totalLen.toNat + len.toNat ≤ mbufDataSize ∧ (m.mbufDataPush data len).2 = { m with
      data := put m.data m.totalLen.toNat (data.take len.toNat)
      totalLen := m.totalLen + len } := by
  rw [MbufDataMem.mbufDataPush] at h ⊢
  split_ifs at h ⊢ with hbig
  · exact absurd neg_one_lt h
  · exact ⟨not_lt.mp hbig, rfl⟩

lemma Built.mbufDataPush (h : Built w proto n rest l4Len dataLen m) (hlen : data.length = len.toNat)
    (hok : ¬ (m.mbufDataPush data len).1 < 0) :
    Built w proto n (rest ++ data) l4Len dataLen (m.mbufDataPush data len).2 := by
  obtain ⟨hroom, heq⟩ := mbufDataPush_ok hok
  have htotal : (m.totalLen + len).toNat = m.totalLen.toNat + len.toNat := by
    rw [mbufDataSize] at hroom
    rw [UInt16.toNat_add]
    omega
  have hput := h.data.put_append data
  rw [List.length_append, length_ethHdr, length_ipPacket, Nat.zero_add, ← Nat.add_assoc,
    ← h.totalLen, List.append_assoc, List.append_assoc] at hput
  rw [heq, ← hlen, List.take_length]
  refine ⟨h.ipv6, h.vxlan, h.l2Len, h.l3Len, h.l4Len, h.dataLen, ?_, htotal.trans_le hroom, hput⟩
  rw [List.length_append, ← Nat.add_assoc, ← h.totalLen, hlen]
  exact htotal

/-! ### The functions -/

lemma yields_pushL2 (behind : Mem) :
    Yields (mbufDataPushL2 w) (· = zero behind w.ipv6) (Linked w) := by
  rintro _ rfl hok
  obtain ⟨-, heq⟩ := mbufDataPush_ok hok
  have hlen : (ethHdr w.gatewayMac w.localMac (etherType w)).length = (14 : UInt16).toNat := rfl
  rw [mbufDataPushL2, heq]
  refine ⟨rfl, rfl, rfl, rfl, rfl, rfl, ?_⟩
  change Stands (put _ 0 ((ethHdr w.gatewayMac w.localMac (etherType w)).take _)) 0 _
  rw [← hlen, List.take_length]
  exact stands_put

/-- An IP header without protocol. -/
lemma Linked.push (h : Linked w m) {l3Len : UInt16} (hl3 : l3Len.toNat = ipLen w)
    (hok : ¬ ({ m with l3Len := l3Len }.mbufDataPush (ipHeader w 0 0) l3Len).1 < 0) :
    Content w 0 [] [] ({ m with l3Len := l3Len }.mbufDataPush (ipHeader w 0 0) l3Len).2 := by
  obtain ⟨hroom, heq⟩ := mbufDataPush_ok hok
  have hlen : (ipHeader w 0 0).length = l3Len.toNat := by rw [length_ipHeader, hl3, ipLen]
  have htotal : (m.totalLen + l3Len).toNat = 14 + ipLen w := by
    rw [h.totalLen, UInt16.toNat_add, hl3, ipLen]
    split_ifs <;> rfl
  have hput := h.data.put_append (ipHeader w 0 0)
  rw [length_ethHdr, Nat.zero_add] at hput
  rw [heq, ← hlen, List.take_length]
  have hfourteen : m.totalLen.toNat = 14 := by rw [h.totalLen]; rfl
  refine ⟨h.ipv6, h.vxlan, h.l2Len, hl3, ?_, ?_, htotal, ?_, ?_⟩
  · rw [h.l4Len]
    rfl
  · rw [h.dataLen]
    rfl
  · change (m.totalLen + l3Len).toNat ≤ _
    rw [htotal, ← hl3, ← hfourteen]
    exact hroom
  · rw [List.nil_append, List.append_nil]
    change Stands (put m.data m.totalLen.toNat _) 0 _
    rw [hfourteen]
    exact hput

lemma yields_pushIp : Yields (mbufDataPushIp w) (Linked w) (Content w 0 [] []) := by
  intro m h hok
  rw [mbufDataPushIp] at hok ⊢
  have h6 := h.ipv6
  split_ifs at hok ⊢ with h6'
  · rw [h6'] at h6
    have hip : ip6Hdr w.tos 0 0 w.sip w.dip = ipHeader w 0 0 := (if_pos h6.symm).symm
    have hlen : (40 : UInt16).toNat = ipLen w := (if_pos h6.symm).symm
    rw [mbufDataPushIpv6, hip] at hok ⊢
    exact h.push hlen hok
  · have h6w : ¬ w.ipv6 = true := by rwa [← h6]
    have hip : iphdr w.tos 20 0 0 0 0 = ipHeader w 0 0 := (if_neg h6w).symm
    have hlen : (20 : UInt16).toNat = ipLen w := (if_neg h6w).symm
    rw [mbufDataPushIpv4, hip] at hok ⊢
    exact h.push hlen hok

lemma yields_pushTcp : Yields mbufDataPushTcp (Content w 0 [] []) (Content w 6 (tcphdr 5) []) := by
  refine Yields.andDo (Q := Built w 0 0 (tcphdr 5) 20 0)
    (fun m h hok => (h.setL4Len 20).mbufDataPush rfl hok) fun m h => ?_
  have htcp := (h.mbufDataIpSetProto 6).mbufDataIpTotLenAdd (m.mbufDataIpSetProto 6).l4Len
  rw [(h.mbufDataIpSetProto 6).l4Len] at htcp
  rw [Content, List.append_nil]
  exact htcp

lemma thOffIncr_shift (off : UInt8) : thOffIncr (off <<< 4) = (off + 1) <<< 4 := by
  obtain ⟨b⟩ := off
  revert b
  decide +kernel

/-- The place of `th_off`. -/
lemma tcphdr_off (tail : List UInt8) : ∃ pre suf, pre.length = 12 ∧
    ∀ off, tcphdr off ++ tail = pre ++ ([off <<< 4] ++ suf) :=
  ⟨(tcphdr 0).take 12, (tcphdr 0).drop 13 ++ tail, rfl, fun _ => rfl⟩

lemma Built.thOffIncr {off : UInt8} {tail : List UInt8}
    (h : Built w proto n (tcphdr off ++ tail) l4Len dataLen m) :
    Built w proto n (tcphdr (off + 1) ++ tail) l4Len dataLen { m with
      data := put m.data (m.mbufDataTcphdr + 12)
        [thOffIncr (m.data (m.mbufDataTcphdr + 12))] } := by
  obtain ⟨pre, suf, hpre, htcp⟩ := tcphdr_off tail
  rw [htcp] at h ⊢
  have hbyte := (stands_cons.mp (stands_append.mp (stands_append.mp h.stands_rest).2).1).1
  rw [← hpre, hbyte, thOffIncr_shift]
  exact h.put_replace rfl

lemma yields_pushTcpOpt (off : UInt8) (os opt : List UInt8) (hopt : opt.length = 4) :
    Yields (fun m => m.mbufDataPushTcpOpt opt 4) (Content w 6 (tcphdr off ++ os) [])
      (Content w 6 (tcphdr (off + 1) ++ (os ++ opt)) []) := by
  intro m h hok
  dsimp only at hok ⊢
  rw [mbufDataPushTcpOpt, if_neg (by decide)] at hok ⊢
  rw [Content, List.append_nil] at h
  have hlen : (m.l4Len + UInt16.ofNat 4).toNat = (tcphdr off ++ os).length + 4 := by
    have htotal := h.totalLen
    have hle := h.le
    rw [mbufDataSize] at hle
    rw [UInt16.toNat_add, h.l4Len]
    change (_ + 4) % 65536 = _
    omega
  refine Yields.andDo (Q := Built w 6 (tcphdr off ++ os).length (tcphdr (off + 1) ++ (os ++ opt))
    ((tcphdr off ++ os).length + 4) 0) (fun m h hok => ?_) (fun m h => ?_) _
    (h.thOffIncr.setL4Len (m.l4Len + UInt16.ofNat 4)) hok
  · have hpush := h.mbufDataPush hopt hok
    rw [hlen, List.append_assoc] at hpush
    exact hpush
  · have hlen' : (tcphdr off ++ os).length + 4 = (tcphdr (off + 1) ++ (os ++ opt)).length := by
      rw [List.length_append, List.length_append, List.length_append, length_tcphdr, length_tcphdr,
        hopt, Nat.add_assoc]
    have hadd := h.mbufDataIpTotLenAdd (UInt16.ofNat 4)
    change Built w 6 ((tcphdr off ++ os).length + 4) _ _ _ _ at hadd
    rw [hlen'] at hadd
    rw [Content, List.append_nil]
    exact hadd

lemma yields_tcpOpt (mss : UInt16) :
    Yields (fun m => if 0 < mss then andThen (mbufDataPushTcpMss mss) mbufDataPushTcpWscale m
      else (0, m)) (Content w 6 (tcphdr 5) [])
      (Content w 6 (tcphdr (UInt8.ofNat (5 + (tcpOpt mss).length / 4)) ++ tcpOpt mss) []) := by
  intro m h hok
  dsimp only at hok ⊢
  by_cases hmss : mss = 0
  · have hpos : ¬ 0 < mss := by
      rw [hmss]
      exact lt_irrefl 0
    rw [tcpOpt, if_pos hmss, if_neg hpos, List.append_nil]
    exact h
  · have hpos : 0 < mss := UInt16.pos_iff_ne_zero.mpr hmss
    have hfirst : Yields (mbufDataPushTcpMss mss) (Content w 6 (tcphdr 5 ++ []) [])
        (Content w 6 (tcphdr (5 + 1) ++ ([] ++ ([2, 4] ++ le16 (htons mss)))) []) := by
      intro m h hok
      rw [mbufDataPushTcpMss, if_neg hmss] at hok ⊢
      exact yields_pushTcpOpt 5 [] _ rfl m h hok
    have hboth := hfirst.andThen (yields_pushTcpOpt (5 + 1) _ [1, 3, 3, 13] rfl)
    rw [if_pos hpos] at hok ⊢
    rw [tcpOpt, if_neg hmss]
    have hlen : ([2, 4] ++ le16 (htons mss) ++ [1, 3, 3, 13]).length = 8 := rfl
    have hoff : UInt8.ofNat (5 + 8 / 4) = 5 + 1 + 1 := by decide
    rw [List.append_nil, List.nil_append] at hboth
    rw [hlen, hoff]
    exact hboth m h hok

lemma yields_pushUdp :
    Yields mbufDataPushUdp (Content w 0 [] []) (Content w 17 (udphdr 0 0 8) []) := by
  intro m h hok
  have hadd := ((h.setL4Len 8).mbufDataIpSetProto 17).mbufDataIpTotLenAdd
    ({ m with l4Len := 8 }.mbufDataIpSetProto 17).l4Len
  rw [((h.setL4Len 8).mbufDataIpSetProto 17).l4Len] at hadd
  rw [mbufDataPushUdp] at hok ⊢
  have hudp := hadd.mbufDataPush (length_udphdr 0 0 8) hok
  rw [Content, List.append_nil, length_udphdr]
  exact hudp

lemma mbufDataPush_take (m : MbufDataMem) (data : List UInt8) (len : UInt16) :
    m.mbufDataPush (data.take len.toNat) len = m.mbufDataPush data len := by
  rw [MbufDataMem.mbufDataPush, MbufDataMem.mbufDataPush, List.take_take, min_self]

lemma yields_pushData (data : Option (List UInt8)) :
    Yields (mbufDataPushData data) (Content w proto l4 []) (Content w proto l4 (text data)) := by
  intro m h hok
  cases data with
  | none => exact h
  | some str =>
      rw [mbufDataPushData] at hok ⊢
      have hlen : (UInt16.ofNat str.length).toNat = str.length % 2 ^ 16 := UInt16.toNat_ofNat'
      have htext : (text (some str)).length = (UInt16.ofNat str.length).toNat := by
        rw [text, List.length_take, hlen]
        exact min_eq_left (Nat.mod_le _ _)
      split_ifs at hok ⊢ with hzero
      · have hnil : text (some str) = [] := by
          rw [← List.length_eq_zero_iff, htext, hzero]
          rfl
        rw [hnil]
        exact h
      · refine Yields.andDo (Q := Built w proto l4.length (l4 ++ text (some str)) l4.length 0)
          (fun m h hok => ?_) (fun m h => ?_) m h hok
        · rw [Content, List.append_nil] at h
          rw [← mbufDataPush_take, hlen] at hok ⊢
          exact h.mbufDataPush htext hok
        · have hadd := (h.setDataLen (UInt16.ofNat str.length)).mbufDataIpTotLenAdd
            (UInt16.ofNat str.length)
          rw [← htext, ← List.length_append] at hadd
          exact hadd

/-- The place of the UDP length. -/
lemma udphdr_len (tail : List UInt8) : ∃ pre suf, pre.length = 4 ∧
    ∀ len, udphdr 0 0 len ++ tail = pre ++ (le16 (htons len) ++ suf) :=
  ⟨le16 0 ++ le16 0, le16 0 ++ tail, rfl, fun _ => rfl⟩

lemma yields_udpLen : Yields
    (fun m => (0, { m with
      data := put m.data (m.mbufDataTcphdr + 4) (le16 (htons (m.l4Len + m.dataLen))) }))
    (Content w 17 (udphdr 0 0 8) str)
    (Content w 17 (udphdr 0 0 (UInt16.ofNat (8 + str.length))) str) := by
  intro m h _
  have hsum : m.l4Len + m.dataLen = UInt16.ofNat (8 + str.length) := by
    rw [← UInt16.ofNat_toNat (x := m.l4Len), ← UInt16.ofNat_toNat (x := m.dataLen), h.l4Len,
      h.dataLen, length_udphdr, UInt16.ofNat_add]
  obtain ⟨pre, suf, hpre, hudp⟩ := udphdr_len str
  rw [Content, List.length_append, length_udphdr] at h ⊢
  rw [hudp] at h ⊢
  dsimp only
  rw [hsum, ← hpre]
  exact h.put_replace (by rw [length_le16, length_le16])

/-- Headers that are pushed without failing. -/
lemma vxlanPushHeaders_ok {vxhs : List UInt8} (h : ¬ (m.vxlanPushHeaders vxhs).1 < 0) :
    m.totalLen.toNat + 50 ≤ mbufDataSize ∧ (m.vxlanPushHeaders vxhs).2 = { m with
      data := put (put m.data 50 (bytes m.data m.totalLen.toNat)) 0 vxhs
      totalLen := m.totalLen + 50
      vxlan := true } := by
  rw [MbufDataMem.vxlanPushHeaders] at h ⊢
  split_ifs at h ⊢ with hbig
  · exact absurd neg_one_lt h
  · exact ⟨not_lt.mp hbig, rfl⟩

/-- `vxlan_set_innter_eth_hdr`. -/
lemma Content.inner (h : Content w proto l4 str m) :
    Stands (put m.data 0 (w.vxlan.innerDmac.bytes ++ w.vxlan.innerSmac.bytes)) 0
      (ethHdr w.vxlan.innerDmac w.vxlan.innerSmac (etherType w) ++
        (ipHeader w proto (UInt16.ofNat (l4 ++ str).length) ++ (l4 ++ str))) := by
  have hsplit : ∀ dAddr sAddr rest, ethHdr dAddr sAddr (etherType w) ++ rest =
      [] ++ ((dAddr.bytes ++ sAddr.bytes) ++ (le16 (htons (etherType w)) ++ rest)) :=
    fun _ _ _ => rfl
  have hdata := h.data
  rw [hsplit] at hdata ⊢
  exact hdata.put_replace _ rfl

lemma Content.vxlanEncapsulate (h : Content w proto l4 str m) (hv : w.ws.vxlan = true)
    (hok : ¬ (m.vxlanEncapsulate rte w).1 < 0) :
    Finished rte w proto l4 str (m.vxlanEncapsulate rte w).2 := by
  rw [MbufDataMem.vxlanEncapsulate] at hok ⊢
  obtain ⟨hroom, heq⟩ := vxlanPushHeaders_ok hok
  have htotal := h.totalLen
  have hlen : (ethHdr w.vxlan.innerDmac w.vxlan.innerSmac (etherType w) ++
      (ipHeader w proto (UInt16.ofNat (l4 ++ str).length) ++ (l4 ++ str))).length =
        m.totalLen.toNat := by
    rw [List.length_append, length_ethHdr, length_ipPacket, ← Nat.add_assoc, htotal]
  have hinner := h.inner.prepend (vxlanHeaders rte w m.totalLen.toNat)
  rw [hlen, length_vxlanHeaders] at hinner
  have hsum : (m.totalLen + 50).toNat = m.totalLen.toNat + 50 := by
    change m.totalLen.toNat + 50 ≤ _ at hroom
    rw [mbufDataSize] at hroom
    rw [UInt16.toNat_add]
    change (_ + 50) % 65536 = _
    omega
  rw [heq]
  refine ⟨h.ipv6, hv.symm, h.l2Len, h.l3Len, h.l4Len, h.dataLen, ?_, hsum.trans_le hroom, ?_⟩
  · rw [l3Off, if_pos hv]
    refine hsum.trans ?_
    rw [htotal]
    omega
  · rw [outer, if_pos hv, List.append_assoc, ← htotal]
    exact hinner

lemma yields_mbufCacheInit (rte : Rte) (w : WireSpace) (pool : Bool) :
    Yields (mbufCacheInit rte w pool) (Content w proto l4 str) (Finished rte w proto l4 str) := by
  refine Yields.andThen (Q := Finished rte w proto l4 str) (fun m h hok => ?_) fun m h _ => ?_
  · split_ifs at hok ⊢ with hv
    · exact h.vxlanEncapsulate hv hok
    · have hl3 : l3Off w = 14 := if_neg hv
      have hdata := h.data
      refine ⟨h.ipv6, h.vxlan.trans (Bool.eq_false_iff.mpr hv).symm, h.l2Len, h.l3Len, h.l4Len,
        h.dataLen, ?_, h.le, ?_⟩
      · rw [hl3]
        exact h.totalLen
      · rw [outer, if_neg hv]
        exact hdata
  · split_ifs <;> exact h

/-- `mbuf_cache_init_tcp`, from the start. -/
lemma mbufCacheInitTcp_finished (pool : Bool) (mss : UInt16) (data : Option (List UInt8))
    (behind : Mem) (h : (mbufCacheInitTcp rte w pool mss data behind).1 = 0) :
    Finished rte w 6 (tcphdr (UInt8.ofNat (5 + (tcpOpt mss).length / 4)) ++ tcpOpt mss) (text data)
      (mbufCacheInitTcp rte w pool mss data behind).2 := by
  have hall := (yields_pushL2 behind).andThen (yields_pushIp.andThen (yields_pushTcp.andThen
    ((yields_tcpOpt mss).andThen ((yields_pushData data).andThen
      (yields_mbufCacheInit rte w pool)))))
  rw [mbufCacheInitTcp] at h ⊢
  refine hall _ rfl ?_
  rw [h]
  exact Int32.lt_irrefl

/-- `mbuf_cache_init_udp`. -/
lemma mbufCacheInitUdp_finished (pool : Bool) (data : Option (List UInt8)) (behind : Mem)
    (h : (mbufCacheInitUdp rte w pool data behind).1 = 0) :
    Finished rte w 17 (udphdr 0 0 (UInt16.ofNat (8 + (text data).length))) (text data)
      (mbufCacheInitUdp rte w pool data behind).2 := by
  have hall := (yields_pushL2 behind).andThen (yields_pushIp.andThen (yields_pushUdp.andThen
    ((yields_pushData data).andThen (yields_udpLen.andThen
      (yields_mbufCacheInit rte w pool)))))
  rw [mbufCacheInitUdp] at h ⊢
  refine hall _ rfl ?_
  rw [h]
  exact Int32.lt_irrefl

lemma mbufCacheInitTcp_within (pool : Bool) (mss : UInt16) (data : Option (List UInt8))
    (behind : Mem) : Within behind (mbufCacheInitTcp rte w pool mss data behind).2 := by
  have hopt : Keeps (fun m => if 0 < mss then
      andThen (mbufDataPushTcpMss mss) mbufDataPushTcpWscale m else (0, m)) (Within behind) := by
    intro m h
    dsimp only
    split_ifs
    · exact (keeps_pushTcpMss mss).andThen (keeps_pushTcpOpt [1, 3, 3, 13] 4) m h
    · exact h
  exact keeps_pushL2.andThen (keeps_pushIp.andThen (keeps_pushTcp.andThen (hopt.andThen
    ((keeps_pushData data).andThen (keeps_mbufCacheInit pool))))) _ (within_zero behind w.ipv6)

lemma mbufCacheInitUdp_within (pool : Bool) (data : Option (List UInt8)) (behind : Mem) :
    Within behind (mbufCacheInitUdp rte w pool data behind).2 :=
  keeps_pushL2.andThen (keeps_pushIp.andThen (keeps_pushUdp.andThen
    ((keeps_pushData data).andThen ((keeps_udpLen _).andThen (keeps_mbufCacheInit pool)))))
    _ (within_zero behind w.ipv6)

end Content

/-! ### The lengths of a template -/

/-- The lengths of a template are those of its headers, and they fit. -/
structure Coherent (w : WireSpace) (m : MbufDataMem) : Prop where
  ipv6 : m.ipv6 = w.ipv6
  vxlan : m.vxlan = w.ws.vxlan
  totalLen : m.totalLen.toNat =
    m.l2Len.toNat + m.l3Len.toNat + m.l4Len.toNat + m.dataLen.toNat + m.vxlanLen
  le : m.totalLen.toNat ≤ mbufDataSize
  ip : (htons (get16 m.data (m.ipOff + if m.ipv6 then 4 else 2))).toNat =
    (if m.ipv6 then 0 else m.l3Len.toNat) + m.l4Len.toNat + m.dataLen.toNat
  csum_packet : m.l4Off + m.csumL4Len w = m.totalLen.toNat
  csum_ip : m.csumL4Len w = if m.ipv6 then l4Len6 m.data m.ipOff else l4Len4 m.data m.ipOff

section Finished

variable {m : MbufDataMem} {rte : Rte} {w : WireSpace} {proto : UInt8} {l4 str : List UInt8}

lemma length_outer (rte : Rte) (w : WireSpace) (innerLen : ℕ) :
    (outer rte w innerLen).length = l3Off w := by
  rw [outer, l3Off]
  split_ifs
  · rw [List.length_append, length_vxlanHeaders, length_ethHdr]
  · exact length_ethHdr ..

lemma Finished.ipOff_eq (h : Finished rte w proto l4 str m) : m.ipOff = l3Off w := by
  rw [ipOff, vxlanLen, h.vxlan, h.l2Len, l3Off]
  split_ifs <;> rfl

lemma Finished.stands_ip (h : Finished rte w proto l4 str m) :
    Stands m.data m.ipOff (ipHeader w proto (UInt16.ofNat (l4 ++ str).length) ++ (l4 ++ str)) := by
  have hip := (stands_append.mp h.data).2
  rw [length_outer, ← h.ipOff_eq, Nat.zero_add] at hip
  exact hip

lemma Finished.stands_l4 (h : Finished rte w proto l4 str m) :
    Stands m.data m.l4Off (l4 ++ str) := by
  have hl4 := (stands_append.mp h.stands_ip).2
  rw [length_ipHeader, ← ipLen, ← h.l3Len, ← l4Off] at hl4
  exact hl4

/-- The length in the IP header. -/
lemma Finished.ip_len (h : Finished rte w proto l4 str m) :
    (htons (get16 m.data (m.ipOff + if m.ipv6 then 4 else 2))).toNat =
      (if m.ipv6 then 0 else 20) + (l4 ++ str).length := by
  have hip := h.stands_ip
  have htotal := h.totalLen
  have hle := h.le
  rw [mbufDataSize] at hle
  have hlen : (UInt16.ofNat (l4 ++ str).length).toNat = (l4 ++ str).length := by
    rw [UInt16.toNat_ofNat']
    omega
  obtain ⟨pre, suf, hpre, heq⟩ := ipHeader_len w proto (l4 ++ str)
  rw [heq] at hip
  have hget := (stands_append.mp (stands_append.mp hip).2).1.get16_eq
  rw [hpre, ← h.ipv6] at hget
  rw [hget, htons_htons]
  split_ifs
  · rw [hlen, Nat.zero_add]
  · rw [UInt16.toNat_add, hlen]
    change (20 + _) % 65536 = _
    omega

/-- The L4 length that a checksum over the packet takes from the IP header. -/
lemma Finished.ip_l4Len (h : Finished rte w proto l4 str m) :
    (if m.ipv6 then l4Len6 m.data m.ipOff else l4Len4 m.data m.ipOff) = (l4 ++ str).length := by
  have hip := h.ip_len
  split_ifs at hip ⊢
  · exact hip.trans (Nat.zero_add _)
  · exact (congrArg (· - 20) hip).trans (Nat.add_sub_cancel_left ..)

/-- The one that `csum_init_socket` takes. -/
lemma Finished.csumL4Len_eq (h : Finished rte w proto l4 str m) :
    m.csumL4Len w = (l4 ++ str).length := by
  rw [csumL4Len]
  split_ifs with hv
  · have hl4 := h.ip_l4Len
    rw [h.ipOff_eq, l3Off, if_pos hv, h.ipv6] at hl4
    exact hl4
  · have htotal := h.totalLen
    have hle := h.le
    rw [mbufDataSize] at hle
    rw [List.length_append] at htotal ⊢
    rw [l4DataLen, UInt16.toNat_add, h.l4Len, h.dataLen]
    omega

lemma Finished.coherent (h : Finished rte w proto l4 str m) : Coherent w m := by
  have hip := h.ip_len
  have htotal := h.totalLen
  have hoff := h.ipOff_eq
  have hl2 : m.l2Len.toNat = 14 := by
    rw [h.l2Len]
    rfl
  rw [List.length_append, ← h.l4Len, ← h.dataLen] at hip htotal
  refine ⟨h.ipv6, h.vxlan, ?_, h.le, ?_, ?_, h.csumL4Len_eq.trans h.ip_l4Len.symm⟩
  · rw [htotal, ← hoff, ipOff, ← h.l3Len]
    omega
  · rw [hip, h.l3Len, h.ipv6, ipLen]
    split_ifs <;> omega
  · rw [h.csumL4Len_eq, l4Off, hoff, h.l3Len, h.totalLen]

/-- `th_off` counts the words of the header. -/
lemma thOff_tcpOpt (mss : UInt16) :
    ((UInt8.ofNat (5 + (tcpOpt mss).length / 4) <<< 4) >>> 4).toNat * 4 =
      (tcphdr (UInt8.ofNat (5 + (tcpOpt mss).length / 4)) ++ tcpOpt mss).length := by
  rw [List.length_append, length_tcphdr, tcpOpt]
  split_ifs
  · decide
  · have hlen : ([2, 4] ++ le16 (htons mss) ++ [1, 3, 3, 13]).length = 8 := rfl
    rw [hlen]
    decide

lemma mbufCacheInit_outer {l3 : List UInt8} (h : l3Off w + l3.length ≤ mbufDataSize) :
    Wire.mbufCacheInit rte w l3 = some (outer rte w (14 + l3.length) ++ l3) := by
  rw [← length_outer rte w (14 + l3.length), ← List.length_append] at h
  rw [Wire.mbufCacheInit]
  rw [outer] at h ⊢
  split_ifs at h ⊢
  · rfl
  · rfl

/-- The bytes of a template, and its `L4_DATA_LEN`. -/
lemma Finished.bytes_eq (h : Finished rte w proto l4 str m) :
    Wire.mbufCacheInit rte w (ipHeader w proto (UInt16.ofNat (l4 ++ str).length) ++ (l4 ++ str)) =
      some (bytes m.data m.totalLen.toNat) ∧
    Wire.l4DataLen w (bytes m.data m.totalLen.toNat) = m.l4DataLen := by
  have htotal := h.totalLen
  have hle := h.le
  have hlen : (bytes m.data m.totalLen.toNat).length = m.totalLen.toNat := by
    rw [bytes, List.length_map, List.length_range]
  have hbytes := stands_bytes.mp h.data
  have hlist : (outer rte w (14 + ipLen w + (l4 ++ str).length) ++
      (ipHeader w proto (UInt16.ofNat (l4 ++ str).length) ++ (l4 ++ str))).length =
        m.totalLen.toNat := by
    rw [List.length_append, length_outer, length_ipPacket, htotal, Nat.add_assoc]
  rw [hlist] at hbytes
  refine ⟨?_, ?_⟩
  · rw [hbytes, Nat.add_assoc, ← length_ipPacket w proto (UInt16.ofNat (l4 ++ str).length)]
    refine mbufCacheInit_outer ?_
    rw [length_ipPacket, ← Nat.add_assoc, ← htotal]
    exact hle
  · rw [Wire.l4DataLen, hlen, htotal, Wire.l4, ← ipLen, Nat.add_sub_cancel_left, List.length_append,
      UInt16.ofNat_add, ← h.l4Len, ← h.dataLen, UInt16.ofNat_toNat, UInt16.ofNat_toNat]
    rfl

end Finished

/-- The template of a TCP cache has the bytes of the list. -/
theorem mbufCacheInitTcp_bytes (rte : Rte) (w : WireSpace) (pool : Bool) (mss : UInt16)
    (data : Option (List UInt8)) (behind : Mem)
    (h : (mbufCacheInitTcp rte w pool mss data behind).1 = 0) :
    let m := (mbufCacheInitTcp rte w pool mss data behind).2
    Wire.mbufCacheInitTcp rte w mss (text data) = some (bytes m.data m.totalLen.toNat) ∧
      Wire.l4DataLen w (bytes m.data m.totalLen.toNat) = m.l4DataLen := by
  have hbytes := (mbufCacheInitTcp_finished pool mss data behind h).bytes_eq
  rw [List.length_append, List.length_append, length_tcphdr, List.append_assoc] at hbytes
  rw [Wire.mbufCacheInitTcp, List.append_assoc, List.append_assoc]
  exact hbytes

/-- The same of a UDP cache. -/
theorem mbufCacheInitUdp_bytes (rte : Rte) (w : WireSpace) (pool : Bool)
    (data : Option (List UInt8)) (behind : Mem)
    (h : (mbufCacheInitUdp rte w pool data behind).1 = 0) :
    let m := (mbufCacheInitUdp rte w pool data behind).2
    Wire.mbufCacheInitUdp rte w (text data) = some (bytes m.data m.totalLen.toNat) ∧
      Wire.l4DataLen w (bytes m.data m.totalLen.toNat) = m.l4DataLen := by
  have hbytes := (mbufCacheInitUdp_finished pool data behind h).bytes_eq
  rw [List.length_append, length_udphdr] at hbytes
  rw [Wire.mbufCacheInitUdp, List.append_assoc]
  exact hbytes

/-- **Template coherence.** Where `mbuf_cache_init_tcp` or `mbuf_cache_init_udp` succeeds, the
lengths that the template keeps, those in its headers and the one of its checksums agree, and it
fits. No push writes behind the array, also where it fails. -/
theorem templates_coherent (rte : Rte) (w : WireSpace) (pool : Bool) (data : Option (List UInt8))
    (behind : Mem) :
    (∀ mss, let r := mbufCacheInitTcp rte w pool mss data behind
      Within behind r.2 ∧ (r.1 = 0 → Coherent w r.2 ∧
        (r.2.data (r.2.l4Off + 12) >>> 4).toNat * 4 = r.2.l4Len.toNat)) ∧
    let r := mbufCacheInitUdp rte w pool data behind
    Within behind r.2 ∧ (r.1 = 0 → Coherent w r.2 ∧
      (htons (get16 r.2.data (r.2.l4Off + 4))).toNat = r.2.l4Len.toNat + r.2.dataLen.toNat) := by
  refine ⟨fun mss => ⟨mbufCacheInitTcp_within pool mss data behind, fun h => ?_⟩,
    mbufCacheInitUdp_within pool data behind, fun h => ?_⟩
  · have hfin := mbufCacheInitTcp_finished pool mss data behind h
    refine ⟨hfin.coherent, ?_⟩
    have hl4 := hfin.stands_l4
    obtain ⟨pre, suf, hpre, htcp⟩ := tcphdr_off (tcpOpt mss ++ text data)
    rw [List.append_assoc, htcp] at hl4
    have hbyte := (stands_cons.mp (stands_append.mp hl4).2).1
    rw [hpre] at hbyte
    rw [hbyte, hfin.l4Len]
    exact thOff_tcpOpt mss
  · have hfin := mbufCacheInitUdp_finished pool data behind h
    refine ⟨hfin.coherent, ?_⟩
    have hl4 := hfin.stands_l4
    obtain ⟨pre, suf, hpre, hudp⟩ := udphdr_len (text data)
    rw [hudp] at hl4
    have hget := (stands_append.mp (stands_append.mp hl4).2).1.get16_eq
    rw [hpre] at hget
    rw [hget, htons_htons, hfin.l4Len, hfin.dataLen, length_udphdr, UInt16.toNat_ofNat']
    have htotal := hfin.totalLen
    have hle := hfin.le
    rw [List.length_append, length_udphdr] at htotal
    rw [mbufDataSize] at hle
    omega

/-- The template of a request over VXLAN, with options. -/
theorem templates_coherent_vxlan :
    let r := mbufCacheInitTcp .zero .one true 1460 (some [71, 69, 84]) fun _ => 0
    r.1 = 0 ∧ Coherent .one r.2 ∧
      (r.2.data (r.2.l4Off + 12) >>> 4).toNat * 4 = r.2.l4Len.toNat := by
  have hok : (mbufCacheInitTcp .zero .one true 1460 (some [71, 69, 84]) fun _ => 0).1 = 0 := rfl
  obtain ⟨htcp, -⟩ := templates_coherent .zero .one true (some [71, 69, 84]) fun _ => 0
  exact ⟨hok, (htcp 1460).2 hok⟩

end MbufDataMem

end Dperf.Wire
