import Dperf.Lib.Memory
import Dperf.Lib.OnesComplement
import Dperf.Tcp.Reply

/-!
The bytes of a packet: the templates of `mbuf_cache.c` and `vxlan.c`, the checksum updates of
`csum.h`, and `tcp_new_packet` and `udp_new_packet`.

* `Mem` is the data area of an mbuf. A field is written as on a little-endian machine, so that
  `htons` and `htonl` stand where they stand in the source.
* `template`: what `mbuf_cache_alloc` copies.
* `tcpNewPacket`, `udpNewPacket`: the writes after `mbuf_cache_alloc`. What they read beside the
  mbuf is a `Build`.
* `putTcp_segment`: the TCP header is that of the segment that the state machine sends.
-/

namespace Dperf.Wire

open Memory OnesComplement

/-! ### Network order -/

/-- `htons` and `ntohs`. -/
def htons (v : UInt16) : UInt16 := UInt16.ofNat (v.toNat % 256 * 256 + v.toNat / 256)

lemma toNat_htons (v : UInt16) : (htons v).toNat = v.toNat % 256 * 256 + v.toNat / 256 := by
  have hlt := v.toNat_lt
  rw [htons, UInt16.toNat_ofNat']
  exact Nat.mod_eq_of_lt (by omega)

lemma htons_htons (v : UInt16) : htons (htons v) = v := by
  have hlt := v.toNat_lt
  apply UInt16.toNat_inj.mp
  rw [toNat_htons, toNat_htons]
  omega

/-- `htonl` and `ntohl`. -/
def htonl (v : UInt32) : UInt32 :=
  UInt32.ofNat ((htons (UInt16.ofNat v.toNat)).toNat * 65536
    + (htons (UInt16.ofNat (v.toNat / 65536))).toNat)

lemma toNat_htonl (v : UInt32) : (htonl v).toNat = (htons (UInt16.ofNat v.toNat)).toNat * 65536
    + (htons (UInt16.ofNat (v.toNat / 65536))).toNat := by
  have hlo := (htons (UInt16.ofNat v.toNat)).toNat_lt
  have hhi := (htons (UInt16.ofNat (v.toNat / 65536))).toNat_lt
  rw [htonl, UInt32.toNat_ofNat']
  exact Nat.mod_eq_of_lt (by omega)

lemma htonl_htonl (v : UInt32) : htonl (htonl v) = v := by
  have hlt := v.toNat_lt
  have hlo := (htons (UInt16.ofNat v.toNat)).toNat_lt
  have hhi := (htons (UInt16.ofNat (v.toNat / 65536))).toNat_lt
  have hback : UInt16.ofNat (htonl v).toNat = htons (UInt16.ofNat (v.toNat / 65536)) ∧
      UInt16.ofNat ((htonl v).toNat / 65536) = htons (UInt16.ofNat v.toNat) := by
    rw [toNat_htonl]
    constructor <;> apply UInt16.toNat_inj.mp <;> rw [UInt16.toNat_ofNat'] <;> omega
  apply UInt32.toNat_inj.mp
  rw [htonl, hback.1, hback.2, htons_htons, htons_htons, UInt32.toNat_ofNat', UInt16.toNat_ofNat',
    UInt16.toNat_ofNat']
  omega

/-- `struct eth_addr`. -/
structure EthAddr where
  b0 : UInt8
  b1 : UInt8
  b2 : UInt8
  b3 : UInt8
  b4 : UInt8
  b5 : UInt8

/-- The bytes of an Ethernet address. -/
def EthAddr.bytes (a : EthAddr) : List UInt8 := [a.b0, a.b1, a.b2, a.b3, a.b4, a.b5]

/-- `struct in6_addr`, as `s6_addr32`; of an IPv4 address only the last word is used. -/
structure In6Addr where
  w0 : UInt32
  w1 : UInt32
  w2 : UInt32
  w3 : UInt32
  deriving DecidableEq

/-- The bytes of an IPv6 address. -/
def In6Addr.bytes (a : In6Addr) : List UInt8 := le32 a.w0 ++ le32 a.w1 ++ le32 a.w2 ++ le32 a.w3

/-! ### Checksums -/

/-- What `rte_ip.h` provides: `rte_ipv4_cksum` of a header, `rte_ipv4_udptcp_cksum` and
`rte_ipv6_udptcp_cksum` of the two headers. -/
structure Rte where
  ipv4Cksum : Mem → ℕ → UInt16
  ipv4UdptcpCksum : Mem → ℕ → ℕ → UInt16
  ipv6UdptcpCksum : Mem → ℕ → ℕ → UInt16

/-- `csum_update_u32`. -/
def csumUpdateU32 (ocsum : UInt16) (oval nval : UInt32) : UInt16 :=
  let csum : UInt32 := (~~~(oval >>> (16 : UInt32)) &&& 0xFFFF) + (~~~(oval &&& (0xFFFF : UInt32)) &&& 0xFFFF)
    + (~~~(nval >>> (16 : UInt32)) &&& 0xFFFF) + (~~~(nval &&& (0xFFFF : UInt32)) &&& 0xFFFF)
    + ocsum.toUInt32
  let csum : UInt32 := (csum &&& (0xFFFF : UInt32)) + (csum >>> 16)
  let csum : UInt32 := (csum &&& (0xFFFF : UInt32)) + (csum >>> 16)
  csum.toUInt16

/-- `csum_update_u128`. -/
def csumUpdateU128 (ocsum : UInt16) (oval nval : In6Addr) : UInt16 :=
  let csum := csumUpdateU32 ocsum oval.w0 nval.w0
  let csum := csumUpdateU32 csum oval.w1 nval.w1
  let csum := csumUpdateU32 csum oval.w2 nval.w2
  csumUpdateU32 csum oval.w3 nval.w3

/-- `csum_update_u16`. -/
def csumUpdateU16 (ocsum oval nval : UInt16) : UInt16 :=
  let csum : UInt32 := (~~~ocsum.toUInt32 &&& 0xFFFF) + (~~~oval.toUInt32 &&& 0xFFFF)
    + nval.toUInt32
  let csum : UInt32 := (csum >>> 16) + (csum &&& (0xFFFF : UInt32))
  let csum : UInt32 := csum + (csum >>> 16)
  (~~~csum).toUInt16

/-- The complements of the two words of an address. -/
def complement (v : UInt32) : ℕ := (65535 - v.toNat / 65536) + (65535 - v.toNat % 65536)

lemma toNat_not_and (x : UInt32) (h : x.toNat < 65536) :
    (~~~x &&& (0xFFFF : UInt32)).toNat = 65535 - x.toNat := by
  have hmask : (~~~x &&& (0xFFFF : UInt32)).toNat = (~~~x).toNat % 65536 := by
    rw [UInt32.toNat_and]
    exact Nat.and_two_pow_sub_one_eq_mod _ 16
  rw [hmask, UInt32.toNat_not]
  have : UInt32.size = 4294967296 := rfl
  omega

lemma toNat_and_mask (x : UInt32) : (x &&& (0xFFFF : UInt32)).toNat = x.toNat % 65536 := by
  rw [UInt32.toNat_and]
  exact Nat.and_two_pow_sub_one_eq_mod _ 16

lemma toNat_shift (x : UInt32) : (x >>> (16 : UInt32)).toNat = x.toNat / 65536 := by
  rw [UInt32.toNat_shiftRight]
  exact Nat.shiftRight_eq_div_pow _ 16

lemma toNat_fold (x : UInt32) (h : x.toNat < 2 ^ 31) :
    ((x &&& (0xFFFF : UInt32)) + (x >>> (16 : UInt32))).toNat
      = x.toNat % 65536 + x.toNat / 65536 := by
  rw [UInt32.toNat_add, toNat_and_mask, toNat_shift]
  exact Nat.mod_eq_of_lt (by omega)

/-- The carries are added back twice. -/
lemma toNat_fold_fold (x : UInt32) (h : x.toNat < 2 ^ 31) :
    let y : UInt32 := (x &&& (0xFFFF : UInt32)) + (x >>> (16 : UInt32))
    ((y &&& (0xFFFF : UInt32)) + (y >>> (16 : UInt32))).toUInt16.toNat = onesSum x.toNat := by
  intro y
  have hone : y.toNat = x.toNat % 65536 + x.toNat / 65536 := toNat_fold x h
  have htwo := toNat_fold y (by omega)
  rw [hone, fold_fold x.toNat_lt] at htwo
  have hle := onesSum_le x.toNat
  rw [UInt32.toNat_toUInt16, htwo, Nat.mod_eq_of_lt (by omega)]

lemma toNat_csumUpdateU32 (ocsum : UInt16) (oval nval : UInt32) :
    (csumUpdateU32 ocsum oval nval).toNat
      = onesSum (ocsum.toNat + (complement oval + complement nval)) := by
  have hc := ocsum.toNat_lt
  have hwords : ∀ v : UInt32, (~~~(v >>> (16 : UInt32)) &&& 0xFFFF).toNat = 65535 - v.toNat / 65536 ∧
      (~~~(v &&& (0xFFFF : UInt32)) &&& 0xFFFF).toNat = 65535 - v.toNat % 65536 := by
    intro v
    have hv := v.toNat_lt
    have hhi := toNat_shift v
    have hlo := toNat_and_mask v
    exact ⟨by rw [toNat_not_and _ (by omega), hhi], by rw [toNat_not_and _ (by omega), hlo]⟩
  obtain ⟨hoh, hol⟩ := hwords oval
  obtain ⟨hnh, hnl⟩ := hwords nval
  rw [csumUpdateU32, complement, complement]
  -- five words do not overflow 32 bits
  have hsum : ((~~~(oval >>> (16 : UInt32)) &&& 0xFFFF) + (~~~(oval &&& (0xFFFF : UInt32)) &&& 0xFFFF)
      + (~~~(nval >>> (16 : UInt32)) &&& 0xFFFF) + (~~~(nval &&& (0xFFFF : UInt32)) &&& 0xFFFF)
      + ocsum.toUInt32).toNat = ocsum.toNat + (65535 - oval.toNat / 65536
        + (65535 - oval.toNat % 65536) + (65535 - nval.toNat / 65536
        + (65535 - nval.toNat % 65536))) := by
    simp only [UInt32.toNat_add, hoh, hol, hnh, hnl, UInt16.toNat_toUInt32]
    omega
  generalize (~~~(oval >>> (16 : UInt32)) &&& 0xFFFF) + (~~~(oval &&& (0xFFFF : UInt32)) &&& 0xFFFF)
      + (~~~(nval >>> (16 : UInt32)) &&& 0xFFFF) + (~~~(nval &&& (0xFFFF : UInt32)) &&& 0xFFFF)
      + ocsum.toUInt32 = csum at hsum ⊢
  rw [← hsum]
  exact toNat_fold_fold csum (by omega)

/-- One's complement addition of a word to a checksum. -/
lemma csumUpdateU16_modEq (ocsum nval : UInt16) :
    (csumUpdateU16 ocsum 0 nval).toNat + nval.toNat ≡ ocsum.toNat [MOD 65535] := by
  have hc := ocsum.toNat_lt
  have hn := nval.toNat_lt
  rw [csumUpdateU16]
  have hoc : (~~~ocsum.toUInt32 &&& 0xFFFF).toNat = 65535 - ocsum.toNat :=
    toNat_not_and _ (by rw [UInt16.toNat_toUInt32]; omega)
  have hzero : (~~~(0 : UInt16).toUInt32 &&& 0xFFFF).toNat = 65535 := toNat_not_and _ (by decide)
  have hsum : ((~~~ocsum.toUInt32 &&& 0xFFFF) + (~~~(0 : UInt16).toUInt32 &&& 0xFFFF)
      + nval.toUInt32).toNat = 65535 - ocsum.toNat + 65535 + nval.toNat := by
    simp only [UInt32.toNat_add, hoc, hzero, UInt16.toNat_toUInt32]
    omega
  generalize (~~~ocsum.toUInt32 &&& 0xFFFF) + (~~~(0 : UInt16).toUInt32 &&& 0xFFFF)
      + nval.toUInt32 = csum at hsum ⊢
  have hone := toNat_fold csum (by omega)
  rw [UInt32.add_comm] at hone
  generalize (csum >>> (16 : UInt32)) + (csum &&& (0xFFFF : UInt32)) = csum' at hone ⊢
  have hshift := toNat_shift csum'
  have htwo : (csum' + (csum' >>> (16 : UInt32))).toNat = csum'.toNat + csum'.toNat / 65536 := by
    rw [UInt32.toNat_add, hshift]
    exact Nat.mod_eq_of_lt (by omega)
  -- the second carry leaves less than a word
  have hsmall : csum'.toNat ≤ 65537 := by omega
  have hfold : csum'.toNat % 65535 = csum.toNat % 65535 := by omega
  have hword : (csum'.toNat + csum'.toNat / 65536) % 65536 % 65535 = csum'.toNat % 65535 := by
    obtain h | h | h : csum'.toNat < 65536 ∨ csum'.toNat = 65536 ∨ csum'.toNat = 65537 := by omega
    · rw [Nat.div_eq_of_lt h, Nat.add_zero, Nat.mod_eq_of_lt h]
    · rw [h]
    · rw [h]
  have hnot : (~~~(csum' + (csum' >>> (16 : UInt32)))).toNat % 65536
      = 65535 - (csum'.toNat + csum'.toNat / 65536) % 65536 := by
    have hsize : UInt32.size = 4294967296 := rfl
    rw [UInt32.toNat_not, htwo]
    omega
  rw [UInt32.toNat_toUInt16, hnot, Nat.ModEq]
  omega

/-- The complements of the words of an IPv6 address. -/
def complement128 (a : In6Addr) : ℕ :=
  complement a.w0 + complement a.w1 + complement a.w2 + complement a.w3

lemma toNat_csumUpdateU128 (ocsum : UInt16) (oval nval : In6Addr) :
    (csumUpdateU128 ocsum oval nval).toNat
      = onesSum (ocsum.toNat + (complement128 oval + complement128 nval)) := by
  rw [csumUpdateU128]
  simp only [toNat_csumUpdateU32, onesSum_add]
  rw [complement128, complement128]
  congr 1
  ring

/-! ### Templates -/

/-- `struct vxlan`, with the addresses that the queue of the worker gets. -/
structure Vxlan where
  vni : UInt32
  innerSmac : EthAddr
  innerDmac : EthAddr
  saddr : UInt32
  daddr : UInt32

/-- What the templates and the packets read of `ws`, its port and the configuration: `sip` and
`dip` are the first addresses of the two ranges. `config_check_change_dip` does not let
`change_dip` and `vxlan` go together. -/
structure WireSpace where
  ws : WorkSpace
  ipv6 : Bool
  changeDip : Bool
  tos : UInt8
  mss : UInt16
  localMac : EthAddr
  gatewayMac : EthAddr
  vxlan : Vxlan
  sip : In6Addr
  dip : In6Addr
  change_dip_vxlan : changeDip = true → ws.vxlan = false

/-- `struct eth_hdr`. -/
def ethHdr (dAddr sAddr : EthAddr) (type : UInt16) : List UInt8 :=
  dAddr.bytes ++ sAddr.bytes ++ le16 (htons type)

/-- `struct iphdr` without options, `IP_FLAG_DF` set and `DEFAULT_TTL`. -/
def iphdr (tos : UInt8) (totLen : UInt16) (protocol : UInt8) (check : UInt16)
    (saddr daddr : UInt32) : List UInt8 :=
  [0x45, tos] ++ le16 (htons totLen) ++ [0, 0] ++ le16 (htons 0x4000) ++ [64, protocol]
    ++ le16 check ++ le32 saddr ++ le32 daddr

/-- `struct ip6_hdr`. -/
def ip6Hdr (tos : UInt8) (plen : UInt16) (nxt : UInt8) (src dst : In6Addr) : List UInt8 :=
  [(0x60 : UInt8) ||| (tos >>> 4), tos <<< 4, 0, 0] ++ le16 (htons plen) ++ [nxt, 64] ++ src.bytes ++ dst.bytes

/-- `struct tcphdr` without numbers; `TCP_WIN` is its window. -/
def tcphdr (off : UInt8) : List UInt8 :=
  le16 0 ++ le16 0 ++ le32 0 ++ le32 0 ++ [off <<< 4, 0] ++ le16 (htons (1460 * 40)) ++ le16 0
    ++ le16 0

/-- `mbuf_data_push_tcp_mss` and `mbuf_data_push_tcp_wscale`. -/
def tcpOpt (mss : UInt16) : List UInt8 :=
  if mss = 0 then [] else [2, 4] ++ le16 (htons mss) ++ [1, 3, 3, 13]

/-- `struct udphdr`. -/
def udphdr (source dest len : UInt16) : List UInt8 :=
  le16 source ++ le16 dest ++ le16 (htons len) ++ le16 0

/-- `mbuf_data_push_ip` with the protocol and the length that are added later. -/
def ipHeader (w : WireSpace) (protocol : UInt8) (len : UInt16) : List UInt8 :=
  if w.ipv6 then ip6Hdr w.tos len protocol w.sip w.dip
  else iphdr w.tos (20 + len) protocol 0 0 0

/-- `ETHER_TYPE_IPv4` or `ETHER_TYPE_IPv6`. -/
def etherType (w : WireSpace) : UInt16 := if w.ipv6 then 0x86DD else 0x0800

/-- The outer headers of `vxlan_encapsulate`. -/
def vxlanHeaders (rte : Rte) (w : WireSpace) (innerLen : ℕ) : List UInt8 :=
  let ip := iphdr w.tos (UInt16.ofNat (36 + innerLen)) 17 0 w.vxlan.saddr w.vxlan.daddr
  let check := rte.ipv4Cksum (put (fun _ => 0) 0 ip) 0
  ethHdr w.gatewayMac w.localMac 0x0800
    ++ iphdr w.tos (UInt16.ofNat (36 + innerLen)) 17 check w.vxlan.saddr w.vxlan.daddr
    ++ udphdr 0 (htons 4789) (UInt16.ofNat (16 + innerLen))
    ++ ([0x08, 0, 0, 0] : List UInt8) ++ le32 (htonl (w.vxlan.vni <<< 8))

/-- `mbuf_cache_init`: the headers up to the IP header, around the rest of the packet; nothing
if it is longer than a template may be. -/
def mbufCacheInit (rte : Rte) (w : WireSpace) (l3 : List UInt8) : Option (List UInt8) :=
  let data :=
    if w.ws.vxlan then
      vxlanHeaders rte w (14 + l3.length)
        ++ ethHdr w.vxlan.innerDmac w.vxlan.innerSmac (etherType w) ++ l3
    else ethHdr w.gatewayMac w.localMac (etherType w) ++ l3
  if data.length ≤ mbufDataSize then some data else none

/-- `mbuf_cache_init_tcp`. -/
def mbufCacheInitTcp (rte : Rte) (w : WireSpace) (mss : UInt16) (data : List UInt8) :
    Option (List UInt8) :=
  let opt := tcpOpt mss
  mbufCacheInit rte w (ipHeader w 6 (UInt16.ofNat (20 + opt.length + data.length))
    ++ tcphdr (UInt8.ofNat (5 + opt.length / 4)) ++ opt ++ data)

/-- `mbuf_cache_init_udp`. -/
def mbufCacheInitUdp (rte : Rte) (w : WireSpace) (data : List UInt8) : Option (List UInt8) :=
  mbufCacheInit rte w (ipHeader w 17 (UInt16.ofNat (8 + data.length))
    ++ udphdr 0 0 (UInt16.ofNat (8 + data.length)) ++ data)

/-- The caches of `ws`. -/
inductive Cache where
  | tcp | tcpOpt | tcpData | udp
  deriving DecidableEq, Repr

/-- The template of a cache; `udpData` is the payload of the worker in `g_udp_data`. -/
def template (rte : Rte) (w : WireSpace) (udpData : List UInt8) : Cache → Option (List UInt8)
  | .tcp => mbufCacheInitTcp rte w 0 []
  | .tcpOpt => mbufCacheInitTcp rte w w.mss []
  | .tcpData => mbufCacheInitTcp rte w 0 w.ws.tcpData.bytes
  | .udp => mbufCacheInitUdp rte w udpData

/-! ### Headers of an mbuf -/

/-- `mbuf_ip_hdr` of the inner packet. -/
def l3Off (w : WireSpace) : ℕ := if w.ws.vxlan then 64 else 14

/-- `mbuf_tcp_hdr`, and `mbuf_udp_hdr`. -/
def mbufTcpHdr (m : Mem) : ℕ := if get16 m 12 = htons 0x0800 then 34 else 54

/-- The header after the inner IP header. -/
def l4Off (w : WireSpace) (m : Mem) : ℕ :=
  if w.ws.vxlan then (if w.ipv6 then 104 else 84) else mbufTcpHdr m

/-! ### Packets -/

/-- The checksum fields of a socket. -/
structure Csums where
  ip : UInt16
  ipOpt : UInt16
  ipData : UInt16
  tcp : UInt16
  tcpOpt : UInt16
  tcpData : UInt16
  udp : UInt16

/-- What a packet is built from: the socket, the flags, `ws->ip_id`, and the address that
`ip_list_get_next_ipv4` or `ip_list_get_next_ipv6` returns. -/
structure Build where
  sk : Socket
  csums : Csums
  tcpFlags : UInt8
  ipId : UInt16
  dip : In6Addr

namespace Build

variable (b : Build)

/-- The cache that `tcp_new_packet` takes. -/
def cache : Cache :=
  if hasFlag b.tcpFlags thSyn then .tcpOpt
  else if hasFlag b.tcpFlags thPush then .tcpData else .tcp

/-- The checksum fields of the cache. -/
def csumTcp : UInt16 :=
  if hasFlag b.tcpFlags thSyn then b.csums.tcpOpt
  else if hasFlag b.tcpFlags thPush then b.csums.tcpData else b.csums.tcp

def csumIp : UInt16 :=
  if hasFlag b.tcpFlags thSyn then b.csums.ipOpt
  else if hasFlag b.tcpFlags thPush then b.csums.ipData else b.csums.ip

/-- `sk->snd_nxt` after it has advanced. -/
def sndNxt (ws : WorkSpace) : UInt32 :=
  if b.sk.sndNxt = b.sk.sndUna then b.sk.sndNxt + (sndSeq ws b.tcpFlags).toUInt32 else b.sk.sndNxt

/-- The outer source port, which spreads the flows. -/
def vxlanSource : UInt16 :=
  (htons b.sk.fport + htons b.sk.lport + b.csums.ip) ||| htons 0xc000

end Build

/-- The numbers and addresses of the IP header. -/
def putIp (w : WireSpace) (b : Build) (iph : ℕ) (m : Mem) : Mem :=
  if w.ipv6 then
    let m := put m (iph + 20) (le32 (htonl b.sk.laddr))
    put m (iph + 36) (le32 (htonl b.sk.faddr))
  else
    let m := put m (iph + 4) (le16 (htons b.ipId))
    let m := put m (iph + 12) (le32 (htonl b.sk.laddr))
    put m (iph + 16) (le32 (htonl b.sk.faddr))

/-- `ip6_src`. -/
def getSrc (m : Mem) (iph : ℕ) : In6Addr :=
  ⟨get32 m (iph + 8), get32 m (iph + 12), get32 m (iph + 16), get32 m (iph + 20)⟩

/-- `ip6_dst`. -/
def getDst (m : Mem) (iph : ℕ) : In6Addr :=
  ⟨get32 m (iph + 24), get32 m (iph + 28), get32 m (iph + 32), get32 m (iph + 36)⟩

/-- `tcp_change_dip` and `udp_change_dip`: `sum` is the place of the checksum of the TCP or UDP
header. -/
def changeDip (w : WireSpace) (dip : In6Addr) (iph sum : ℕ) (m : Mem) : Mem :=
  if w.ipv6 then
    let old := getDst m iph
    let m := put m (iph + 24) dip.bytes
    put m sum (le16 (csumUpdateU128 (get16 m sum) old dip))
  else
    let old := get32 m (iph + 16)
    let m := put m (iph + 16) (le32 dip.w3)
    let m := put m (iph + 10) (le16 (csumUpdateU32 (get16 m (iph + 10)) old dip.w3))
    put m sum (le16 (csumUpdateU32 (get16 m sum) old dip.w3))

/-- The outer port and the inner IP checksum. -/
def putVxlan (w : WireSpace) (b : Build) (csumIp : UInt16) (m : Mem) : Mem :=
  if w.ws.vxlan then
    let m := put m 34 (le16 b.vxlanSource)
    if w.ipv6 then m else put m (64 + 10) (le16 (csumUpdateU16 csumIp 0 (htons b.ipId)))
  else m

/-- The checksum of `tcp_new_packet`: complete with VXLAN, else that of the pseudo header. -/
def tcpSum (w : WireSpace) (b : Build) : UInt16 :=
  if w.ws.vxlan then
    let csum := csumUpdateU32 b.csumTcp (htonl (b.sndNxt w.ws)) (htonl b.sk.rcvNxt)
    csumUpdateU16 csum 0 (htons (wireFlags b.tcpFlags).toUInt16)
  else b.csumTcp

/-- The TCP header at `th`. -/
def putTcp (w : WireSpace) (b : Build) (th : ℕ) (m : Mem) : Mem :=
  let m := put m th (le16 (htons b.sk.lport))
  let m := put m (th + 2) (le16 (htons b.sk.fport))
  let m := put m (th + 13) [wireFlags b.tcpFlags]
  -- we always send from <snd_una>
  let m := put m (th + 4) (le32 (htonl b.sk.sndUna))
  let m := put m (th + 8) (le32 (htonl b.sk.rcvNxt))
  put m (th + 16) (le16 (tcpSum w b))

/-- The segment that a TCP header carries. -/
structure HasHeader (m : Mem) (th : ℕ) (s : Segment) : Prop where
  sport : get16 m th = htons s.sport
  dport : get16 m (th + 2) = htons s.dport
  flags : m (th + 13) = s.flags
  seq : get32 m (th + 4) = htonl s.seq
  ack : get32 m (th + 8) = htonl s.ack

/-- The header is that of the segment which the state machine sends, and `snd_nxt` is its. -/
lemma putTcp_segment {w : WireSpace} {b : Build} {v v' : View} {s : Segment} {fresh : ℕ}
    (hv : v.sk = b.sk) (hs : Dperf.tcpNewPacket w.ws b.tcpFlags v = (some (s, fresh), v')) (th : ℕ)
    (m : Mem) : HasHeader (putTcp w b th m) th s ∧ v'.sk.sndNxt = b.sndNxt w.ws := by
  obtain ⟨sk, csums, tcpFlags, ipId, dip⟩ := b
  obtain rfl : v.sk = sk := hv
  rw [Dperf.tcpNewPacket] at hs
  by_cases halloc : (Dperf.mbufCacheAlloc w.ws v).1 = false
  · rw [if_pos halloc] at hs
    cases hs
  rw [if_neg halloc] at hs
  obtain ⟨hseg, rfl⟩ := Prod.mk.inj hs
  obtain ⟨rfl, -⟩ := Prod.mk.inj (Option.some.inj hseg)
  constructor
  · constructor <;> rw [putTcp] <;>
      simp (disch := simp only [length_le16, length_le32, List.length_singleton]; omega) only
        [get16_put_ne, get32_put_ne, put_ne, get16_put, get32_put]
    · rfl
    · rfl
    · exact put_of_mem (i := 0) (by simp)
    · rfl
    · rfl
  · change (v.sk.sndNxt + if v.sk.sndNxt = v.sk.sndUna then (sndSeq w.ws tcpFlags).toUInt32
      else 0) = if v.sk.sndNxt = v.sk.sndUna then v.sk.sndNxt + (sndSeq w.ws tcpFlags).toUInt32
      else v.sk.sndNxt
    split_ifs
    · rfl
    · exact UInt32.add_zero _

/-- `tcp_new_packet`, after `mbuf_cache_alloc`. -/
def tcpNewPacket (w : WireSpace) (b : Build) (m : Mem) : Mem :=
  let th := l4Off w m
  let m := putTcp w b th (putIp w b (l3Off w) (putVxlan w b b.csumIp m))
  if w.changeDip then changeDip w b.dip (l3Off w) (th + 16) m else m

/-- The UDP header at `uh`. -/
def putUdp (b : Build) (uh : ℕ) (m : Mem) : Mem :=
  let m := put m uh (le16 (htons b.sk.lport))
  let m := put m (uh + 2) (le16 (htons b.sk.fport))
  put m (uh + 6) (le16 b.csums.udp)

/-- `udp_new_packet`, after `mbuf_cache_alloc`. -/
def udpNewPacket (w : WireSpace) (b : Build) (m : Mem) : Mem :=
  let uh := l4Off w m
  let m := putUdp b uh (putIp w b (l3Off w) (putVxlan w b b.csums.ip m))
  if w.changeDip then changeDip w b.dip (l3Off w) (uh + 6) m else m

/-! ### Allocation -/

/-- An mbuf of the pool of a cache: `tagged` says that its user data is the cache. -/
structure PacketMbuf where
  data : Mem
  tagged : Bool

/-- `mbuf_cache_alloc`, once the pool has found an mbuf. -/
def mbufCacheAlloc (bytes : List UInt8) (m : PacketMbuf) : PacketMbuf :=
  if m.tagged then m else { data := put m.data 0 bytes, tagged := true }

end Dperf.Wire
