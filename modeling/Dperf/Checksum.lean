import Dperf.Recycled

/-!
The inner checksums of a VXLAN packet: `csum_init_inner` computes them for a template with the
addresses and ports of a socket, `tcp_new_packet` updates them with what else it writes, and
`csum_check` verifies them.

* `Rte.Rfc1071`: what the functions of `rte_ip.h` compute.
* `Over`: what the packet holds, over the template; the inner IP checksum verifies
  (`Over.ip_true`), and the inner TCP checksum if `snd_nxt`, which it is computed for, and
  `snd_una`, which the header has, agree modulo 65535 (`Over.tcp_iff`).
* `tcpNewPacket_verifies_iff`: when `csum_check` accepts a packet.
-/

namespace Dperf.Wire

open Memory OnesComplement

/-! ### The functions of `rte_ip.h` -/

/-- The length of a TCP or UDP header with its payload, as the IP header has it. -/
def l4Len4 (m : Mem) (iph : ℕ) : ℕ := (htons (get16 m (iph + 2))).toNat - 20

def l4Len6 (m : Mem) (iph : ℕ) : ℕ := (htons (get16 m (iph + 4))).toNat

/-- The sum of the pseudo header of an IPv4 packet. -/
def pseudo4 (m : Mem) (iph : ℕ) : ℕ :=
  wordSum m (iph + 12) 8 + 256 * (m (iph + 9)).toNat
    + (htons (UInt16.ofNat (l4Len4 m iph))).toNat

/-- The sum of the pseudo header of an IPv6 packet. -/
def pseudo6 (m : Mem) (iph : ℕ) : ℕ :=
  wordSum m (iph + 8) 32 + 256 * (m (iph + 6)).toNat + (get16 m (iph + 4)).toNat

/-- The functions return the complement of the one's complement sum. -/
structure Rte.Rfc1071 (rte : Rte) : Prop where
  ipv4Cksum : ∀ m iph, (rte.ipv4Cksum m iph).toNat + wordSum m iph 20 ≡ 0 [MOD 65535]
  ipv4UdptcpCksum : ∀ m iph th, (rte.ipv4UdptcpCksum m iph th).toNat
    + (pseudo4 m iph + wordSum m th (l4Len4 m iph)) ≡ 0 [MOD 65535]
  ipv6UdptcpCksum : ∀ m iph th, (rte.ipv6UdptcpCksum m iph th).toNat
    + (pseudo6 m iph + wordSum m th (l4Len6 m iph)) ≡ 0 [MOD 65535]

/-! ### `csum.c` -/

/-- `csum_inner_tcp_udp_ipv4` and `csum_inner_tcp_udp_tcp_ipv6`: the IP and the TCP checksum of a
template with the addresses and ports of a socket. The template is cleared of them afterwards. -/
def csumInner (rte : Rte) (w : WireSpace) (sk : Socket) (bytes : List UInt8) : UInt16 × UInt16 :=
  if w.ipv6 then
    let m := put (image bytes) (64 + 20) (le32 (htonl sk.laddr))
    let m := put m (64 + 36) (le32 (htonl sk.faddr))
    let m := put m 104 (le16 (htons sk.lport))
    let m := put m (104 + 2) (le16 (htons sk.fport))
    (0, rte.ipv6UdptcpCksum m 64 104)
  else
    let m := put (image bytes) (64 + 12) (le32 (htonl sk.laddr))
    let m := put m (64 + 16) (le32 (htonl sk.faddr))
    let m := put m 84 (le16 (htons sk.lport))
    let m := put m (84 + 2) (le16 (htons sk.fport))
    (rte.ipv4Cksum m 64, rte.ipv4UdptcpCksum m 64 84)

/-- `csum_init_inner` of a TCP socket. -/
def csumInitInner (rte : Rte) (w : WireSpace) (sk : Socket) (templates : Cache → List UInt8) :
    Csums where
  ip := (csumInner rte w sk (templates .tcp)).1
  ipOpt := (csumInner rte w sk (templates .tcpOpt)).1
  ipData := (csumInner rte w sk (templates .tcpData)).1
  tcp := (csumInner rte w sk (templates .tcp)).2
  tcpOpt := (csumInner rte w sk (templates .tcpOpt)).2
  tcpData := (csumInner rte w sk (templates .tcpData)).2
  udp := 0

/-- Two checksums are one up to the two representations of zero. -/
def sameChecksum (a b : UInt16) : Bool := a.toNat % 65535 == b.toNat % 65535

/-- `csum_check_ipv4`, on the inner packet of a VXLAN packet. -/
def csumCheckIpv4 (rte : Rte) (m : Mem) : Bool :=
  let csumIp := get16 m (64 + 10)
  let m := put m (64 + 10) (le16 0)
  if sameChecksum csumIp (rte.ipv4Cksum m 64) = false then false
  else
    let off := 84 + if m (64 + 9) = 6 then 16 else 6
    let csum := get16 m off
    let m := put m off (le16 0)
    sameChecksum csum (rte.ipv4UdptcpCksum m 64 84)

/-- `csum_check_ipv6`. -/
def csumCheckIpv6 (rte : Rte) (m : Mem) : Bool :=
  let off := 104 + if m (64 + 6) = 6 then 16 else 6
  let csum := get16 m off
  let m := put m off (le16 0)
  sameChecksum csum (rte.ipv6UdptcpCksum m 64 104)

/-- `csum_check`. -/
def csumCheck (rte : Rte) (m : Mem) : Bool :=
  if m 64 >>> 4 = 4 then csumCheckIpv4 rte m else csumCheckIpv6 rte m

/-! ### The template of a VXLAN packet -/

/-- What the inner packet of a TCP template holds; `n` is the length of its TCP header with
options and payload. -/
structure Inner (w : WireSpace) (bytes : List UInt8) (n : ℕ) : Prop where
  length : bytes.length = l4 w + n
  le : 20 ≤ n
  lt : n + 20 < 65536
  tcp : ∀ i ∈ tcpFields (l4 w), image bytes i = 0
  version : image bytes 64 >>> 4 = if w.ipv6 then 6 else 4
  protocol : image bytes (64 + if w.ipv6 then 6 else 9) = 6
  totLen : w.ipv6 = false → get16 (image bytes) (64 + 2) = htons (UInt16.ofNat (20 + n))
  plen : w.ipv6 = true → get16 (image bytes) (64 + 4) = htons (UInt16.ofNat n)
  ip : w.ipv6 = false → ∀ i ∈ block 74 2 ∪ ipFields w 64, image bytes i = 0

lemma image_append {as bs : List UInt8} {k : ℕ} (h : as.length = k) (j : ℕ) :
    image (as ++ bs) (k + j) = image bs j := by
  rw [image, image, List.getD_append_right _ _ _ _ (by omega)]
  congr 1
  omega

lemma get16_image_append {as bs : List UInt8} {k : ℕ} (h : as.length = k) (j : ℕ) :
    get16 (image (as ++ bs)) (k + j) = get16 (image bs) j := by
  rw [get16, get16, Nat.add_assoc, image_append h, image_append h]

/-- The numbers, the flags and the checksum of the header of a template are zero. -/
lemma tcphdr_zero (off : UInt8) (rest : List UInt8) :
    ∀ i ∈ tcpFields 0, image (tcphdr off ++ rest) i = 0 := by
  rintro i (((((hi | hi) | hi) | hi) | hi) | hi) <;> obtain ⟨h1, h2⟩ := hi <;>
    interval_cases i <;> rfl

lemma sub_mem_tcpFields {th i : ℕ} (h : i ∈ tcpFields th) : i - th ∈ tcpFields 0 := by
  simp only [tcpFields, Set.mem_union, Set.mem_Ico] at h ⊢
  omega

lemma ip6Hdr_version (tos : UInt8) : ((0x60 : UInt8) ||| (tos >>> 4)) >>> 4 = 6 := by
  have hnibble : ∀ n < 16, ((0x60 : UInt8) ||| UInt8.ofNat n) >>> 4 = 6 := by decide
  have htos := tos.toNat_lt
  have hshift : tos >>> 4 = UInt8.ofNat (tos.toNat / 16) := by
    apply UInt8.toNat_inj.mp
    rw [UInt8.toNat_shiftRight, UInt8.toNat_ofNat_of_lt' (by change _ < 2 ^ 8; omega)]
    exact Nat.shiftRight_eq_div_pow _ 4
  rw [hshift]
  exact hnibble _ (by omega)

lemma ethHdr_type (dAddr sAddr : EthAddr) (type : UInt16) (rest : List UInt8) :
    get16 (image (ethHdr dAddr sAddr type ++ rest)) 12 = htons type :=
  get16_of_bytes rfl rfl

lemma iphdr_version (tos : UInt8) (totLen : UInt16) (protocol : UInt8) (check : UInt16)
    (saddr daddr : UInt32) (rest : List UInt8) :
    image (iphdr tos totLen protocol check saddr daddr ++ rest) 0 >>> 4 = 4 := by
  change (0x45 : UInt8) >>> 4 = 4
  decide

lemma iphdr_totLen (tos : UInt8) (totLen : UInt16) (protocol : UInt8) (check : UInt16)
    (saddr daddr : UInt32) (rest : List UInt8) :
    get16 (image (iphdr tos totLen protocol check saddr daddr ++ rest)) 2 = htons totLen :=
  get16_of_bytes rfl rfl

lemma ipHeader_version (w : WireSpace) (protocol : UInt8) (len : UInt16) (rest : List UInt8) :
    image (ipHeader w protocol len ++ rest) 0 >>> 4 = if w.ipv6 then 6 else 4 := by
  rw [ipHeader]
  split_ifs
  · exact ip6Hdr_version w.tos
  · exact iphdr_version ..

lemma ipHeader_protocol (w : WireSpace) (protocol : UInt8) (len : UInt16) (rest : List UInt8) :
    image (ipHeader w protocol len ++ rest) (if w.ipv6 then 6 else 9) = protocol := by
  rw [ipHeader]
  split_ifs <;> rfl

/-- An IPv4 header of a template has no identification, checksum and addresses yet. -/
lemma ipHeader_zero {w : WireSpace} (h4 : ¬ w.ipv6 = true) (len : UInt16) (rest : List UInt8)
    {j : ℕ} (hj : 4 ≤ j ∧ j < 6 ∨ 10 ≤ j ∧ j < 20) :
    image (ipHeader w 6 len ++ rest) j = 0 := by
  have hlow : 4 ≤ j := by omega
  have hhigh : j < 20 := by omega
  rw [ipHeader, if_neg h4]
  interval_cases j <;> first | rfl | omega

lemma template_inner {rte : Rte} {w : WireSpace} {udpData bytes : List UInt8} {c : Cache}
    (hv : w.ws.vxlan = true) (hc : c ≠ .udp) (h : template rte w udpData c = some bytes) :
    ∃ n, Inner w bytes n := by
  obtain ⟨off, rest, h⟩ := template_tcp hc h
  rw [mbufCacheInit, if_pos hv] at h
  split_ifs at h with hlen
  obtain rfl := Option.some.inj h
  have hl3 : l3Off w = 64 := if_pos hv
  have hl4 : l4 w = 64 + if w.ipv6 then 40 else 20 := by rw [l4, hl3]
  have hpre : (vxlanHeaders rte w (14 + (ipHeader w 6 (UInt16.ofNat (20 + rest.length))
      ++ (tcphdr off ++ rest)).length)
      ++ ethHdr w.vxlan.innerDmac w.vxlan.innerSmac (etherType w)).length = 64 := rfl
  generalize vxlanHeaders rte w (14 + (ipHeader w 6 (UInt16.ofNat (20 + rest.length))
      ++ (tcphdr off ++ rest)).length)
      ++ ethHdr w.vxlan.innerDmac w.vxlan.innerSmac (etherType w) = pre at hpre hlen ⊢
  have hip := length_ipHeader w 6 (UInt16.ofNat (20 + rest.length))
  have hlength : (pre ++ (ipHeader w 6 (UInt16.ofNat (20 + rest.length))
      ++ (tcphdr off ++ rest))).length = l4 w + (20 + rest.length) := by
    rw [List.length_append, hpre, List.length_append, hip, List.length_append, length_tcphdr, hl4]
    omega
  have hlt : 20 + rest.length + 20 < 65536 := by
    rw [hlength, mbufDataSize, hl4] at hlen
    omega
  refine ⟨20 + rest.length, hlength, Nat.le_add_right 20 _, hlt, ?_, ?_, ?_, fun h4 => ?_,
    fun h6 => ?_, fun h4 => ?_⟩
  · intro i hi
    have hle := le_of_mem_tcpFields hi
    have hj := tcphdr_zero off rest _ (sub_mem_tcpFields hi)
    rw [hl4] at hle hj
    calc image (pre ++ (ipHeader w 6 (UInt16.ofNat (20 + rest.length)) ++ (tcphdr off ++ rest))) i
        = image (pre ++ (ipHeader w 6 (UInt16.ofNat (20 + rest.length)) ++ (tcphdr off ++ rest)))
            (64 + ((if w.ipv6 then 40 else 20) + (i - (64 + if w.ipv6 then 40 else 20)))) := by
          congr 1
          omega
      _ = 0 := by rw [image_append hpre, image_append hip, hj]
  · have h0 : image (pre ++ (ipHeader w 6 (UInt16.ofNat (20 + rest.length))
        ++ (tcphdr off ++ rest))) (64 + 0) = _ := image_append hpre 0
    rw [Nat.add_zero] at h0
    rw [h0]
    exact ipHeader_version ..
  · rw [image_append hpre]
    exact ipHeader_protocol ..
  · rw [get16_image_append hpre, ipHeader, if_neg (by rw [h4]; exact Bool.false_ne_true),
      iphdr_totLen, UInt16.ofNat_add 20 (20 + rest.length)]
    rfl
  · rw [get16_image_append hpre, ipHeader, if_pos h6]
    exact get16_of_bytes rfl rfl
  · have h4' : ¬ w.ipv6 = true := by
      rw [h4]
      exact Bool.false_ne_true
    intro i hi
    rw [ipFields, if_neg h4'] at hi
    simp only [Set.mem_union, Set.mem_Ico] at hi
    obtain ⟨j, rfl⟩ : ∃ j, i = 64 + j := ⟨i - 64, by omega⟩
    rw [image_append hpre]
    exact ipHeader_zero h4' _ _ (by omega)

/-! ### Arithmetic modulo 65535 -/

/-- The sum of the words of a 32-bit field. -/
def words (v : UInt32) : ℕ := v.toNat % 65536 + v.toNat / 65536

lemma words_join {a b : ℕ} (ha : a < 65536) (hb : b < 65536) :
    words (UInt32.ofNat (a * 65536 + b)) = a + b := by
  rw [words, UInt32.toNat_ofNat_of_lt' (by change _ < 2 ^ 32; omega)]
  omega

/-- The other byte order multiplies a word by 256. -/
lemma htons_modEq (v : UInt16) : (htons v).toNat ≡ 256 * v.toNat [MOD 65535] := by
  rw [toNat_htons, Nat.ModEq]
  omega

lemma words_htonl (v : UInt32) : words (htonl v) ≡ 256 * v.toNat [MOD 65535] := by
  have hlt := v.toNat_lt
  have hlo := htons_modEq (UInt16.ofNat v.toNat)
  have hhi := htons_modEq (UInt16.ofNat (v.toNat / 65536))
  rw [UInt16.toNat_ofNat'] at hlo hhi
  rw [htonl, words_join (UInt16.toNat_lt _) (UInt16.toNat_lt _)]
  have hsplit : 256 * v.toNat = 256 * (v.toNat % 2 ^ 16) + 256 * (v.toNat / 65536 % 2 ^ 16)
      + 65535 * (256 * (v.toNat / 65536)) := by omega
  refine (hlo.add hhi).trans ?_
  rw [hsplit]
  exact (Nat.add_mul_mod_self_left _ _ _).symm

/-- Fields in network order have one sum exactly if the numbers agree modulo 65535. -/
lemma words_htonl_modEq {x y : UInt32} :
    words (htonl x) ≡ words (htonl y) [MOD 65535] ↔ x.toNat ≡ y.toNat [MOD 65535] := by
  have hx := words_htonl x
  have hy := words_htonl y
  rw [Nat.ModEq] at hx hy ⊢
  rw [Nat.ModEq, hx, hy]
  omega

/-- The update of a checksum takes the words of both values off. -/
lemma csumUpdateU32_modEq (ocsum : UInt16) (oval nval : UInt32) :
    (csumUpdateU32 ocsum oval nval).toNat + (words oval + words nval) ≡ ocsum.toNat
      [MOD 65535] := by
  have hfold := onesSum_modEq (ocsum.toNat + (complement oval + complement nval))
  rw [← toNat_csumUpdateU32, complement, complement] at hfold
  have ho := oval.toNat_lt
  have hn := nval.toNat_lt
  rw [words, words]
  rw [Nat.ModEq] at hfold ⊢
  omega

lemma sameChecksum_iff {a r : UInt16} {s total : ℕ} (hr : r.toNat + s ≡ 0 [MOD 65535])
    (ht : s + a.toNat = total) : sameChecksum a r = true ↔ total ≡ 0 [MOD 65535] := by
  rw [sameChecksum, beq_iff_eq]
  rw [Nat.ModEq] at hr ⊢
  omega

/-- Two checksums verify together what is summed up in them. -/
lemma tcp_modEq {csum sum flags : UInt16} {nxt una ack : UInt32} {rest : ℕ}
    (hrest : csum.toNat + rest ≡ 0 [MOD 65535])
    (hsum : sum = csumUpdateU16 (csumUpdateU32 csum (htonl nxt) (htonl ack)) 0 flags) :
    rest + (flags.toNat + words (htonl una) + words (htonl ack) + sum.toNat) ≡ 0 [MOD 65535] ↔
      nxt.toNat ≡ una.toNat [MOD 65535] := by
  have hflags := csumUpdateU16_modEq (csumUpdateU32 csum (htonl nxt) (htonl ack)) flags
  have hnums := csumUpdateU32_modEq csum (htonl nxt) (htonl ack)
  rw [← hsum] at hflags
  rw [← words_htonl_modEq]
  rw [Nat.ModEq] at hrest hflags hnums ⊢
  rw [Nat.ModEq]
  omega

/-! ### The packet -/

section Packet

variable {rte : Rte} {w : WireSpace} {b : Build} {bytes : List UInt8} {n th : ℕ} {m p : Mem}

lemma Build.cache_ne_udp (b : Build) : b.cache ≠ .udp := by
  rw [Build.cache]
  split_ifs <;> exact Cache.noConfusion

lemma toNat_htons_flags (f : UInt8) : (htons f.toUInt16).toNat = 256 * f.toNat := by
  have hlt := f.toNat_lt
  rw [toNat_htons, UInt8.toNat_toUInt16]
  omega

/-- What a TCP header adds to the sum of its template. -/
lemma wordSum_putTcp (hn : 20 ≤ n) (hz : ∀ i ∈ tcpFields th, m i = 0) :
    wordSum (putTcp w b th m) th n = wordSum m th n + (htons b.sk.lport).toNat
      + (htons b.sk.fport).toNat + ((htons (wireFlags b.tcpFlags).toUInt16).toNat
        + words (htonl b.sk.sndUna) + words (htonl b.sk.rcvNxt) + (tcpSum w b).toNat) := by
  have hall : putTcp w b th m = putAll th [(0, le16 (htons b.sk.lport)),
      (2, le16 (htons b.sk.fport)), (13, [wireFlags b.tcpFlags]),
      (4, le32 (htonl b.sk.sndUna)), (8, le32 (htonl b.sk.rcvNxt)),
      (16, le16 (tcpSum w b))] m := rfl
  rw [hall, wordSum_putAll]
  · rw [listSums_cons, listSums_cons, listSums_cons, listSums_cons, listSums_cons, listSums_cons,
      listSums_nil, listSum_le16 rfl, listSum_le16 rfl, listSum_singleton rfl, listSum_le32 rfl,
      listSum_le32 rfl, listSum_le16 rfl, toNat_htons_flags, words, words]
    omega
  · simp [length_le16, length_le32]
  · intro q hq
    simp only [List.mem_cons, List.not_mem_nil, or_false] at hq
    obtain rfl | rfl | rfl | rfl | rfl | rfl := hq
    all_goals
      simp only [length_le16, length_le32, List.length_singleton]
      refine ⟨by omega, fun i hi => hz i ?_⟩
      simp only [tcpFields, Set.mem_union, Set.mem_Ico] at hi ⊢
      omega

/-- The checksum function of the mode, on the inner headers. -/
def udptcpCksum (rte : Rte) (w : WireSpace) (m : Mem) : UInt16 :=
  if w.ipv6 then rte.ipv6UdptcpCksum m 64 104 else rte.ipv4UdptcpCksum m 64 84

/-- The length that it takes from the inner IP header. -/
def l4Len (w : WireSpace) (m : Mem) : ℕ := if w.ipv6 then l4Len6 m 64 else l4Len4 m 64

/-- The sum of the inner pseudo header. -/
def pseudo (w : WireSpace) (m : Mem) : ℕ := if w.ipv6 then pseudo6 m 64 else pseudo4 m 64

/-- The fields of the inner IP header that the pseudo header has. -/
def pseudoFields (w : WireSpace) : Set ℕ :=
  if w.ipv6 then block 68 2 ∪ block 70 1 ∪ block 72 32
  else block 66 2 ∪ block 73 1 ∪ block 76 8

lemma Rte.Rfc1071.udptcp (hr : rte.Rfc1071) (hv : w.ws.vxlan = true) (m : Mem) :
    (udptcpCksum rte w m).toNat + (pseudo w m + wordSum m (l4 w) (l4Len w m)) ≡ 0 [MOD 65535] := by
  rw [udptcpCksum, pseudo, l4Len, l4, l3Off, if_pos hv]
  split_ifs
  · exact hr.ipv6UdptcpCksum m 64 104
  · exact hr.ipv4UdptcpCksum m 64 84

lemma pseudo_congr {m' : Mem} (h : Set.EqOn m m' (pseudoFields w)) :
    l4Len w m = l4Len w m' ∧ pseudo w m = pseudo w m' := by
  rw [pseudoFields] at h
  rw [l4Len, l4Len, pseudo, pseudo]
  split_ifs at h ⊢
  · have hlen : get16 m 68 = get16 m' 68 := get16_congr (h.mono fun _ hi => .inl (.inl hi))
    have hproto : m 70 = m' 70 := h (.inl (.inr ⟨le_rfl, by decide⟩))
    have haddr : wordSum m 72 32 = wordSum m' 72 32 := wordSum_congr (h.mono fun _ hi => .inr hi)
    exact ⟨by rw [l4Len6, l4Len6, hlen], by rw [pseudo6, pseudo6, hlen, hproto, haddr]⟩
  · have hlen : get16 m 66 = get16 m' 66 := get16_congr (h.mono fun _ hi => .inl (.inl hi))
    have hproto : m 73 = m' 73 := h (.inl (.inr ⟨le_rfl, by decide⟩))
    have haddr : wordSum m 76 8 = wordSum m' 76 8 := wordSum_congr (h.mono fun _ hi => .inr hi)
    have hl4 : l4Len4 m 64 = l4Len4 m' 64 := by rw [l4Len4, l4Len4, hlen]
    exact ⟨hl4, by rw [pseudo4, pseudo4, hl4, hproto, haddr]⟩

lemma Inner.l4Len_eq (hI : Inner w bytes n) : l4Len w (image bytes) = n := by
  have hlt := hI.lt
  rw [l4Len]
  split_ifs with h6
  · rw [l4Len6, hI.plen h6, htons_htons, UInt16.toNat_ofNat_of_lt' (by change _ < 2 ^ 16; omega)]
  · rw [l4Len4, hI.totLen (Bool.eq_false_iff.mpr h6), htons_htons,
      UInt16.toNat_ofNat_of_lt' (by change _ < 2 ^ 16; omega)]
    omega

/-- The addresses of a socket. -/
def putAddrs (w : WireSpace) (sk : Socket) (m : Mem) : Mem :=
  if w.ipv6 then put (put m 84 (le32 (htonl sk.laddr))) 100 (le32 (htonl sk.faddr))
  else put (put m 76 (le32 (htonl sk.laddr))) 80 (le32 (htonl sk.faddr))

/-- The fields of `putAddrs`. -/
def addrFields (w : WireSpace) : Set ℕ :=
  if w.ipv6 then block 84 4 ∪ block 100 4 else block 76 4 ∪ block 80 4

lemma putAddrs_writes (w : WireSpace) (sk : Socket) : Writes (putAddrs w sk) (addrFields w) := by
  unfold putAddrs addrFields
  split_ifs
  · exact (Writes.put ..).comp (Writes.put ..)
  · exact (Writes.put ..).comp (Writes.put ..)

/-- The ports that `csum_init_inner` puts on a template. -/
lemma wordSum_ports {lport fport : UInt16} (hn : 20 ≤ n) (hz : ∀ i ∈ tcpFields th, m i = 0) :
    wordSum (put (put m th (le16 lport)) (th + 2) (le16 fport)) th n =
      wordSum m th n + lport.toNat + fport.toNat := by
  have hall : put (put m th (le16 lport)) (th + 2) (le16 fport) =
      putAll th [(0, le16 lport), (2, le16 fport)] m := rfl
  rw [hall, wordSum_putAll]
  · rw [listSums_cons, listSums_cons, listSums_nil, listSum_le16 rfl, listSum_le16 rfl]
    omega
  · simp [length_le16]
  · intro q hq
    simp only [List.mem_cons, List.not_mem_nil, or_false] at hq
    obtain rfl | rfl := hq
    all_goals
      simp only [length_le16]
      refine ⟨by omega, fun i hi => hz i ?_⟩
      simp only [tcpFields, Set.mem_union, Set.mem_Ico] at hi ⊢
      omega

lemma putAddrs_len (w : WireSpace) (sk : Socket) (m : Mem) :
    l4Len w (putAddrs w sk m) = l4Len w m := by
  have haddrs : Set.EqOn (putAddrs w sk m) m (block 66 4) := by
    have hkept := (putAddrs_writes w sk).kept m
    refine hkept.mono ?_
    intro i hi hmem
    have hlt := hi.2
    unfold addrFields at hmem
    split_ifs at hmem <;> simp only [Set.mem_union, Set.mem_Ico] at hmem <;> omega
  have hlen : ∀ off, 66 ≤ off → off ≤ 68 → get16 (putAddrs w sk m) off = get16 m off :=
    fun off h1 h2 => get16_congr (haddrs.mono (Set.Ico_subset_Ico h1 (by omega)))
  rw [l4Len, l4Len, l4Len6, l4Len6, l4Len4, l4Len4, hlen (64 + 2) (by decide) (by decide),
    hlen (64 + 4) (by decide) (by decide)]

/-- `csum_init_inner` sums up the addresses, the template and the ports. -/
lemma csumInner_tcp (hr : rte.Rfc1071) (hv : w.ws.vxlan = true) (hI : Inner w bytes n)
    (sk : Socket) : (csumInner rte w sk bytes).2.toNat + (pseudo w (putAddrs w sk (image bytes))
      + (wordSum (image bytes) (l4 w) n + (htons sk.lport).toNat + (htons sk.fport).toNat))
      ≡ 0 [MOD 65535] := by
  have hl4 : l4 w = if w.ipv6 then 104 else 84 := by
    rw [l4, l3Off, if_pos hv]
    split_ifs <;> rfl
  have heq : (csumInner rte w sk bytes).2 = udptcpCksum rte w
      (put (put (putAddrs w sk (image bytes)) (l4 w) (le16 (htons sk.lport))) (l4 w + 2)
        (le16 (htons sk.fport))) := by
    rw [csumInner, udptcpCksum, putAddrs, hl4]
    split_ifs <;> rfl
  -- the addresses are before the TCP header, the ports after the pseudo header
  have hkept : ∀ i, l4 w ≤ i → putAddrs w sk (image bytes) i = image bytes i := by
    intro i hi
    rw [hl4] at hi
    refine (putAddrs_writes w sk).kept _ fun hmem => ?_
    unfold addrFields at hmem
    split_ifs at hi hmem <;> simp only [Set.mem_union, Set.mem_Ico] at hmem <;> omega
  have hpseudo : Set.EqOn (put (put (putAddrs w sk (image bytes)) (l4 w) (le16 (htons sk.lport)))
      (l4 w + 2) (le16 (htons sk.fport))) (putAddrs w sk (image bytes)) (pseudoFields w) := by
    have hdis : ∀ off len, l4 w ≤ off → Disjoint (pseudoFields w) (block off len) := by
      intro off len hoff
      rw [hl4] at hoff
      refine Set.disjoint_left.mpr fun i hi hi' => ?_
      have hle := hi'.1
      unfold pseudoFields at hi
      split_ifs at hi hoff <;> simp only [Set.mem_union, Set.mem_Ico] at hi <;> omega
    exact (put_eqOn_left (hdis _ _ (Nat.le_add_right _ _))).trans
      (put_eqOn_left (hdis _ _ le_rfl))
  obtain ⟨hlen', hpseudo'⟩ := pseudo_congr hpseudo
  have hsum := hr.udptcp hv (put (put (putAddrs w sk (image bytes)) (l4 w)
    (le16 (htons sk.lport))) (l4 w + 2) (le16 (htons sk.fport)))
  rw [hlen', putAddrs_len, hI.l4Len_eq, hpseudo', wordSum_ports hI.le fun i hi => ?_,
    wordSum_congr fun i hi => ?_,
    ← heq] at hsum
  · exact hsum
  · exact hkept i hi.1
  · rw [hkept i (le_of_mem_tcpFields hi), hI.tcp i hi]

/-- The writes of a packet before the TCP header. -/
def putHeaders (w : WireSpace) (b : Build) (m : Mem) : Mem :=
  putIp w b (l3Off w) (putVxlan w b b.csumIp m)

lemma putHeaders_writes (w : WireSpace) (b : Build) :
    Writes (putHeaders w b) (vxlanFields w ∪ ipFields w (l3Off w)) :=
  (putIp_writes w b _).comp (putVxlan_writes w b _)

/-- The fields of the inner IP header that are zero in a template. -/
lemma Inner.ip_zero (hI : Inner w bytes n) (h4 : w.ipv6 = false) {i : ℕ}
    (hi : (68 ≤ i ∧ i < 70) ∨ (74 ≤ i ∧ i < 84)) : image bytes i = 0 := by
  apply hI.ip h4
  rw [ipFields, if_neg (by rw [h4]; exact Bool.false_ne_true)]
  simp only [Set.mem_union, Set.mem_Ico]
  omega

/-- `csum_init_inner` sums up the template and the addresses. -/
lemma csumInner_ip (hr : rte.Rfc1071) (h4 : w.ipv6 = false) (hI : Inner w bytes n) (sk : Socket) :
    (csumInner rte w sk bytes).1.toNat + (wordSum (image bytes) 64 20
      + (words (htonl sk.laddr) + words (htonl sk.faddr))) ≡ 0 [MOD 65535] := by
  have h4' : ¬ w.ipv6 = true := by
    rw [h4]
    exact Bool.false_ne_true
  have haddrs : wordSum (putAll 64 [(12, le32 (htonl sk.laddr)), (16, le32 (htonl sk.faddr))]
      (image bytes)) 64 20 = wordSum (image bytes) 64 20
        + (words (htonl sk.laddr) + words (htonl sk.faddr)) := by
    rw [wordSum_putAll]
    · rw [listSums_cons, listSums_cons, listSums_nil, listSum_le32 rfl, listSum_le32 rfl, words,
        words]
      omega
    · simp [length_le32]
    · intro q hq
      simp only [List.mem_cons, List.not_mem_nil, or_false] at hq
      obtain rfl | rfl := hq
      all_goals
        simp only [length_le32]
        refine ⟨by omega, fun i hi => ?_⟩
        simp only [Set.mem_Ico] at hi
        exact hI.ip_zero h4 (by omega)
  have hinner : (csumInner rte w sk bytes).1 = rte.ipv4Cksum
      (put (put (putAll 64 [(12, le32 (htonl sk.laddr)), (16, le32 (htonl sk.faddr))]
        (image bytes)) 84 (le16 (htons sk.lport))) 86 (le16 (htons sk.fport))) 64 := by
    rw [csumInner, if_neg h4']
    rfl
  have hports : ∀ (m : Mem) (v v' : UInt16), Set.EqOn (put (put m 84 (le16 v)) 86 (le16 v')) m
      (block 64 20) := fun m v v' =>
    (put_eqOn_left (block_disjoint (.inl (by decide)))).trans
      (put_eqOn_left (block_disjoint (.inl (by decide))))
  rw [hinner, ← haddrs, ← wordSum_congr (hports _ (htons sk.lport) (htons sk.fport))]
  exact hr.ipv4Cksum _ 64

/-- The identification of an IPv4 packet. -/
def putId (w : WireSpace) (b : Build) (m : Mem) : Mem :=
  if w.ipv6 then m else put m 68 (le16 (htons b.ipId))

/-- The field of `putId`. -/
def idFields (w : WireSpace) : Set ℕ := if w.ipv6 then ∅ else block 68 2

lemma putId_writes (w : WireSpace) (b : Build) : Writes (putId w b) (idFields w) := by
  unfold putId idFields
  split_ifs
  · exact Writes.id
  · exact Writes.put ..

lemma putIp_eq (w : WireSpace) (b : Build) (m : Mem) :
    putIp w b 64 m = putAddrs w b.sk (putId w b m) := by
  rw [putIp, putAddrs, putId]
  split_ifs <;> rfl

/-- What the packet holds: the TCP header, over the headers before it, over the template. -/
structure Over (w : WireSpace) (b : Build) (bytes : List UInt8) (n : ℕ) (p : Mem) : Prop where
  inner : Inner w bytes n
  vxlan : w.ws.vxlan = true
  eqOn : Set.EqOn p (putTcp w b (l4 w) (putHeaders w b (image bytes))) (block 0 (l4 w + n))

namespace Over

variable (h : Over w b bytes n p)

include h

lemma l3_eq : l3Off w = 64 := if_pos h.vxlan

lemma l4_eq : l4 w = if w.ipv6 then 104 else 84 := by
  rw [l4, h.l3_eq]
  split_ifs <;> rfl

/-- The headers before the TCP header. -/
lemma eqOn_headers : Set.EqOn p (putHeaders w b (image bytes)) (block 0 (l4 w)) := by
  have hkept := (putTcp_writes w b (l4 w)).kept (putHeaders w b (image bytes))
  refine (h.eqOn.mono (Set.Ico_subset_Ico le_rfl (by omega))).trans (hkept.mono ?_)
  intro i hi hmem
  have hle := le_of_mem_tcpFields hmem
  have hlt := hi.2
  omega

/-- A place before the TCP header that no packet writes. -/
lemma eq_template {i : ℕ} (hi : i < l4 w) (hv : i ∉ vxlanFields w ∪ ipFields w 64) :
    p i = image bytes i := by
  rw [← h.l3_eq] at hv
  rw [h.eqOn_headers ⟨Nat.zero_le i, by omega⟩, (putHeaders_writes w b).kept _ hv]

/-- The TCP header is written over its template. -/
lemma wordSum_tcp : wordSum p (l4 w) n = wordSum (image bytes) (l4 w) n
    + (htons b.sk.lport).toNat + (htons b.sk.fport).toNat
    + ((htons (wireFlags b.tcpFlags).toUInt16).toNat + words (htonl b.sk.sndUna)
      + words (htonl b.sk.rcvNxt) + (tcpSum w b).toNat) := by
  have hbelow : ∀ i ∈ vxlanFields w ∪ ipFields w (l3Off w), i < l4 w := by
    intro i hi
    rw [h.l3_eq] at hi
    rw [h.l4_eq]
    unfold vxlanFields ipFields at hi
    split_ifs at hi ⊢ <;> simp only [Set.mem_union, Set.mem_Ico, Set.mem_empty_iff_false,
      false_or] at hi <;> omega
  have hkept : ∀ i, l4 w ≤ i → putHeaders w b (image bytes) i = image bytes i := fun i hi =>
    (putHeaders_writes w b).kept _ fun hmem => absurd (hbelow i hmem) (by omega)
  have hzero : ∀ i ∈ tcpFields (l4 w), putHeaders w b (image bytes) i = 0 := by
    intro i hi
    rw [hkept i (le_of_mem_tcpFields hi), h.inner.tcp i hi]
  have heq : Set.EqOn p (putTcp w b (l4 w) (putHeaders w b (image bytes))) (block (l4 w) n) :=
    h.eqOn.mono (Set.Ico_subset_Ico (Nat.zero_le _) (by omega))
  rw [wordSum_congr heq, wordSum_putTcp h.inner.le hzero, wordSum_congr fun i hi => hkept i hi.1]

/-- The pseudo header of the packet is that of the template with the addresses. -/
lemma pseudo_eq : l4Len w p = n ∧ pseudo w p = pseudo w (putAddrs w b.sk (image bytes)) := by
  have hfirst : Set.EqOn (putId w b (putVxlan w b b.csumIp (image bytes))) (image bytes)
      (vxlanFields w ∪ idFields w)ᶜ := ((putId_writes w b).comp (putVxlan_writes w b _)).kept _
  have haddrs := (putAddrs_writes w b.sk).eqOn hfirst
  have hp : Set.EqOn p (putAddrs w b.sk (image bytes)) (pseudoFields w) := by
    intro i hi
    have hfields : i < l4 w ∧ i ∉ vxlanFields w ∪ idFields w := by
      rw [h.l4_eq, vxlanFields, if_pos h.vxlan, idFields]
      rw [pseudoFields] at hi
      split_ifs at hi ⊢ <;> simp only [Set.mem_union, Set.mem_Ico, Set.mem_empty_iff_false,
        or_false] at hi ⊢ <;> omega
    rw [h.eqOn_headers ⟨Nat.zero_le i, by omega⟩, putHeaders, h.l3_eq, putIp_eq]
    exact haddrs (.inl hfields.2)
  obtain ⟨hlen, hpseudo⟩ := pseudo_congr hp
  refine ⟨?_, hpseudo⟩
  rw [hlen, putAddrs_len, h.inner.l4Len_eq]

/-- The TCP checksum verifies if the number that it is computed for is the number sent. -/
lemma tcp_iff (hr : rte.Rfc1071) (hcsum : b.csumTcp = (csumInner rte w b.sk bytes).2) {m : Mem}
    (hm : Set.EqOn m p (pseudoFields w ∪ block (l4 w) n)) :
    sameChecksum (get16 p (l4 w + 16)) (udptcpCksum rte w (put m (l4 w + 16) (le16 0))) = true ↔
      (b.sndNxt w.ws).toNat ≡ b.sk.sndUna.toNat [MOD 65535] := by
  obtain ⟨hlen, hpseudo⟩ := h.pseudo_eq
  have hle := h.inner.le
  have hput : Set.EqOn (put m (l4 w + 16) (le16 0)) p (pseudoFields w) := by
    refine (put_eqOn_left (Set.disjoint_left.mpr fun i hi hi' => ?_)).trans
      (hm.mono Set.subset_union_left)
    have hlt := hi'.1
    rw [h.l4_eq] at hlt
    unfold pseudoFields at hi
    split_ifs at hi hlt <;> simp only [Set.mem_union, Set.mem_Ico] at hi <;> omega
  obtain ⟨hlen', hpseudo'⟩ := pseudo_congr hput
  have hrte := hr.udptcp h.vxlan (put m (l4 w + 16) (le16 0))
  have hzero : wordSum (put m (l4 w + 16) (le16 0)) (l4 w) n + (get16 p (l4 w + 16)).toNat =
      wordSum p (l4 w) n := by
    have h16 : wordSum (put m (l4 w + 16) (le16 0)) (l4 w) n + (get16 m (l4 w + 16)).toNat
        = wordSum m (l4 w) n + (0 : UInt16).toNat := wordSum_put16 _ _ _ rfl (by omega)
    rw [wordSum_congr (hm.mono Set.subset_union_right), get16_congr (hm.mono fun i hi => .inr
      (Set.Ico_subset_Ico (by omega) (by omega) hi))] at h16
    exact h16
  rw [hlen', hlen, hpseudo'] at hrte
  have hinner := csumInner_tcp hr h.vxlan h.inner b.sk
  rw [← hcsum, ← hpseudo] at hinner
  rw [sameChecksum_iff hrte (by rw [Nat.add_assoc, hzero]), h.wordSum_tcp, ← Nat.add_assoc,
    tcp_modEq hinner (by rw [tcpSum, if_pos h.vxlan])]

/-- The words of the IP header of the packet. -/
lemma wordSum_ip (h4 : w.ipv6 = false) : wordSum p 64 20 = wordSum (image bytes) 64 20
    + ((csumUpdateU16 b.csumIp 0 (htons b.ipId)).toNat + (htons b.ipId).toNat
      + (words (htonl b.sk.laddr) + words (htonl b.sk.faddr))) := by
  have h4' : ¬ w.ipv6 = true := by
    rw [h4]
    exact Bool.false_ne_true
  have hall : putHeaders w b (image bytes) = putAll 64
      [(10, le16 (csumUpdateU16 b.csumIp 0 (htons b.ipId))), (4, le16 (htons b.ipId)),
        (12, le32 (htonl b.sk.laddr)), (16, le32 (htonl b.sk.faddr))]
      (put (image bytes) 34 (le16 b.vxlanSource)) := by
    rw [putHeaders, h.l3_eq, putIp, putVxlan, if_pos h.vxlan, if_neg h4', if_neg h4']
    rfl
  have hl4 : 64 + 20 ≤ l4 w := by
    rw [h.l4_eq, if_neg h4']
  have hsource : ∀ i, 64 ≤ i → put (image bytes) 34 (le16 b.vxlanSource) i = image bytes i :=
    fun i hi => put_of_notMem fun hmem => by
      have hlt := hmem.2
      rw [length_le16] at hlt
      omega
  rw [wordSum_congr (h.eqOn_headers.mono (Set.Ico_subset_Ico (by decide) (by omega))), hall,
    wordSum_putAll, wordSum_congr fun i hi => hsource i hi.1]
  · rw [listSums_cons, listSums_cons, listSums_cons, listSums_cons, listSums_nil,
      listSum_le32 rfl, listSum_le32 rfl, listSum_le16 rfl, listSum_le16 rfl, words, words]
    omega
  · simp [length_le16, length_le32]
  · intro q hq
    simp only [List.mem_cons, List.not_mem_nil, or_false] at hq
    obtain rfl | rfl | rfl | rfl := hq
    all_goals
      simp only [length_le16, length_le32]
      refine ⟨by omega, fun i hi => ?_⟩
      simp only [Set.mem_Ico] at hi
      rw [hsource i (by omega)]
      exact h.inner.ip_zero h4 (by omega)

/-- The IP checksum verifies. -/
lemma ip_true (hr : rte.Rfc1071) (h4 : w.ipv6 = false)
    (hcsum : b.csumIp = (csumInner rte w b.sk bytes).1) :
    sameChecksum (get16 p (64 + 10)) (rte.ipv4Cksum (put p (64 + 10) (le16 0)) 64) = true := by
  have hinner := csumInner_ip hr h4 h.inner b.sk
  have hcheck : wordSum (put p (64 + 10) (le16 0)) 64 20 + (get16 p (64 + 10)).toNat
      = wordSum p 64 20 + (0 : UInt16).toNat := wordSum_put16 _ _ _ rfl (by decide)
  have hid := csumUpdateU16_modEq b.csumIp (htons b.ipId)
  rw [sameChecksum_iff (hr.ipv4Cksum (put p (64 + 10) (le16 0)) 64) hcheck, h.wordSum_ip h4,
    UInt16.toNat_zero, Nat.add_zero]
  rw [← hcsum] at hinner
  rw [Nat.ModEq] at hid hinner ⊢
  omega

/-- `csum_check` of the packet. -/
lemma csumCheck_iff (hr : rte.Rfc1071) (hip : b.csumIp = (csumInner rte w b.sk bytes).1)
    (htcp : b.csumTcp = (csumInner rte w b.sk bytes).2) :
    csumCheck rte p = true ↔ (b.sndNxt w.ws).toNat ≡ b.sk.sndUna.toNat [MOD 65535] := by
  have hunwritten : ∀ i, i = 64 ∨ i = 64 + (if w.ipv6 then 6 else 9) → p i = image bytes i := by
    intro i hi
    apply h.eq_template
    · rw [h.l4_eq]
      split_ifs at hi ⊢ <;> omega
    · rw [vxlanFields, if_pos h.vxlan, ipFields]
      split_ifs at hi ⊢ <;> simp only [Set.mem_union, Set.mem_Ico] <;> omega
  have hversion := h.inner.version
  have hproto := h.inner.protocol
  rw [← hunwritten _ (.inl rfl)] at hversion
  rw [← hunwritten _ (.inr rfl)] at hproto
  have hl4 := h.l4_eq
  have hiff := fun m hm => h.tcp_iff hr htcp (m := m) hm
  rw [csumCheck, hversion]
  by_cases h6 : w.ipv6 = true
  · rw [if_pos h6] at hl4 hproto
    rw [hl4] at hiff
    simp only [udptcpCksum, if_pos h6] at hiff
    rw [if_pos h6, if_neg (by decide), csumCheckIpv6, hproto]
    exact hiff p (Set.eqOn_refl p _)
  · rw [if_neg h6] at hl4 hproto
    rw [hl4] at hiff
    simp only [udptcpCksum, if_neg h6] at hiff
    have hip := h.ip_true hr (Bool.eq_false_iff.mpr h6) hip
    have hkept : Set.EqOn (put p 74 (le16 0)) p (block 74 (le16 0).length)ᶜ :=
      put_eqOn_left disjoint_compl_left
    have hproto' : put p 74 (le16 0) (64 + 9) = 6 := by
      rw [hkept fun hmem => absurd hmem.1 (by decide), hproto]
    have hbelow : Set.EqOn (put p 74 (le16 0)) p (block 100 2) :=
      put_eqOn_left (block_disjoint (.inr (by decide)))
    rw [if_neg h6, if_pos rfl, csumCheckIpv4, hip, if_neg (by decide)]
    simp only [hproto', if_pos]
    rw [get16_congr hbelow]
    refine hiff _ (hkept.mono ?_)
    rintro i hi ⟨h1, h2⟩
    rw [length_le16] at h2
    rw [pseudoFields, if_neg h6] at hi
    simp only [Set.mem_union, Set.mem_Ico] at hi
    omega

end Over

/-- The checksum is computed for the number that is sent: nothing is outstanding and the segment
takes no number; or, since 0xffff is a zero, it takes one and the numbers wrap around; or
`snd_nxt` is ahead by a multiple of 65535. -/
def Build.InStep (ws : WorkSpace) (b : Build) : Prop :=
  if b.sk.sndNxt = b.sk.sndUna then
    sndSeq ws b.tcpFlags = 0 ∨ sndSeq ws b.tcpFlags = 1 ∧ b.sk.sndUna = 0xFFFFFFFF
  else b.sk.sndNxt.toNat ≡ b.sk.sndUna.toNat [MOD 65535]

lemma toNat_sndSeq_le (ws : WorkSpace) (f : UInt8) : (sndSeq ws f).toNat ≤ mbufDataSize + 1 := by
  have hfits := ws.tcpData.fits
  have hdata := ws.tcpData.toNat_dataLen
  have hone : ∀ s : UInt16, s.toNat ≤ mbufDataSize → (s + 1).toNat ≤ mbufDataSize + 1 := by
    intro s hs
    rw [mbufDataSize] at hs
    rw [UInt16.toNat_add, mbufDataSize, UInt16.toNat_one]
    omega
  have hs : (if hasFlag f thSyn then (0 : UInt16)
      else if hasFlag f thPush then ws.tcpData.dataLen else 0).toNat ≤ mbufDataSize := by
    split_ifs
    · exact Nat.zero_le _
    · rw [hdata]
      exact hfits
    · exact Nat.zero_le _
  rw [sndSeq]
  split_ifs at hs ⊢ <;> first | exact hone _ hs | exact Nat.le_succ_of_le hs

lemma Build.sndNxt_modEq_iff (ws : WorkSpace) (b : Build) :
    (b.sndNxt ws).toNat ≡ b.sk.sndUna.toNat [MOD 65535] ↔ b.InStep ws := by
  rw [Build.sndNxt, Build.InStep]
  split_ifs with heq
  · have hle := toNat_sndSeq_le ws b.tcpFlags
    have hlt := b.sk.sndUna.toNat_lt
    rw [mbufDataSize] at hle
    rw [heq, UInt32.toNat_add, UInt16.toNat_toUInt32, ← UInt16.toNat_inj, ← UInt16.toNat_inj,
      ← UInt32.toNat_inj]
    have hmax : (0xFFFFFFFF : UInt32).toNat = 4294967295 := rfl
    rw [hmax, UInt16.toNat_zero, UInt16.toNat_one, Nat.ModEq]
    by_cases hwrap : b.sk.sndUna.toNat + (sndSeq ws b.tcpFlags).toNat < 2 ^ 32
    · rw [Nat.mod_eq_of_lt hwrap]
      omega
    · have hmod : (b.sk.sndUna.toNat + (sndSeq ws b.tcpFlags).toNat) % 2 ^ 32 =
          b.sk.sndUna.toNat + (sndSeq ws b.tcpFlags).toNat - 2 ^ 32 := by omega
      rw [hmod]
      omega
  · exact Iff.rfl

/-- The checksum fields that `csum_init_inner` fills for a cache. -/
lemma Build.csums_eq (b : Build) {templates : Cache → List UInt8}
    (hb : b.csums = csumInitInner rte w b.sk templates) :
    b.csumIp = (csumInner rte w b.sk (templates b.cache)).1 ∧
      b.csumTcp = (csumInner rte w b.sk (templates b.cache)).2 := by
  rw [Build.csumIp, Build.csumTcp, Build.cache, hb]
  split_ifs <;> exact ⟨rfl, rfl⟩

/-- A packet over a template or over earlier packets. -/
lemma over_newPacket {udpData : List UInt8} (hv : w.ws.vxlan = true) {hist : List Build}
    (ht : template rte w udpData b.cache = some bytes) (hs : Stained b.cache w bytes hist m) :
    ∃ n, Over w b bytes n (newPacket b.cache w b m) := by
  obtain ⟨n, hI⟩ := template_inner hv b.cache_ne_udp ht
  have hT := template_holds ht
  have hd : w.changeDip = false := by
    by_contra hd
    have hv' := w.change_dip_vxlan (Bool.not_eq_false _ ▸ hd)
    rw [hv] at hv'
    cases hv'
  have himage : put (fun _ => 0) 0 bytes = image bytes := by
    funext i
    rw [put, if_pos (Nat.zero_le i)]
    rfl
  have hcopy := copy_stained hT fun _ => 0
  rw [himage] at hcopy
  have heq := hs.eqOn_newPacket (b := b) hT hd hcopy
  rw [newPacket_eq b.cache w b (image bytes), if_neg (by rw [hd]; exact Bool.false_ne_true),
    hcopy.l4Off_eq hT, headers, if_neg b.cache_ne_udp, hI.length] at heq
  exact ⟨n, hI, hv, heq⟩

/-- The inner checksums of a packet of a VXLAN worker, on any mbuf of its cache: they verify
exactly if the TCP checksum is computed for the number that is sent. -/
theorem tcpNewPacket_verifies_iff {udpData : List UInt8} {templates : Cache → List UInt8}
    (hr : rte.Rfc1071) (hv : w.ws.vxlan = true)
    (ht : ∀ c, template rte w udpData c = some (templates c))
    (hb : b.csums = csumInitInner rte w b.sk templates) (pool : ℕ → PacketMbuf)
    (hnew : ∀ i, (pool i).tagged = false) (hist : List (ℕ × Build)) (i : ℕ) :
    csumCheck rte (build b.cache w (templates b.cache)
        (run b.cache w (templates b.cache) pool hist i) b).data = true ↔ b.InStep w.ws := by
  have hs := foldl_build (template_holds (ht b.cache)) (pool i) (hnew i) (buildsOn hist i)
  rw [← run_apply pool hist i] at hs
  obtain ⟨n, hover⟩ := over_newPacket hv (ht b.cache) hs
  obtain ⟨hip, htcp⟩ := b.csums_eq hb
  rw [build, hover.csumCheck_iff hr hip htcp, b.sndNxt_modEq_iff]

end Packet

/-- The checksums of RFC 1071. -/
def Rte.rfc1071 : Rte where
  ipv4Cksum m iph := UInt16.ofNat (65535 - wordSum m iph 20 % 65535)
  ipv4UdptcpCksum m iph th :=
    UInt16.ofNat (65535 - (pseudo4 m iph + wordSum m th (l4Len4 m iph)) % 65535)
  ipv6UdptcpCksum m iph th :=
    UInt16.ofNat (65535 - (pseudo6 m iph + wordSum m th (l4Len6 m iph)) % 65535)

lemma Rte.rfc1071_rfc1071 : Rte.rfc1071.Rfc1071 := by
  have hsum : ∀ x, (UInt16.ofNat (65535 - x % 65535)).toNat + x ≡ 0 [MOD 65535] := by
    intro x
    rw [UInt16.toNat_ofNat_of_lt' (by change _ < 2 ^ 16; omega), Nat.ModEq]
    omega
  exact ⟨fun _ _ => hsum _, fun _ _ _ => hsum _, fun _ _ _ => hsum _⟩

/-- A client behind a VXLAN tunnel. -/
def WireSpace.tunnel : WireSpace :=
  { WireSpace.single false false with
    ws := { WorkSpace.single .single with vxlan := true }
    change_dip_vxlan := fun h => absurd h Bool.false_ne_true }

/-- Its templates. -/
def WireSpace.templates (c : Cache) : List UInt8 := (template .rfc1071 .tunnel [] c).getD []

lemma WireSpace.template_tunnel (c : Cache) :
    template .rfc1071 .tunnel [] c = some (WireSpace.templates c) := by
  obtain ⟨bytes, h⟩ : ∃ bytes, template .rfc1071 .tunnel [] c = some bytes := by
    cases c <;> exact ⟨_, rfl⟩
  rw [WireSpace.templates, h, Option.getD_some]

/-- The packet of a new connection with some flags. -/
def Build.tunnel (tcpFlags : UInt8) : Build :=
  { Build.single with
    csums := csumInitInner .rfc1071 .tunnel Build.single.sk WireSpace.templates
    tcpFlags := tcpFlags }

/-- The packet after a history on the mbufs of its cache. -/
def Build.onTunnel (b : Build) (hist : List (ℕ × Build)) : Mem :=
  (build b.cache .tunnel (WireSpace.templates b.cache) (run b.cache .tunnel
    (WireSpace.templates b.cache) (fun _ => ⟨fun _ => 0, false⟩) hist 0) b).data

/-- An ACK verifies. -/
theorem tcpNewPacket_verifies_ack :
    csumCheck .rfc1071 ((Build.tunnel thAck).onTunnel []) = true :=
  (tcpNewPacket_verifies_iff (b := .tunnel thAck) Rte.rfc1071_rfc1071 rfl
    WireSpace.template_tunnel rfl _ (fun _ => rfl) [] 0).mpr (.inl rfl)

/-- The SYN of every connection does not: its checksum is that of the number after it. -/
theorem tcpNewPacket_syn_fails : Rte.rfc1071.Rfc1071 ∧
    csumCheck .rfc1071 ((Build.tunnel thSyn).onTunnel []) = false := by
  refine ⟨Rte.rfc1071_rfc1071, Bool.eq_false_iff.mpr fun htrue => ?_⟩
  have ht := WireSpace.template_tunnel (Build.tunnel thSyn).cache
  have hs := foldl_build (template_holds ht) ⟨fun _ => 0, false⟩ rfl []
  obtain ⟨n, hover⟩ := over_newPacket rfl ht hs
  obtain ⟨hip, htcp⟩ := (Build.tunnel thSyn).csums_eq rfl
  have hmod := (hover.csumCheck_iff Rte.rfc1071_rfc1071 hip htcp).mp htrue
  revert hmod
  decide

end Dperf.Wire
