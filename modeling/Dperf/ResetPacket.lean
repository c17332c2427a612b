import Dperf.Frames
import Dperf.SoftCsum

/-!
The reset in answer to a segment without a socket, built over the bytes of the segment.

* `replyRst`: what `tcp_reply_rst` makes of an mbuf.
* `TcpText`: what a received frame says, from behind its options; `Received.text_trimmed` says
  that this is what is left when the options are gone.
* `Answers`: a reset as RFC 793 has it. `replyRst_answers_iff` says when the answer is one: it
  always has the sequence number 0, and never acknowledges the payload.
-/

namespace Dperf.Wire

open Memory

/-! ### `tcp.c` -/

/-- `eth_addr_swap`. -/
def ethAddrSwap (m : Mem) : Mem :=
  let addr := bytes m 6
  let m := put m 0 (bytes (fun i => m (6 + i)) 6)
  put m 6 addr

/-- `tcp_rst_set_ip`. -/
def tcpRstSetIp (tos : UInt8) (iph : ℕ) (m : Mem) : Mem :=
  let daddr := get32 m (iph + 12)
  let saddr := get32 m (iph + 16)
  let m := put m iph (List.replicate 20 0)
  let m := put m iph [0x45]
  let m := put m (iph + 1) [tos]
  let m := put m (iph + 2) (le16 (htons 40))
  let m := put m (iph + 8) [64]
  let m := put m (iph + 6) (le16 (htons 0x4000))
  let m := put m (iph + 9) [6]
  let m := put m (iph + 12) (le32 saddr)
  put m (iph + 16) (le32 daddr)

/-- `tcp_rst_set_ipv6`. -/
def tcpRstSetIpv6 (tos : UInt8) (iph : ℕ) (m : Mem) : Mem :=
  let src := getDst m iph
  let dst := getSrc m iph
  let m := put m iph (List.replicate 40 0)
  let m := put m iph [0x60]
  let m := put m iph (le32 (get32 m iph ||| htonl (tos.toUInt32 <<< 20)))
  let m := put m (iph + 7) [64]
  let m := put m (iph + 8) src.bytes
  let m := put m (iph + 24) dst.bytes
  let m := put m (iph + 4) (le16 (htons 20))
  put m (iph + 6) [6]

/-- `tcp_rst_set_tcp`. -/
def tcpRstSetTcp (th : ℕ) (m : Mem) : Mem :=
  let sport := get16 m (th + 2)
  let dport := get16 m th
  let seq := htonl (get32 m (th + 4))
  let seq := if hasFlag (m (th + 13)) thSyn then seq + 1 else seq
  let seq := if hasFlag (m (th + 13)) thFin then seq + 1 else seq
  let m := put m th (List.replicate 20 0)
  let m := put m th (le16 sport)
  let m := put m (th + 2) (le16 dport)
  let m := put m (th + 4) (le32 0)
  let m := put m (th + 8) (le32 (htonl seq))
  let m := put m (th + 12) [(5 : UInt8) <<< 4]
  put m (th + 13) [thRst ||| thAck]

/-- `tcp_reply_rst`: the mbuf that is sent, if any. -/
def replyRst (rte : Rte) (w : WireSpace) (m : RteMbuf) : Option RteMbuf :=
  -- not support rst yet
  if w.ws.vxlan then none
  else
    let th := mbufTcpHdr m.data
    let data := ethAddrSwap m.data
    let trim := fun nlen => if nlen < m.dataLen then m.dataLen - (m.dataLen - nlen) else m.dataLen
    if data 14 >>> 4 = 4 then
      let data := tcpRstSetTcp th (tcpRstSetIp w.tos 14 data)
      let data := put data (th + 16) (le16 (rte.ipv4UdptcpCksum data 14 th))
      let data := put data 24 (le16 (rte.ipv4Cksum data 14))
      some { m with data := data, dataLen := trim 54 }
    else
      let data := tcpRstSetTcp th (tcpRstSetIpv6 w.tos 14 data)
      let data := put data (th + 16) (le16 (rte.ipv6UdptcpCksum data 14 th))
      some { m with data := data, dataLen := trim 74 }

/-! ### What a segment says -/

/-- The addresses, the TCP header and the payload length of a segment. -/
@[ext]
structure TcpText where
  src : In6Addr
  dst : In6Addr
  sport : UInt16
  dport : UInt16
  seq : UInt32
  ack : UInt32
  flags : UInt8
  len : ℕ

/-- The segment in a frame whose IP header has `skip` bytes of options. -/
def tcpText (ipv6 : Bool) (skip : ℕ) (m : Mem) : TcpText :=
  let th := outerL4 ipv6 + skip
  let off := (m (th + 12) >>> 4).toNat * 4
  { src := if ipv6 then getSrc m 14 else ⟨0, 0, 0, get32 m 26⟩
    dst := if ipv6 then getDst m 14 else ⟨0, 0, 0, get32 m 30⟩
    sport := htons (get16 m th)
    dport := htons (get16 m (th + 2))
    seq := htonl (get32 m (th + 4))
    ack := htonl (get32 m (th + 8))
    flags := m (th + 13)
    len := (if ipv6 then (htons (get16 m 18)).toNat - skip
      else (htons (get16 m 16)).toNat - (20 + skip)) - off }

/-- The first number behind the segment. -/
def TcpText.next (s : TcpText) : UInt32 :=
  s.seq + UInt32.ofNat s.len + (if hasFlag s.flags thSyn then 1 else 0)
    + (if hasFlag s.flags thFin then 1 else 0)

/-- The reset that RFC 793 asks for. -/
structure Answers (ipv6 : Bool) (s : TcpText) (out : RteMbuf) : Prop where
  outgoing : Outgoing ipv6 false 20 out.data
  dataLen : out.dataLen = outerL4 ipv6 + 20
  ip : ipv6 = false → wordSum out.data 14 20 ≡ 0 [MOD 65535]
  tcp : L4Verifies ipv6 false 20 out.data
  rst : hasFlag (tcpText ipv6 0 out.data).flags thRst = true
  len : (tcpText ipv6 0 out.data).len = 0
  addrs : (tcpText ipv6 0 out.data).src = s.dst ∧ (tcpText ipv6 0 out.data).dst = s.src
  ports : (tcpText ipv6 0 out.data).sport = s.dport ∧ (tcpText ipv6 0 out.data).dport = s.sport
  accepted : if hasFlag s.flags thAck then (tcpText ipv6 0 out.data).seq = s.ack
    else (tcpText ipv6 0 out.data).seq = 0 ∧ (tcpText ipv6 0 out.data).ack = s.next

/-! ### The headers of the answer -/

section Headers

variable {m : Mem} {tos : UInt8}

lemma tcpRstSetTcp_kept (th : ℕ) : Set.EqOn (tcpRstSetTcp th m) m (block th 20)ᶜ := by
  rw [tcpRstSetTcp]
  refine put_kept (put_kept (put_kept (put_kept (put_kept (put_kept (put_kept
    (Set.eqOn_refl m _) ?_) ?_) ?_) ?_) ?_) ?_) ?_ <;>
  simp only [List.length_replicate, length_le16, length_le32, List.length_singleton] <;>
  exact Set.Ico_subset_Ico (by omega) (by omega)

/-- The TCP header of the answer. -/
lemma tcpRstSetTcp_fields (th : ℕ) :
    get16 (tcpRstSetTcp th m) th = get16 m (th + 2) ∧
    get16 (tcpRstSetTcp th m) (th + 2) = get16 m th ∧
    get32 (tcpRstSetTcp th m) (th + 4) = 0 ∧
    get32 (tcpRstSetTcp th m) (th + 8) = htonl (htonl (get32 m (th + 4))
      + (if hasFlag (m (th + 13)) thSyn then 1 else 0)
      + (if hasFlag (m (th + 13)) thFin then 1 else 0)) ∧
    tcpRstSetTcp th m (th + 12) = 0x50 ∧ tcpRstSetTcp th m (th + 13) = thRst ||| thAck ∧
    get16 (tcpRstSetTcp th m) (th + 16) = 0 := by
  rw [tcpRstSetTcp]
  refine ⟨?_, ?_, ?_, ?_, ?_, put_head, ?_⟩ <;>
  simp (disch := simp only [length_le16, length_le32, List.length_singleton]; omega) only
    [get16_put_ne, get32_put_ne, put_ne, get16_put, get32_put, put_head]
  · congr 1
    split_ifs <;> simp
  · rfl
  · exact get16_put_zeros (by decide)

lemma tcpRstSetIp_kept (m : Mem) (tos : UInt8) :
    Set.EqOn (tcpRstSetIp tos 14 m) m (block 14 20)ᶜ := by
  rw [tcpRstSetIp]
  refine put_kept (put_kept (put_kept (put_kept (put_kept (put_kept (put_kept (put_kept (put_kept
    (Set.eqOn_refl m _) ?_) ?_) ?_) ?_) ?_) ?_) ?_) ?_) ?_ <;>
  simp only [List.length_replicate, length_le16, length_le32, List.length_singleton] <;>
  exact Set.Ico_subset_Ico (by omega) (by omega)

/-- The IPv4 header of the answer. -/
lemma tcpRstSetIp_fields (m : Mem) (tos : UInt8) :
    tcpRstSetIp tos 14 m 14 = 0x45 ∧ get16 (tcpRstSetIp tos 14 m) 16 = htons 40 ∧
    tcpRstSetIp tos 14 m 23 = 6 ∧ get32 (tcpRstSetIp tos 14 m) 26 = get32 m 30 ∧
    get32 (tcpRstSetIp tos 14 m) 30 = get32 m 26 ∧ get16 (tcpRstSetIp tos 14 m) 24 = 0 := by
  rw [tcpRstSetIp]
  simp (disch := simp only [length_le16, length_le32, List.length_singleton]; omega) only
    [get16_put_ne, get32_put_ne, put_ne, get16_put, get32_put, put_head, true_and]
  exact get16_put_zeros (by decide : 10 + 2 ≤ 20)

lemma tcpRstSetIpv6_kept (m : Mem) (tos : UInt8) :
    Set.EqOn (tcpRstSetIpv6 tos 14 m) m (block 14 40)ᶜ := by
  rw [tcpRstSetIpv6]
  refine put_kept (put_kept (put_kept (put_kept (put_kept (put_kept (put_kept (put_kept
    (Set.eqOn_refl m _) ?_) ?_) ?_) ?_) ?_) ?_) ?_) ?_ <;>
  simp only [List.length_replicate, length_le16, length_le32, List.length_singleton,
    In6Addr.bytes, List.length_append] <;>
  exact Set.Ico_subset_Ico (by omega) (by omega)

/-- The words of an address that has been written. -/
lemma get32_put_in6 (m : Mem) (off : ℕ) (a : In6Addr) :
    get32 (put m off a.bytes) off = a.w0 ∧ get32 (put m off a.bytes) (off + 4) = a.w1 ∧
    get32 (put m off a.bytes) (off + 8) = a.w2 ∧ get32 (put m off a.bytes) (off + 12) = a.w3 := by
  rw [In6Addr.bytes, put_append, put_append, put_append]
  simp (disch := simp only [length_le32, List.length_append]; omega) only
    [List.length_append, length_le32, get32_put_ne, get32_put, true_and]

/-- The first byte keeps the version when the traffic class is added. -/
lemma version_flow (tos : UInt8) :
    (le32 ((0x60 : UInt32) ||| htonl (tos.toUInt32 <<< 20))).getD 0 0 >>> 4 = 6 := by
  have htos := tos.toNat_lt
  have hshift : (tos.toUInt32 <<< (20 : UInt32)).toNat = tos.toNat * 2 ^ 20 := by
    rw [UInt32.toNat_shiftLeft, UInt8.toNat_toUInt32, Nat.shiftLeft_eq]
    change tos.toNat * 2 ^ 20 % 2 ^ 32 = _
    omega
  -- the upper half of the traffic class is the lower half of the byte
  have hlow : (htonl (tos.toUInt32 <<< (20 : UInt32))).toNat % 2 ^ 8 = tos.toNat / 16 := by
    rw [toNat_htonl, toNat_htons, toNat_htons, UInt16.toNat_ofNat', UInt16.toNat_ofNat', hshift]
    have hdiv : tos.toNat * 2 ^ 20 / 65536 = tos.toNat * 16 := by omega
    have hhalf : tos.toNat * 16 / 256 = tos.toNat / 16 := by omega
    rw [hdiv, Nat.mod_eq_of_lt (by omega : tos.toNat * 16 < 2 ^ 16), hhalf]
    omega
  have hbyte : ∀ x < 16, (96 ||| x) >>> 4 = 6 := by decide
  have hhead : ∀ v : UInt32, (le32 v).getD 0 0 = UInt8.ofNat (UInt16.ofNat v.toNat).toNat :=
    fun _ => rfl
  apply UInt8.toNat_inj.mp
  rw [hhead, UInt8.toNat_shiftRight, UInt8.toNat_ofNat', UInt16.toNat_ofNat',
    Nat.mod_mod_of_dvd _ (by decide : 2 ^ 8 ∣ 2 ^ 16), UInt32.toNat_or, Nat.or_mod_two_pow, hlow]
  exact hbyte _ (by omega)

/-- The IPv6 header of the answer. -/
lemma tcpRstSetIpv6_fields (m : Mem) (tos : UInt8) :
    tcpRstSetIpv6 tos 14 m 14 >>> 4 = 6 ∧ get16 (tcpRstSetIpv6 tos 14 m) 18 = htons 20 ∧
    tcpRstSetIpv6 tos 14 m 20 = 6 ∧ getSrc (tcpRstSetIpv6 tos 14 m) 14 = getDst m 14 ∧
    getDst (tcpRstSetIpv6 tos 14 m) 14 = getSrc m 14 := by
  have hflow : get32 (put (put m 14 (List.replicate 40 0)) 14 [0x60]) 14 = 0x60 := by
    have hrest : ∀ i, 1 ≤ i → i < 4 →
        put (put m 14 (List.replicate 40 0)) 14 [0x60] (14 + i) = 0 := by
      intro i h1 h4
      rw [put_ne (.inr (by rw [List.length_singleton]; omega)),
        put_of_mem (by rw [List.length_replicate]; omega), List.getElem_replicate]
    refine get32_of_bytes fun i hi => ?_
    obtain rfl | hpos := Nat.eq_zero_or_pos i
    · exact put_head
    · rw [hrest i hpos hi]
      interval_cases i <;> rfl
  rw [tcpRstSetIpv6, hflow]
  generalize put (put m 14 (List.replicate 40 0)) 14 [0x60] = m₀
  generalize getDst m 14 = src
  generalize getSrc m 14 = dst
  generalize hv : (0x60 : UInt32) ||| htonl (tos.toUInt32 <<< 20) = v
  have hlen : ∀ a : In6Addr, a.bytes.length = 16 := fun a => rfl
  have hsrc := get32_put_in6 (put (put m₀ 14 (le32 v)) (14 + 7) [64]) 22 src
  have hdst := get32_put_in6 (put (put (put m₀ 14 (le32 v)) (14 + 7) [64]) (14 + 8) src.bytes) 38
    dst
  refine ⟨?_, ?_, put_head, ?_, ?_⟩
  · have hbyte : put m₀ 14 (le32 v) 14 = (le32 v).getD 0 0 := put_head
    simp (disch := simp only [length_le16, List.length_singleton, hlen]; omega) only [put_ne]
    rw [hbyte, ← hv, version_flow]
  · rw [get16_put_ne (.inl (by decide)), get16_put]
  · rw [getSrc]
    simp (disch := simp only [length_le16, List.length_singleton, hlen]; omega) only
      [get32_put_ne]
    rw [hsrc.1, hsrc.2.1, hsrc.2.2.1, hsrc.2.2.2]
  · rw [getDst]
    simp (disch := simp only [length_le16, List.length_singleton]; omega) only [get32_put_ne]
    rw [hdst.1, hdst.2.1, hdst.2.2.1, hdst.2.2.2]

end Headers

/-! ### The answer -/

/-- The answer that a segment gets. -/
def TcpText.answer (s : TcpText) : TcpText where
  src := s.dst
  dst := s.src
  sport := s.dport
  dport := s.sport
  seq := 0
  ack := s.seq + (if hasFlag s.flags thSyn then 1 else 0) + (if hasFlag s.flags thFin then 1 else 0)
  flags := thRst ||| thAck
  len := 0

/-- A frame without IP options that has a TCP header. -/
structure Plain (ipv6 : Bool) (m : RteMbuf) : Prop where
  type : get16 m.data 12 = htons (if ipv6 then 0x86DD else 0x0800)
  version : m.data 14 >>> 4 = if ipv6 then 6 else 4
  le : outerL4 ipv6 + 20 ≤ m.dataLen

section Answer

variable {rte : Rte} {w : WireSpace} {ipv6 : Bool} {m : RteMbuf} {d data : Mem}

lemma ethAddrSwap_kept (data : Mem) : Set.EqOn (ethAddrSwap data) data (block 0 12)ᶜ := by
  have hlen : ∀ m : Mem, (bytes m 6).length = 6 := fun m => by simp [bytes]
  rw [ethAddrSwap]
  refine put_kept (put_kept (Set.eqOn_refl data _) ?_) ?_ <;> rw [hlen] <;>
  exact Set.Ico_subset_Ico (by omega) (by omega)

/-- The bytes from `lo` on are as they were. -/
lemma text_congr {lo : ℕ} (h : Set.EqOn d data (block 0 lo)ᶜ) :
    (∀ i, lo ≤ i → d i = data i) ∧ (∀ i, lo ≤ i → get16 d i = get16 data i) ∧
    (∀ i, lo ≤ i → get32 d i = get32 data i) := by
  have hmem : ∀ i k, lo ≤ i → block i k ⊆ (block 0 lo)ᶜ := fun i k hi =>
    (block_disjoint (.inr (by rwa [Nat.zero_add]))).subset_compl_right
  exact ⟨fun i hi => h (hmem i 1 hi ⟨le_rfl, by omega⟩),
    fun i hi => get16_congr (h.mono (hmem i 2 hi)),
    fun i hi => get32_congr (h.mono (hmem i 4 hi))⟩

/-- The answer before its checksums: an IP header that is that of the answer, and the TCP header
over it. -/
structure Draft (ipv6 : Bool) (data d : Mem) : Prop where
  outgoing : Outgoing ipv6 false 20 d
  text : tcpText ipv6 0 d = (tcpText ipv6 0 data).answer
  sum : get16 d (outerL4 ipv6 + 16) = 0
  check : ipv6 = false → get16 d 24 = 0

/-- The TCP header of the answer does not depend on the IP header. -/
lemma tcpRstSetTcp_text (ipv6 : Bool) (h : Set.EqOn d data (block 0 (outerL4 ipv6))ᶜ) :
    let out := tcpRstSetTcp (outerL4 ipv6) d
    let s := (tcpText ipv6 0 data).answer
    (tcpText ipv6 0 out).sport = s.sport ∧ (tcpText ipv6 0 out).dport = s.dport ∧
    (tcpText ipv6 0 out).seq = s.seq ∧ (tcpText ipv6 0 out).ack = s.ack ∧
    (tcpText ipv6 0 out).flags = s.flags ∧ (out (outerL4 ipv6 + 12) >>> 4).toNat * 4 = 20 := by
  obtain ⟨hbyte, h16, h32⟩ := text_congr h
  obtain ⟨hsport, hdport, hseq, hack, hoff, hflags, -⟩ :=
    tcpRstSetTcp_fields (m := d) (outerL4 ipv6)
  refine ⟨?_, ?_, ?_, ?_, ?_, ?_⟩
  · show htons (get16 (tcpRstSetTcp (outerL4 ipv6) d) (outerL4 ipv6 + 0)) = _
    rw [Nat.add_zero, hsport, h16 _ (Nat.le_add_right _ _)]
    rfl
  · show htons (get16 (tcpRstSetTcp (outerL4 ipv6) d) (outerL4 ipv6 + 0 + 2)) = _
    rw [Nat.add_zero, hdport, h16 _ le_rfl]
    rfl
  · show htonl (get32 (tcpRstSetTcp (outerL4 ipv6) d) (outerL4 ipv6 + 0 + 4)) = _
    rw [Nat.add_zero, hseq]
    rfl
  · show htonl (get32 (tcpRstSetTcp (outerL4 ipv6) d) (outerL4 ipv6 + 0 + 8)) = _
    rw [Nat.add_zero, hack, htonl_htonl, h32 _ (Nat.le_add_right _ _),
      hbyte _ (Nat.le_add_right _ _)]
    rfl
  · exact hflags
  · rw [hoff]
    rfl

/-- Before `b` nothing of the TCP header is written. -/
lemma tcpRstSetTcp_before (th : ℕ) (d : Mem) :
    (∀ i < th, tcpRstSetTcp th d i = d i) ∧
    (∀ i, i + 2 ≤ th → get16 (tcpRstSetTcp th d) i = get16 d i) ∧
    (∀ i, i + 4 ≤ th → get32 (tcpRstSetTcp th d) i = get32 d i) := by
  have hmem : ∀ i k, i + k ≤ th → block i k ⊆ (block th 20)ᶜ := fun i k hi =>
    (block_disjoint (.inl hi)).subset_compl_right
  have hkept := tcpRstSetTcp_kept (m := d) th
  exact ⟨fun i hi => hkept (hmem i 1 hi ⟨le_rfl, by omega⟩),
    fun i hi => get16_congr (hkept.mono (hmem i 2 hi)),
    fun i hi => get32_congr (hkept.mono (hmem i 4 hi))⟩

lemma type_kept {hdr : ℕ} (h : Set.EqOn d (ethAddrSwap data) (block 14 hdr)ᶜ) :
    get16 d 12 = get16 data 12 := by
  have hmac : Disjoint (block 12 2) (block 0 12) := block_disjoint (.inr (by decide))
  calc get16 d 12 = get16 (ethAddrSwap data) 12 :=
        get16_congr (h.mono (block_disjoint (.inl le_rfl)).subset_compl_right)
    _ = get16 data 12 := get16_congr ((ethAddrSwap_kept data).mono hmac.subset_compl_right)

lemma rest_kept {hdr : ℕ} (h : Set.EqOn d (ethAddrSwap data) (block 14 hdr)ᶜ) :
    Set.EqOn d data (block 0 (14 + hdr))ᶜ := by
  intro i hi
  have hge : 14 + hdr ≤ i := by
    by_contra hlt
    exact hi ⟨Nat.zero_le i, by omega⟩
  have h1 : i ∈ (block 14 hdr)ᶜ := fun hb => by
    have hlt := hb.2
    omega
  have h2 : i ∈ (block 0 12)ᶜ := fun hb => by
    have hlt := hb.2
    omega
  rw [h h1, ethAddrSwap_kept data h2]

lemma draft_ipv4 (data : Mem) (tos : UInt8) (htype : get16 data 12 = htons 0x0800) :
    Draft false data (tcpRstSetTcp 34 (tcpRstSetIp tos 14 (ethAddrSwap data))) := by
  have hkept := tcpRstSetIp_kept (ethAddrSwap data) tos
  obtain ⟨hvfc, htot, hproto, hsrc, hdst, hcheck⟩ :=
    tcpRstSetIp_fields (ethAddrSwap data) tos
  obtain ⟨-, -, h32⟩ := text_congr (ethAddrSwap_kept data)
  have htype' := (type_kept hkept).trans htype
  have hrest := rest_kept hkept
  generalize tcpRstSetIp tos 14 (ethAddrSwap data) = d at *
  obtain ⟨hb, hb16, hb32⟩ := tcpRstSetTcp_before 34 d
  obtain ⟨hsport, hdport, hseq, hack, hflags, hoff⟩ := tcpRstSetTcp_text false hrest
  obtain ⟨-, -, -, -, -, -, hsum⟩ := tcpRstSetTcp_fields (m := d) 34
  have htotLen : (htons (get16 (tcpRstSetTcp 34 d) 16)).toNat = 40 := by
    rw [hb16 16 (by decide), htot, htons_htons]
    rfl
  refine ⟨⟨?_, ?_, ?_, ?_, le_rfl, by decide⟩, ?_, hsum, fun _ => ?_⟩
  · rw [hb16 12 (by decide), htype', if_neg Bool.false_ne_true]
  · rw [hb 14 (by decide), hvfc]
    decide
  · rw [if_neg Bool.false_ne_true, hb16 16 (by decide), htot]
    rfl
  · rw [if_neg Bool.false_ne_true, hb 23 (by decide), hproto]
    rfl
  · refine TcpText.ext ?_ ?_ hsport hdport hseq hack hflags ?_
    · show (⟨0, 0, 0, get32 (tcpRstSetTcp 34 d) 26⟩ : In6Addr) = ⟨0, 0, 0, get32 data 30⟩
      rw [hb32 26 (by decide), hsrc, h32 30 (by decide)]
    · show (⟨0, 0, 0, get32 (tcpRstSetTcp 34 d) 30⟩ : In6Addr) = ⟨0, 0, 0, get32 data 26⟩
      rw [hb32 30 (by decide), hdst, h32 26 (by decide)]
    · show (htons (get16 (tcpRstSetTcp 34 d) 16)).toNat - (20 + 0) -
        (tcpRstSetTcp 34 d (34 + 0 + 12) >>> 4).toNat * 4 = 0
      have hoff' : (tcpRstSetTcp 34 d (34 + 0 + 12) >>> 4).toNat * 4 = 20 := hoff
      omega
  · rw [hb16 24 (by decide), hcheck]

/-- The length of an IPv6 segment without options. -/
lemma tcpText_len (m : Mem) : (tcpText true 0 m).len =
    (htons (get16 m 18)).toNat - (m 66 >>> 4).toNat * 4 := rfl

lemma draft_ipv6 (data : Mem) (tos : UInt8) (htype : get16 data 12 = htons 0x86DD) :
    Draft true data (tcpRstSetTcp 54 (tcpRstSetIpv6 tos 14 (ethAddrSwap data))) := by
  have hkept := tcpRstSetIpv6_kept (ethAddrSwap data) tos
  obtain ⟨hvfc, hplen, hproto, hsrc, hdst⟩ :=
    tcpRstSetIpv6_fields (ethAddrSwap data) tos
  obtain ⟨-, -, h32⟩ := text_congr (ethAddrSwap_kept data)
  have htype' := (type_kept hkept).trans htype
  have hrest := rest_kept hkept
  generalize tcpRstSetIpv6 tos 14 (ethAddrSwap data) = d at *
  obtain ⟨hb, hb16, hb32⟩ := tcpRstSetTcp_before 54 d
  obtain ⟨hsport, hdport, hseq, hack, hflags, hoff⟩ := tcpRstSetTcp_text true hrest
  obtain ⟨-, -, -, -, -, -, hsum⟩ := tcpRstSetTcp_fields (m := d) 54
  have hpayload : (htons (get16 (tcpRstSetTcp 54 d) 18)).toNat = 20 := by
    rw [hb16 18 (by decide), hplen, htons_htons]
    rfl
  have haddr : ∀ m m' : Mem, (∀ i, 14 ≤ i → i + 4 ≤ 54 → get32 m i = get32 m' i) →
      getSrc m 14 = getSrc m' 14 ∧ getDst m 14 = getDst m' 14 := by
    intro m m' h
    constructor
    · rw [getSrc, getSrc, h _ (by decide) (by decide), h _ (by decide) (by decide),
        h _ (by decide) (by decide), h _ (by decide) (by decide)]
    · rw [getDst, getDst, h _ (by decide) (by decide), h _ (by decide) (by decide),
        h _ (by decide) (by decide), h _ (by decide) (by decide)]
  obtain ⟨hsrcTcp, hdstTcp⟩ := haddr _ _ fun i _ hi => hb32 i hi
  obtain ⟨hsrcEth, hdstEth⟩ := haddr _ _ fun i hi _ => h32 i (by omega)
  refine ⟨⟨?_, ?_, ?_, ?_, le_rfl, by decide⟩, ?_, hsum, fun hno => Bool.noConfusion hno⟩
  · rw [hb16 12 (by decide), htype', if_pos rfl]
  · rw [hb 14 (by decide), hvfc, if_pos rfl]
  · rw [if_pos rfl, if_pos rfl, hb16 18 (by decide), hplen]
    rfl
  · rw [if_pos rfl, hb 20 (by decide), hproto]
    rfl
  · refine TcpText.ext ?_ ?_ hsport hdport hseq hack hflags ?_
    · exact hsrcTcp.trans (hsrc.trans hdstEth)
    · exact hdstTcp.trans (hdst.trans hsrcEth)
    · have hoff' : (tcpRstSetTcp 54 d 66 >>> 4).toNat * 4 = 20 := hoff
      rw [tcpText_len, hpayload, hoff']
      rfl

/-- The checksums are no part of what a segment says. -/
lemma tcpText_congr (h : Set.EqOn d data (softFields ipv6 false)ᶜ) :
    tcpText ipv6 0 d = tcpText ipv6 0 data := by
  have hmem : ∀ i k, (if ipv6 then i + k ≤ 21 ∨ 22 ≤ i else i + k ≤ 22 ∨ 26 ≤ i) →
      i + k ≤ outerL4 ipv6 + 16 → block i k ⊆ (softFields ipv6 false)ᶜ := by
    intro i k hlo hhi j hj hj'
    unfold outerL4 at hhi
    unfold softFields outerL4 at hj'
    have h1 := hj.1
    have h2 := hj.2
    cases ipv6 <;> simp only [Set.mem_union, Set.mem_Ico, if_true, if_false,
      Bool.false_eq_true] at hj' hlo hhi <;> omega
  have h8 : ∀ i, (if ipv6 then i + 1 ≤ 21 ∨ 22 ≤ i else i + 1 ≤ 22 ∨ 26 ≤ i) →
      i + 1 ≤ outerL4 ipv6 + 16 → d i = data i :=
    fun i hlo hhi => h (hmem i 1 hlo hhi ⟨le_rfl, by omega⟩)
  have h16 : ∀ i, (if ipv6 then i + 2 ≤ 21 ∨ 22 ≤ i else i + 2 ≤ 22 ∨ 26 ≤ i) →
      i + 2 ≤ outerL4 ipv6 + 16 → get16 d i = get16 data i :=
    fun i hlo hhi => get16_congr (h.mono (hmem i 2 hlo hhi))
  have h32 : ∀ i, (if ipv6 then i + 4 ≤ 21 ∨ 22 ≤ i else i + 4 ≤ 22 ∨ 26 ≤ i) →
      i + 4 ≤ outerL4 ipv6 + 16 → get32 d i = get32 data i :=
    fun i hlo hhi => get32_congr (h.mono (hmem i 4 hlo hhi))
  cases ipv6 with
  | false =>
      simp only [tcpText, outerL4, if_false, Bool.false_eq_true, Nat.add_zero, Nat.reduceAdd]
      rw [h32 26 (by decide) (by decide), h32 30 (by decide) (by decide),
        h16 34 (by decide) (by decide), h16 36 (by decide) (by decide),
        h32 38 (by decide) (by decide), h32 42 (by decide) (by decide),
        h8 47 (by decide) (by decide), h16 16 (by decide) (by decide),
        h8 46 (by decide) (by decide)]
  | true =>
      simp only [tcpText, outerL4, if_true, getSrc, getDst, Nat.add_zero, Nat.reduceAdd]
      rw [h32 22 (by decide) (by decide), h32 26 (by decide) (by decide),
        h32 30 (by decide) (by decide), h32 34 (by decide) (by decide),
        h32 38 (by decide) (by decide), h32 42 (by decide) (by decide),
        h32 46 (by decide) (by decide), h32 50 (by decide) (by decide),
        h16 54 (by decide) (by decide), h16 56 (by decide) (by decide),
        h32 58 (by decide) (by decide), h32 62 (by decide) (by decide),
        h8 67 (by decide) (by decide), h16 18 (by decide) (by decide),
        h8 66 (by decide) (by decide)]

/-- The answer with its checksums. -/
structure Final (ipv6 : Bool) (data out : Mem) : Prop where
  outgoing : Outgoing ipv6 false 20 out
  text : tcpText ipv6 0 out = (tcpText ipv6 0 data).answer
  ip : ipv6 = false → wordSum out 14 20 ≡ 0 [MOD 65535]
  tcp : L4Verifies ipv6 false 20 out

lemma Draft.final (hr : rte.Rfc1071) (hd : Draft ipv6 data d) {out : Mem}
    (hkept : Set.EqOn out d (softFields ipv6 false)ᶜ)
    (hsum : get16 out (outerL4 ipv6 + 16) = outerCksum rte ipv6 d)
    (hip : ipv6 = false → wordSum out 14 20 ≡ 0 [MOD 65535]) : Final ipv6 data out := by
  have hs : Softened ipv6 false 20 d out (outerCksum rte ipv6 d) :=
    ⟨fun i hi => hkept hi, hsum, hd.outgoing.softened hr (Set.eqOn_refl d _) hd.sum, hip,
      fun hno => Bool.noConfusion hno⟩
  exact ⟨(hd.outgoing.header hkept).1, (tcpText_congr hkept).trans hd.text, hip,
    hs.verifies hd.outgoing⟩

/-- What `tcp_reply_rst` sends. -/
lemma Plain.replyRst (hr : rte.Rfc1071) (hv : w.ws.vxlan = false) (h : Plain ipv6 m) :
    ∃ out, replyRst rte w m = some out ∧ out.dataLen = outerL4 ipv6 + 20 ∧
      Final ipv6 m.data out.data := by
  have hversion : ethAddrSwap m.data 14 = m.data 14 :=
    ethAddrSwap_kept m.data fun hb => absurd hb.2 (by decide)
  have hle := h.le
  have hno : ¬ w.ws.vxlan = true := Bool.eq_false_iff.mp hv
  have htrim : ∀ nlen, nlen ≤ m.dataLen →
      (if nlen < m.dataLen then m.dataLen - (m.dataLen - nlen) else m.dataLen) = nlen := by
    intro nlen hle
    split_ifs <;> omega
  rw [Wire.replyRst, if_neg hno]
  dsimp only
  rw [hversion, h.version]
  cases ipv6 with
  | false =>
      have hth : mbufTcpHdr m.data = 34 := if_pos h.type
      have hd := draft_ipv4 m.data w.tos h.type
      rw [hth, if_pos (by decide), htrim 54 hle]
      generalize tcpRstSetTcp 34 (tcpRstSetIp w.tos 14 (ethAddrSwap m.data)) = d at hd
      refine ⟨_, rfl, rfl, hd.final hr ?_ ?_ fun _ => ?_⟩
      · have h24 : block 24 2 ⊆ softFields false false := fun i hi => Or.inl (Or.inr hi)
        have h50 : block 50 2 ⊆ softFields false false := fun i hi => Or.inr hi
        exact put_kept (put_kept (Set.eqOn_refl d _) h50) h24
      · rw [outerL4, if_neg Bool.false_ne_true, get16_put_ne (.inr (by rw [length_le16]; decide)),
          get16_put]
        rfl
      · dsimp only
        have hzero : get16 (put d (34 + 16) (le16 (rte.ipv4UdptcpCksum d 14 34))) 24 = 0 := by
          rw [get16_put_ne (.inl (by decide)), hd.check rfl]
        generalize put d (34 + 16) (le16 (rte.ipv4UdptcpCksum d 14 34)) = d' at hzero
        have hsum := wordSum_put16 d' 14 (rte.ipv4Cksum d' 14) (by decide : 10 % 2 = 0)
          (by decide : 10 + 2 ≤ 20)
        rw [hzero, UInt16.toNat_zero, Nat.add_zero] at hsum
        rw [hsum, Nat.add_comm]
        exact hr.ipv4Cksum d' 14
  | true =>
      have hth : mbufTcpHdr m.data = 54 := by
        rw [mbufTcpHdr, h.type]
        decide
      have hd := draft_ipv6 m.data w.tos h.type
      rw [hth, if_neg (by decide), htrim 74 hle]
      refine ⟨_, rfl, rfl, hd.final hr ?_ ?_ fun hno => Bool.noConfusion hno⟩
      · exact put_kept (Set.eqOn_refl _ _) fun i hi => Or.inr hi
      · exact get16_put _

end Answer

/-! ### Frames with options -/

/-- The bytes of options that are taken out. -/
def skipOf (ipv6 : Bool) (m : RteMbuf) : ℕ := if ipv6 then ipv6Skip m else ipv4Skip m

/-- The frame that the TCP handler gets. -/
def trimmedOf (ipv6 : Bool) (m : RteMbuf) : RteMbuf :=
  if ipv6 then ipv6Trimmed m else ipv4Trimmed m

/-- A TCP segment that passes the tests of `ipv4_input` or `ipv6_input`: its headers are in the
frame, and the length of the IP header is no longer than that of the packet. -/
structure Received (ipv6 : Bool) (m : RteMbuf) : Prop where
  given : if ipv6 then Ipv6ToTcp m else Ipv4ToTcp m
  version : m.version = if ipv6 then 6 else 4
  header : outerL4 ipv6 + 20 + skipOf ipv6 m ≤ m.dataLen
  length : skipOf ipv6 m ≤ (htons (get16 m.data (if ipv6 then 18 else 16))).toNat

section Options

variable {data : Mem} {h skip i : ℕ} {m : RteMbuf}

lemma get32_moved (hi : i + 3 < h) : get32 (moved data h skip) i = get32 data i := by
  rw [get32, get32, get16_moved (by omega), get16_moved (by omega)]

lemma get16_moved_ge (hi : h ≤ i) : get16 (moved data h skip) i = get16 data (i + skip) := by
  rw [get16, get16, moved_ge hi, moved_ge (by omega), Nat.add_right_comm]

lemma get32_moved_ge (hi : h ≤ i) : get32 (moved data h skip) i = get32 data (i + skip) := by
  rw [get32, get32, get16_moved_ge hi, get16_moved_ge (by omega), Nat.add_right_comm]

/-- The options of an IPv4 header say nothing. -/
lemma ipv4Trimmed_text (h : Received false m) :
    tcpText false 0 (ipv4Trimmed m).data = tcpText false (ipv4Skip m) m.data := by
  have hto : Ipv4ToTcp m := h.given
  have hskip : ipv4Skip m ≤ m.dataLen := (Nat.le_add_left _ _).trans h.header
  have hlen : ipv4Skip m ≤ (htons (get16 m.data 16)).toNat := h.length
  by_cases hihl : m.data 14 &&& 0xF = 5
  · have hzero : ipv4Skip m = 0 := by
      rw [ipv4Skip, hihl]
      rfl
    rw [ipv4Trimmed, if_neg (not_not.mpr hihl), hzero]
  · have htot := (htons (get16 m.data 16)).toNat_lt
    have hsub : (htons (get16 m.data 16) - UInt16.ofNat (ipv4Skip m)).toNat =
        (htons (get16 m.data 16)).toNat - ipv4Skip m := by
      have hnat : (UInt16.ofNat (ipv4Skip m)).toNat = ipv4Skip m :=
        UInt16.toNat_ofNat_of_lt' (by change _ < 2 ^ 16; omega)
      rw [UInt16.toNat_sub_of_le _ _ (UInt16.le_iff_toNat_le.mpr (by rw [hnat]; exact hlen)), hnat]
    rw [ipv4Trimmed_eq hto hihl hskip]
    simp only [tcpText, outerL4, if_false, Bool.false_eq_true, Nat.add_zero]
    rw [get32_moved (by decide), get32_moved (by decide), get16_moved_ge le_rfl,
      get16_moved_ge (by decide), get32_moved_ge (by decide), get32_moved_ge (by decide),
      moved_ge (by decide), get16_moved (by decide), moved_ge (by decide), get16_put, htons_htons,
      hsub]
    simp (disch := simp only [length_le16, List.length_singleton]; omega) only
      [get16_put_ne, get32_put_ne, put_ne]
    have hsum : (htons (get16 m.data 16)).toNat - ipv4Skip m - 20 =
        (htons (get16 m.data 16)).toNat - (20 + ipv4Skip m) := by omega
    rw [hsum]
    simp only [Nat.add_right_comm]

/-- Destination options say nothing. -/
lemma ipv6Trimmed_text (h : Received true m) :
    tcpText true 0 (ipv6Trimmed m).data = tcpText true (ipv6Skip m) m.data := by
  have hto : Ipv6ToTcp m := h.given
  have hskip : ipv6Skip m ≤ m.dataLen := (Nat.le_add_left _ _).trans h.header
  have hlen : ipv6Skip m ≤ (htons (get16 m.data 18)).toNat := h.length
  by_cases hopt : m.data 20 = 60
  · have hplen := (htons (get16 m.data 18)).toNat_lt
    have hsub : (htons (get16 m.data 18) - UInt16.ofNat (ipv6Skip m)).toNat =
        (htons (get16 m.data 18)).toNat - ipv6Skip m := by
      have hnat : (UInt16.ofNat (ipv6Skip m)).toNat = ipv6Skip m :=
        UInt16.toNat_ofNat_of_lt' (by change _ < 2 ^ 16; omega)
      rw [UInt16.toNat_sub_of_le _ _ (UInt16.le_iff_toNat_le.mpr (by rw [hnat]; exact hlen)), hnat]
    rw [ipv6Trimmed_eq hto hopt hskip]
    simp only [tcpText, outerL4, if_true, getSrc, getDst, Nat.add_zero, Nat.sub_zero]
    simp (disch := omega) only [get32_moved, get16_moved_ge, get32_moved_ge, moved_ge, get16_moved]
    have hfield : get16 (put (put m.data 18 (le16 (htons (htons (get16 m.data 18) -
        UInt16.ofNat (ipv6Skip m))))) 20 [m.data 54]) 18 =
        htons (htons (get16 m.data 18) - UInt16.ofNat (ipv6Skip m)) := by
      rw [get16_put_ne (.inl (by decide)), get16_put]
    rw [hfield, htons_htons, hsub]
    simp (disch := simp only [length_le16, List.length_singleton]; omega) only
      [get16_put_ne, get32_put_ne, put_ne]
    simp only [Nat.add_right_comm]
  · have hzero : ipv6Skip m = 0 := by
      rw [ipv6Skip, if_neg hopt]
    rw [ipv6Trimmed, if_neg hopt, hzero]

/-- What the TCP handler gets has no options, and says the same. -/
lemma Received.trimmed {ipv6 : Bool} (h : Received ipv6 m) :
    Plain ipv6 (trimmedOf ipv6 m) ∧
      tcpText ipv6 0 (trimmedOf ipv6 m).data = tcpText ipv6 (skipOf ipv6 m) m.data := by
  have hheader := h.header
  cases ipv6 with
  | false =>
      have hto : Ipv4ToTcp m := h.given
      have hskip : ipv4Skip m ≤ m.dataLen := (Nat.le_add_left _ _).trans h.header
      have ht := ipv4Trimmed_trimmed hto hskip
      refine ⟨⟨?_, ht.version.trans h.version, ?_⟩, ipv4Trimmed_text h⟩
      · have hth := ht.tcp
        rw [mbufTcpHdr] at hth
        split_ifs at hth with htype
        · exact htype
        · exact absurd hth (by decide)
      · show 54 ≤ (ipv4Trimmed m).dataLen
        have hle : 54 + ipv4Skip m ≤ m.dataLen := h.header
        rw [ht.dataLen]
        omega
  | true =>
      have hto : Ipv6ToTcp m := h.given
      have hskip : ipv6Skip m ≤ m.dataLen := (Nat.le_add_left _ _).trans h.header
      have ht := ipv6Trimmed_trimmed hto hskip
      refine ⟨⟨?_, ht.version.trans h.version, ?_⟩, ipv6Trimmed_text h⟩
      · show get16 (ipv6Trimmed m).data 12 = htons 0x86DD
        by_cases hopt : m.data 20 = 60
        · rw [ipv6Trimmed_eq hto hopt hskip, get16_moved (by decide),
            get16_put_ne (.inl (by decide)), get16_put_ne (.inl (by decide)), hto.type]
        · rw [ipv6Trimmed, if_neg hopt, hto.type]
      · show 74 ≤ (ipv6Trimmed m).dataLen
        have hle : 74 + ipv6Skip m ≤ m.dataLen := h.header
        rw [ht.dataLen]
        omega

/-! ### The law -/

/-- A payload is shorter than the numbers wrap. -/
lemma tcpText_len_lt {ipv6 : Bool} : (tcpText ipv6 skip data).len < 65536 := by
  have h18 := (htons (get16 data 18)).toNat_lt
  have h16 := (htons (get16 data 16)).toNat_lt
  rw [tcpText]
  dsimp only
  cases ipv6 with
  | false =>
      rw [if_neg Bool.false_ne_true]
      omega
  | true =>
      rw [if_pos rfl]
      omega

/-- Without a payload the answer acknowledges all of the segment. -/
lemma TcpText.next_of_len {s : TcpText} (h : s.len = 0) : s.answer.ack = s.next := by
  rw [TcpText.next, h]
  exact congrArg (· + _ + _) (UInt32.add_zero s.seq).symm

/-- An answer that acknowledges all of the segment is one to a segment without a payload. -/
lemma TcpText.len_of_next (s : TcpText) (h : s.answer.ack = s.next) (hlt : s.len < 65536) :
    s.len = 0 := by
  have hsum : s.seq = s.seq + UInt32.ofNat s.len :=
    (UInt32.add_left_inj _).mp ((UInt32.add_left_inj _).mp h)
  have hzero : UInt32.ofNat s.len = 0 := UInt32.add_eq_left.mp hsum.symm
  calc s.len = (UInt32.ofNat s.len).toNat :=
        (UInt32.toNat_ofNat_of_lt' (by change _ < 2 ^ 32; omega)).symm
    _ = 0 := by rw [hzero, UInt32.toNat_zero]

/-- **Resets.** The answer to a segment without a socket has the addresses, the ports, the lengths
and the checksums of a reset; it is the reset that RFC 793 asks for exactly if the segment has an
acknowledgement of zero, or none and no payload. -/
theorem replyRst_answers_iff {rte : Rte} (hr : rte.Rfc1071) {w : WireSpace}
    (hv : w.ws.vxlan = false) {ipv6 : Bool} (h : Received ipv6 m) :
    (∃ out, replyRst rte w (trimmedOf ipv6 m) = some out ∧
      Answers ipv6 (tcpText ipv6 (skipOf ipv6 m) m.data) out) ↔
    if hasFlag (tcpText ipv6 (skipOf ipv6 m) m.data).flags thAck
    then (tcpText ipv6 (skipOf ipv6 m) m.data).ack = 0
    else (tcpText ipv6 (skipOf ipv6 m) m.data).len = 0 := by
  obtain ⟨hplain, htext⟩ := h.trimmed
  obtain ⟨out, hout, hlen, hfinal⟩ := hplain.replyRst hr hv
  have hanswer := hfinal.text
  rw [htext] at hanswer
  have hshort : (tcpText ipv6 (skipOf ipv6 m) m.data).len < 65536 := tcpText_len_lt
  generalize tcpText ipv6 (skipOf ipv6 m) m.data = s at hanswer hshort
  constructor
  · rintro ⟨out', hout', ha⟩
    obtain rfl : out = out' := Option.some.inj (hout.symm.trans hout')
    have haccepted := ha.accepted
    rw [hanswer] at haccepted
    split_ifs at haccepted ⊢ with hack
    · exact haccepted.symm
    · exact s.len_of_next haccepted.2 hshort
  · intro hwhen
    refine ⟨out, hout, ⟨hfinal.outgoing, hlen, hfinal.ip, hfinal.tcp, ?_, ?_, ?_, ?_, ?_⟩⟩ <;>
    rw [hanswer]
    · show hasFlag (thRst ||| thAck) thRst = true
      decide
    · rfl
    · exact ⟨rfl, rfl⟩
    · exact ⟨rfl, rfl⟩
    · split_ifs at hwhen ⊢ with hack
      · exact hwhen.symm
      · exact ⟨rfl, TcpText.next_of_len hwhen⟩

end Options

/-- A segment without options and payload, from port 1000 to port 80. -/
def segment (flags : UInt8) (ack : UInt32) : RteMbuf where
  id := 0
  data := fun i => (List.replicate 12 0 ++ le16 (htons 0x0800) ++ [0x45, 0] ++ le16 (htons 40) ++
    [0, 0, 0x40, 0, 64, 6, 0, 0, 10, 0, 0, 1, 10, 0, 0, 2] ++ le16 (htons 1000) ++
    le16 (htons 80) ++ le32 (htonl 1) ++ le32 (htonl ack) ++ [0x50, flags]).getD i 0
  dataLen := 54
  ipCksumBad := false
  l4CksumBad := false

lemma segment_received (flags : UInt8) (ack : UInt32) : Received false (segment flags ack) := by
  have hihl : (segment flags ack).data 14 = 0x45 := rfl
  have hskip : skipOf false (segment flags ack) = 0 := by
    show ((segment flags ack).data 14 &&& 0xF).toNat * 4 - 20 = 0
    rw [hihl]
    decide
  have hoff : get16 (segment flags ack).data 20 = 0x40 := rfl
  refine ⟨⟨rfl, rfl, ?_, ?_, rfl⟩, ?_, ?_, ?_⟩
  · rw [isFragmented, hoff]
    decide
  · rw [hihl]
    decide
  · rw [RteMbuf.version, hihl]
    decide
  · rw [hskip]
    exact le_rfl
  · rw [hskip]
    exact Nat.zero_le _

/-- A SYN is refused. -/
theorem replyRst_answers_syn : Received false (segment thSyn 0) ∧
    ∃ out, replyRst .rfc1071 (.single false false) (trimmedOf false (segment thSyn 0)) = some out ∧
      Answers false (tcpText false (skipOf false (segment thSyn 0)) (segment thSyn 0).data)
        out := by
  have hr := segment_received thSyn 0
  refine ⟨hr, (replyRst_answers_iff Rte.rfc1071_rfc1071 rfl hr).mpr ?_⟩
  have hflags : (tcpText false (skipOf false (segment thSyn 0)) (segment thSyn 0).data).flags =
      thSyn := rfl
  rw [hflags, if_neg (by decide)]
  rfl

/-- An acknowledgement of 2 is answered with the sequence number 0. -/
theorem replyRst_ack_fails : Received false (segment thAck 2) ∧
    ¬ ∃ out, replyRst .rfc1071 (.single false false) (trimmedOf false (segment thAck 2)) =
      some out ∧
      Answers false (tcpText false (skipOf false (segment thAck 2)) (segment thAck 2).data)
        out := by
  have hr := segment_received thAck 2
  refine ⟨hr, ?_⟩
  rintro ⟨out, hout, ha⟩
  obtain ⟨hplain, -⟩ := hr.trimmed
  obtain ⟨out', hout', -, hfinal⟩ :=
    hplain.replyRst (w := .single false false) Rte.rfc1071_rfc1071 rfl
  obtain rfl : out' = out := Option.some.inj (hout'.symm.trans hout)
  have haccepted := ha.accepted
  have hflags : (tcpText false (skipOf false (segment thAck 2)) (segment thAck 2).data).flags =
      thAck := rfl
  rw [hfinal.text, hflags, if_pos (by decide)] at haccepted
  have hseq : (0 : UInt32) = 2 := haccepted
  exact absurd hseq (by decide)

end Dperf.Wire
