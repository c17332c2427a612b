import Dperf.Packets
import Dperf.System

/-!
Packets built on recycled mbufs. `mbuf_cache_alloc` skips the copy of the template when the user
data of the mbuf is the cache, so that a packet is built over an earlier one.

* `headers`: all writes of a packet but those of `change_dip`. They put the same bytes on every
  memory (`headers_writes`), so that nothing of an earlier packet shows through.
* `newPacket_same`, `newPacket_kept`: what a packet writes whatever the mbuf held, and what it
  leaves. What `change_dip` reads of the mbuf shows in one field (`check_newPacket`,
  `sum_newPacket`).
* `Stained h m`: what `m` is after the packets of `h`: the template outside of the written
  fields, and the fields that only `change_dip` touches.
-/

namespace Dperf.Wire

open Memory OnesComplement

/-! ### What is overwritten -/

section Writes

variable (w : WireSpace) (b : Build)

/-- The fields of `putVxlan`. -/
def vxlanFields : Set ℕ :=
  if w.ws.vxlan then (if w.ipv6 then block 34 2 else block 34 2 ∪ block 74 2) else ∅

/-- The fields of `putIp`. -/
def ipFields (iph : ℕ) : Set ℕ :=
  if w.ipv6 then block (iph + 20) 4 ∪ block (iph + 36) 4
  else block (iph + 4) 2 ∪ block (iph + 12) 4 ∪ block (iph + 16) 4

/-- The fields of `putTcp`. -/
def tcpFields (th : ℕ) : Set ℕ :=
  block th 2 ∪ block (th + 2) 2 ∪ block (th + 13) 1 ∪ block (th + 4) 4 ∪ block (th + 8) 4
    ∪ block (th + 16) 2

/-- The fields of `putUdp`. -/
def udpFields (uh : ℕ) : Set ℕ := block uh 2 ∪ block (uh + 2) 2 ∪ block (uh + 6) 2

lemma le_of_mem_tcpFields {th i : ℕ} (h : i ∈ tcpFields th) : th ≤ i := by
  simp only [tcpFields, Set.mem_union, Set.mem_Ico] at h
  omega

lemma le_of_mem_udpFields {uh i : ℕ} (h : i ∈ udpFields uh) : uh ≤ i := by
  simp only [udpFields, Set.mem_union, Set.mem_Ico] at h
  omega

lemma putVxlan_writes (csumIp : UInt16) : Writes (putVxlan w b csumIp) (vxlanFields w) := by
  unfold putVxlan vxlanFields
  split_ifs
  · exact Writes.put ..
  · exact (Writes.put ..).comp (Writes.put ..)
  · exact Writes.id

lemma putIp_writes (iph : ℕ) : Writes (putIp w b iph) (ipFields w iph) := by
  unfold putIp ipFields
  split_ifs
  · exact (Writes.put ..).comp (Writes.put ..)
  · exact (Writes.put ..).comp ((Writes.put ..).comp (Writes.put ..))

lemma putTcp_writes (th : ℕ) : Writes (putTcp w b th) (tcpFields th) :=
  (Writes.put ..).comp ((Writes.put ..).comp ((Writes.put ..).comp ((Writes.put ..).comp
    ((Writes.put ..).comp (Writes.put ..)))))

lemma putUdp_writes (uh : ℕ) : Writes (putUdp b uh) (udpFields uh) :=
  (Writes.put ..).comp ((Writes.put ..).comp (Writes.put ..))

end Writes

/-! ### Packets of either protocol -/

/-- The place of the checksum in the TCP or UDP header of a cache. -/
def Cache.sumOff : Cache → ℕ
  | .udp => 6
  | _ => 16

/-- The packet built on an mbuf of a cache. -/
def newPacket (c : Cache) (w : WireSpace) (b : Build) (m : Mem) : Mem :=
  if c = .udp then udpNewPacket w b m else tcpNewPacket w b m

/-- The checksum that the packet gets before `change_dip`. -/
def sum (c : Cache) (w : WireSpace) (b : Build) : UInt16 :=
  if c = .udp then b.csums.udp else tcpSum w b

/-- All writes of a packet but those of `change_dip`. -/
def headers (c : Cache) (w : WireSpace) (b : Build) (th : ℕ) (m : Mem) : Mem :=
  if c = .udp then putUdp b th (putIp w b (l3Off w) (putVxlan w b b.csums.ip m))
  else putTcp w b th (putIp w b (l3Off w) (putVxlan w b b.csumIp m))

/-- The fields of `headers`. -/
def headerFields (c : Cache) (w : WireSpace) (th : ℕ) : Set ℕ :=
  vxlanFields w ∪ ipFields w (l3Off w) ∪ (if c = .udp then udpFields th else tcpFields th)

section Headers

variable {c : Cache} {w : WireSpace} {b : Build} {th : ℕ}

lemma headers_writes (c : Cache) (w : WireSpace) (b : Build) (th : ℕ) :
    Writes (headers c w b th) (headerFields c w th) := by
  unfold headers headerFields
  split_ifs
  · exact (putUdp_writes b th).comp ((putIp_writes w b _).comp (putVxlan_writes w b _))
  · exact (putTcp_writes w b th).comp ((putIp_writes w b _).comp (putVxlan_writes w b _))

lemma newPacket_eq (c : Cache) (w : WireSpace) (b : Build) (m : Mem) : newPacket c w b m =
    if w.changeDip then
      changeDip w b.dip (l3Off w) (l4Off w m + c.sumOff) (headers c w b (l4Off w m) m)
    else headers c w b (l4Off w m) m := by
  unfold newPacket headers udpNewPacket tcpNewPacket
  cases c <;> rfl

end Headers

/-! ### Templates -/

/-- The place of the TCP or UDP header. -/
def l4 (w : WireSpace) : ℕ := l3Off w + if w.ipv6 then 40 else 20

/-- The bytes of a template as a memory. -/
def image (bytes : List UInt8) : Mem := fun i => bytes.getD i 0

lemma length_tcphdr (off : UInt8) : (tcphdr off).length = 20 := rfl

lemma length_udphdr (source dest len : UInt16) : (udphdr source dest len).length = 8 := rfl

lemma length_ipHeader (w : WireSpace) (protocol : UInt8) (len : UInt16) :
    (ipHeader w protocol len).length = if w.ipv6 then 40 else 20 := by
  rw [ipHeader]
  split_ifs <;> rfl

/-- A TCP template: `rest` are the options and the payload. -/
lemma mbufCacheInitTcp_some {rte : Rte} {w : WireSpace} {mss : UInt16} {data bytes : List UInt8}
    (h : mbufCacheInitTcp rte w mss data = some bytes) : ∃ off rest,
      mbufCacheInit rte w (ipHeader w 6 (UInt16.ofNat (20 + rest.length))
        ++ (tcphdr off ++ rest)) = some bytes := by
  rw [mbufCacheInitTcp, List.append_assoc, List.append_assoc, Nat.add_assoc,
    ← List.length_append] at h
  exact ⟨_, _, h⟩

lemma template_tcp {rte : Rte} {w : WireSpace} {udpData bytes : List UInt8} {c : Cache}
    (hc : c ≠ .udp) (h : template rte w udpData c = some bytes) : ∃ off rest,
      mbufCacheInit rte w (ipHeader w 6 (UInt16.ofNat (20 + rest.length))
        ++ (tcphdr off ++ rest)) = some bytes := by
  cases c with
  | tcp => exact mbufCacheInitTcp_some h
  | tcpOpt => exact mbufCacheInitTcp_some h
  | tcpData => exact mbufCacheInitTcp_some h
  | udp => exact absurd rfl hc

/-- The protocol in the IP header of a cache: `IPPROTO_UDP` or `IPPROTO_TCP`. -/
def Cache.protocol : Cache → UInt8
  | .udp => 17
  | _ => 6

/-- A template has an IP header, and after it a TCP or UDP header. -/
lemma template_some {rte : Rte} {w : WireSpace} {udpData bytes : List UInt8} {c : Cache}
    (h : template rte w udpData c = some bytes) : ∃ rest,
      (if c = .udp then 8 else 20) ≤ rest.length ∧
      mbufCacheInit rte w (ipHeader w c.protocol (UInt16.ofNat rest.length) ++ rest) =
        some bytes := by
  by_cases hc : c = .udp
  · subst hc
    rw [template, mbufCacheInitUdp, List.append_assoc] at h
    refine ⟨udphdr 0 0 (UInt16.ofNat (8 + udpData.length)) ++ udpData, ?_, ?_⟩
    · rw [List.length_append, length_udphdr, if_pos rfl]
      exact Nat.le_add_right 8 _
    · rw [List.length_append, length_udphdr]
      exact h
  · obtain ⟨off, rest, h⟩ := template_tcp hc h
    have hproto : c.protocol = 6 := by
      cases c with
      | udp => exact absurd rfl hc
      | _ => rfl
    refine ⟨tcphdr off ++ rest, ?_, ?_⟩
    · rw [if_neg hc, List.length_append, length_tcphdr]
      exact Nat.le_add_right 20 _
    · rw [hproto, List.length_append, length_tcphdr]
      exact h

/-- What a template holds in the fields that the packets read or keep. -/
structure Holds (c : Cache) (w : WireSpace) (bytes : List UInt8) : Prop where
  length : l4 w + (if c = .udp then 8 else 20) ≤ bytes.length
  type : w.ws.vxlan = false → get16 (image bytes) 12 = htons (etherType w)
  check : w.ws.vxlan = false → w.ipv6 = false → get16 (image bytes) 24 = 0
  dst : w.ws.vxlan = false → w.ipv6 = true → getDst (image bytes) 14 = w.dip

/-- A 32-bit field from its bytes, for fields of a list that is known up to there. -/
lemma get32_of_bytes {m : Mem} {off : ℕ} {v : UInt32}
    (h : ∀ i < 4, m (off + i) = (le32 v).getD i 0) : get32 m off = v :=
  get32_of_words (get16_of_bytes (h 0 (by decide)) (h 1 (by decide)))
    (get16_of_bytes (h 2 (by decide)) (h 3 (by decide)))

/-- The addresses of an IPv6 header behind an Ethernet header. -/
lemma ip6Hdr_addrs (dAddr sAddr : EthAddr) (type : UInt16) (tos : UInt8) (plen : UInt16)
    (nxt : UInt8) (src dst : In6Addr) (rest : List UInt8) :
    let m := image (ethHdr dAddr sAddr type ++ (ip6Hdr tos plen nxt src dst ++ rest))
    getSrc m 14 = src ∧ getDst m 14 = dst := by
  obtain ⟨s0, s1, s2, s3⟩ := src
  obtain ⟨d0, d1, d2, d3⟩ := dst
  dsimp only
  rw [getSrc, getDst, In6Addr.mk.injEq, In6Addr.mk.injEq]
  refine ⟨⟨?_, ?_, ?_, ?_⟩, ?_, ?_, ?_, ?_⟩
  all_goals exact get32_of_bytes fun i hi => by interval_cases i <;> rfl

/-- The source address of an IPv6 template. -/
lemma template_src {rte : Rte} {w : WireSpace} {udpData bytes : List UInt8} {c : Cache}
    (h : template rte w udpData c = some bytes) (hv : w.ws.vxlan = false) (h6 : w.ipv6 = true) :
    getSrc (image bytes) 14 = w.sip := by
  obtain ⟨rest, -, h⟩ := template_some h
  have hv' : ¬ w.ws.vxlan = true := Bool.eq_false_iff.mp hv
  rw [mbufCacheInit, if_neg hv'] at h
  split_ifs at h
  obtain rfl := Option.some.inj h
  rw [ipHeader, if_pos h6]
  exact (ip6Hdr_addrs ..).1

lemma template_holds {rte : Rte} {w : WireSpace} {udpData bytes : List UInt8} {c : Cache}
    (h : template rte w udpData c = some bytes) : Holds c w bytes := by
  obtain ⟨rest, hrest, h⟩ := template_some h
  generalize c.protocol = protocol at h
  generalize UInt16.ofNat rest.length = len at h
  rw [mbufCacheInit] at h
  split_ifs at h with hv hlen hlen
  · obtain rfl := Option.some.inj h
    have hl3 : l3Off w = 64 := if_pos hv
    have hout : (vxlanHeaders rte w (14 + (ipHeader w protocol len ++ rest).length)).length = 50 :=
      rfl
    have hin : (ethHdr w.vxlan.innerDmac w.vxlan.innerSmac (etherType w)).length = 14 := rfl
    refine ⟨?_, ?_, ?_, ?_⟩
    · rw [l4, hl3, List.length_append, List.length_append, hout, hin, List.length_append,
        length_ipHeader]
      omega
    all_goals
      intro hv'
      rw [hv] at hv'
      cases hv'
  · obtain rfl := Option.some.inj h
    have heth : (ethHdr w.gatewayMac w.localMac (etherType w)).length = 14 := rfl
    have hl3 : l3Off w = 14 := if_neg hv
    constructor
    · rw [l4, hl3, List.length_append, heth, List.length_append, length_ipHeader]
      omega
    · intro _
      exact get16_of_bytes rfl rfl
    · intro _ h6
      rw [ipHeader, if_neg (by rw [h6]; exact Bool.false_ne_true)]
      exact get16_of_bytes rfl rfl
    · intro _ h6
      rw [ipHeader, if_pos h6]
      exact (ip6Hdr_addrs ..).2

/-! ### What earlier packets leave -/

/-- The fields that only `change_dip` touches: the IP checksum, or the upper part of the address. -/
def dipFields (w : WireSpace) : Set ℕ :=
  if w.changeDip then (if w.ipv6 then block 38 12 else block 24 2) else ∅

/-- The complements of the two addresses of the update of `tcp_change_dip` or `udp_change_dip`. -/
def Build.complements (b : Build) : ℕ := complement (htonl b.sk.faddr) + complement b.dip.w3

/-- The upper 96 bits of the address that `change_dip` has put last; else the template's. -/
def lastDip (w : WireSpace) (h : List Build) : In6Addr := (h.getLast?.map Build.dip).getD w.dip

/-- What an mbuf holds after the packets of `h`, the last one last. -/
structure Stained (c : Cache) (w : WireSpace) (bytes : List UInt8) (h : List Build) (m : Mem) :
    Prop where
  kept : Set.EqOn m (image bytes)
    (block 0 bytes.length \ (headerFields c w (l4 w) ∪ dipFields w))
  check : w.changeDip = true → w.ipv6 = false →
    (get16 m 24).toNat = onesSum (h.map Build.complements).sum
  dst : w.changeDip = true → w.ipv6 = true →
    get32 m 38 = (lastDip w h).w0 ∧ get32 m 42 = (lastDip w h).w1 ∧ get32 m 46 = (lastDip w h).w2

section Stained

variable {c : Cache} {w : WireSpace} {bytes : List UInt8} {h : List Build} {m : Mem}

lemma changeDip_l3 (hd : w.changeDip = true) : l3Off w = 14 := by
  rw [l3Off, w.change_dip_vxlan hd]
  rfl

/-- Nothing before the IP header is written. -/
lemma le_of_mem_fields {i : ℕ} (hi : i ∈ headerFields c w (l4 w) ∪ dipFields w) : 18 ≤ i := by
  unfold headerFields dipFields vxlanFields ipFields tcpFields udpFields l4 l3Off at hi
  split_ifs at hi <;> simp only [Set.mem_union, Set.mem_Ico, Set.mem_empty_iff_false, or_false,
    false_or] at hi <;> omega

lemma Holds.lt_length (hT : Holds c w bytes) : 34 ≤ bytes.length := by
  have hlen := hT.length
  rw [l4, l3Off] at hlen
  split_ifs at hlen <;> omega

/-- The type field of the template says where the TCP or UDP header is. -/
lemma Holds.l4Off_eq (hT : Holds c w bytes) (hm : Set.EqOn m (image bytes) (block 12 2)) :
    l4Off w m = l4 w := by
  by_cases hv : w.ws.vxlan = true
  · rw [l4Off, l4, l3Off, if_pos hv, if_pos hv]
    split_ifs <;> rfl
  · have htype : get16 m 12 = htons (etherType w) := by
      rw [get16_congr hm, hT.type (Bool.eq_false_iff.mpr hv)]
    rw [l4Off, if_neg hv, l4, l3Off, if_neg hv, mbufTcpHdr, htype, etherType]
    split_ifs with h6 heq heq
    · exact absurd heq (by decide)
    · rfl
    · rfl
    · exact absurd rfl heq

lemma Stained.l4Off_eq (hT : Holds c w bytes) (hs : Stained c w bytes h m) : l4Off w m = l4 w := by
  have hlen := hT.lt_length
  refine hT.l4Off_eq fun i hi => hs.kept ⟨⟨Nat.zero_le i, ?_⟩, fun hmem => ?_⟩
  · have hlt := hi.2
    omega
  · have hlt := hi.2
    have hle := le_of_mem_fields hmem
    omega

lemma block_disjoint {a k b n : ℕ} (h : a + k ≤ b ∨ b + n ≤ a) : Disjoint (block a k) (block b n) :=
  Set.disjoint_left.mpr fun i hi hi' => by
    obtain ⟨h1, h2⟩ := hi
    obtain ⟨h3, h4⟩ := hi'
    omega

/-- The checksum of the TCP or UDP header is the last that is written. -/
lemma headers_sum (c : Cache) (w : WireSpace) (b : Build) (th : ℕ) (m : Mem) :
    get16 (headers c w b th m) (th + c.sumOff) = sum c w b := by
  cases c <;> exact get16_put _

/-- Before the TCP or UDP header a packet has the IP header. -/
lemma headers_before (c : Cache) (w : WireSpace) (b : Build) (m : Mem) (off : ℕ)
    (hoff : off + 4 ≤ l4 w) : ∃ m', get32 (headers c w b (l4 w) m) off =
      get32 (putIp w b (l3Off w) m') off := by
  have hbefore : ∀ {s : Set ℕ}, (∀ i ∈ s, l4 w ≤ i) → block off 4 ⊆ sᶜ := by
    intro s hs i hi hmem
    have hle := hs i hmem
    have hlt := hi.2
    omega
  rw [headers]
  by_cases hc : c = .udp
  · rw [if_pos hc]
    exact ⟨_, get32_congr (((putUdp_writes b (l4 w)).kept _).mono
      (hbefore fun _ => le_of_mem_udpFields))⟩
  · rw [if_neg hc]
    exact ⟨_, get32_congr (((putTcp_writes w b (l4 w)).kept _).mono
      (hbefore fun _ => le_of_mem_tcpFields))⟩

/-- The address that `change_dip` replaces. -/
lemma headers_faddr (c : Cache) (w : WireSpace) (b : Build) (m : Mem) :
    get32 (headers c w b (l4 w) m) (l3Off w + if w.ipv6 then 36 else 16) = htonl b.sk.faddr := by
  obtain ⟨m', hm'⟩ := headers_before c w b m (l3Off w + if w.ipv6 then 36 else 16)
    (by rw [l4]; split_ifs <;> omega)
  rw [hm', putIp]
  split_ifs <;> exact get32_put _

/-- The address that it keeps. -/
lemma headers_laddr (c : Cache) (w : WireSpace) (b : Build) (m : Mem) :
    get32 (headers c w b (l4 w) m) (l3Off w + if w.ipv6 then 20 else 12) = htonl b.sk.laddr := by
  obtain ⟨m', hm'⟩ := headers_before c w b m (l3Off w + if w.ipv6 then 20 else 12)
    (by rw [l4]; split_ifs <;> omega)
  rw [hm', putIp]
  split_ifs <;> rw [get32_put_ne (.inl (by omega)), get32_put]

/-- A freshly copied template. -/
lemma copy_eqOn (m : Mem) (bytes : List UInt8) :
    Set.EqOn (put m 0 bytes) (image bytes) (block 0 bytes.length) := by
  intro i hi
  have hlt : i < bytes.length := by
    have h := hi.2
    omega
  have hput : put m 0 bytes (0 + i) = bytes[i] := put_of_mem hlt
  rw [Nat.zero_add] at hput
  rw [hput, image, List.getD_eq_getElem?_getD, List.getElem?_eq_getElem hlt, Option.getD_some]

/-- Where `change_dip` is on, there is room for the fields that it touches. -/
lemma Holds.room (hT : Holds c w bytes) (hd : w.changeDip = true) :
    l4 w + c.sumOff + 2 ≤ bytes.length ∧ l4 w = (if w.ipv6 then 54 else 34) := by
  have hlen := hT.length
  refine ⟨?_, ?_⟩
  · refine le_trans ?_ hlen
    rw [Nat.add_assoc]
    refine Nat.add_le_add_left ?_ _
    cases c <;> decide
  · rw [l4, changeDip_l3 hd]
    split_ifs <;> rfl

lemma copy_stained (hT : Holds c w bytes) (m : Mem) : Stained c w bytes [] (put m 0 bytes) := by
  have hcopy := copy_eqOn m bytes
  refine ⟨hcopy.mono Set.sdiff_subset, fun hd h4 => ?_, fun hd h6 => ?_⟩
  · have hlen := hT.lt_length
    have hzero : get16 (put m 0 bytes) 24 = 0 := by
      rw [get16_congr (hcopy.mono (Set.Ico_subset_Ico (Nat.zero_le _) (by omega))),
        hT.check (w.change_dip_vxlan hd) h4]
    rw [hzero]
    rfl
  · obtain ⟨hlen, hl4⟩ := hT.room hd
    rw [hl4, if_pos h6] at hlen
    have hdst := hT.dst (w.change_dip_vxlan hd) h6
    have hget : ∀ off, off + 4 ≤ 54 → get32 (put m 0 bytes) off = get32 (image bytes) off :=
      fun off hoff => get32_congr
        (hcopy.mono (Set.Ico_subset_Ico (Nat.zero_le _) (by omega)))
    rw [hget 38 (by decide), hget 42 (by decide), hget 46 (by decide)]
    exact ⟨congrArg In6Addr.w0 hdst, congrArg In6Addr.w1 hdst, congrArg In6Addr.w2 hdst⟩

end Stained

/-! ### `change_dip` -/

section ChangeDip

variable {c : Cache} {w : WireSpace} {bytes : List UInt8} {h : List Build} {b : Build} {m : Mem}

/-- `tcp_change_dip` of an IPv4 packet. -/
lemma changeDip_v4 (h4 : w.ipv6 = false) (dip : In6Addr) (off : ℕ) (m : Mem) (hoff : 34 ≤ off) :
    changeDip w dip 14 off m =
      put (put (put m 30 (le32 dip.w3)) 24
        (le16 (csumUpdateU32 (get16 m 24) (get32 m 30) dip.w3))) off
        (le16 (csumUpdateU32 (get16 m off) (get32 m 30) dip.w3)) := by
  have hcheck : get16 (put m 30 (le32 dip.w3)) 24 = get16 m 24 :=
    get16_congr (put_eqOn_left (block_disjoint (.inl (by decide))))
  have hsum : get16 (put (put m 30 (le32 dip.w3)) 24
      (le16 (csumUpdateU32 (get16 m 24) (get32 m 30) dip.w3))) off = get16 m off := by
    rw [get16_congr (put_eqOn_left (block_disjoint (by simp; omega))),
      get16_congr (put_eqOn_left (block_disjoint (by simp; omega)))]
  rw [changeDip, if_neg (by rw [h4]; exact Bool.false_ne_true)]
  dsimp only
  rw [hcheck, hsum]

/-- `tcp_change_dip` of an IPv6 packet. -/
lemma changeDip_v6 (h6 : w.ipv6 = true) (dip : In6Addr) (off : ℕ) (m : Mem) (hoff : 54 ≤ off) :
    changeDip w dip 14 off m =
      put (put m 38 dip.bytes) off (le16 (csumUpdateU128 (get16 m off) (getDst m 14) dip)) := by
  have hsum : get16 (put m 38 dip.bytes) off = get16 m off :=
    get16_congr (put_eqOn_left (block_disjoint (.inr (by simp [In6Addr.bytes]; omega))))
  rw [changeDip, if_pos h6]
  dsimp only
  rw [hsum]

/-- The fields of `headers` that `change_dip` writes once more. -/
lemma block_subset_headerFields (hd : w.changeDip = true) :
    block (l4 w + c.sumOff) 2 ⊆ headerFields c w (l4 w) ∧
    block (14 + if w.ipv6 then 36 else 16) 4 ⊆ headerFields c w (l4 w) := by
  refine ⟨fun i hi => .inr ?_, fun i hi => .inl (.inr ?_)⟩
  · cases c
    case udp => exact .inr hi
    all_goals exact .inr hi
  · rw [changeDip_l3 hd]
    unfold ipFields
    split_ifs at hi ⊢
    · exact .inr hi
    · exact .inr hi

/-- What only `change_dip` touches is not in `headers`. -/
lemma dipFields_subset (hd : w.changeDip = true) : dipFields w ⊆ (headerFields c w (l4 w))ᶜ := by
  intro i hi hmem
  have hv := w.change_dip_vxlan hd
  unfold dipFields at hi
  unfold headerFields vxlanFields ipFields tcpFields udpFields l4 l3Off at hmem
  rw [hv] at hmem
  split_ifs at hi hmem <;> simp only [Set.mem_union, Set.mem_Ico, Set.mem_empty_iff_false,
    false_or] at hi hmem <;> omega

lemma changeDip_l4 (hd : w.changeDip = true) : l4 w = if w.ipv6 then 54 else 34 := by
  rw [l4, changeDip_l3 hd]
  split_ifs <;> rfl

section Over

variable (hl : l4Off w m = l4 w)

include hl

/-- With `change_dip`, it is the last that is written. -/
lemma newPacket_changeDip (hd : w.changeDip = true) : newPacket c w b m =
    changeDip w b.dip 14 (l4 w + c.sumOff) (headers c w b (l4 w) m) := by
  rw [newPacket_eq, if_pos hd, hl, changeDip_l3 hd]

/-- The IP checksum of an IPv4 packet is updated from what the mbuf holds. -/
lemma check_newPacket (hd : w.changeDip = true) (h4 : w.ipv6 = false) :
    get16 (newPacket c w b m) 24
      = csumUpdateU32 (get16 m 24) (htonl b.sk.faddr) b.dip.w3 := by
  have hl4 : l4 w = 34 := by
    rw [changeDip_l4 hd, h4]
    rfl
  have hfaddr := headers_faddr c w b m
  rw [changeDip_l3 hd, h4, hl4] at hfaddr
  have hcheck : get16 (headers c w b 34 m) 24 = get16 m 24 := by
    refine get16_congr (((headers_writes c w b 34).kept m).mono ?_)
    have hsub := dipFields_subset (c := c) hd
    rw [dipFields, if_pos hd, h4, hl4] at hsub
    exact hsub
  rw [newPacket_changeDip hl hd, hl4, changeDip_v4 h4 _ _ _ (Nat.le_add_right _ _),
    get16_congr (put_eqOn_left (block_disjoint (.inl (by omega)))), get16_put, hcheck]
  congr 1

/-- The checksum of an IPv6 packet is updated from the address that the mbuf holds. -/
lemma sum_newPacket (hd : w.changeDip = true) (h6 : w.ipv6 = true) :
    get16 (newPacket c w b m) (54 + c.sumOff)
      = csumUpdateU128 (sum c w b) { getDst m 14 with w3 := htonl b.sk.faddr } b.dip := by
  have hl4 : l4 w = 54 := by
    rw [changeDip_l4 hd, h6]
    rfl
  have hfaddr := headers_faddr c w b m
  rw [changeDip_l3 hd, h6, hl4] at hfaddr
  have hsub := dipFields_subset (c := c) hd
  rw [dipFields, if_pos hd, if_pos h6, hl4] at hsub
  have hkept : ∀ off, 38 ≤ off → off + 4 ≤ 50 →
      get32 (headers c w b 54 m) off = get32 m off := fun off h1 h2 =>
    get32_congr (((headers_writes c w b 54).kept m).mono
      ((Set.Ico_subset_Ico h1 (by omega)).trans hsub))
  have hdst : getDst (headers c w b 54 m) 14 = { getDst m 14 with w3 := htonl b.sk.faddr } := by
    rw [getDst, hkept 38 (by decide) (by decide), hkept 42 (by decide) (by decide),
      hkept 46 (by decide) (by decide), getDst]
    congr 1
  rw [newPacket_changeDip hl hd, hl4, changeDip_v6 h6 _ _ _ (Nat.le_add_right _ _), get16_put,
    headers_sum, hdst]

/-- A packet leaves everything but the fields of `headers` and `change_dip`. -/
lemma newPacket_kept {i : ℕ} (hi : i ∉ headerFields c w (l4 w) ∪ dipFields w) :
    newPacket c w b m i = m i := by
  have hhead : i ∉ headerFields c w (l4 w) := fun hmem => hi (.inl hmem)
  have hdip : i ∉ dipFields w := fun hmem => hi (.inr hmem)
  have hkept : headers c w b (l4 w) m i = m i := (headers_writes c w b (l4 w)).kept m hhead
  by_cases hd : w.changeDip = true
  · obtain ⟨hsum, hdst⟩ := block_subset_headerFields (c := c) hd
    have hroom := changeDip_l4 hd
    have hnsum : i ∉ block (l4 w + c.sumOff) 2 := fun hmem => hhead (hsum hmem)
    have hndst := fun hmem => hhead (hdst (a := i) hmem)
    rw [newPacket_changeDip hl hd]
    rw [dipFields, if_pos hd] at hdip
    by_cases h6 : w.ipv6 = true
    · rw [if_pos h6] at hdip hndst hroom
      have hn : i ∉ block 38 b.dip.bytes.length := by
        rintro ⟨h1, h2⟩
        have hlen : b.dip.bytes.length = 16 := rfl
        by_cases hlt : i < 50
        · exact hdip ⟨h1, hlt⟩
        · exact hndst ⟨by omega, by omega⟩
      rw [changeDip_v6 h6 _ _ _ (by omega), put_of_notMem hnsum, put_of_notMem hn, hkept]
    · rw [if_neg h6] at hdip hndst hroom
      rw [changeDip_v4 (Bool.eq_false_iff.mpr h6) _ _ _ (by omega), put_of_notMem hnsum,
        put_of_notMem hdip, put_of_notMem hndst, hkept]
  · rw [newPacket_eq, if_neg hd, hl, hkept]

end Over

/-- The field in which packets over different mbufs may differ with `change_dip`: the IP checksum
of an IPv4 packet, the TCP or UDP checksum of an IPv6 packet. -/
def staleField (c : Cache) (w : WireSpace) : ℕ := if w.ipv6 then 54 + c.sumOff else 24

/-- What a packet writes is the same on every mbuf, but for that field. -/
lemma newPacket_same {m' : Mem} (hl : l4Off w m = l4 w) (hl' : l4Off w m' = l4 w) :
    Set.EqOn (newPacket c w b m) (newPacket c w b m') ((headerFields c w (l4 w) ∪ dipFields w) \
      if w.changeDip then block (staleField c w) 2 else ∅) := by
  have hagree := (headers_writes c w b (l4 w)).same m m'
  by_cases hd : w.changeDip = true
  · have hfaddr := headers_faddr c w b m
    have hfaddr' := headers_faddr c w b m'
    rw [changeDip_l3 hd] at hfaddr hfaddr'
    have hroom := changeDip_l4 hd
    rw [newPacket_changeDip hl hd, newPacket_changeDip hl' hd, if_pos hd, dipFields, if_pos hd,
      staleField]
    by_cases h6 : w.ipv6 = true
    · rw [if_pos h6] at hroom
      rw [hroom] at hagree ⊢
      rw [if_pos h6, if_pos h6, changeDip_v6 h6 _ _ _ (Nat.le_add_right _ _),
        changeDip_v6 h6 _ _ _ (Nat.le_add_right _ _)]
      have hdip : Set.EqOn (put (headers c w b 54 m) 38 b.dip.bytes)
          (put (headers c w b 54 m') 38 b.dip.bytes) _ := put_eqOn hagree
      refine (put_eqOn_diff (by rw [length_le16, length_le16]) hdip).mono ?_
      rw [length_le16]
      rintro i ⟨hi, hn⟩
      refine ⟨hi.imp_right fun hmem => ⟨hmem.1, ?_⟩, hn⟩
      have hlt := hmem.2
      have hlen : b.dip.bytes.length = 16 := rfl
      omega
    · rw [if_neg h6] at hroom hfaddr hfaddr'
      rw [hroom] at hagree hfaddr hfaddr' ⊢
      rw [if_neg h6, if_neg h6, changeDip_v4 (Bool.eq_false_iff.mpr h6) _ _ _ (Nat.le_add_right _ _),
        changeDip_v4 (Bool.eq_false_iff.mpr h6) _ _ _ (Nat.le_add_right _ _), headers_sum,
        headers_sum, hfaddr, hfaddr']
      have hdst : Set.EqOn (put (headers c w b 34 m) 30 (le32 b.dip.w3))
          (put (headers c w b 34 m') 30 (le32 b.dip.w3)) _ := put_eqOn hagree
      refine (put_eqOn (put_eqOn_diff (by rw [length_le16, length_le16]) hdst)).mono ?_
      rw [length_le16]
      rintro i ⟨hi, hn⟩
      exact .inl ⟨.inl (hi.resolve_right hn), hn⟩
  · rw [newPacket_eq, newPacket_eq, if_neg hd, if_neg hd, hl, hl', if_neg hd, dipFields, if_neg hd,
      Set.union_empty, Set.sdiff_empty]
    exact hagree

section Stale

variable (hT : Holds c w bytes)

include hT

/-- The packet over a stained mbuf, `change_dip` being the last that is written. -/
lemma Stained.newPacket_eq (hd : w.changeDip = true) (hs : Stained c w bytes h m) :
    newPacket c w b m = changeDip w b.dip 14 (l4 w + c.sumOff) (headers c w b (l4 w) m) :=
  newPacket_changeDip (hs.l4Off_eq hT) hd

/-- The address that the mbuf holds is the last one. -/
lemma Stained.sum_newPacket (hd : w.changeDip = true) (h6 : w.ipv6 = true)
    (hs : Stained c w bytes h m) : get16 (newPacket c w b m) (54 + c.sumOff)
      = csumUpdateU128 (sum c w b) { lastDip w h with w3 := htonl b.sk.faddr } b.dip := by
  obtain ⟨h0, h1, h2⟩ := hs.dst hd h6
  rw [Wire.sum_newPacket (hs.l4Off_eq hT) hd h6, getDst, h0, h1, h2]

/-- Without `change_dip` nothing of the mbuf shows through. -/
lemma Stained.eqOn_newPacket {h' : List Build} {m' : Mem} (hd : w.changeDip = false)
    (hs : Stained c w bytes h m) (hs' : Stained c w bytes h' m') :
    Set.EqOn (newPacket c w b m) (newPacket c w b m') (block 0 bytes.length) := by
  have hsame : Set.EqOn (newPacket c w b m) (newPacket c w b m') _ :=
    newPacket_same (hs.l4Off_eq hT) (hs'.l4Off_eq hT)
  rw [if_neg (by rw [hd]; exact Bool.false_ne_true), Set.sdiff_empty] at hsame
  intro i hi
  by_cases hf : i ∈ headerFields c w (l4 w) ∪ dipFields w
  · exact hsame hf
  · rw [newPacket_kept (hs.l4Off_eq hT) hf, newPacket_kept (hs'.l4Off_eq hT) hf,
      hs.kept ⟨hi, hf⟩, hs'.kept ⟨hi, hf⟩]

end Stale

/-- One packet more. -/
lemma Stained.step (hT : Holds c w bytes) (hs : Stained c w bytes h m) (b : Build) :
    Stained c w bytes (h ++ [b]) (newPacket c w b m) := by
  refine ⟨fun i hi => ?_, fun hd h4 => ?_, fun hd h6 => ?_⟩
  · rw [newPacket_kept (hs.l4Off_eq hT) hi.2, hs.kept hi]
  · rw [check_newPacket (hs.l4Off_eq hT) hd h4, toNat_csumUpdateU32, hs.check hd h4, onesSum_add,
      List.map_append, List.sum_append, List.map_singleton, List.sum_singleton]
    rfl
  · have hl4 : l4 w = 54 := by
      rw [(hT.room hd).2, h6]
      rfl
    have hlast : lastDip w (h ++ [b]) = b.dip := by
      rw [lastDip, List.getLast?_append, List.getLast?_singleton]
      rfl
    have hget : ∀ off, off + 4 ≤ 54 → get32 (newPacket c w b m) off =
        get32 (put (headers c w b 54 m) 38 b.dip.bytes) off := by
      intro off hoff
      rw [hs.newPacket_eq hT hd, hl4, changeDip_v6 h6 _ _ _ (Nat.le_add_right _ _),
        get32_congr (put_eqOn_left (block_disjoint (.inl (by omega))))]
    rw [hlast, hget 38 (by decide), hget 42 (by decide), hget 46 (by decide)]
    refine ⟨get32_of_bytes fun i hi => ?_, get32_of_bytes fun i hi => ?_,
      get32_of_bytes fun i hi => ?_⟩ <;> interval_cases i <;> rfl

end ChangeDip

/-! ### Histories -/

/-- `mbuf_cache_alloc` and a packet. -/
def build (c : Cache) (w : WireSpace) (bytes : List UInt8) (m : PacketMbuf) (b : Build) :
    PacketMbuf :=
  let m := mbufCacheAlloc bytes m
  { m with data := newPacket c w b m.data }

/-- The mbufs of a cache after a history: which mbuf the pool found, and what was built on it. What
`csum_offload_ip_tcpudp` writes to a packet that is sent is left out. -/
def run (c : Cache) (w : WireSpace) (bytes : List UInt8) (pool : ℕ → PacketMbuf)
    (hist : List (ℕ × Build)) : ℕ → PacketMbuf :=
  hist.foldl (fun pool p => Function.update pool p.1 (build c w bytes (pool p.1) p.2)) pool

/-- The packets of a history that were built on the mbuf `i`. -/
def buildsOn (hist : List (ℕ × Build)) (i : ℕ) : List Build :=
  (hist.filter fun p => p.1 = i).map Prod.snd

section Histories

variable {c : Cache} {w : WireSpace} {bytes : List UInt8}

/-- An mbuf sees the packets that are built on it. -/
lemma run_apply (pool : ℕ → PacketMbuf) (hist : List (ℕ × Build)) (i : ℕ) :
    run c w bytes pool hist i = (buildsOn hist i).foldl (build c w bytes) (pool i) := by
  induction hist generalizing pool with
  | nil => rfl
  | cons p hist ih =>
      have hrun : run c w bytes pool (p :: hist) i =
          run c w bytes (Function.update pool p.1 (build c w bytes (pool p.1) p.2)) hist i := rfl
      rw [hrun, ih, buildsOn, buildsOn]
      by_cases hi : p.1 = i
      · subst hi
        rw [Function.update_self, List.filter_cons_of_pos (by simp), List.map_cons,
          List.foldl_cons]
      · rw [Function.update_of_ne (Ne.symm hi), List.filter_cons_of_neg (by simpa using hi)]

/-- Every mbuf of a cache gets its tag. -/
lemma mbufCacheAlloc_tagged (bytes : List UInt8) (m : PacketMbuf) :
    (mbufCacheAlloc bytes m).tagged = true := by
  rw [mbufCacheAlloc]
  split_ifs with ht
  · exact ht
  · rfl

/-- The packets on a new mbuf: the first copies the template, the others are built over it. -/
lemma foldl_build (hT : Holds c w bytes) (m : PacketMbuf) (hm : m.tagged = false)
    (h : List Build) :
    Stained c w bytes h (mbufCacheAlloc bytes (h.foldl (build c w bytes) m)).data := by
  induction h using List.reverseRecOn with
  | nil =>
      rw [List.foldl_nil, mbufCacheAlloc, hm]
      exact copy_stained hT m.data
  | append_singleton h b ih =>
      have hdata : (mbufCacheAlloc bytes ((h ++ [b]).foldl (build c w bytes) m)).data =
          newPacket c w b (mbufCacheAlloc bytes (h.foldl (build c w bytes) m)).data := by
        rw [List.foldl_concat, build, mbufCacheAlloc, if_pos (mbufCacheAlloc_tagged _ _)]
      rw [hdata]
      exact ih.step hT b

end Histories

/-- A client with small templates; `rte` is not asked without VXLAN. -/
def WireSpace.single (ipv6 changeDip : Bool) : WireSpace where
  ws := .single .single
  ipv6 := ipv6
  changeDip := changeDip
  tos := 0
  mss := 1460
  localMac := ⟨2, 0, 0, 0, 0, 1⟩
  gatewayMac := ⟨2, 0, 0, 0, 0, 2⟩
  vxlan := ⟨1, ⟨2, 0, 0, 0, 0, 3⟩, ⟨2, 0, 0, 0, 0, 4⟩, 0x0A000001, 0x0A000002⟩
  sip := ⟨htonl 0x20010DB8, 0, 0, htonl 1⟩
  dip := ⟨htonl 0x20010DB8, 0, 0, htonl 2⟩
  change_dip_vxlan := fun _ => rfl

/-- A SYN that gets a destination in another prefix. -/
def Build.single : Build where
  sk := { laddr := 1, faddr := 2, lport := 1000, fport := 80 }
  csums := ⟨0, 0, 0, 0, 0, 0, 0⟩
  tcpFlags := thSyn
  ipId := 0
  dip := ⟨htonl 0x20010DB9, 0, 0, htonl 2⟩

/-- What `rte_ip.h` provides, unused. -/
def Rte.zero : Rte := ⟨fun _ _ => 0, fun _ _ _ => 0, fun _ _ _ => 0⟩

end Dperf.Wire
