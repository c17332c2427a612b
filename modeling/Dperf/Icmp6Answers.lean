import Dperf.Gateway

/-!
What a dperf host answers to the ICMPv6 frames of any sender, with or without destination options.

* `Icmp6Reply`, `EchoReplyOf`, `AdvertOf`: what an answer is.
* `l3Handler_icmp6`: the frames that get to `icmp6_process`.
* `icmp6_answered`: what `icmp6_process` sends is such an answer, and no host answers to it.
-/

namespace Dperf.Wire

open Memory OnesComplement

/-! ### The answers of ICMPv6 -/

/-- `out` is the answer to `m`: it goes back to who has sent `m`, from an address of the port, and
its checksum is right. -/
structure Icmp6Reply (p : PortSpace) (m out : RteMbuf) : Prop where
  id : out.id = m.id
  dataLen : out.dataLen = m.dataLen
  dAddr : ethAt out.data 0 = ethAt m.data 6
  sAddr : ethAt out.data 6 = p.w.localMac
  etherType : get16 out.data 12 = htons 0x86DD
  nxt : out.data 20 = 58
  src : workSpaceIp6Exist p (in6At out 22) = true
  dst : in6At out 38 = in6At m 22
  verifies : Icmp6Verifies out.data

/-- The answer to an echo request, with the identifier, the number and the data of the request. -/
structure EchoReplyOf (m out : RteMbuf) : Prop where
  request : m.data 54 = icmp6EchoRequest
  type : out.data 54 = icmp6EchoReply
  code : out.data 55 = 0
  src : in6At out 22 = in6At m 38
  rest : ∀ i, 58 ≤ i → out.data i = m.data i

/-- The answer to a solicitation, with the address that is asked for and that of the port. -/
structure AdvertOf (p : PortSpace) (m out : RteMbuf) : Prop where
  solicit : m.data 54 = ndNeighborSolicit
  hops : out.data 21 = 255
  type : out.data 54 = ndNeighborAdvert
  code : out.data 55 = 0
  src : in6At out 22 = in6At m 62
  target : in6At out 62 = in6At m 62
  mac : ethAt out.data 80 = p.w.localMac

section Answers

variable {rte : Rte} {p : PortSpace} {m : RteMbuf} {a : In6Addr}

lemma in6At_congr {m' : RteMbuf} {off : ℕ} (h : Set.EqOn m.data m'.data (block off 16)) :
    in6At m off = in6At m' off := by
  have hword : ∀ k, k + 4 ≤ 16 → get32 m.data (off + k) = get32 m'.data (off + k) := fun k hk =>
    get32_congr (h.mono (Set.Ico_subset_Ico (Nat.le_add_right off k) (by omega)))
  rw [in6At, in6At, hword 4 (by decide), hword 8 (by decide), hword 12 (by decide)]
  exact congrArg (fun w => (⟨w, _, _, _⟩ : In6Addr)) (hword 0 (by decide))

/-- The headers of an answer to `m` from the address `a`. -/
structure AnswerHeaders (p : PortSpace) (m : RteMbuf) (a : In6Addr) (d : Mem) : Prop where
  dAddr : Stands d 0 (ethAt m.data 6).bytes
  sAddr : Stands d 6 p.w.localMac.bytes
  etherType : get16 d 12 = get16 m.data 12
  plen : get16 d 18 = get16 m.data 18
  nxt : d 20 = m.data 20
  src : Stands d 22 a.bytes
  dst : Stands d 38 (in6At m 22).bytes

/-- The checksum is behind the headers. -/
lemma AnswerHeaders.setCksum {d : Mem} (h : AnswerHeaders p m a d) (rte : Rte) :
    AnswerHeaders p m a (icmp6SetCksum rte d) := by
  have hkept : ∀ {off : ℕ} {l : List UInt8}, off + l.length ≤ 56 → Stands d off l →
      Stands (icmp6SetCksum rte d) off l := fun hoff hl =>
    hl.congr fun i hi => icmp6SetCksum_ne rte (.inl (by omega))
  have hkept16 : ∀ {off : ℕ}, off + 2 ≤ 56 → get16 (icmp6SetCksum rte d) off = get16 d off :=
    fun hoff => get16_congr fun i hi =>
      icmp6SetCksum_ne rte (.inl (hi.2.trans_le hoff))
  refine ⟨hkept (by simp) h.dAddr, hkept (by simp) h.sAddr, ?_, ?_, ?_, hkept (by simp) h.src,
    hkept (by simp) h.dst⟩
  · rw [hkept16 (by decide), h.etherType]
  · rw [hkept16 (by decide), h.plen]
  · rw [← h.nxt, icmp6SetCksum_ne rte (.inl (by decide))]

lemma AnswerHeaders.reply (hr : rte.Rfc1071) {d : Mem} (h : AnswerHeaders p m a d)
    (ha : workSpaceIp6Exist p a = true) (htype : get16 m.data 12 = htons 0x86DD)
    (hnxt : m.data 20 = 58) (hlen : 4 ≤ l4Len6 m.data 14) :
    Icmp6Reply p m { m with data := icmp6SetCksum rte d } := by
  have hout := h.setCksum rte
  have hsrc : in6At { m with data := icmp6SetCksum rte d } 22 = a := in6At_eq hout.src
  have hnxt' : icmp6SetCksum rte d 20 = 58 := hout.nxt.trans hnxt
  refine ⟨rfl, rfl, ethAt_eq hout.dAddr, ethAt_eq hout.sAddr, hout.etherType.trans htype, hnxt', ?_,
    in6At_eq hout.dst, icmp6SetCksum_verifies hr ?_ ?_⟩
  · rwa [hsrc]
  · rwa [l4Len6, hout.plen]
  · rw [hnxt']
    decide

/-- An answer to an echo request. -/
lemma icmp6EchoAnswer_sound (hr : rte.Rfc1071) {out : RteMbuf}
    (h : icmp6EchoAnswer rte p m = some out) (htype : get16 m.data 12 = htons 0x86DD)
    (hnxt : m.data 20 = 58) (hlen : 4 ≤ l4Len6 m.data 14)
    (hrequest : m.data 54 = icmp6EchoRequest) : Icmp6Reply p m out ∧ EchoReplyOf m out := by
  rw [icmp6EchoAnswer] at h
  split_ifs at h with hexist
  rw [Bool.not_eq_false] at hexist
  let swapped := put (put (put (put m.data 0 (ethAt m.data 6).bytes) 6 p.w.localMac.bytes) 22
    (in6At m 38).bytes) 38 (in6At m 22).bytes
  let d := put (put swapped 14 (le32 (get32 swapped 14 ||| htonl (p.w.tos.toUInt32 <<< 20)))) 54
    [icmp6EchoReply, 0]
  obtain rfl : { m with data := icmp6SetCksum rte d } = out := Option.some.inj h
  have hd : AnswerHeaders p m (in6At m 38) d := by
    refine ⟨?_, ?_, ?_, ?_, ?_, ?_, ?_⟩ <;>
    simp (disch := simp) only [d, swapped, stands_put_ne, stands_put, get16_put_ne, put_ne]
  have hne : ∀ i, i < 56 ∨ 58 ≤ i → icmp6SetCksum rte d i = d i := fun i => icmp6SetCksum_ne rte
  refine ⟨hd.reply hr hexist htype hnxt hlen, hrequest, ?_, ?_, in6At_eq (hd.setCksum rte).src,
    fun i hi => ?_⟩
  · show icmp6SetCksum rte d 54 = _
    rw [hne 54 (by decide)]
    exact put_head
  · show icmp6SetCksum rte d 55 = _
    rw [hne 55 (by decide)]
    exact put_of_mem (i := 1) (by decide)
  · -- the identifier, the number and the data are behind all that is written
    show icmp6SetCksum rte d i = _
    rw [hne i (.inr hi)]
    simp (disch := simp only [EthAddr.length_bytes, In6Addr.length_bytes, length_le32,
      List.length_cons, List.length_nil]; omega) only [d, swapped, put_ne]

/-- An answer to a solicitation. -/
lemma icmp6NsAnswer_sound (hr : rte.Rfc1071) {out : RteMbuf}
    (h : icmp6NsAnswer rte p m = some out) (htype : get16 m.data 12 = htons 0x86DD)
    (hnxt : m.data 20 = 58) (hlen : 4 ≤ l4Len6 m.data 14)
    (hsolicit : m.data 54 = ndNeighborSolicit) : Icmp6Reply p m out ∧ AdvertOf p m out := by
  rw [icmp6NsAnswer] at h
  split_ifs at h with hdrop hlocal
  obtain ⟨hexist, hhops⟩ := not_or.mp hdrop
  rw [Bool.not_eq_false] at hexist
  rw [not_not] at hhops
  let d := icmp6NdNaSet p.w.localMac (put (put (put (put m.data 0 (ethAt m.data 6).bytes) 6
    p.w.localMac.bytes) 38 (in6At m 22).bytes) 22 (in6At m 62).bytes)
  obtain rfl : { m with data := icmp6SetCksum rte d } = out := Option.some.inj h
  have hd : AnswerHeaders p m (in6At m 62) d := by
    refine ⟨?_, ?_, ?_, ?_, ?_, ?_, ?_⟩ <;>
    simp (disch := simp) only [d, icmp6NdNaSet, stands_put_ne, stands_put, get16_put_ne, put_ne]
  have hne : ∀ i, i < 56 ∨ 58 ≤ i → icmp6SetCksum rte d i = d i := fun i => icmp6SetCksum_ne rte
  refine ⟨hd.reply hr hexist htype hnxt hlen, hsolicit, ?_, ?_, ?_,
    in6At_eq (hd.setCksum rte).src, ?_, ?_⟩
  · show icmp6SetCksum rte d 21 = 255
    rw [hne 21 (by decide), ← hhops]
    simp (disch := simp) only [d, icmp6NdNaSet, put_ne]
  · show icmp6SetCksum rte d 54 = _
    rw [hne 54 (by decide)]
    simp (disch := simp) only [d, icmp6NdNaSet, put_ne, put_head]
  · show icmp6SetCksum rte d 55 = _
    rw [hne 55 (by decide)]
    simp (disch := simp) only [d, icmp6NdNaSet, put_ne]
    exact put_of_mem (i := 1) (by decide)
  · refine in6At_congr fun i hi => ?_
    obtain ⟨h1, h2⟩ := hi
    show icmp6SetCksum rte d i = _
    rw [hne i (.inr (by omega))]
    -- what is written lies before the target or behind it
    simp (disch := simp only [EthAddr.length_bytes, In6Addr.length_bytes, length_le16,
      length_le32, List.length_cons, List.length_nil]; omega) only [d, icmp6NdNaSet, put_ne]
  · refine ethAt_eq ?_
    have hmac : Stands d 80 p.w.localMac.bytes := stands_put
    exact hmac.congr fun i _ => hne _ (.inr (by omega))

end Answers

/-! ### The frames that are answered -/

section Frames

variable {p : PortSpace} {m m' : RteMbuf}

/-- A frame gets to `icmp6_process` as it is, or without its destination options. -/
lemma l3Handler_icmp6 (h : l3Handler p m = (.icmp6, m')) :
    (p.w.ipv6 && !p.w.ws.vxlan) = true ∧ get16 m.data 12 = htons 0x86DD ∧
      (m.data 20 = 58 ∧ m' = m ∨
        m.data 20 = 60 ∧ (ipv6TrimOptions m).1 = 58 ∧ m' = (ipv6TrimOptions m).2) := by
  rw [l3Handler] at h
  by_cases hv : p.w.ws.vxlan = true
  · rw [if_pos hv] at h
    split_ifs at h <;> cases h
  rw [if_neg hv] at h
  by_cases h6 : p.w.ipv6 = true
  · rw [if_pos h6] at h
    dsimp only at h
    split_ifs at h with htype hbad hopt hproto hproto <;> cases h
    · exact ⟨by simp [h6, hv], htype, .inr ⟨hopt, hproto, rfl⟩⟩
    · exact ⟨by simp [h6, hv], htype, .inl ⟨hproto, rfl⟩⟩
  · rw [if_neg h6] at h
    generalize (if m.data 14 &&& 0xF ≠ 5 then ipv4TrimOptions m else some m) = trimmed at h
    cases trimmed <;> dsimp only at h <;> split_ifs at h <;> cases h

/-- The headers that `icmp6_process` gets. -/
lemma l3Handler_icmp6_headers (h : l3Handler p m = (.icmp6, m')) (hskip : ipv6Skip m ≤ m.dataLen) :
    get16 m'.data 12 = htons 0x86DD ∧ m'.data 20 = 58 := by
  obtain ⟨-, htype, ⟨hnxt, rfl⟩ | ⟨hopt, hproto, rfl⟩⟩ := l3Handler_icmp6 h
  · exact ⟨htype, hnxt⟩
  have hne : m.data 54 ≠ 60 := by
    intro h60
    have hzero : (0 : UInt8) ≠ 58 := by decide
    rw [ipv6TrimOptions] at hproto
    dsimp only at hproto
    rw [if_pos h60] at hproto
    exact hzero hproto
  rw [ipv6TrimOptions_eq hopt hne hskip] at hproto ⊢
  dsimp only at hproto ⊢
  constructor
  · rw [get16_moved (by decide), get16_put_ne (.inl (by decide)), get16_put_ne (.inl (by decide)),
      htype]
  · rw [moved_lt (by decide), put_head, hproto]

end Frames

/-- An answer is not answered. -/
lemma Icmp6Reply.unanswered {ι : Type*} {S : Site ι} {i : ι} {m out : RteMbuf}
    (h6 : (S.port i).portIpv6 = true) (h : Icmp6Reply (S.port i) m out)
    (hecho : out.data 54 ≠ icmp6EchoRequest) (hsolicit : out.data 54 ≠ ndNeighborSolicit) (j : ι)
    (ea : EthAddr) {r : RteMbuf} (hdata : r.data = out.data) : (S.receive j ea r).2 = none := by
  have hne4 : htons 0x86DD ≠ htons 0x0800 := by decide
  have hne : htons 0x86DD ≠ htons 0x0806 := by decide
  have hnext : (58 : UInt8) ≠ 60 := by decide
  have hnone : icmp6Answer S.rte (S.port j) r = none := by
    simp [icmp6Answer, hdata, hecho, hsolicit]
  have hhandler : l3Handler (S.port j) r = (.icmp6, r) ∨ l3Handler (S.port j) r = (.other, r) := by
    rw [l3Handler, hdata, h.etherType, h.nxt, Site.vxlan_of_ipv6 h6]
    by_cases h6' : (S.port j).w.ipv6 = true
    · cases r.l4CksumBad <;> simp [h6', hnext]
    · simp [h6', hne4, hne]
  rw [Site.receive]
  rcases hhandler with hto | hto
  · rw [hto]
    exact hnone
  · rw [hto]

/-- **The answers of a dperf host to ICMPv6.** What is sent for a frame of any sender, with or
without destination options, is the mbuf of the frame, goes back to the sender from an address of
the host and has a right checksum; it is the echo of a request, or the advertisement for a
solicitation; and no host of the network answers to it. -/
theorem icmp6_answered {ι : Type*} {S : Site ι} (hr : S.rte.Rfc1071) {i : ι} {ea : EthAddr}
    {m m' out : RteMbuf} (hm : l3Handler (S.port i) m = (.icmp6, m'))
    (hskip : ipv6Skip m ≤ m.dataLen) (hlen : 4 ≤ l4Len6 m'.data 14)
    (h : (S.receive i ea m).2 = some out) :
    Icmp6Reply (S.port i) m' out ∧ (EchoReplyOf m' out ∨ AdvertOf (S.port i) m' out) ∧
      ∀ j ea' r, r.data = out.data → (S.receive j ea' r).2 = none := by
  obtain ⟨htype, hnxt⟩ := l3Handler_icmp6_headers hm hskip
  have h6 : (S.port i).portIpv6 = true := (S.configCheckAf i).trans (l3Handler_icmp6 hm).1
  rw [Site.receive, hm] at h
  dsimp only at h
  rw [icmp6Answer] at h
  split_ifs at h with hcode hrequest hsolicit
  · obtain ⟨hreply, hecho⟩ := icmp6EchoAnswer_sound hr h htype hnxt hlen hrequest
    refine ⟨hreply, .inl hecho, fun j ea' r => hreply.unanswered h6 ?_ ?_ j ea'⟩ <;>
    rw [hecho.type] <;> decide
  · obtain ⟨hreply, hadvert⟩ := icmp6NsAnswer_sound hr h htype hnxt hlen hsolicit
    refine ⟨hreply, .inr hadvert, fun j ea' r => hreply.unanswered h6 ?_ ?_ j ea'⟩ <;>
    rw [hadvert.type] <;> decide

/-- An echo request without data, from the second of two ports to the first one. -/
def ping6 : RteMbuf :=
  .received (ethHdr ⟨2, 0, 0, 0, 0, 1⟩ ⟨2, 0, 0, 0, 0, 2⟩ 0x86DD ++ [0x60, 0, 0, 0]
    ++ le16 (htons 8) ++ [58, 64] ++ In6Addr.bytes ⟨0, 0, 0, htonl 2⟩
    ++ In6Addr.bytes ⟨0, 0, 0, htonl 1⟩ ++ [icmp6EchoRequest, 0] ++ le16 0 ++ le32 0)

/-- The first port answers it with an echo reply. -/
theorem icmp6_answered_ping6 : ∃ out, (Site.two.receive false .zero ping6).2 = some out ∧
    Icmp6Reply (Site.two.port false) ping6 out ∧ EchoReplyOf ping6 out := by
  have hr : Site.two.rte.Rfc1071 := Rte.rfc1071_rfc1071
  have hm : l3Handler (Site.two.port false) ping6 = (.icmp6, ping6) := rfl
  have hrequest : ping6.data 54 ≠ ndNeighborSolicit := by decide
  obtain ⟨out, hout⟩ : ∃ out, (Site.two.receive false .zero ping6).2 = some out :=
    Option.isSome_iff_exists.mp (by decide)
  obtain ⟨hreply, hecho | hadvert, -⟩ :=
    icmp6_answered hr hm (by decide) (by decide) hout
  · exact ⟨out, hout, hreply, hecho⟩
  · exact absurd hadvert.solicit hrequest

end Dperf.Wire
