import Dperf.ResetPacket
import Dperf.TableInit

/-!
Neighbour resolution: who is told that an address is here.

* `IpRange.Sound.valid_iff`: what the array behind `ip_range_exist` holds. A last byte that no
  address has is marked by the address 0, so that the address 0 itself passes the test.
* `Transmits`: a handler hands the mbuf that it is given to the transmit queue.
  `icmp6Process_transmits_iff` and `arpProcess_transmits_iff` say when the two handlers do.
* `Owned`, `Policy`: the addresses of a port, and those that it answers for.
* `neighbour_policy_iff`: with `neigh_ignore` the handler of IPv6 answers for the addresses that it
  should be silent about; without, both answer for an unowned address with low word zero.
-/

namespace Dperf

/-! ### The array of a range -/

/-- The array holds the addresses of the list, each at its last byte, and zeros. -/
structure IpRange.Sound (r : IpRange) : Prop where
  listed : ∀ a ∈ r.list, r.valid (a &&& 0xff) = a
  valid : ∀ b, r.valid b = 0 ∨ r.valid b ∈ r.list

lemma toNat_and_ff (a : UInt32) : (a &&& 0xff).toNat = a.toNat % 256 := by
  rw [UInt32.toNat_and]
  exact Nat.and_two_pow_sub_one_eq_mod _ 8

lemma ipRangeInit_sound {start : IpAddr} {num : Int32} {r : IpRange}
    (h : ipRangeInit start num = some r) : r.Sound := by
  obtain ⟨k, -, -, hlt, hlist, hlast, hvalid⟩ := ipRangeInit_some h
  refine ⟨fun a ha => ?_, fun b => ?_⟩
  · rw [hlist] at ha
    obtain ⟨i, hi, rfl⟩ := List.mem_map.mp ha
    have hik := List.mem_range.mp hi
    have hof : (UInt32.ofNat i).toNat = i :=
      UInt32.toNat_ofNat_of_lt' (by change _ < 2 ^ 32; omega)
    have hbyte := toNat_lastByte start
    have hsum := toNat_add_ofNat hlt hik
    -- the addresses of a new range differ in the last byte only
    have hoff : (start.ip + UInt32.ofNat i &&& 0xff) - start.lastByte = UInt32.ofNat i := by
      apply UInt32.toNat_inj.mp
      have hle : start.lastByte ≤ start.ip + UInt32.ofNat i &&& 0xff := by
        rw [UInt32.le_iff_toNat_le, toNat_and_ff, hsum]
        omega
      rw [UInt32.toNat_sub_of_le _ _ hle, toNat_and_ff, hsum, hof]
      omega
    rw [hvalid, hoff, if_pos (by rwa [hof])]
  · rw [hvalid, hlist]
    split_ifs with hb
    · refine .inr (List.mem_map.mpr ⟨_, List.mem_range.mpr hb, ?_⟩)
      rw [UInt32.ofNat_toNat]
    · exact .inl rfl

lemma ipRangeAdd_sound {r r' : IpRange} {addr : IpAddr} (h : r.Sound)
    (hadd : ipRangeAdd r addr = some r') : r'.Sound := by
  rw [ipRangeAdd] at hadd
  dsimp only at hadd
  split_ifs at hadd with hlen hpad hbyte hfree
  have hlist : r'.list = r.list ++ [addr.ip] := by rw [← Option.some.inj hadd]
  have hvalid : r'.valid = Function.update r.valid addr.lastByte addr.ip := by
    rw [← Option.some.inj hadd]
  rw [not_or] at hbyte
  refine ⟨fun a ha => ?_, fun b => ?_⟩ <;> rw [hvalid]
  · rw [hlist] at ha
    rcases List.mem_append.mp ha with ha | ha
    · have hne : a &&& 0xff ≠ addr.lastByte := by
        intro heq
        have hzero := h.listed a ha
        rw [heq, hfree] at hzero
        rw [← hzero] at heq
        exact hbyte.1 heq.symm
      rw [Function.update_of_ne hne]
      exact h.listed a ha
    · rw [List.mem_singleton.mp ha]
      exact Function.update_self _ _ _
  · rw [hlist]
    by_cases hb : b = addr.lastByte
    · rw [hb, Function.update_self]
      exact .inr (List.mem_append_right _ (List.mem_singleton_self _))
    · rw [Function.update_of_ne hb]
      exact (h.valid b).imp_right (List.mem_append_left _)

lemma configParseIpRange_sound {ip : IpAddr} {num : Int32} {rest : List IpAddr} {r : IpRange}
    (h : configParseIpRange ip num rest = some r) : r.Sound :=
  configParseIpRange_induct (P := IpRange.Sound) h (fun _ _ h₀ => ipRangeInit_sound h₀)
    fun _ _ _ hr _ hadd => ipRangeAdd_sound hr hadd

/-- The test of `ip_range_exist`: an address of the range, or 0 where the last byte 0 is free. -/
lemma IpRange.Sound.valid_iff {r : IpRange} (h : r.Sound) (a : UInt32) :
    a = r.valid (a &&& 0xff) ↔ a ∈ r.list ∨ a = 0 ∧ r.valid 0 = 0 := by
  constructor
  · intro ha
    rcases h.valid (a &&& 0xff) with hzero | hmem
    · rw [hzero] at ha
      rw [ha] at hzero
      exact .inr ⟨ha, hzero⟩
    · rw [← ha] at hmem
      exact .inl hmem
  · rintro (ha | ⟨rfl, hzero⟩)
    · exact (h.listed a ha).symm
    · exact hzero.symm

namespace Wire

open Memory

/-! ### Who is sent -/

/-- The handler gives the mbuf `m` to the NIC, if the transmit queue was empty. -/
def Transmits (m : ℕ) (f : ∀ n, Core n → Core n) : Prop :=
  ∀ n s, s.nic.txQueue = ⟨0, [], txQueue_room⟩ →
    m ∈ (f n s).nic.txQueue.queued ∨ m ∈ (f n s).nic.sent

section Tx

variable {n : ℕ} {p : PortSpace} {s : Nic} {m : ℕ}

lemma mbufFree2_tx (m : ℕ) (s : Nic) :
    (mbufFree2 m s).txQueue = s.txQueue ∧ (mbufFree2 m s).sent = s.sent := by
  rw [mbufFree2]
  split_ifs <;> exact ⟨rfl, rfl⟩

lemma foldl_mbufFree2_tx : ∀ (ms : List ℕ) (s : Nic),
    (ms.foldl (fun s m => mbufFree2 m s) s).txQueue = s.txQueue ∧
      (ms.foldl (fun s m => mbufFree2 m s) s).sent = s.sent := by
  intro ms
  induction ms with
  | nil => exact fun s => ⟨rfl, rfl⟩
  | cons m ms ih =>
      intro s
      obtain ⟨hqueue, hsent⟩ := mbufFree2_tx m s
      obtain ⟨hqueue', hsent'⟩ := ih (mbufFree2 m s)
      exact ⟨hqueue'.trans hqueue, hsent'.trans hsent⟩

/-- The kernel interface leaves the transmit queue alone. -/
lemma kniRecv_tx (p : PortSpace) (m : Option ℕ) (s : Nic) :
    (kniRecv p m s).txQueue = s.txQueue ∧ (kniRecv p m s).sent = s.sent := by
  by_cases hq : p.queueId ≠ 0
  · rw [kniRecv.eq_def, if_pos hq]
    cases m with
    | none => exact ⟨rfl, rfl⟩
    | some m =>
        cases s.kniMbufQueue with
        | none => exact mbufFree2_tx m s
        | some kr =>
            dsimp only
            by_cases he : p.d.ringEnqueue s.calls = true
            · rw [if_pos he]
              exact ⟨rfl, rfl⟩
            · rw [if_neg he]
              exact mbufFree2_tx m _
  · rw [kniRecv.eq_def, if_neg hq]
    exact foldl_mbufFree2_tx _ _

lemma mbufDup_tx (p : PortSpace) (s : Nic) :
    (mbufDup p s).2.txQueue = s.txQueue ∧ (mbufDup p s).2.sent = s.sent := by
  rw [mbufDup]
  dsimp only
  split_ifs <;> exact ⟨rfl, rfl⟩

lemma kniBroadcast_tx (p : PortSpace) (s : Nic) :
    (kniBroadcast p s).txQueue = s.txQueue ∧ (kniBroadcast p s).sent = s.sent := by
  obtain ⟨hqueue, hsent⟩ := mbufDup_tx p s
  rw [kniBroadcast]
  cases hdup : (mbufDup p s).1 with
  | none => exact ⟨hqueue, hsent⟩
  | some m2 =>
      obtain ⟨hqueue', hsent'⟩ := kniRecv_tx p (some m2) (mbufDup p s).2
      exact ⟨hqueue'.trans hqueue, hsent'.trans hsent⟩

/-- Copies go to the NIC at once. -/
lemma bondBroadcast_txQueue (p : PortSpace) : ∀ (ports : ℕ) (s : Nic),
    (bondBroadcast p ports s).txQueue = s.txQueue := by
  intro ports
  induction ports with
  | zero => exact fun s => rfl
  | succ ports ih =>
      intro s
      have hqueue := (mbufDup_tx p s).1
      rw [bondBroadcast]
      cases hdup : (mbufDup p s).1 with
      | none => exact hqueue
      | some m2 =>
          dsimp only
          rw [ih]
          split_ifs <;> exact hqueue

/-- A packet alone in the queue is not dropped. -/
lemma workSpaceTxSend_empty (p : PortSpace) (m : ℕ) (h : s.txQueue = ⟨0, [], txQueue_room⟩) :
    m ∈ (workSpaceTxSend p m s).txQueue.queued ∨ m ∈ (workSpaceTxSend p m s).sent := by
  have hflush : (txFlushLoop p 8 ⟨0, [m], s.sent, s.calls⟩).1 = true := by
    rw [txFlushLoop]
    dsimp only
    split_ifs with hempty hroom
    · rfl
    · rfl
    · refine absurd ?_ hroom
      have hsize : 1 < txQueueSize := by decide
      rw [List.length_drop, List.length_singleton]
      omega
  have hhead : s.txQueue.head = 0 := by rw [h]
  have hqueued : s.txQueue.queued = [] := by rw [h]
  rw [workSpaceTxSend]
  split_ifs
  · have hkept := txFlushLoop_kept p 8 ⟨0, [m], s.sent, s.calls⟩
    have hmem : m ∈ (txFlushLoop p 8 ⟨0, [m], s.sent, s.calls⟩).2.sent ++
        (txFlushLoop p 8 ⟨0, [m], s.sent, s.calls⟩).2.queued := by
      rw [hkept]
      exact List.mem_append_right _ (List.mem_singleton_self m)
    rw [hhead, hqueued, List.nil_append, workSpaceTxFlush, dif_pos hflush]
    exact (List.mem_append.mp hmem).symm
  · exact .inl (List.mem_append_right _ (List.mem_singleton_self m))

lemma transmits_of_send {f : ∀ n, Core n → Core n} (h : ∀ n s, ∃ s' : Nic,
    s'.txQueue = s.nic.txQueue ∧ (f n s).nic = workSpaceTxSend p m s') : Transmits m f := by
  intro n s hs
  obtain ⟨s', hqueue, hsend⟩ := h n s
  rw [hsend]
  exact workSpaceTxSend_empty p m (hqueue.trans hs)

lemma not_transmits_of_kept {f : ∀ n, Core n → Core n} (h : ∀ n s,
    (f n s).nic.txQueue = s.nic.txQueue ∧ (f n s).nic.sent = s.nic.sent) : ¬ Transmits m f := by
  intro hsend
  obtain ⟨hqueue, hsent⟩ := h 0 (.idle 0)
  rcases hsend 0 (.idle 0) rfl with hmem | hmem
  · rw [hqueue] at hmem
    exact absurd hmem List.not_mem_nil
  · rw [hsent] at hmem
    exact absurd hmem List.not_mem_nil

end Tx

/-! ### The handlers -/

/-- A neighbour solicitation for `a`. -/
structure IsSolicit (m : RteMbuf) (a : In6Addr) : Prop where
  type : m.data 54 = ndNeighborSolicit
  code : m.data 55 = 0
  hops : m.data 21 = 255
  target : in6At m 62 = a

/-- An ARP request for `ip`. -/
structure IsArpRequest (m : RteMbuf) (ip : UInt32) : Prop where
  op : get16 m.data 20 = htons 1
  target : get32 m.data 38 = ip

section Handlers

variable {p : PortSpace} {m : RteMbuf} {a : In6Addr} {ip : UInt32}

/-- With `neigh_ignore`, only the port's own address is ignored. -/
lemma icmp6Process_transmits_iff (p : PortSpace) (h : IsSolicit m a) :
    Transmits m.id (fun n => icmp6Process (n := n) p m) ↔
      workSpaceIp6Exist p a = true ∧ ¬ (p.neighIgnore = true ∧ p.localIp = a) := by
  have hprocess : ∀ n (s : Core n), icmp6Process p m s = icmp6NsProcess p m s := by
    intro n s
    rw [icmp6Process, if_neg (not_not_intro h.code), h.type, if_neg (by decide), if_pos rfl]
  by_cases he : workSpaceIp6Exist p a = true
  swap
  · rw [Bool.not_eq_true] at he
    have hfree : ∀ n (s : Core n), icmp6NsProcess p m s = s.onNic (mbufFree m.id) := fun n s => by
      rw [icmp6NsProcess, h.target]
      exact if_pos (.inl he)
    refine iff_of_false (not_transmits_of_kept fun n s => ?_)
      fun hcon => absurd (he.symm.trans hcon.1) Bool.false_ne_true
    rw [hprocess, hfree]
    exact ⟨rfl, rfl⟩
  have hknown : ¬ (workSpaceIp6Exist p a = false ∨ m.data 21 ≠ 255) := by
    rw [he, h.hops]
    decide
  by_cases hlocal : p.neighIgnore = true ∧ p.localIp = a
  · have hfree : ∀ n (s : Core n), icmp6NsProcess p m s =
        (s.onNic (kniBroadcast p)).onNic (mbufFree m.id) := fun n s => by
      rw [icmp6NsProcess, h.target]
      exact (if_neg hknown).trans (if_pos hlocal)
    refine iff_of_false (not_transmits_of_kept fun n s => ?_) fun hcon => hcon.2 hlocal
    rw [hprocess, hfree]
    exact kniBroadcast_tx p s.nic
  · have hsend : ∀ n (s : Core n), icmp6NsProcess p m s =
        icmp6Send p (m.setType ndNeighborAdvert) (s.onNic (kniBroadcast p)) := fun n s => by
      rw [icmp6NsProcess, h.target]
      exact (if_neg hknown).trans (if_neg hlocal)
    refine iff_of_true (transmits_of_send (p := p) fun n s => ?_) ⟨he, hlocal⟩
    rw [hprocess, hsend, icmp6Send]
    split_ifs
    · exact ⟨bondBroadcast p p.pciNum (kniBroadcast p s.nic),
        (bondBroadcast_txQueue p _ _).trans (kniBroadcast_tx p s.nic).1, rfl⟩
    · exact ⟨kniBroadcast p s.nic, (kniBroadcast_tx p s.nic).1, rfl⟩

/-- With `neigh_ignore`, all but the port's own address are ignored. -/
lemma arpProcess_transmits_iff (p : PortSpace) (h : IsArpRequest m ip) :
    Transmits m.id (fun n => arpProcess (n := n) p m) ↔
      workSpaceIpExist p ip = true ∧ ¬ (p.neighIgnore = true ∧ ip ≠ p.localIp.w3) := by
  have hprocess : ∀ n (s : Core n), ∃ s' : Core n, s'.nic.txQueue = s.nic.txQueue ∧
      s'.nic.sent = s.nic.sent ∧ arpProcess p m s = arpProcessRequest p m s' := by
    intro n s
    rw [arpProcess, if_pos h.op]
    split_ifs
    · exact ⟨_, (kniBroadcast_tx p s.nic).1, (kniBroadcast_tx p s.nic).2, rfl⟩
    · exact ⟨s, rfl, rfl, rfl⟩
  by_cases hdrop : workSpaceIpExist p ip = false ∨ p.neighIgnore = true ∧ ip ≠ p.localIp.w3
  · have hfree : ∀ n (s : Core n), arpProcessRequest p m s = s.onNic (mbufFree m.id) :=
      fun n s => by
        rw [arpProcessRequest, h.target]
        split_ifs with he hn
        · rfl
        · rfl
        · exact absurd hdrop (not_or.mpr ⟨he, hn⟩)
    refine iff_of_false (not_transmits_of_kept fun n s => ?_) fun hcon => ?_
    · obtain ⟨s', hqueue, hsent, heq⟩ := hprocess n s
      rw [heq, hfree]
      exact ⟨hqueue, hsent⟩
    · rcases hdrop with he | hn
      · exact absurd (he.symm.trans hcon.1) Bool.false_ne_true
      · exact hcon.2 hn
  · obtain ⟨he, hn⟩ := not_or.mp hdrop
    refine iff_of_true (transmits_of_send (p := p) fun n s => ?_) ⟨by simpa using he, hn⟩
    obtain ⟨s', hqueue, -, heq⟩ := hprocess n s
    have hsend : arpProcessRequest p m s' = arpSend p m s' := by
      rw [arpProcessRequest, h.target]
      exact (if_neg he).trans (if_neg hn)
    rw [heq, hsend, arpSend]
    split_ifs
    · exact ⟨bondBroadcast p p.pciNum s'.nic, (bondBroadcast_txQueue p _ _).trans hqueue, rfl⟩
    · exact ⟨s'.nic, hqueue, rfl⟩

end Handlers

/-! ### The addresses of a port -/

/-- An address of the configuration in memory. -/
def inMemory (a : IpAddr) : In6Addr where
  w0 := UInt32.ofNat a.pad.toNat
  w1 := UInt32.ofNat (a.pad.toNat / 2 ^ 32)
  w2 := UInt32.ofNat (a.pad.toNat / 2 ^ 64)
  w3 := htonl a.ip

/-- A work space without VXLAN, for one family: `local_ip_range` is the range `r`. -/
structure Resolver (ipv6 : Bool) (p : PortSpace) (r : IpRange) : Prop where
  vxlan : p.w.ws.vxlan = false
  portIpv6 : p.portIpv6 = ipv6
  ipv6 : p.w.ipv6 = ipv6
  parsed : ∃ ip num rest, configParseIpRange ip num rest = some r
  range : p.localIpRange = (inMemory r.start, fun b => htonl (r.valid b.toUInt32))

/-- `local_ip`; of an IPv4 address only the last word counts. -/
def IsLocal (ipv6 : Bool) (p : PortSpace) (a : In6Addr) : Prop :=
  if ipv6 then p.localIp = a else p.localIp.w3 = a.w3

/-- The prefix of the range. -/
def InPrefix (ipv6 : Bool) (r : IpRange) (a : In6Addr) : Prop :=
  ipv6 = true → { a with w3 := htonl r.start.ip } = inMemory r.start

/-- The addresses of a port: `local_ip` and `local_ip_range`. -/
def Owned (ipv6 : Bool) (p : PortSpace) (r : IpRange) (a : In6Addr) : Prop :=
  IsLocal ipv6 p a ∨ InPrefix ipv6 r a ∧ htonl a.w3 ∈ r.list

/-- An address with last word zero that is taken for one of the range. -/
structure TakenForOwned (ipv6 : Bool) (p : PortSpace) (r : IpRange) (a : In6Addr) : Prop where
  not_owned : ¬ Owned ipv6 p r a
  inPrefix : InPrefix ipv6 r a
  zero : a.w3 = 0
  free : r.valid 0 = 0

/-- The addresses that a port answers for. -/
def Policy (ipv6 : Bool) (p : PortSpace) (r : IpRange) (a : In6Addr) : Prop :=
  Owned ipv6 p r a ∧ (p.neighIgnore = true → IsLocal ipv6 p a)

section Owned

variable {ipv6 : Bool} {p : PortSpace} {r : IpRange} {a : In6Addr}

lemma htonl_eq_zero {v : UInt32} : htonl v = 0 ↔ v = 0 := by
  have hzero : htonl 0 = 0 := rfl
  constructor
  · intro h
    rw [← htonl_htonl v, h, hzero]
  · intro h
    rw [h, hzero]

lemma ipRangeExist_iff (h : r.Sound) (v : UInt32) :
    ipRangeExist (fun b => htonl (r.valid b.toUInt32)) v = true ↔
      htonl v ∈ r.list ∨ v = 0 ∧ r.valid 0 = 0 := by
  have hbyte : (htonl v).toUInt8.toUInt32 = htonl v &&& 0xff := by
    apply UInt32.toNat_inj.mp
    rw [toNat_and_ff, UInt8.toNat_toUInt32, UInt32.toNat_toUInt8]
  have hswap : v = htonl (r.valid (htonl v &&& 0xff)) ↔ htonl v = r.valid (htonl v &&& 0xff) := by
    constructor
    · intro heq
      rw [← htonl_htonl (r.valid _), ← heq]
    · intro heq
      rw [← heq, htonl_htonl]
  rw [ipRangeExist, beq_iff_eq, hbyte, hswap, h.valid_iff, htonl_eq_zero]

/-- The test of the handlers: an address of the port, or one that is taken for such. -/
lemma Resolver.exist_iff (h : Resolver ipv6 p r) (a : In6Addr) :
    (if ipv6 then workSpaceIp6Exist p a else workSpaceIpExist p a.w3) = true ↔
      Owned ipv6 p r a ∨ TakenForOwned ipv6 p r a := by
  obtain ⟨ip, num, rest, hparse⟩ := h.parsed
  have hexist := ipRangeExist_iff (configParseIpRange_sound hparse) a.w3
  have hiff : (if ipv6 then workSpaceIp6Exist p a else workSpaceIpExist p a.w3) = true ↔
      IsLocal ipv6 p a ∨ InPrefix ipv6 r a ∧ (htonl a.w3 ∈ r.list ∨ a.w3 = 0 ∧ r.valid 0 = 0) := by
    rw [← hexist]
    cases ipv6 with
    | true =>
        simp [workSpaceIp6Exist, ipRangeExistIpv6, IsLocal, InPrefix, h.portIpv6, h.ipv6, h.range,
          inMemory]
    | false =>
        simp [workSpaceIpExist, IsLocal, InPrefix, h.portIpv6, h.ipv6, h.range, h.vxlan]
  rw [hiff]
  constructor
  · rintro (hlocal | ⟨hpre, hmem | ⟨hzero, hfree⟩⟩)
    · exact .inl (.inl hlocal)
    · exact .inl (.inr ⟨hpre, hmem⟩)
    · by_cases ho : Owned ipv6 p r a
      · exact .inl ho
      · exact .inr ⟨ho, hpre, hzero, hfree⟩
  · rintro ((hlocal | ⟨hpre, hmem⟩) | ht)
    · exact .inl hlocal
    · exact .inr ⟨hpre, .inl hmem⟩
    · exact .inr ⟨ht.inPrefix, .inr ⟨ht.zero, ht.free⟩⟩

end Owned

/-- An IPv6 target and an IPv4 target that mean the same to their ports. -/
structure Corresponding (p6 : PortSpace) (r6 : IpRange) (a6 : In6Addr) (p4 : PortSpace)
    (r4 : IpRange) (a4 : In6Addr) : Prop where
  neighIgnore : p6.neighIgnore = p4.neighIgnore
  isLocal : IsLocal true p6 a6 ↔ IsLocal false p4 a4
  owned : Owned true p6 r6 a6 ↔ Owned false p4 r4 a4

/-- **One policy for both families.** The handlers of neighbour solicitations and of ARP requests
answer for the addresses of the policy exactly if, with `neigh_ignore`, the target is neither owned
nor taken for owned, and if, without, it is not taken for owned by either. -/
theorem neighbour_policy_iff {p6 p4 : PortSpace} {r6 r4 : IpRange} {a6 a4 : In6Addr}
    {m6 m4 : RteMbuf} (h6 : Resolver true p6 r6) (h4 : Resolver false p4 r4)
    (hm6 : IsSolicit m6 a6) (hm4 : IsArpRequest m4 a4.w3)
    (hc : Corresponding p6 r6 a6 p4 r4 a4) :
    ((Transmits m6.id (fun n => icmp6Process (n := n) p6 m6) ↔
        Transmits m4.id (fun n => arpProcess (n := n) p4 m4)) ∧
      (Transmits m4.id (fun n => arpProcess (n := n) p4 m4) ↔ Policy false p4 r4 a4)) ↔
    if p4.neighIgnore then ¬ Owned true p6 r6 a6 ∧ ¬ TakenForOwned true p6 r6 a6
    else ¬ TakenForOwned true p6 r6 a6 ∧ ¬ TakenForOwned false p4 r4 a4 := by
  have hns := icmp6Process_transmits_iff p6 hm6
  have harp := arpProcess_transmits_iff p4 hm4
  have he6 := h6.exist_iff a6
  have he4 := h4.exist_iff a4
  rw [if_pos rfl] at he6
  rw [if_neg Bool.false_ne_true] at he4
  have hlocal6 : p6.localIp = a6 ↔ IsLocal true p6 a6 := Iff.rfl
  have hlocal4 : a4.w3 = p4.localIp.w3 ↔ IsLocal false p4 a4 := eq_comm
  have howned : IsLocal false p4 a4 → Owned false p4 r4 a4 := .inl
  have htaken6 : TakenForOwned true p6 r6 a6 → ¬ Owned true p6 r6 a6 := TakenForOwned.not_owned
  have htaken4 : TakenForOwned false p4 r4 a4 → ¬ Owned false p4 r4 a4 := TakenForOwned.not_owned
  rw [hns, harp, he6, he4, hlocal6, ne_eq, hlocal4, hc.isLocal, hc.neighIgnore, Policy, hc.owned]
  rw [hc.owned] at htaken6
  clear hns harp he6 he4 hlocal6 hlocal4 hc
  generalize IsLocal false p4 a4 = l at howned ⊢
  generalize Owned false p4 r4 a4 = o at howned htaken6 htaken4 ⊢
  generalize TakenForOwned true p6 r6 a6 = t6 at htaken6 ⊢
  generalize TakenForOwned false p4 r4 a4 = t4 at htaken4 ⊢
  cases p4.neighIgnore with
  | true => grind
  | false => grind

/-- The address 10.0.0.2 of a port, and the address 10.0.0.1 that it serves. -/
def ownAddr : In6Addr := ⟨0, 0, 0, htonl 0x0A000002⟩
def servedAddr : In6Addr := ⟨0, 0, 0, htonl 0x0A000001⟩

/-- The port; with IPv6 the addresses have the prefix zero. -/
def PortSpace.neighbour (ipv6 neighIgnore : Bool) : PortSpace :=
  { PortSpace.single with
    w := { WireSpace.single ipv6 false with
      ws := { WorkSpace.single .single with localIp := 0x0A000002 }
      change_dip_vxlan := fun _ => rfl }
    neighIgnore := neighIgnore
    portIpv6 := ipv6
    localIp := ownAddr
    localIpRange := (inMemory ⟨0, 0x0A000001⟩,
      fun b => htonl ((IpRange.single 0x0A000001).valid b.toUInt32))
    localIp_eq := (htonl_htonl _).symm }

/-- A neighbour solicitation and an ARP request for one address. -/
def solicit (a : In6Addr) : RteMbuf where
  id := 0
  data := put (put (put (fun _ => 0) 21 [255]) 54 [ndNeighborSolicit]) 62 a.bytes
  dataLen := 86
  ipCksumBad := false
  l4CksumBad := false

def arpRequest (a : In6Addr) : RteMbuf where
  id := 0
  data := put (put (fun _ => 0) 20 (le16 (htons 1))) 38 (le32 a.w3)
  dataLen := 42
  ipCksumBad := false
  l4CksumBad := false

lemma PortSpace.neighbour_resolver (ipv6 neighIgnore : Bool) :
    Resolver ipv6 (.neighbour ipv6 neighIgnore) (.single 0x0A000001) where
  vxlan := rfl
  portIpv6 := rfl
  ipv6 := rfl
  parsed := ⟨⟨0, 0x0A000001⟩, 1, [], rfl⟩
  range := rfl

lemma solicit_isSolicit (a : In6Addr) : IsSolicit (solicit a) a := by
  obtain ⟨h0, h1, h2, h3⟩ := get32_put_in6 (put (put (fun _ => 0) 21 [255]) 54 [ndNeighborSolicit])
    62 a
  have hdata : (solicit a).data =
    put (put (put (fun _ => 0) 21 [255]) 54 [ndNeighborSolicit]) 62 a.bytes := rfl
  refine ⟨?_, ?_, ?_, ?_⟩
  · rw [hdata, put_ne (.inl (by omega)), put_head]
  · rw [hdata, put_ne (.inl (by omega)), put_ne (.inr (by simp)), put_ne (.inr (by simp))]
  · rw [hdata, put_ne (.inl (by omega)), put_ne (.inl (by omega)), put_head]
  · rw [in6At, hdata, h0, h1, h2, h3]

lemma arpRequest_isArpRequest (a : In6Addr) : IsArpRequest (arpRequest a) a.w3 where
  op := (get16_put_ne (.inl (by omega))).trans (get16_put _)
  target := get32_put _

/-- Both answer for an address that the port serves. -/
theorem neighbour_policy_served :
    ((Transmits (solicit servedAddr).id
          (fun n => icmp6Process (n := n) (.neighbour true false) (solicit servedAddr)) ↔
        Transmits (arpRequest servedAddr).id
          (fun n => arpProcess (n := n) (.neighbour false false) (arpRequest servedAddr))) ∧
      (Transmits (arpRequest servedAddr).id
          (fun n => arpProcess (n := n) (.neighbour false false) (arpRequest servedAddr)) ↔
        Policy false (.neighbour false false) (.single 0x0A000001) servedAddr)) := by
  have hserved : htonl servedAddr.w3 = 0x0A000001 := htonl_htonl _
  have howned : ∀ ipv6 : Bool,
      Owned ipv6 (.neighbour ipv6 false) (.single 0x0A000001) servedAddr := fun ipv6 => by
    refine .inr ⟨fun _ => rfl, ?_⟩
    rw [hserved]
    exact List.mem_singleton_self _
  have hother : ownAddr.w3 ≠ servedAddr.w3 := by decide
  refine (neighbour_policy_iff (PortSpace.neighbour_resolver true false)
    (PortSpace.neighbour_resolver false false) (solicit_isSolicit _) (arpRequest_isArpRequest _)
    ⟨rfl, iff_of_false (fun h => ?_) fun h => ?_,
      iff_of_true (howned true) (howned false)⟩).mpr ?_
  · exact hother (congrArg In6Addr.w3 h)
  · exact hother h
  · exact ⟨fun h => h.not_owned (howned true), fun h => h.not_owned (howned false)⟩

/-- With `neigh_ignore`, the port's own address is answered for by ARP alone. -/
theorem neighbour_local_fails :
    Resolver true (.neighbour true true) (.single 0x0A000001) ∧
    Resolver false (.neighbour false true) (.single 0x0A000001) ∧
    IsSolicit (solicit ownAddr) ownAddr ∧ IsArpRequest (arpRequest ownAddr) ownAddr.w3 ∧
    Corresponding (.neighbour true true) (.single 0x0A000001) ownAddr
      (.neighbour false true) (.single 0x0A000001) ownAddr ∧
    ¬ (Transmits (solicit ownAddr).id
          (fun n => icmp6Process (n := n) (.neighbour true true) (solicit ownAddr)) ↔
        Transmits (arpRequest ownAddr).id
          (fun n => arpProcess (n := n) (.neighbour false true) (arpRequest ownAddr))) := by
  have hlocal : ∀ ipv6 : Bool, IsLocal ipv6 (.neighbour ipv6 true) ownAddr :=
    fun ipv6 => by cases ipv6 <;> rfl
  have h6 := PortSpace.neighbour_resolver true true
  have h4 := PortSpace.neighbour_resolver false true
  have hm6 := solicit_isSolicit ownAddr
  have hm4 := arpRequest_isArpRequest ownAddr
  refine ⟨h6, h4, hm6, hm4, ⟨rfl, iff_of_true (hlocal true) (hlocal false),
    iff_of_true (.inl (hlocal true)) (.inl (hlocal false))⟩, fun hiff => ?_⟩
  have hexist := h4.exist_iff ownAddr
  rw [if_neg Bool.false_ne_true] at hexist
  have harp := (arpProcess_transmits_iff (.neighbour false true) hm4).mpr
    ⟨hexist.mpr (.inl (.inl (hlocal false))), fun h => h.2 rfl⟩
  exact ((icmp6Process_transmits_iff (.neighbour true true) hm6).mp (hiff.mpr harp)).2 ⟨rfl, rfl⟩

end Wire

end Dperf
