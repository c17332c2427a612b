import Dperf.Lib.Ledger
import Dperf.Packets

/-!
Who has an mbuf: `mbuf.h`, the transmit queue of `work_space.h`, `kni_recv`, and the copies of
`mbuf_dup`.

* `Nic`: the places that an mbuf can be at. An mbuf has a number, and each allocation takes the
  next one. The contents of what waits or is gone are left out.
* `Dpdk`: the results of the calls of DPDK, in their order.
* `TxQueue`, `MbufFreePool`: their arrays are never written past the end.
* `Nic.ledger`: every function takes the mbufs that it is given, and what it allocates, to one
  place each (`mbufFree2_takes`, `workSpaceTxSend_takes`, `kniRecv_takes`, `bondBroadcast_takes`).
-/

namespace Dperf.Wire

open Memory

/-! ### The state -/

/-- `MBUF_FREE_POOL_SIZE`. -/
def mbufFreePoolSize : ℕ := 128

/-- `TX_QUEUE_SIZE`. -/
def txQueueSize : ℕ := 4096

/-- `NB_RXD`. -/
def nbRxd : ℕ := 4096

/-- A received `struct rte_mbuf`: its bytes from the Ethernet header on, and the flags
`RTE_MBUF_F_RX_IP_CKSUM_BAD` and `RTE_MBUF_F_RX_L4_CKSUM_BAD`. -/
structure RteMbuf where
  id : ℕ
  data : Mem
  dataLen : ℕ
  ipCksumBad : Bool
  l4CksumBad : Bool

/-- `struct mbuf_free_pool`. -/
structure MbufFreePool where
  mbufs : List ℕ
  room : mbufs.length < mbufFreePoolSize

lemma mbufFreePool_room : ([] : List ℕ).length < mbufFreePoolSize := by decide

/-- `struct tx_queue`: `queued` are the mbufs from `head` to `tail`. -/
structure TxQueue where
  head : ℕ
  queued : List ℕ
  room : head + queued.length < txQueueSize

lemma txQueue_room : 0 + ([] : List ℕ).length < txQueueSize := by decide

/-- The places of the mbufs of a worker: freed; in the free pool; in the transmit queue; sent by
`rte_eth_tx_burst`; in the ring of the worker that serves the kernel interface, if there is one;
taken by the kernel interface. `calls` counts the calls of DPDK. -/
structure Nic where
  issued : ℕ
  freed : List ℕ
  freePool : MbufFreePool
  txQueue : TxQueue
  sent : List ℕ
  kniMbufQueue : Option (List ℕ)
  kni : List ℕ
  calls : ℕ

/-- What the calls of DPDK return, each by its place among all calls: how many packets a burst
takes at most, and whether an allocation, an enqueue or a dequeue succeeds. -/
structure Dpdk where
  txBurst : ℕ → ℕ
  pktmbufAlloc : ℕ → Bool
  ringEnqueue : ℕ → Bool
  ringDequeueBulk : ℕ → Bool

/-- What the receiving side reads of `ws`, its port and the configuration. `kni` says whether the
kernel interface of the port exists. -/
structure PortSpace where
  w : WireSpace
  d : Dpdk
  queueId : UInt8
  txBurst : ℕ
  vtepIp : UInt32
  vni : UInt32
  neighIgnore : Bool
  portIpv6 : Bool
  localIp : In6Addr
  gatewayIp : In6Addr
  localIpRange : In6Addr × (UInt8 → UInt32)
  vtepLocal : UInt8 → UInt32
  bond : Bool
  bondMode : UInt8
  pciNum : ℕ
  kni : Bool
  localIp_eq : w.ws.localIp = htonl localIp.w3

/-! ### Freeing -/

/-- `mbuf_free`. -/
def mbufFree (m : ℕ) (s : Nic) : Nic := { s with freed := m :: s.freed }

/-- `mbuf_free2`, `mbuf_free2_flush` included. -/
def mbufFree2 (m : ℕ) (s : Nic) : Nic :=
  if h : mbufFreePoolSize ≤ s.freePool.mbufs.length + 1 then
    { s with freed := s.freePool.mbufs ++ m :: s.freed, freePool := ⟨[], by decide⟩ }
  else
    { s with freePool := ⟨s.freePool.mbufs ++ [m], by simpa using h⟩ }

/-! ### Transmitting -/

/-- The transmit queue while it is flushed, and what has been sent. -/
structure Flush where
  head : ℕ
  queued : List ℕ
  sent : List ℕ
  calls : ℕ

/-- The loop of `work_space_tx_flush` with its turns left; the flag says that it has returned. -/
def txFlushLoop (p : PortSpace) : ℕ → Flush → Bool × Flush
  | 0, f => (false, f)
  | turns + 1, f =>
      let num := min f.queued.length p.txBurst
      let n := min (p.d.txBurst f.calls) num
      let f : Flush := ⟨f.head + n, f.queued.drop n, f.sent ++ f.queued.take n, f.calls + 1⟩
      if f.queued = [] then (true, { f with head := 0 })
      else if f.head + f.queued.length < txQueueSize then (true, f)
      else txFlushLoop p turns f

lemma txFlushLoop_room (p : PortSpace) : ∀ (turns : ℕ) (f : Flush),
    (txFlushLoop p turns f).1 = true →
      (txFlushLoop p turns f).2.head + (txFlushLoop p turns f).2.queued.length < txQueueSize := by
  intro turns
  induction turns with
  | zero =>
      intro f h
      cases h
  | succ turns ih =>
      intro f
      rw [txFlushLoop]
      dsimp only
      split_ifs with hempty hroom
      · intro _
        rw [hempty]
        change 0 + 0 < txQueueSize
        decide
      · exact fun _ => hroom
      · exact ih _

/-- `work_space_tx_flush` of the queue with the head `head` and the mbufs `queued`. What is left
in a full queue after eight bursts is dropped. -/
def workSpaceTxFlush (p : PortSpace) (head : ℕ) (queued : List ℕ) (s : Nic) : Nic :=
  let r := txFlushLoop p 8 ⟨head, queued, s.sent, s.calls⟩
  if h : r.1 = true then
    { s with txQueue := ⟨r.2.head, r.2.queued, txFlushLoop_room p 8 _ h⟩
             sent := r.2.sent, calls := r.2.calls }
  else
    { s with txQueue := ⟨0, [], txQueue_room⟩, freed := r.2.queued ++ s.freed
             sent := r.2.sent, calls := r.2.calls }

/-- `work_space_tx_send`. -/
def workSpaceTxSend (p : PortSpace) (m : ℕ) (s : Nic) : Nic :=
  let queued := s.txQueue.queued ++ [m]
  if h : p.txBurst ≤ queued.length ∨ s.txQueue.head + queued.length = txQueueSize then
    workSpaceTxFlush p s.txQueue.head queued s
  else
    { s with txQueue := ⟨s.txQueue.head, queued, by
        have hroom := s.txQueue.room
        have hne := (not_or.mp h).2
        rw [List.length_append, List.length_singleton] at hne ⊢
        omega⟩ }

/-! ### Copies -/

/-- `work_space_alloc_mbuf`, and `mbuf_cache_alloc` of a new packet: the number of the mbuf. -/
def pktmbufAlloc (s : Nic) : ℕ × Nic := (s.issued, { s with issued := s.issued + 1 })

/-- `mbuf_dup`; the copy is a number. -/
def mbufDup (p : PortSpace) (s : Nic) : Option ℕ × Nic :=
  let s' := { s with calls := s.calls + 1 }
  if p.d.pktmbufAlloc s.calls then
    let r := pktmbufAlloc s'
    (some r.1, r.2)
  else (none, s')

/-- The loop of `bond_broadcast` over the ports left. -/
def bondBroadcast (p : PortSpace) : ℕ → Nic → Nic
  | 0, s => s
  | ports + 1, s =>
      let r := mbufDup p s
      match r.1 with
      | none => r.2
      | some m2 =>
          let s := { r.2 with calls := r.2.calls + 1 }
          bondBroadcast p ports
            (if p.d.txBurst r.2.calls = 0 then mbufFree m2 s else { s with sent := s.sent ++ [m2] })

/-! ### The kernel interface -/

/-- `kni_recv`. -/
def kniRecv (p : PortSpace) (m : Option ℕ) (s : Nic) : Nic :=
  if p.queueId ≠ 0 then
    match m with
    | none => s
    | some m =>
        match s.kniMbufQueue with
        | none => mbufFree2 m s
        | some kr =>
            let s' := { s with calls := s.calls + 1 }
            if p.d.ringEnqueue s.calls then { s' with kniMbufQueue := some (kr ++ [m]) }
            else mbufFree2 m s'
  else
    -- core holds q0
    let mbufs := m.toList
    let kr := s.kniMbufQueue.getD []
    let cnt := min kr.length (nbRxd - mbufs.length)
    let cnt := if p.d.ringDequeueBulk s.calls then cnt else 0
    let s := { s with kniMbufQueue := s.kniMbufQueue.map (List.drop cnt), calls := s.calls + 1 }
    let mbufs := mbufs ++ kr.take cnt
    let sendN := if p.kni then min (p.d.txBurst s.calls) mbufs.length else 0
    let s := { s with kni := s.kni ++ mbufs.take sendN, calls := s.calls + 1 }
    (mbufs.drop sendN).foldl (fun s m => mbufFree2 m s) s

/-- `kni_broadcast`. -/
def kniBroadcast (p : PortSpace) (s : Nic) : Nic :=
  let r := mbufDup p s
  match r.1 with
  | none => r.2
  | some m2 => kniRecv p (some m2) r.2

/-! ### One place each -/

/-- All places. -/
def Nic.ledger : Ledger Nic where
  held s := ↑s.freed + ↑s.freePool.mbufs + ↑s.txQueue.queued + ↑s.sent
    + ↑(s.kniMbufQueue.getD []) + ↑s.kni
  issued := Nic.issued

section Takes

variable {p : PortSpace} {s : Nic}

lemma mbufFree_takes (m : ℕ) (s : Nic) : Nic.ledger.Takes {m} s (mbufFree m s) := by
  refine .of_eq rfl ?_
  simp only [Nic.ledger, mbufFree, ← Multiset.cons_coe, ← Multiset.singleton_add]
  abel

lemma mbufFree2_takes (m : ℕ) (s : Nic) : Nic.ledger.Takes {m} s (mbufFree2 m s) := by
  rw [mbufFree2]
  split_ifs
  · refine .of_eq rfl ?_
    simp only [Nic.ledger, ← Multiset.coe_add, ← Multiset.cons_coe, ← Multiset.singleton_add,
      Multiset.coe_nil]
    abel
  · refine .of_eq rfl ?_
    simp only [Nic.ledger, ← Multiset.coe_add, Multiset.coe_singleton]
    abel

/-- The loop moves mbufs from the queue to those sent. -/
lemma txFlushLoop_kept (p : PortSpace) : ∀ (turns : ℕ) (f : Flush),
    (txFlushLoop p turns f).2.sent ++ (txFlushLoop p turns f).2.queued = f.sent ++ f.queued := by
  intro turns
  induction turns with
  | zero => exact fun f => rfl
  | succ turns ih =>
      intro f
      have hturn : ∀ n, (f.sent ++ f.queued.take n) ++ f.queued.drop n = f.sent ++ f.queued :=
        fun n => by rw [List.append_assoc, List.take_append_drop]
      rw [txFlushLoop]
      dsimp only
      split_ifs
      · exact hturn _
      · exact hturn _
      · rw [ih, hturn]

/-- What is queued with `m` is sent, queued or dropped. -/
lemma workSpaceTxFlush_takes (p : PortSpace) (head : ℕ) (m : ℕ) (s : Nic) :
    Nic.ledger.Takes {m} s (workSpaceTxFlush p head (s.txQueue.queued ++ [m]) s) := by
  have hkept := congrArg (fun l : List ℕ => (l : Multiset ℕ))
    (txFlushLoop_kept p 8 ⟨head, s.txQueue.queued ++ [m], s.sent, s.calls⟩)
  simp only [← Multiset.coe_add, Multiset.coe_singleton] at hkept
  have hrest : ∀ a b c d sent queued : Multiset ℕ,
      sent + queued = ↑s.sent + (↑s.txQueue.queued + {m}) →
      a + b + queued + sent + c + d = a + b + ↑s.txQueue.queued + ↑s.sent + c + d + {m} := by
    intro a b c d sent queued h
    calc a + b + queued + sent + c + d = a + b + (sent + queued) + c + d := by abel
      _ = a + b + ↑s.txQueue.queued + ↑s.sent + c + d + {m} := by rw [h]; abel
  rw [workSpaceTxFlush]
  split_ifs
  · exact .of_eq rfl (hrest _ _ _ _ _ _ hkept)
  · refine .of_eq rfl ?_
    simp only [Nic.ledger, ← Multiset.coe_add, Multiset.coe_nil, add_zero]
    rw [← hrest _ _ _ _ _ _ hkept]
    abel

lemma workSpaceTxSend_takes (p : PortSpace) (m : ℕ) (s : Nic) :
    Nic.ledger.Takes {m} s (workSpaceTxSend p m s) := by
  rw [workSpaceTxSend]
  split_ifs
  · exact workSpaceTxFlush_takes p _ m s
  · refine .of_eq rfl ?_
    simp only [Nic.ledger, ← Multiset.coe_add, Multiset.coe_singleton]
    abel

/-- Calls of DPDK are counted only. -/
lemma calls_takes (s : Nic) (k : ℕ) : Nic.ledger.Takes 0 s { s with calls := k } :=
  .of_eq rfl (add_zero _).symm

/-- An allocated mbuf that is then given away. -/
lemma pktmbufAlloc_takes {s s' : Nic} (h : Nic.ledger.Takes {s.issued} (pktmbufAlloc s).2 s') :
    Nic.ledger.Takes 0 s s' := by
  have hi : Nic.ledger.issued (pktmbufAlloc s).2 = Nic.ledger.issued s + 1 := rfl
  exact Ledger.Takes.issue hi rfl h

/-- A copy, if there is one, is given away; if there is none, nothing happens. -/
lemma mbufDup_takes {s s' : Nic}
    (hnone : (mbufDup p s).1 = none → Nic.ledger.Takes 0 (mbufDup p s).2 s')
    (hsome : ∀ m2, (mbufDup p s).1 = some m2 → Nic.ledger.Takes {m2} (mbufDup p s).2 s') :
    Nic.ledger.Takes 0 s s' := by
  rw [mbufDup] at hnone hsome
  dsimp only at hnone hsome
  split_ifs at hnone hsome
  · exact (pktmbufAlloc_takes (hsome _ rfl)).after (calls_takes s _)
  · exact (hnone rfl).after (calls_takes s _)

lemma bondBroadcast_takes (p : PortSpace) : ∀ (ports : ℕ) (s : Nic),
    Nic.ledger.Takes 0 s (bondBroadcast p ports s) := by
  intro ports
  induction ports with
  | zero => exact Ledger.Takes.refl
  | succ ports ih =>
      intro s
      rw [bondBroadcast]
      refine mbufDup_takes (p := p) (fun hnone => ?_) fun m2 hsome => ?_
      · simp only [hnone]
        exact .refl _
      · simp only [hsome]
        refine .after ?_ (calls_takes _ ((mbufDup p s).2.calls + 1))
        refine .before ?_ (ih _)
        split_ifs
        · exact mbufFree_takes m2 _
        · refine .of_eq rfl ?_
          simp only [Nic.ledger, ← Multiset.coe_add, Multiset.coe_singleton]
          abel

lemma kniRecv_takes (p : PortSpace) (m : Option ℕ) (s : Nic) :
    Nic.ledger.Takes ↑m.toList s (kniRecv p m s) := by
  by_cases hq : p.queueId ≠ 0
  · rw [kniRecv.eq_def, if_pos hq]
    cases m with
    | none => exact .refl s
    | some m =>
        cases hkr : s.kniMbufQueue with
        | none => exact mbufFree2_takes m s
        | some kr =>
            dsimp only
            split_ifs
            · refine .of_eq rfl ?_
              simp only [Nic.ledger, hkr, Option.getD_some, ← Multiset.coe_add, Option.toList_some]
              abel
            · refine (mbufFree2_takes m _).after (.of_eq rfl ?_)
              simp only [Nic.ledger, hkr]
              exact (add_zero _).symm
  · rw [kniRecv.eq_def, if_neg hq]
    dsimp only
    generalize (if p.d.ringDequeueBulk s.calls = true then
      min (s.kniMbufQueue.getD []).length (nbRxd - m.toList.length) else 0) = cnt
    generalize (if p.kni = true then _ else 0) = sendN
    have hfold := Ledger.Takes.foldl fun s m => mbufFree2_takes m s
    refine Ledger.Takes.regroup ?_ ?_ (hfold _ _)
    · rfl
    have hqueue : (s.kniMbufQueue.map (List.drop cnt)).getD [] =
        (s.kniMbufQueue.getD []).drop cnt := by
      cases s.kniMbufQueue with
      | none => exact List.drop_nil.symm
      | some kr => rfl
    have hring := congrArg (fun l : List ℕ => (l : Multiset ℕ))
      (List.take_append_drop cnt (s.kniMbufQueue.getD []))
    have hburst := congrArg (fun l : List ℕ => (l : Multiset ℕ))
      (List.take_append_drop sendN (m.toList ++ (s.kniMbufQueue.getD []).take cnt))
    simp only [Nic.ledger, hqueue, ← Multiset.coe_add] at hring hburst ⊢
    rw [← hring]
    generalize ((List.take sendN _ : List ℕ) : Multiset ℕ) = taken at hburst ⊢
    generalize ((List.drop sendN _ : List ℕ) : Multiset ℕ) = left at hburst ⊢
    calc _ = ↑s.freed + ↑s.freePool.mbufs + ↑s.txQueue.queued + ↑s.sent + ↑s.kni
          + ↑((s.kniMbufQueue.getD []).drop cnt) + (taken + left) := by abel
      _ = _ := by rw [hburst]; abel

lemma kniBroadcast_takes (p : PortSpace) (s : Nic) :
    Nic.ledger.Takes 0 s (kniBroadcast p s) := by
  rw [kniBroadcast]
  refine mbufDup_takes (p := p) (fun hnone => ?_) fun m2 hsome => ?_
  · simp only [hnone]
    exact .refl _
  · simp only [hsome]
    exact kniRecv_takes p (some m2) _

end Takes

end Dperf.Wire
