import Dperf.Frames
import Dperf.Lib.Outbox

/-!
The transmit queue of `work_space.h` slot by slot.

* `TxSlots`: the array with its 16-bit positions. A send past the end of the array is `none`.
* `TxSpace.Shows`: it refines the transmit queue of `Nic`; `txFlushLoop` sees its slots from `head`
  to `tail` as the list that waits.
* `txCalls_account`: over every run of calls, the positions stay in order and in the array, what
  the port has taken is in the order of the sends, and every mbuf is in one place.
-/

namespace Dperf.Wire

/-- `struct tx_queue`. An mbuf is a number, as in `Nic`. -/
structure TxSlots where
  head : UInt16
  tail : UInt16
  txBurst : UInt16
  tx : Vector ℕ txQueueSize

/-- The queue, the mbufs that `rte_eth_tx_burst` has taken after `calls` calls, those freed, and
`tx_drop` of the statistics. -/
structure TxSpace where
  queue : TxSlots
  sent : List ℕ
  freed : List ℕ
  calls : ℕ
  txDrop : UInt64

/-- The mbufs in the slots from `head` to `tail`. -/
def TxSlots.waiting (q : TxSlots) : List ℕ :=
  (q.tx.toList.drop q.head.toNat).take (q.tail.toNat - q.head.toNat)

/-- `tx_queue` with `head` and `tail` back at the start. -/
def TxSlots.reset (q : TxSlots) : TxSlots := { q with head := 0, tail := 0 }

namespace TxSpace

/-- `rte_eth_tx_burst` has taken the first `n` of `tx`, and `head` is moved. -/
def takeBurst (n : ℕ) (s : TxSpace) : TxSpace :=
  let tx := s.queue.tx.toList.drop s.queue.head.toNat
  { s with queue := { s.queue with head := s.queue.head + n.toUInt16 }
           sent := s.sent ++ tx.take n, calls := s.calls + 1 }

/-- The loop of `work_space_tx_flush` with its turns left; the flag says that it has returned.
`nic` says how many mbufs each call of `rte_eth_tx_burst` takes at most. -/
def txFlushTurns (nic : ℕ → ℕ) : ℕ → TxSpace → Bool × TxSpace
  | 0, s => (false, s)
  | turns + 1, s =>
      let num := min (s.queue.tail.toNat - s.queue.head.toNat) s.queue.txBurst.toNat
      let s := s.takeBurst (min (nic s.calls) num)
      if s.queue.head = s.queue.tail then (true, { s with queue := s.queue.reset })
      else if s.queue.tail.toNat < txQueueSize then (true, s)
      else txFlushTurns nic turns s

/-- `work_space_tx_flush`. -/
def workSpaceTxFlush (nic : ℕ → ℕ) (s : TxSpace) : TxSpace :=
  if s.queue.head = s.queue.tail then s
  else
    let r := txFlushTurns nic 8 s
    if r.1 then r.2
    else
      let num := r.2.queue.tail.toNat - r.2.queue.head.toNat
      { r.2 with queue := r.2.queue.reset, freed := r.2.queue.waiting ++ r.2.freed
                 txDrop := r.2.txDrop + num.toUInt64 }

/-- `work_space_tx_send`; there is no result if it would write behind the array. -/
def workSpaceTxSend (nic : ℕ → ℕ) (m : ℕ) (s : TxSpace) : Option TxSpace :=
  if h : s.queue.tail.toNat < txQueueSize then
    let queue : TxSlots := { s.queue with tx := s.queue.tx.set s.queue.tail.toNat m h
                                          tail := s.queue.tail + 1 }
    let s := { s with queue }
    if queue.txBurst.toNat ≤ queue.tail.toNat - queue.head.toNat ∨
        queue.tail.toNat = txQueueSize then
      some (workSpaceTxFlush nic s)
    else some s
  else none

/-- A call of one of the two functions. -/
inductive TxCall where
  | send (m : ℕ)
  | flush

/-- The mbufs sent in a run of calls. -/
def TxCall.sends : List TxCall → List ℕ
  | [] => []
  | send m :: calls => m :: sends calls
  | flush :: calls => sends calls

/-- A call. -/
def txCall (nic : ℕ → ℕ) (s : TxSpace) : TxCall → Option TxSpace
  | .send m => workSpaceTxSend nic m s
  | .flush => some (workSpaceTxFlush nic s)

end TxSpace

/-! ### The slots as a list -/

namespace TxSlots

/-- The positions are in order and in the array. -/
structure Placed (q : TxSlots) : Prop where
  head_le : q.head.toNat ≤ q.tail.toNat
  tail_le : q.tail.toNat ≤ txQueueSize

variable {q : TxSlots}

lemma placed_reset (q : TxSlots) : q.reset.Placed := ⟨le_rfl, Nat.zero_le _⟩

lemma waiting_reset (q : TxSlots) : q.reset.waiting = [] := by
  rw [waiting, reset]
  exact List.take_zero

namespace Placed

lemma length_waiting (h : q.Placed) : q.waiting.length = q.tail.toNat - q.head.toNat := by
  have hle := h.tail_le
  rw [waiting, List.length_take, List.length_drop, Vector.length_toList]
  omega

lemma waiting_eq_nil (h : q.Placed) : q.waiting = [] ↔ q.head = q.tail := by
  have hle := h.head_le
  rw [← List.length_eq_zero_iff, h.length_waiting, ← UInt16.toNat_inj]
  omega

lemma head_add_waiting (h : q.Placed) : q.head.toNat + q.waiting.length = q.tail.toNat := by
  rw [h.length_waiting, Nat.add_sub_cancel' h.head_le]

section Advance

variable {n : ℕ}

/-- The first `n` mbufs leave. -/
lemma toNat_advance (h : q.Placed) (hn : n ≤ q.tail.toNat - q.head.toNat) :
    (q.head + n.toUInt16).toNat = q.head.toNat + n := by
  have hhead := h.head_le
  have htail := h.tail_le
  rw [txQueueSize] at htail
  have hn16 : n.toUInt16.toNat = n := UInt16.toNat_ofNat_of_lt' (by rw [UInt16.size]; omega)
  rw [UInt16.toNat_add, hn16]
  omega

lemma advance (h : q.Placed) (hn : n ≤ q.tail.toNat - q.head.toNat) :
    Placed { q with head := q.head + n.toUInt16 } := by
  have hhead := h.head_le
  refine ⟨?_, h.tail_le⟩
  calc (q.head + n.toUInt16).toNat = q.head.toNat + n := h.toNat_advance hn
    _ ≤ q.tail.toNat := by omega

lemma waiting_advance (h : q.Placed) (hn : n ≤ q.tail.toNat - q.head.toNat) :
    waiting { q with head := q.head + n.toUInt16 } = q.waiting.drop n := by
  rw [waiting, h.toNat_advance hn, waiting, List.drop_take, List.drop_drop, Nat.sub_add_eq]

lemma take_waiting (hn : n ≤ q.tail.toNat - q.head.toNat) :
    (q.tx.toList.drop q.head.toNat).take n = q.waiting.take n := by
  rw [waiting, List.take_take, Nat.min_eq_left hn]

end Advance

/-- A mbuf is put behind the others. -/
lemma put (h : q.Placed) (ht : q.tail.toNat < txQueueSize) (m : ℕ) :
    let q' : TxSlots := { q with tx := q.tx.set q.tail.toNat m ht, tail := q.tail + 1 }
    q'.Placed ∧ q'.tail.toNat = q.tail.toNat + 1 ∧ q'.waiting = q.waiting ++ [m] := by
  intro q'
  have hhead := h.head_le
  have hsize : txQueueSize = 4096 := rfl
  have htail : q'.tail.toNat = q.tail.toNat + 1 := by
    show (q.tail + 1).toNat = q.tail.toNat + 1
    rw [UInt16.toNat_add, UInt16.toNat_one]
    omega
  refine ⟨⟨?_, ?_⟩, htail, ?_⟩
  · rw [htail]
    exact Nat.le_succ_of_le hhead
  · rw [htail]
    exact ht
  · have hlength : (q.tx.toList.take q.tail.toNat).length = q.tail.toNat := by
      rw [List.length_take, Vector.length_toList]
      omega
    have hset : q'.tx.toList =
        q.tx.toList.take q.tail.toNat ++ m :: q.tx.toList.drop (q.tail.toNat + 1) := by
      rw [Vector.toList_set, List.set_eq_take_append_cons_drop, Vector.length_toList, if_pos ht]
    have hfirst : q.waiting = (q.tx.toList.take q.tail.toNat).drop q.head.toNat := by
      rw [waiting, List.drop_take]
    have hlast : q.tail.toNat + 1 - q.head.toNat = q.waiting.length + 1 := by
      rw [h.length_waiting]
      omega
    rw [waiting, htail, hset, List.drop_append_of_le_length (hlength.symm ▸ hhead), ← hfirst, hlast,
      List.take_length_add_append, List.take_succ_cons, List.take_zero]

end Placed

end TxSlots

/-! ### The flush -/

namespace TxSpace

variable {p : PortSpace} {s : TxSpace}

/-- What the flush of the list of mbufs sees of the slots. -/
def flush (s : TxSpace) : Flush := ⟨s.queue.head.toNat, s.queue.waiting, s.sent, s.calls⟩

lemma flush_takeBurst (hq : s.queue.Placed) {n : ℕ}
    (hn : n ≤ s.queue.tail.toNat - s.queue.head.toNat) :
    (s.takeBurst n).flush = ⟨s.flush.head + n, s.flush.queued.drop n,
      s.flush.sent ++ s.flush.queued.take n, s.flush.calls + 1⟩ := by
  have hhead := hq.toNat_advance hn
  have hwaiting := hq.waiting_advance hn
  have htake := TxSlots.Placed.take_waiting hn
  simp only [flush, takeBurst, hhead, hwaiting, htake]

/-- The loop over the slots has done what the loop over the list does. -/
structure FlushShows (s : TxSpace) (r : Bool × TxSpace) (f : Bool × Flush) : Prop where
  returned : r.1 = f.1
  shown : r.2.flush = f.2
  placed : r.2.queue.Placed
  burst : r.2.queue.txBurst = s.queue.txBurst
  freed : r.2.freed = s.freed
  txDrop : r.2.txDrop = s.txDrop

/-- One turn, when the port has taken its mbufs: the queue is empty, it has room, or the loop
goes on. -/
lemma FlushShows.turn {t : TxSpace} {f : Flush} {r : Bool × TxSpace} {rf : Bool × Flush}
    (hshown : t.flush = f) (hq : t.queue.Placed) (hb : t.queue.txBurst = s.queue.txBurst)
    (hfreed : t.freed = s.freed) (hdrop : t.txDrop = s.txDrop) (hrest : FlushShows s r rf) :
    FlushShows s
      (if t.queue.head = t.queue.tail then (true, { t with queue := t.queue.reset })
        else if t.queue.tail.toNat < txQueueSize then (true, t) else r)
      (if f.queued = [] then (true, { f with head := 0 })
        else if f.head + f.queued.length < txQueueSize then (true, f) else rf) := by
  subst hshown
  have hempty : t.flush.queued = [] ↔ t.queue.head = t.queue.tail := hq.waiting_eq_nil
  have hroom : t.flush.head + t.flush.queued.length = t.queue.tail.toNat := hq.head_add_waiting
  rw [hroom]
  by_cases hdone : t.queue.head = t.queue.tail
  · rw [if_pos hdone, if_pos (hempty.mpr hdone)]
    refine ⟨rfl, ?_, TxSlots.placed_reset _, hb, hfreed, hdrop⟩
    have hreset : t.queue.reset.waiting = t.flush.queued :=
      (TxSlots.waiting_reset _).trans (hempty.mpr hdone).symm
    show (⟨0, t.queue.reset.waiting, t.sent, t.calls⟩ : Flush) = { t.flush with head := 0 }
    rw [hreset]
    rfl
  · rw [if_neg hdone, if_neg (hempty.not.mpr hdone)]
    split_ifs
    · exact ⟨rfl, rfl, hq, hb, hfreed, hdrop⟩
    · exact hrest

lemma txFlushTurns_shows (turns : ℕ) {s : TxSpace} (hb : s.queue.txBurst.toNat = p.txBurst)
    (hq : s.queue.Placed) :
    FlushShows s (txFlushTurns p.d.txBurst turns s) (txFlushLoop p turns s.flush) := by
  induction turns generalizing s with
  | zero => exact ⟨rfl, rfl, hq, rfl, rfl, rfl⟩
  | succ turns ih =>
      -- both loops let the port take the same number of mbufs
      have hnum : min (s.queue.tail.toNat - s.queue.head.toNat) s.queue.txBurst.toNat =
          min s.flush.queued.length p.txBurst := by
        rw [flush, hq.length_waiting, hb]
      rw [txFlushTurns, txFlushLoop, hnum]
      have hle : min (p.d.txBurst s.calls) (min s.flush.queued.length p.txBurst) ≤
          s.queue.tail.toNat - s.queue.head.toNat := by
        rw [← hnum]
        exact (Nat.min_le_right _ _).trans (Nat.min_le_left _ _)
      have hshown := flush_takeBurst hq hle
      have hplaced : (s.takeBurst _).queue.Placed := hq.advance hle
      have hrest := ih (s := s.takeBurst _) hb hplaced
      rw [hshown] at hrest
      exact FlushShows.turn hshown hplaced rfl rfl rfl
        ⟨hrest.returned, hrest.shown, hrest.placed, hrest.burst, hrest.freed, hrest.txDrop⟩

end TxSpace

/-! ### The queue of the port -/

/-- A flush of the transmit queue of `Nic`. -/
def Nic.txFlush (p : PortSpace) (n : Nic) : Nic :=
  if n.txQueue.queued = [] then n
  else workSpaceTxFlush p n.txQueue.head n.txQueue.queued n

/-- A call on the transmit queue of `Nic`. -/
def Nic.txCall (p : PortSpace) (n : Nic) : TxSpace.TxCall → Nic
  | .send m => workSpaceTxSend p m n
  | .flush => n.txFlush p

/-- What the transmit functions of `Nic` account for. -/
def Nic.outbox (n : Nic) : Outbox ℕ := ⟨n.sent, n.txQueue.queued, n.freed⟩

section Account

variable {p : PortSpace} {n : Nic} {puts : List ℕ}

/-- What waits, with what was sent before, is sent, waits or is dropped. -/
lemma workSpaceTxFlush_accounts {queued : List ℕ} (head : ℕ)
    (h : Outbox.Accounts ⟨n.sent, queued, n.freed⟩ puts) :
    (workSpaceTxFlush p head queued n).outbox.Accounts puts := by
  have hleave := h.leave (c := ⟨_, _, n.freed⟩)
    (txFlushLoop_kept p 8 ⟨head, queued, n.sent, n.calls⟩) rfl
  rw [workSpaceTxFlush]
  split_ifs
  · exact hleave
  · exact hleave.drop

lemma txCall_accounts (h : n.outbox.Accounts puts) (c : TxSpace.TxCall) :
    (n.txCall p c).outbox.Accounts (puts ++ TxSpace.TxCall.sends [c]) := by
  cases c with
  | send m =>
      have hput := h.put m
      show (workSpaceTxSend p m n).outbox.Accounts (puts ++ [m])
      rw [workSpaceTxSend]
      split_ifs
      · exact workSpaceTxFlush_accounts _ hput
      · exact hput
  | flush =>
      show (n.txFlush p).outbox.Accounts (puts ++ [])
      rw [List.append_nil, Nic.txFlush]
      split_ifs
      · exact h
      · exact workSpaceTxFlush_accounts _ h

end Account

/-! ### The slots refine the queue -/

namespace TxSpace

variable {p : PortSpace} {s : TxSpace} {n : Nic}

/-- The slots show the queue of `n`, and the number of freed mbufs is `tx_drop`. -/
structure Shows (p : PortSpace) (s : TxSpace) (n : Nic) : Prop where
  placed : s.queue.Placed
  burst : s.queue.txBurst.toNat = p.txBurst
  flush : s.flush = ⟨n.txQueue.head, n.txQueue.queued, n.sent, n.calls⟩
  freed : s.freed = n.freed
  txDrop : s.txDrop = s.freed.length.toUInt64

namespace Shows

/-- Between the calls there is room in the array. -/
lemma tail_lt (h : Shows p s n) : s.queue.tail.toNat < txQueueSize := by
  have hroom := n.txQueue.room
  have hflush := h.flush
  rw [TxSpace.flush, Flush.mk.injEq] at hflush
  rw [← h.placed.head_add_waiting, hflush.1, hflush.2.1]
  exact hroom

/-- A flush of slots that hold what is given to the flush of `n`. -/
lemma workSpaceTxFlush {head : ℕ} {queued : List ℕ} (hq : s.queue.Placed)
    (hb : s.queue.txBurst.toNat = p.txBurst) (hf : s.flush = ⟨head, queued, n.sent, n.calls⟩)
    (hfreed : s.freed = n.freed) (hdrop : s.txDrop = s.freed.length.toUInt64)
    (hne : queued ≠ []) :
    Shows p (s.workSpaceTxFlush p.d.txBurst) (Wire.workSpaceTxFlush p head queued n) := by
  have hloop := txFlushTurns_shows 8 hb hq
  have hwaiting : s.queue.waiting = queued := congrArg Flush.queued hf
  have hhead : s.queue.head ≠ s.queue.tail := by
    rw [ne_eq, ← hq.waiting_eq_nil, hwaiting]
    exact hne
  rw [hf] at hloop
  rw [TxSpace.workSpaceTxFlush, if_neg hhead, Wire.workSpaceTxFlush]
  dsimp only
  have hreturned := hloop.returned
  have hshown := hloop.shown
  by_cases hr : (txFlushLoop p 8 ⟨head, queued, n.sent, n.calls⟩).1 = true
  · rw [if_pos (hreturned.trans hr), dif_pos hr]
    refine ⟨hloop.placed, ?_, hshown, hloop.freed.trans hfreed, ?_⟩
    · rw [hloop.burst, hb]
    · rw [hloop.txDrop, hloop.freed, hdrop]
  · rw [if_neg (fun h => hr (hreturned.symm.trans h)), dif_neg hr]
    have hrest : (txFlushTurns p.d.txBurst 8 s).2.queue.waiting =
      (txFlushLoop p 8 ⟨head, queued, n.sent, n.calls⟩).2.queued := congrArg Flush.queued hshown
    refine ⟨TxSlots.placed_reset _, ?_, ?_, ?_, ?_⟩
    · rw [TxSlots.reset, hloop.burst, hb]
    · have hsent := congrArg Flush.sent hshown
      have hcalls := congrArg Flush.calls hshown
      dsimp only [TxSpace.flush] at hsent hcalls ⊢
      rw [TxSlots.waiting_reset, hsent, hcalls]
      rfl
    · rw [hloop.freed, hfreed, hrest]
    · rw [hloop.txDrop, hdrop, ← hloop.freed, ← hloop.placed.length_waiting, List.length_append,
        add_comm]
      exact (UInt64.ofNat_add _ _).symm

/-- Both calls are defined, and the slots go on to show the queue. -/
lemma txCall (h : Shows p s n) (c : TxCall) :
    ∃ s', TxSpace.txCall p.d.txBurst s c = some s' ∧ Shows p s' (n.txCall p c) := by
  have hflush := h.flush
  rw [TxSpace.flush, Flush.mk.injEq] at hflush
  obtain ⟨hhead, hwaiting, hsent, hcalls⟩ := hflush
  cases c with
  | flush =>
      refine ⟨_, rfl, ?_⟩
      show Shows p _ (n.txFlush p)
      rw [Nic.txFlush]
      split_ifs with hempty
      · rw [TxSpace.workSpaceTxFlush, if_pos (h.placed.waiting_eq_nil.mp (hwaiting.trans hempty))]
        exact h
      · exact workSpaceTxFlush h.placed h.burst h.flush h.freed h.txDrop hempty
  | send m =>
      obtain ⟨hplaced, htail, hput⟩ := h.placed.put h.tail_lt m
      have hfull := hplaced.head_add_waiting
      have hlength := hplaced.length_waiting
      rw [hput, hwaiting] at hfull hlength
      -- both sends flush, or none does
      have hcond : (s.queue.txBurst.toNat ≤ (s.queue.tail + 1).toNat - s.queue.head.toNat ∨
            (s.queue.tail + 1).toNat = txQueueSize) ↔
          (p.txBurst ≤ (n.txQueue.queued ++ [m]).length ∨
            n.txQueue.head + (n.txQueue.queued ++ [m]).length = txQueueSize) := by
        rw [← hhead, hfull, hlength, h.burst]
      have hshown : TxSpace.flush { s with queue := { s.queue with
            tx := s.queue.tx.set s.queue.tail.toNat m h.tail_lt, tail := s.queue.tail + 1 } } =
          ⟨n.txQueue.head, n.txQueue.queued ++ [m], n.sent, n.calls⟩ := by
        rw [TxSpace.flush, hput, hwaiting, hsent, hcalls, ← hhead]
      show ∃ s', workSpaceTxSend p.d.txBurst m s = some s' ∧ Shows p s' (Wire.workSpaceTxSend p m n)
      rw [workSpaceTxSend, dif_pos h.tail_lt, Wire.workSpaceTxSend]
      by_cases hflush : s.queue.txBurst.toNat ≤ (s.queue.tail + 1).toNat - s.queue.head.toNat ∨
          (s.queue.tail + 1).toNat = txQueueSize
      · rw [dif_pos (hcond.mp hflush)]
        exact ⟨_, if_pos hflush, workSpaceTxFlush hplaced h.burst hshown h.freed h.txDrop
          (List.append_ne_nil_of_right_ne_nil _ (List.cons_ne_nil _ _))⟩
      · rw [dif_neg (hcond.not.mp hflush)]
        exact ⟨_, if_neg hflush, hplaced, h.burst, hshown, h.freed, h.txDrop⟩

/-- A run of calls is defined, and ends in slots that show a queue that accounts for it. -/
lemma txCalls (calls : List TxCall) {puts : List ℕ} (h : Shows p s n)
    (ha : n.outbox.Accounts puts) :
    ∃ s' n', calls.foldlM (TxSpace.txCall p.d.txBurst) s = some s' ∧ Shows p s' n' ∧
      n'.outbox.Accounts (puts ++ TxCall.sends calls) := by
  induction calls generalizing s n puts with
  | nil => exact ⟨s, n, rfl, h, by rwa [TxCall.sends, List.append_nil]⟩
  | cons c calls ih =>
      obtain ⟨s₁, hs₁, h₁⟩ := h.txCall c
      obtain ⟨s', n', hs', h', ha'⟩ := ih h₁ (txCall_accounts ha c)
      refine ⟨s', n', ?_, h', ?_⟩
      · rw [List.foldlM_cons, hs₁]
        exact hs'
      · rw [List.append_assoc] at ha'
        cases c <;> exact ha'

end Shows

/-- The queue of a worker at its start. -/
def start (txBurst : UInt16) (tx : Vector ℕ txQueueSize) : TxSpace where
  queue := { head := 0, tail := 0, txBurst, tx }
  sent := []
  freed := []
  calls := 0
  txDrop := 0

end TxSpace

/-- The queue of a port before anything is sent. -/
def Nic.start : Nic where
  issued := 0
  freed := []
  freePool := ⟨[], mbufFreePool_room⟩
  txQueue := ⟨0, [], txQueue_room⟩
  sent := []
  kniMbufQueue := none
  kni := []
  calls := 0

lemma TxSpace.Shows.start {p : PortSpace} {txBurst : UInt16} (tx : Vector ℕ txQueueSize)
    (hb : txBurst.toNat = p.txBurst) : TxSpace.Shows p (TxSpace.start txBurst tx) Nic.start where
  placed := TxSlots.placed_reset (TxSpace.start txBurst tx).queue
  burst := hb
  flush := by
    have hwaiting := TxSlots.waiting_reset (TxSpace.start txBurst tx).queue
    show (⟨0, (TxSpace.start txBurst tx).queue.reset.waiting, [], 0⟩ : Flush) = ⟨0, [], [], 0⟩
    rw [hwaiting]
  freed := rfl
  txDrop := rfl

/-- **Transmit queue.** In every run of calls, whatever the port takes, all is written in the
array, the positions between the calls are in order and in the array, what has been sent and what
waits is in the order of the sends, and every mbuf is sent, waits, or is freed and counted. -/
theorem txCalls_account (nic : ℕ → ℕ) (txBurst : UInt16) (tx : Vector ℕ txQueueSize)
    (calls : List TxSpace.TxCall) :
    ∃ s, calls.foldlM (TxSpace.txCall nic) (TxSpace.start txBurst tx) = some s ∧
      s.queue.head ≤ s.queue.tail ∧ s.queue.tail.toNat < txQueueSize ∧
      (s.sent ++ s.queue.waiting).Sublist (TxSpace.TxCall.sends calls) ∧
      (TxSpace.TxCall.sends calls).Perm (s.sent ++ s.queue.waiting ++ s.freed) ∧
      s.txDrop = s.freed.length.toUInt64 := by
  let p : PortSpace :=
    { PortSpace.single with d := { PortSpace.single.d with txBurst := nic }
                            txBurst := txBurst.toNat }
  obtain ⟨s, n, hs, hshows, haccounts⟩ :=
    TxSpace.Shows.txCalls calls (TxSpace.Shows.start (p := p) tx rfl) Outbox.accounts_nil
  have houtbox : n.outbox = ⟨s.sent, s.queue.waiting, s.freed⟩ := by
    have hflush := hshows.flush
    rw [TxSpace.flush, Flush.mk.injEq] at hflush
    rw [Nic.outbox, hflush.2.1, hflush.2.2.1, hshows.freed]
  rw [houtbox] at haccounts
  exact ⟨s, hs, hshows.placed.head_le, hshows.tail_lt, haccounts.inOrder, haccounts.once,
    hshows.txDrop⟩

end Dperf.Wire
