import Dperf.Lib.Links
import Dperf.Worker

/-!
The timer queues in memory: the list functions of `socket.h` and `socket_timer.h` on the nodes that
they link, in place of the lists of `Timers`.

* `NodeMem`: the links of the nodes and the sockets they begin. The functions of the source are in
  its namespace.
* `TimerOp`: a call on one socket, or one turn of `socket_timer_run`. `TimerRuns` starts from
  memory of any contents, at the initialisation of the heads and of all sockets.
* `TimersWellFormed`: the queues are circular lists with links both ways, and every other socket is linked
  to itself; `TimerOp.Effect` is what an operation does to the lists.
* `call_simulates`: a worker whose queues are `Timers` does the same.
-/

namespace Dperf

open Links

variable {N : Type} [DecidableEq N]

/-- The nodes and the sockets, by their addresses. A socket has the address of its node, which is
its first field. -/
structure NodeMem (N : Type) where
  links : Links N
  sk : N → Socket

namespace NodeMem

/-- A change of the fields of a socket other than its node. -/
def onSk (sk : N) (f : Socket → Socket) (w : NodeMem N) : NodeMem N :=
  { w with sk := Function.update w.sk sk (f (w.sk sk)) }

/-- `socket_node_init`. -/
def socketNodeInit (sn : N) (w : NodeMem N) : NodeMem N := { w with links := w.links.init sn }

/-- `socket_node_del`. -/
def socketNodeDel (sn : N) (w : NodeMem N) : NodeMem N :=
  if sn ≠ w.links.next sn then socketNodeInit sn { w with links := w.links.bridge sn } else w

/-- `socket_queue_del`. -/
def socketQueueDel (sk : N) (w : NodeMem N) : NodeMem N := w.socketNodeDel sk

/-- `socket_queue_push`: `[head->prev] [new-node] [head]`. -/
def socketQueuePush (head sk : N) (w : NodeMem N) : NodeMem N :=
  { w with links := w.links.insertBefore head sk }

/-- `socket_queue_first`. -/
def socketQueueFirst (head : N) (w : NodeMem N) : Option N :=
  if w.links.next head ≠ head then some (w.links.next head) else none

/-- `socket_del_timer`. -/
def socketDelTimer (sk : N) (w : NodeMem N) : NodeMem N := w.socketQueueDel sk

/-- `socket_add_timer`. -/
def socketAddTimer (head sk : N) (nowTsc : UInt64) (w : NodeMem N) : NodeMem N :=
  let w := w.onSk sk fun s => { s with timerTsc := nowTsc }
  let w := w.socketQueueDel sk
  w.socketQueuePush head sk

/-- `socket_close`. -/
def socketClose (sk : N) (w : NodeMem N) : NodeMem N :=
  if (w.sk sk).state ≠ .closed then
    (w.onSk sk fun s => { s with state := .closed }).socketNodeDel sk
  else w

/-- `socket_server_open`. -/
def socketServerOpen (th : Tcphdr) (sk : N) (w : NodeMem N) : NodeMem N :=
  let w := if (w.sk sk).state ≠ .synReceived then w.onSk sk fun s => { s with state := .synReceived }
    else w
  let w := w.socketNodeDel sk
  w.onSk sk fun s => { s with
    retrans := 0, keepaliveRequestNum := 0, sndNxt := s.sndNxt + 1, sndUna := s.sndNxt + 1
    sndWindow := 1, rcvNxt := th.seq + 1 }

/-- A turn of the loop of `socket_timer_run`, up to the call of the handler. -/
def socketTimerPop (head : N) (timeout nowTsc : UInt64) (w : NodeMem N) : NodeMem N :=
  match w.socketQueueFirst head with
  | none => w
  | some sk => if (w.sk sk).timerTsc + timeout ≤ nowTsc then w.socketDelTimer sk else w

end NodeMem

/-! ### Operations -/

/-- An operation on the queues; `write` is anything that a handler does to the other fields of a
socket. -/
inductive TimerOp (ι : Type) where
  | nodeInit (i : ι)
  | addTimer (q : TimerKind) (i : ι) (nowTsc : UInt64)
  | delTimer (i : ι)
  | close (i : ι)
  | serverOpen (th : Tcphdr) (i : ι)
  | pop (q : TimerKind) (timeout nowTsc : UInt64)
  | write (i : ι) (sk : Socket)

namespace TimerOp

variable {ι : Type}

/-- The operation in memory. -/
def run (L : Layout TimerKind ι N) : TimerOp ι → NodeMem N → NodeMem N
  | nodeInit i => NodeMem.socketNodeInit (L.node i)
  | addTimer q i nowTsc => NodeMem.socketAddTimer (L.head q) (L.node i) nowTsc
  | delTimer i => NodeMem.socketDelTimer (L.node i)
  | close i => NodeMem.socketClose (L.node i)
  | serverOpen th i => NodeMem.socketServerOpen th (L.node i)
  | pop q timeout nowTsc => NodeMem.socketTimerPop (L.head q) timeout nowTsc
  | write i sk => NodeMem.onSk (L.node i) fun _ => sk

/-- `socket_node_init` is not called on a linked node: `socket_init` calls it before there are
queues, `socket_node_del` after it has taken the node out of its queue. -/
def Allowed (L : Layout TimerKind ι N) (w : NodeMem N) : TimerOp ι → Prop
  | nodeInit i => w.links.next (L.node i) = L.node i
  | _ => True

variable [DecidableEq ι]

/-- What the operation does to the queues, whose sockets are `sk`: a push puts the socket at the
end of its queue, a removal takes it out, and the others stay in their order. -/
def Effect (sk : ι → Socket) (t t' : Timers ι) : TimerOp ι → Prop
  | nodeInit _ => ∀ q, t'.list q = t.list q
  | addTimer q i _ => t'.list q = (t.list q).erase i ++ [i] ∧
      ∀ q', q' ≠ q → t'.list q' = (t.list q').erase i
  | delTimer i => ∀ q, t'.list q = (t.list q).erase i
  | close i => ∀ q, t'.list q = if (sk i).state = .closed then t.list q else (t.list q).erase i
  | serverOpen _ i => ∀ q, t'.list q = (t.list q).erase i
  | pop q timeout nowTsc => (∀ q', q' ≠ q → t'.list q' = t.list q') ∧
      match t.list q with
      | [] => t'.list q = []
      | i :: l => t'.list q = if (sk i).timerTsc + timeout ≤ nowTsc then l else i :: l
  | write _ _ => ∀ q, t'.list q = t.list q

/-- The queues after the operation. -/
def after (sk : ι → Socket) (t : Timers ι) : TimerOp ι → Timers ι
  | nodeInit _ => t
  | addTimer q i _ => t.enqueue q i
  | delTimer i => t.remove i
  | close i => if (sk i).state = .closed then t else t.remove i
  | serverOpen _ i => t.remove i
  | pop q timeout nowTsc =>
      match t.list q with
      | [] => t
      | i :: _ => if (sk i).timerTsc + timeout ≤ nowTsc then t.remove i else t
  | write _ _ => t

lemma effect_after (sk : ι → Socket) (t : Timers ι) (op : TimerOp ι) :
    op.Effect sk t (op.after sk t) := by
  cases op with
  | nodeInit i => exact fun _ => rfl
  | addTimer q i nowTsc =>
      exact ⟨Queues.list_enqueue_self .., fun q' hq => Queues.list_enqueue_ne hq ..⟩
  | delTimer i => exact fun _ => rfl
  | close i =>
      intro q
      rw [after]
      split_ifs <;> rfl
  | serverOpen th i => exact fun _ => rfl
  | pop q timeout nowTsc =>
      rw [Effect, after]
      cases hl : t.list q with
      | nil => exact ⟨fun _ _ => rfl, hl⟩
      | cons i l =>
          dsimp only
          split_ifs
          · refine ⟨fun q' hq => ?_, ?_⟩
            · -- the socket is in no other queue
              refine List.erase_of_not_mem fun hmem => hq (t.disjoint q' q i hmem ?_)
              rw [hl]
              exact List.mem_cons_self
            · rw [Queues.list_remove, hl, List.erase_cons_head]
          · exact ⟨fun _ _ => rfl, hl⟩
  | write i sk => exact fun _ => rfl

end TimerOp

/-! ### The lists in memory -/

/-- The queues in memory are circular lists through their heads, with links both ways, that have no
socket in common; every other socket is linked to itself. -/
structure TimersWellFormed {ι : Type} (L : Layout TimerKind ι N) (m : Links N) (t : Timers ι) :
    Prop where
  ring : ∀ q, m.Ring (L.head q) ((t.list q).map L.node)
  inverse : ∀ q, ∀ n ∈ L.nodes t q, m.prev (m.next n) = n ∧ m.next (m.prev n) = n
  disjoint : ∀ q q' i, i ∈ t.list q → i ∈ t.list q' → q = q'
  selfLinked : ∀ i, t.Unlinked i → m.next (L.node i) = L.node i ∧ m.prev (L.node i) = L.node i

/-- The memory that the operations lead to, from any contents. `socket_timer_init` and `socket_init`
initialise all nodes `ns` first. -/
inductive TimerRuns {ι : Type} (L : Layout TimerKind ι N) : NodeMem N → Prop
  | boot (w : NodeMem N) (ns : List N) (hhead : ∀ q, L.head q ∈ ns) (hnode : ∀ i, L.node i ∈ ns) :
      TimerRuns L (ns.foldl (fun w n => w.socketNodeInit n) w)
  | step {w : NodeMem N} (op : TimerOp ι) (h : TimerRuns L w) (hop : op.Allowed L w) :
      TimerRuns L (op.run L w)

section Runs

variable {ι : Type} {L : Layout TimerKind ι N} {w : NodeMem N} {t : Timers ι} {i : ι}

omit [DecidableEq N] in
lemma timersWellFormed_iff {m : Links N} : TimersWellFormed L m t ↔ Represents L m t := by
  constructor
  · exact fun h => ⟨h.ring, h.selfLinked⟩
  · intro h
    exact ⟨h.ring, fun q n hn => ⟨((h.ring q).next n hn).2, ((h.ring q).prev n hn).2⟩, t.disjoint,
      h.selfLinked⟩

/-- The nodes that have been initialised are linked to themselves. -/
lemma foldl_socketNodeInit (ns : List N) : ∀ w : NodeMem N, ∀ n ∈ ns,
    (ns.foldl (fun w n => w.socketNodeInit n) w).links.next n = n ∧
    (ns.foldl (fun w n => w.socketNodeInit n) w).links.prev n = n := by
  induction ns using List.reverseRecOn with
  | nil => exact fun w n hn => absurd hn List.not_mem_nil
  | append_singleton ns a ih =>
      intro w n hn
      rw [List.foldl_append, List.foldl_cons, List.foldl_nil, NodeMem.socketNodeInit]
      by_cases hna : n = a
      · rw [hna]
        exact ⟨Function.update_self .., Function.update_self ..⟩
      · rw [init_next_of_ne hna, init_prev_of_ne hna]
        refine ih w n ?_
        rcases List.mem_append.mp hn with hn | hn
        · exact hn
        · exact absurd (List.mem_singleton.mp hn) hna

lemma represents_boot (w : NodeMem N) {ns : List N} (hhead : ∀ q, L.head q ∈ ns)
    (hnode : ∀ i, L.node i ∈ ns) :
    Represents L (ns.foldl (fun w n => w.socketNodeInit n) w).links (Queues.empty TimerKind ι) :=
  ⟨fun q => foldl_socketNodeInit ns w _ (hhead q), fun i _ => foldl_socketNodeInit ns w _ (hnode i)⟩

/-- `socket_queue_first`. -/
lemma socketQueueFirst_eq (h : Represents L w.links t) (q : TimerKind) :
    w.socketQueueFirst (L.head q) = ((t.list q).map L.node).head? := by
  rw [NodeMem.socketQueueFirst, h.next_head]
  cases hl : t.list q with
  | nil => exact if_neg (not_not.mpr rfl)
  | cons i l => exact if_pos fun heq => L.head_ne_node q i heq.symm

variable [DecidableEq ι]

/-- `socket_node_del`. -/
lemma represents_socketNodeDel (h : Represents L w.links t) (i : ι) :
    Represents L (w.socketNodeDel (L.node i)).links (t.remove i) := by
  rw [NodeMem.socketNodeDel]
  split_ifs with hself
  · -- the node is linked to another one, so the socket is in a queue
    have hin : ¬ t.Unlinked i := fun hi => hself (h.next_eq_iff.mpr hi).symm
    rw [Queues.Unlinked, not_forall_not] at hin
    obtain ⟨q, hq⟩ := hin
    exact h.remove hq
  · rw [Represents.remove_of_unlinked (h.next_eq_iff.mp (not_not.mp hself).symm)]
    exact h

/-- `socket_add_timer`. -/
lemma represents_socketAddTimer (h : Represents L w.links t) (q : TimerKind) (i : ι)
    (nowTsc : UInt64) :
    Represents L (w.socketAddTimer (L.head q) (L.node i) nowTsc).links (t.enqueue q i) := by
  have hdel : Represents L _ (t.remove i) := represents_socketNodeDel
    (w := w.onSk (L.node i) fun s => { s with timerTsc := nowTsc }) h i
  have hpush := hdel.enqueue (Queues.unlinked_remove_self i t) q
  -- the socket is taken out before it is put in
  have htwice : (t.remove i).enqueue q i = t.enqueue q i := by
    refine Queues.ext (funext fun q' => ?_)
    have herase : ((t.list q').erase i).erase i = (t.list q').erase i :=
      List.erase_of_not_mem (Queues.unlinked_remove_self i t q')
    by_cases hq : q' = q
    · rw [hq, Queues.list_enqueue_self, Queues.list_enqueue_self, Queues.list_remove, ← hq, herase]
    · rw [Queues.list_enqueue_ne hq, Queues.list_enqueue_ne hq, Queues.list_remove, herase]
  rw [htwice] at hpush
  exact hpush

lemma represents_run (h : Represents L w.links t) (op : TimerOp ι) (hop : op.Allowed L w) :
    Represents L (op.run L w).links (op.after (fun i => w.sk (L.node i)) t) := by
  cases op with
  | nodeInit i => exact h.init (h.next_eq_iff.mp hop)
  | addTimer q i nowTsc => exact represents_socketAddTimer h q i nowTsc
  | delTimer i => exact represents_socketNodeDel h i
  | close i =>
      rw [TimerOp.run, TimerOp.after, NodeMem.socketClose]
      by_cases hc : (w.sk (L.node i)).state = .closed
      · rw [if_pos hc, if_neg (not_not.mpr hc)]
        exact h
      · rw [if_neg hc, if_pos hc]
        exact represents_socketNodeDel
          (w := w.onSk (L.node i) fun s => { s with state := .closed }) h i
  | serverOpen th i =>
      rw [TimerOp.run, TimerOp.after, NodeMem.socketServerOpen]
      split_ifs
      · exact represents_socketNodeDel
          (w := w.onSk (L.node i) fun s => { s with state := .synReceived }) h i
      · exact represents_socketNodeDel h i
  | pop q timeout nowTsc =>
      rw [TimerOp.run, TimerOp.after, NodeMem.socketTimerPop, socketQueueFirst_eq h]
      cases t.list q with
      | nil => exact h
      | cons i l =>
          rw [List.map_cons, List.head?_cons]
          dsimp only
          split_ifs
          · exact represents_socketNodeDel h i
          · exact h
  | write i sk => exact h

/-- **The timer queues.** In every memory that is reached, the three queues are well-formed lists.
Whatever lists these are, an operation leaves well-formed lists, which differ by its effect. -/
theorem timerQueues_wellFormed (h : TimerRuns L w) : (∃ t, TimersWellFormed L w.links t) ∧
    ∀ t, TimersWellFormed L w.links t → ∀ op : TimerOp ι, op.Allowed L w →
      ∃ t', op.Effect (fun i => w.sk (L.node i)) t t' ∧ TimersWellFormed L (op.run L w).links t' := by
  have hstep : ∀ {w t} (op : TimerOp ι), op.Allowed L w → TimersWellFormed L w.links t →
      TimersWellFormed L (op.run L w).links (op.after (fun i => w.sk (L.node i)) t) :=
    fun op hop ht => timersWellFormed_iff.mpr (represents_run (timersWellFormed_iff.mp ht) op hop)
  refine ⟨?_, fun t ht op hop => ⟨_, TimerOp.effect_after _ t op, hstep op hop ht⟩⟩
  induction h with
  | boot w ns hhead hnode => exact ⟨_, timersWellFormed_iff.mpr (represents_boot w hhead hnode)⟩
  | step op _ hop ih =>
      obtain ⟨t, ht⟩ := ih
      exact ⟨_, hstep op hop ht⟩

end Runs

/-- The addresses of the heads and of two sockets. -/
def twoSockets : Layout TimerKind (Fin 2) (TimerKind ⊕ Fin 2) where
  head := .inl
  node := .inr
  head_inj := Sum.inl_injective
  node_inj := Sum.inr_injective
  head_ne_node := fun _ _ h => by cases h

/-- Memory in which every link points to one head, after its nodes are initialised. -/
def twoSocketsBoot : NodeMem (TimerKind ⊕ Fin 2) :=
  [.inl .retransmit, .inl .keepalive, .inl .timeout, .inr 0, .inr 1].foldl
    (fun w n => w.socketNodeInit n)
    { links := { next := fun _ => .inl .timeout, prev := fun _ => .inl .timeout }, sk := fun _ => {} }

/-- Two sockets in the retransmit queue. -/
def twoSocketsPushed : NodeMem (TimerKind ⊕ Fin 2) :=
  (TimerOp.addTimer .retransmit 1 8).run twoSockets
    ((TimerOp.addTimer .retransmit 0 7).run twoSockets twoSocketsBoot)

/-- The first of them is taken out and put in again: it comes behind the other one. -/
theorem timerQueues_reinserted : ∃ t t' t'' : Timers (Fin 2),
    TimersWellFormed twoSockets twoSocketsPushed.links t ∧ t.list .retransmit = [0, 1] ∧
    TimersWellFormed twoSockets ((TimerOp.delTimer 0).run twoSockets twoSocketsPushed).links t' ∧
    t'.list .retransmit = [1] ∧
    TimersWellFormed twoSockets ((TimerOp.addTimer .retransmit 0 9).run twoSockets
      ((TimerOp.delTimer 0).run twoSockets twoSocketsPushed)).links t'' ∧
    t''.list .retransmit = [1, 0] := by
  have hhead : ∀ q, twoSockets.head q ∈
      [.inl .retransmit, .inl .keepalive, .inl .timeout, .inr 0, .inr 1] := by
    intro q
    cases q <;> simp [twoSockets]
  have hnode : ∀ i, twoSockets.node i ∈
      [.inl .retransmit, .inl .keepalive, .inl .timeout, .inr 0, .inr 1] := by
    intro i
    fin_cases i <;> simp [twoSockets]
  have hboot : TimerRuns twoSockets twoSocketsBoot := .boot _ _ hhead hnode
  have hempty : TimersWellFormed twoSockets twoSocketsBoot.links (Queues.empty _ _) :=
    timersWellFormed_iff.mpr (represents_boot _ hhead hnode)
  obtain ⟨t₁, ⟨hlist₁, -⟩, ht₁⟩ :=
    (timerQueues_wellFormed hboot).2 _ hempty (.addTimer .retransmit 0 7) trivial
  have hfirst := hboot.step (.addTimer .retransmit 0 7) trivial
  obtain ⟨t, ⟨hlist, -⟩, ht⟩ :=
    (timerQueues_wellFormed hfirst).2 t₁ ht₁ (.addTimer .retransmit 1 8) trivial
  have hpushed := hfirst.step (.addTimer .retransmit 1 8) trivial
  obtain ⟨t', hlist', ht'⟩ := (timerQueues_wellFormed hpushed).2 t ht (.delTimer 0) trivial
  have hremoved := hpushed.step (.delTimer 0) trivial
  obtain ⟨t'', ⟨hlist'', -⟩, ht''⟩ :=
    (timerQueues_wellFormed hremoved).2 t' ht' (.addTimer .retransmit 0 9) trivial
  have h₁ : t₁.list .retransmit = [0] := hlist₁
  have h₂ : t.list .retransmit = [0, 1] := by
    rw [hlist, h₁]
    rfl
  have h₃ : t'.list .retransmit = [1] := by
    rw [hlist', h₂]
    rfl
  refine ⟨t, t', t'', ht, h₂, ht', h₃, ht'', ?_⟩
  rw [hlist'', h₃]
  rfl

/-! ### The queues of a worker -/

/-- The operations that are calls on one socket. -/
def TimerOp.call {ι : Type} : TimerOp ι → Option (ι × (View → View))
  | .addTimer q i nowTsc => some (i, Dperf.socketAddTimer q nowTsc)
  | .delTimer i => some (i, Dperf.socketDelTimer)
  | .close i => some (i, Dperf.socketClose)
  | .serverOpen th i => some (i, Dperf.socketServerOpen th)
  | _ => none

lemma socketNodeDel_sk (sn : N) (w : NodeMem N) : (w.socketNodeDel sn).sk = w.sk := by
  rw [NodeMem.socketNodeDel]
  split_ifs <;> rfl

lemma socketClose_view (v : View) :
    (socketClose v).sk = (if v.sk.state = .closed then v.sk else { v.sk with state := .closed }) ∧
    (socketClose v).link = if v.sk.state = .closed then v.link else .self := by
  rw [socketClose]
  by_cases hc : v.sk.state = .closed
  · rw [if_neg (not_not.mpr hc), if_pos hc, if_pos hc]
    exact ⟨rfl, rfl⟩
  · rw [if_pos hc, if_neg hc, if_neg hc]
    exact ⟨rfl, rfl⟩

lemma socketServerOpen_view (th : Tcphdr) (v : View) :
    (socketServerOpen th v).sk = { v.sk with
      state := .synReceived, retrans := 0, keepaliveRequestNum := 0, sndNxt := v.sk.sndNxt + 1
      sndUna := v.sk.sndNxt + 1, sndWindow := 1, rcvNxt := th.seq + 1 } ∧
    (socketServerOpen th v).link = .self := by
  rw [socketServerOpen]
  by_cases hs : v.sk.state = .synReceived
  · rw [if_neg (not_not.mpr hs), ← hs]
    exact ⟨rfl, rfl⟩
  · rw [if_pos hs]
    exact ⟨rfl, rfl⟩

/-- A call on a worker does to its queues and sockets what the operation does in memory. -/
theorem call_simulates {n : ℕ} {L : Layout TimerKind (Fin n) N} {m : NodeMem N} {w : Worker n}
    (hm : Represents L m.links w.timers) (hsk : ∀ i, m.sk (L.node i) = w.pool i)
    {op : TimerOp (Fin n)} {i : Fin n} {f : View → View} (hcall : op.call = some (i, f)) :
    Represents L (op.run L m).links (w.on i f).timers ∧
      ∀ j, (op.run L m).sk (L.node j) = (w.on i f).pool j := by
  have hpool : (fun i => m.sk (L.node i)) = w.pool := funext hsk
  -- a write to the socket is a write to its slot
  have hwrite : ∀ s j, Function.update m.sk (L.node i) s (L.node j) =
      Function.update w.pool i s j := by
    intro s j
    by_cases hj : j = i
    · rw [hj, Function.update_self, Function.update_self]
    · rw [Function.update_of_ne hj, Function.update_of_ne fun heq => hj (L.node_inj heq), hsk]
  have hrun := represents_run hm op
  rw [hpool] at hrun
  change Represents L _ (w.timers.relink i (f (w.view i)).link) ∧
    ∀ j, _ = Function.update w.pool i (f (w.view i)).sk j
  cases op with
  | nodeInit i => cases hcall
  | addTimer q i nowTsc =>
      cases hcall
      refine ⟨hrun trivial, fun j => ?_⟩
      rw [TimerOp.run, NodeMem.socketAddTimer, NodeMem.socketQueuePush, NodeMem.socketQueueDel]
      dsimp only
      rw [socketNodeDel_sk, NodeMem.onSk, hsk]
      exact hwrite _ j
  | delTimer i =>
      cases hcall
      refine ⟨hrun trivial, fun j => ?_⟩
      rw [TimerOp.run, NodeMem.socketDelTimer, NodeMem.socketQueueDel, socketNodeDel_sk, hsk]
      exact (congrFun (Function.update_eq_self i w.pool) j).symm
  | close i =>
      cases hcall
      have hlink := hrun trivial
      obtain ⟨hview, hkeep⟩ := socketClose_view (w.view i)
      rw [TimerOp.after] at hlink
      rw [hview, hkeep, Worker.view]
      dsimp only
      by_cases hc : (w.pool i).state = .closed
      · rw [if_pos hc] at hlink
        rw [if_pos hc, if_pos hc]
        refine ⟨hlink, fun j => ?_⟩
        rw [TimerOp.run, NodeMem.socketClose, hsk, if_neg (not_not.mpr hc), hsk]
        exact (congrFun (Function.update_eq_self i w.pool) j).symm
      · rw [if_neg hc] at hlink
        rw [if_neg hc, if_neg hc]
        refine ⟨hlink, fun j => ?_⟩
        rw [TimerOp.run, NodeMem.socketClose, hsk, if_pos hc, socketNodeDel_sk, NodeMem.onSk, hsk]
        exact hwrite _ j
  | serverOpen th i =>
      cases hcall
      obtain ⟨hview, hlink⟩ := socketServerOpen_view th (w.view i)
      rw [hview, hlink, Worker.view]
      refine ⟨hrun trivial, fun j => ?_⟩
      rw [TimerOp.run, NodeMem.socketServerOpen]
      dsimp only
      by_cases hs : (w.pool i).state = .synReceived
      · rw [hsk, if_neg (not_not.mpr hs), NodeMem.onSk, socketNodeDel_sk, hsk, ← hs]
        exact hwrite _ j
      · rw [hsk, if_pos hs, NodeMem.onSk, socketNodeDel_sk, NodeMem.onSk, hsk]
        dsimp only
        rw [Function.update_self, Function.update_idem]
        exact hwrite _ j
  | pop q timeout nowTsc => cases hcall
  | write i sk => cases hcall

end Dperf
