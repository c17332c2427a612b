import Dperf.Lib.Queues
import Mathlib.Tactic

/-!
Circular doubly linked lists: nodes with a link each way, in a memory of links.

* `Links.Path m a l b`: from `a` through the nodes of `l` to `b`, linked both ways.
  `Links.Ring m h l` is a path from `h` back to `h`, a list with the head `h`.
* `Links.init`, `Links.bridge`, `Links.insertBefore`: link a node to itself, link its neighbours to
  each other, link it in before a node. `Ring.bridge`, `Ring.insertBefore` say what they do to a
  ring, `Ring.congr` that a ring depends on the links of its nodes only.
* `Links.Layout`, `Links.Represents`: the memory holds the queues of a `Queues`, and every other
  node is linked to itself. `Represents.init`, `.remove`, `.enqueue`, `.first` are the rules for the
  operations.
-/

/-- The links of the nodes `N`. -/
structure Links (N : Type*) where
  next : N → N
  prev : N → N

namespace Links

variable {N : Type*} {m m' : Links N} {a b c h n x : N} {l l₁ l₂ : List N}

/-! ### Paths -/

/-- From `a` through the nodes of `l` to `b`. -/
def Path (m : Links N) : N → List N → N → Prop
  | a, [], b => m.next a = b ∧ m.prev b = a
  | a, x :: l, b => (m.next a = x ∧ m.prev x = a) ∧ Path m x l b

/-- The list with the head `h` and the members `l`. -/
def Ring (m : Links N) (h : N) (l : List N) : Prop := m.Path h l h

lemma path_append : ∀ {l₁ : List N} {a : N},
    m.Path a (l₁ ++ x :: l₂) b ↔ m.Path a l₁ x ∧ m.Path x l₂ b := by
  intro l₁
  induction l₁ with
  | nil => exact Iff.rfl
  | cons y l₁ ih =>
      intro a
      rw [List.cons_append, Path, Path, ih, and_assoc, and_assoc, and_assoc]

/-- A path depends on the links along it only. -/
lemma Path.congr : ∀ {l : List N} {a : N}, m.Path a l b →
    (∀ x ∈ a :: l, m'.next x = m.next x) → (∀ y ∈ b :: l, m'.prev y = m.prev y) →
      m'.Path a l b := by
  intro l
  induction l with
  | nil =>
      intro a hp hnext hprev
      rw [Path, hnext a List.mem_cons_self, hprev b List.mem_cons_self]
      exact hp
  | cons x l ih =>
      intro a hp hnext hprev
      obtain ⟨hfirst, hrest⟩ := hp
      have hx : x ∈ b :: x :: l := List.mem_cons_of_mem b List.mem_cons_self
      refine ⟨?_, ih hrest (fun y hy => hnext y (List.mem_cons_of_mem a hy)) fun y hy => ?_⟩
      · rw [hnext a List.mem_cons_self, hprev x hx]
        exact hfirst
      · rcases List.mem_cons.mp hy with rfl | hy
        · exact hprev y List.mem_cons_self
        · exact hprev y (List.mem_cons_of_mem b (List.mem_cons_of_mem x hy))

/-- The node before the end, and back. -/
lemma Path.prev : ∀ {l : List N} {a : N}, m.Path a l b →
    ∀ y ∈ b :: l, m.prev y ∈ a :: l ∧ m.next (m.prev y) = y := by
  intro l
  induction l with
  | nil =>
      intro a hp y hy
      obtain ⟨hnext, hprev⟩ := hp
      rw [List.mem_singleton.mp hy, hprev]
      exact ⟨List.mem_cons_self, hnext⟩
  | cons x l ih =>
      intro a hp y hy
      obtain ⟨⟨hnext, hprev⟩, hrest⟩ := hp
      rcases List.mem_cons.mp hy with rfl | hy
      · obtain ⟨hmem, heq⟩ := ih hrest y List.mem_cons_self
        exact ⟨List.mem_cons_of_mem a hmem, heq⟩
      · rcases List.mem_cons.mp hy with rfl | hy
        · rw [hprev]
          exact ⟨List.mem_cons_self, hnext⟩
        · obtain ⟨hmem, heq⟩ := ih hrest y (List.mem_cons_of_mem b hy)
          exact ⟨List.mem_cons_of_mem a hmem, heq⟩

/-- The node after a node of the path, and back. -/
lemma Path.next : ∀ {l : List N} {a : N}, m.Path a l b →
    ∀ x ∈ a :: l, m.next x ∈ b :: l ∧ m.prev (m.next x) = x := by
  intro l
  induction l with
  | nil =>
      intro a hp x hx
      obtain ⟨hnext, hprev⟩ := hp
      rw [List.mem_singleton.mp hx, hnext]
      exact ⟨List.mem_cons_self, hprev⟩
  | cons y l ih =>
      intro a hp x hx
      obtain ⟨⟨hnext, hprev⟩, hrest⟩ := hp
      rcases List.mem_cons.mp hx with rfl | hx
      · rw [hnext]
        exact ⟨List.mem_cons_of_mem b List.mem_cons_self, hprev⟩
      · obtain ⟨hmem, heq⟩ := ih hrest x hx
        refine ⟨?_, heq⟩
        rcases List.mem_cons.mp hmem with hb | hmem
        · exact hb ▸ List.mem_cons_self
        · exact List.mem_cons_of_mem b (List.mem_cons_of_mem y hmem)

/-- A path whose last link is turned to another node. -/
lemma Path.redirect : ∀ {l : List N} {a : N}, m.Path a l b → (a :: l).Nodup →
    m'.next (m.prev b) = c → m'.prev c = m.prev b →
    (∀ x ∈ a :: l, x ≠ m.prev b → m'.next x = m.next x) → (∀ y ∈ l, m'.prev y = m.prev y) →
      m'.Path a l c := by
  intro l
  induction l with
  | nil =>
      intro a hp _ hnext hprev _ _
      obtain ⟨-, hb⟩ := hp
      rw [hb] at hnext hprev
      exact ⟨hnext, hprev⟩
  | cons x l ih =>
      intro a hp hnd hnext hprev hkeep hback
      obtain ⟨hfirst, hrest⟩ := hp
      rw [List.nodup_cons] at hnd
      -- the last link starts behind `a`
      have hlast := (hrest.prev b List.mem_cons_self).1
      have ha : a ≠ m.prev b := fun heq => hnd.1 (heq ▸ hlast)
      refine ⟨?_, ih hrest hnd.2 hnext hprev (fun y hy => hkeep y (List.mem_cons_of_mem a hy))
        fun y hy => hback y (List.mem_cons_of_mem x hy)⟩
      rw [hkeep a List.mem_cons_self ha, hback x List.mem_cons_self]
      exact hfirst

/-- A member is not linked to itself. -/
lemma Ring.next_ne (hr : m.Ring h l) (hnd : (h :: l).Nodup) (hn : n ∈ l) : m.next n ≠ n := by
  obtain ⟨l₁, l₂, rfl⟩ := List.append_of_mem hn
  obtain ⟨-, hpath⟩ := path_append.mp hr
  rw [List.nodup_cons, List.nodup_append] at hnd
  obtain ⟨hhead, -, hnd, -⟩ := hnd
  intro heq
  rcases List.mem_cons.mp (hpath.next n List.mem_cons_self).1 with hmem | hmem
  · exact hhead (by rw [← hmem, heq]; exact hn)
  · rw [heq] at hmem
    exact (List.nodup_cons.mp hnd).1 hmem

/-! ### Writing links -/

section Write

variable [DecidableEq N]

/-- Link a node to itself. -/
def init (n : N) (m : Links N) : Links N :=
  { next := Function.update m.next n n, prev := Function.update m.prev n n }

/-- Link the neighbours of a node to each other. -/
def bridge (n : N) (m : Links N) : Links N :=
  { next := Function.update m.next (m.prev n) (m.next n)
    prev := Function.update m.prev (m.next n) (m.prev n) }

/-- Link a node in before `h`. -/
def insertBefore (h n : N) (m : Links N) : Links N :=
  { next := Function.update (Function.update m.next n h) (m.prev h) n
    prev := Function.update (Function.update m.prev n (m.prev h)) h n }

lemma init_next_of_ne (hx : x ≠ n) : (m.init n).next x = m.next x := Function.update_of_ne hx ..

lemma init_prev_of_ne (hx : x ≠ n) : (m.init n).prev x = m.prev x := Function.update_of_ne hx ..

/-- The other nodes of a ring stay linked when a member is bridged. -/
lemma Ring.bridge (hr : m.Ring h (l₁ ++ n :: l₂)) (hnd : (h :: (l₁ ++ n :: l₂)).Nodup) :
    (m.bridge n).Ring h (l₁ ++ l₂) := by
  obtain ⟨hto, hfrom⟩ := path_append.mp hr
  rw [List.nodup_cons, List.nodup_append, List.nodup_cons] at hnd
  obtain ⟨hhead, hnd₁, ⟨hn, hnd₂⟩, hdisj⟩ := hnd
  rw [List.mem_append, List.mem_cons] at hhead
  have hnext := (hfrom.next n List.mem_cons_self).1
  have hprev := (hto.prev n List.mem_cons_self).1
  have hpath : (m.bridge n).Path h l₁ (m.next n) := by
    refine hto.redirect (List.nodup_cons.mpr ⟨fun hl => hhead (.inl hl), hnd₁⟩)
      (Function.update_self ..) (Function.update_self ..)
      (fun x _ hx => Function.update_of_ne hx ..) fun y hy => Function.update_of_ne ?_ ..
    -- the node behind `n` is not before it
    intro heq
    rcases List.mem_cons.mp hnext with hh | hl
    · exact hhead (.inl (by rw [← hh, ← heq]; exact hy))
    · exact hdisj y hy (m.next n) (List.mem_cons_of_mem n hl) heq
  cases l₂ with
  | nil =>
      obtain ⟨heq, -⟩ := hfrom
      rw [heq] at hpath
      rw [List.append_nil]
      exact hpath
  | cons x l₂ =>
      obtain ⟨⟨heq, -⟩, hrest⟩ := hfrom
      rw [heq] at hpath
      refine path_append.mpr ⟨hpath, hrest.congr (fun y hy => Function.update_of_ne ?_ ..)
        fun y hy => Function.update_of_ne ?_ ..⟩
      · intro hy'
        rw [hy'] at hy
        rcases List.mem_cons.mp hprev with hh | hl
        · exact hhead (.inr (.inr (hh ▸ hy)))
        · exact hdisj _ hl _ (List.mem_cons_of_mem n hy) rfl
      · rw [heq]
        rintro rfl
        rcases List.mem_cons.mp hy with rfl | hy
        · exact hhead (.inr (.inr List.mem_cons_self))
        · exact (List.nodup_cons.mp hnd₂).1 hy

/-- A node that is linked in before the head is the last member. -/
lemma Ring.insertBefore (hr : m.Ring h l) (hnd : (h :: l).Nodup) (hn : n ∉ h :: l) :
    (m.insertBefore h n).Ring h (l ++ [n]) := by
  have hlast := (hr.prev h List.mem_cons_self).1
  have hne : n ≠ h := fun heq => hn (heq ▸ List.mem_cons_self)
  refine path_append.mpr ⟨?_, ?_, Function.update_self ..⟩
  · refine Path.redirect hr hnd (Function.update_self ..) ?_ (fun x hx hx' => ?_) fun y hy => ?_
    · rw [Links.insertBefore]
      dsimp only
      rw [Function.update_of_ne hne, Function.update_self]
    · rw [Links.insertBefore]
      dsimp only
      have hxn : x ≠ n := fun heq => hn (heq ▸ hx)
      rw [Function.update_of_ne hx', Function.update_of_ne hxn]
    · rw [Links.insertBefore]
      dsimp only
      have hyh : y ≠ h := fun heq => (List.nodup_cons.mp hnd).1 (heq ▸ hy)
      have hyn : y ≠ n := fun heq => hn (heq ▸ List.mem_cons_of_mem h hy)
      rw [Function.update_of_ne hyh, Function.update_of_ne hyn]
  · rw [Links.insertBefore]
    dsimp only
    have hne' : n ≠ m.prev h := fun heq => hn (heq ▸ hlast)
    rw [Function.update_of_ne hne', Function.update_self]

end Write

/-! ### Queues in memory -/

/-- The nodes of the queues `κ` and the members `ι`. -/
structure Layout (κ ι N : Type*) where
  head : κ → N
  node : ι → N
  head_inj : Function.Injective head
  node_inj : Function.Injective node
  head_ne_node : ∀ k i, head k ≠ node i

variable {κ ι : Type*}

/-- The nodes of a queue. -/
def Layout.nodes (L : Layout κ ι N) (q : Queues κ ι) (k : κ) : List N :=
  L.head k :: (q.list k).map L.node

/-- The memory holds the queues, and the nodes of the other members are linked to themselves. -/
structure Represents (L : Layout κ ι N) (m : Links N) (q : Queues κ ι) : Prop where
  ring : ∀ k, m.Ring (L.head k) ((q.list k).map L.node)
  selfLinked : ∀ i, q.Unlinked i → m.next (L.node i) = L.node i ∧ m.prev (L.node i) = L.node i

variable {L : Layout κ ι N} {q : Queues κ ι} {i j : ι} {k k' : κ}

lemma Layout.mem_map_node {l : List ι} : L.node i ∈ l.map L.node ↔ i ∈ l :=
  List.mem_map_of_injective L.node_inj

lemma Layout.node_mem_nodes : L.node i ∈ L.nodes q k ↔ i ∈ q.list k := by
  rw [nodes, List.mem_cons, mem_map_node]
  exact or_iff_right fun heq => L.head_ne_node k i heq.symm

lemma Layout.nodup_nodes : (L.nodes q k).Nodup := by
  refine List.nodup_cons.mpr ⟨fun hmem => ?_, (q.nodup k).map L.node_inj⟩
  obtain ⟨i, -, heq⟩ := List.mem_map.mp hmem
  exact L.head_ne_node k i heq.symm

/-- Two queues have no node in common. -/
lemma Layout.eq_of_mem_nodes (hk : n ∈ L.nodes q k) (hk' : n ∈ L.nodes q k') : k = k' := by
  rcases List.mem_cons.mp hk with rfl | hk
  · rcases List.mem_cons.mp hk' with heq | hk'
    · exact L.head_inj heq
    · obtain ⟨i, -, heq⟩ := List.mem_map.mp hk'
      exact absurd heq.symm (L.head_ne_node k i)
  · obtain ⟨i, hi, rfl⟩ := List.mem_map.mp hk
    exact q.disjoint k k' i hi (node_mem_nodes.mp hk')

namespace Represents

/-- Links that are not those of a queue do not matter to it. -/
lemma ring_congr (hm : Represents L m q) (k : κ) (hnext : ∀ x ∈ L.nodes q k, m'.next x = m.next x)
    (hprev : ∀ x ∈ L.nodes q k, m'.prev x = m.prev x) :
    m'.Ring (L.head k) ((q.list k).map L.node) := (hm.ring k).congr hnext hprev

/-- The first member of a queue. -/
lemma next_head (hm : Represents L m q) (k : κ) : m.next (L.head k) =
    ((q.list k).map L.node).headD (L.head k) := by
  have hr := hm.ring k
  cases hl : (q.list k).map L.node with
  | nil =>
      rw [hl] at hr
      exact hr.1
  | cons n l =>
      rw [hl] at hr
      exact hr.1.1

/-- A member is linked to itself if and only if it is in no queue. -/
lemma next_eq_iff (hm : Represents L m q) : m.next (L.node i) = L.node i ↔ q.Unlinked i := by
  constructor
  · intro heq k hk
    exact (hm.ring k).next_ne Layout.nodup_nodes (Layout.mem_map_node.mpr hk) heq
  · exact fun hi => (hm.selfLinked i hi).1

variable [DecidableEq N]

/-- A member that is in no queue may be linked to itself again. -/
lemma init (hm : Represents L m q) (hi : q.Unlinked i) : Represents L (m.init (L.node i)) q := by
  have hout : ∀ k, ∀ x ∈ L.nodes q k, x ≠ L.node i := by
    rintro k x hx rfl
    exact hi k (Layout.node_mem_nodes.mp hx)
  refine ⟨fun k => hm.ring_congr k (fun x hx => init_next_of_ne (hout k x hx)) fun x hx =>
    init_prev_of_ne (hout k x hx), fun j hj => ?_⟩
  by_cases hji : j = i
  · rw [hji]
    exact ⟨Function.update_self .., Function.update_self ..⟩
  · have hne : L.node j ≠ L.node i := fun heq => hji (L.node_inj heq)
    rw [init_next_of_ne hne, init_prev_of_ne hne]
    exact hm.selfLinked j hj

variable [DecidableEq ι]

/-- Bridging a member and linking it to itself takes it out of its queue. -/
lemma remove (hm : Represents L m q) (hi : i ∈ q.list k) :
    Represents L ((m.bridge (L.node i)).init (L.node i)) (q.remove i) := by
  have hring := hm.ring k
  have hmem : L.node i ∈ L.nodes q k := Layout.node_mem_nodes.mpr hi
  have hnext : m.next (L.node i) ∈ L.nodes q k := (hring.next _ hmem).1
  have hprev : m.prev (L.node i) ∈ L.nodes q k := (hring.prev _ hmem).1
  -- outside of the queue nothing is written
  have hout : ∀ x, x ∉ L.nodes q k → ((m.bridge (L.node i)).init (L.node i)).next x = m.next x ∧
      ((m.bridge (L.node i)).init (L.node i)).prev x = m.prev x := by
    intro x hx
    have hx' : ∀ y ∈ L.nodes q k, x ≠ y := fun y hy heq => hx (heq ▸ hy)
    rw [init_next_of_ne (hx' _ hmem), init_prev_of_ne (hx' _ hmem)]
    exact ⟨Function.update_of_ne (hx' _ hprev) .., Function.update_of_ne (hx' _ hnext) ..⟩
  constructor
  · intro k'
    by_cases hk : k' = k
    · subst hk
      obtain ⟨l₁, l₂, hl⟩ := List.append_of_mem hi
      have hnd := q.nodup k'
      rw [hl] at hnd
      have hi₁ : i ∉ l₁ := fun hmem => by
        rw [List.nodup_append] at hnd
        exact hnd.2.2 i hmem i List.mem_cons_self rfl
      have hi₂ : i ∉ l₂ := by
        rw [List.nodup_append, List.nodup_cons] at hnd
        exact hnd.2.1.1
      have herase : ((q.remove i).list k').map L.node = l₁.map L.node ++ l₂.map L.node := by
        rw [Queues.list_remove, hl, List.erase_append_right _ hi₁, List.erase_cons_head,
          List.map_append]
      have hnodes := Layout.nodup_nodes (L := L) (q := q) (k := k')
      rw [Layout.nodes, hl, List.map_append, List.map_cons] at hnodes
      rw [hl, List.map_append, List.map_cons] at hring
      rw [herase]
      have hkept : ∀ x ∈ L.head k' :: (l₁.map L.node ++ l₂.map L.node), x ≠ L.node i := by
        rintro x hx rfl
        rcases List.mem_cons.mp hx with hh | hx
        · exact L.head_ne_node k' i hh.symm
        · rw [← List.map_append, Layout.mem_map_node, List.mem_append] at hx
          exact hx.elim hi₁ hi₂
      exact (hring.bridge hnodes).congr (fun x hx => init_next_of_ne (hkept x hx)) fun x hx =>
        init_prev_of_ne (hkept x hx)
    · have hi' : i ∉ q.list k' := fun hmem => hk (q.disjoint k' k i hmem hi)
      have hother : ∀ x ∈ L.nodes q k', x ∉ L.nodes q k := fun x hx hx' =>
        hk (Layout.eq_of_mem_nodes hx hx')
      rw [Queues.list_remove, List.erase_of_not_mem hi']
      exact hm.ring_congr k' (fun x hx => (hout x (hother x hx)).1) fun x hx =>
        (hout x (hother x hx)).2
  · intro j hj
    by_cases hji : j = i
    · rw [hji]
      exact ⟨Function.update_self .., Function.update_self ..⟩
    · have hun : q.Unlinked j := fun k' hk' => hj k' (Queues.mem_remove.mpr ⟨hji, hk'⟩)
      have hno : L.node j ∉ L.nodes q k := fun hmem => hun k (Layout.node_mem_nodes.mp hmem)
      rw [(hout _ hno).1, (hout _ hno).2]
      exact hm.selfLinked j hun

/-- A member that is in no queue stays out. -/
lemma remove_of_unlinked (hi : q.Unlinked i) : q.remove i = q := by
  refine Queues.ext (funext fun k => ?_)
  rw [Queues.list_remove, List.erase_of_not_mem (hi k)]

variable [DecidableEq κ]

/-- Linking a member in before the head puts it at the end of the queue. -/
lemma enqueue (hm : Represents L m q) (hi : q.Unlinked i) (k : κ) :
    Represents L (m.insertBefore (L.head k) (L.node i)) (q.enqueue k i) := by
  have hmem : L.head k ∈ L.nodes q k := List.mem_cons_self
  have hprev : m.prev (L.head k) ∈ L.nodes q k := ((hm.ring k).prev _ hmem).1
  have hnode : ∀ k', L.node i ∉ L.nodes q k' := fun k' h => hi k' (Layout.node_mem_nodes.mp h)
  have hout : ∀ x, x ∉ L.nodes q k → x ≠ L.node i →
      (m.insertBefore (L.head k) (L.node i)).next x = m.next x ∧
      (m.insertBefore (L.head k) (L.node i)).prev x = m.prev x := by
    intro x hx hxi
    have hx' : ∀ y ∈ L.nodes q k, x ≠ y := fun y hy heq => hx (heq ▸ hy)
    rw [insertBefore]
    dsimp only
    rw [Function.update_of_ne (hx' _ hprev), Function.update_of_ne hxi,
      Function.update_of_ne (hx' _ hmem), Function.update_of_ne hxi]
    exact ⟨rfl, rfl⟩
  constructor
  · intro k'
    by_cases hk : k' = k
    · subst hk
      rw [Queues.list_enqueue_self, List.erase_of_not_mem (hi k'), List.map_append]
      exact (hm.ring k').insertBefore Layout.nodup_nodes (hnode k')
    · have hother : ∀ x ∈ L.nodes q k', x ∉ L.nodes q k ∧ x ≠ L.node i := fun x hx =>
        ⟨fun hx' => hk (Layout.eq_of_mem_nodes hx hx'), fun heq => hnode k' (heq ▸ hx)⟩
      rw [Queues.list_enqueue_ne hk, List.erase_of_not_mem (hi k')]
      exact hm.ring_congr k' (fun x hx => (hout x (hother x hx).1 (hother x hx).2).1) fun x hx =>
        (hout x (hother x hx).1 (hother x hx).2).2
  · intro j hj
    have hji : j ≠ i := fun heq => hj k (heq ▸ Queues.mem_enqueue_self.mpr rfl)
    have hun : q.Unlinked j := fun k' hk' => hj k' ((Queues.mem_enqueue_ne hji).mpr hk')
    have hno : L.node j ∉ L.nodes q k := fun hmem => hun k (Layout.node_mem_nodes.mp hmem)
    have hne : L.node j ≠ L.node i := fun heq => hji (L.node_inj heq)
    rw [(hout _ hno hne).1, (hout _ hno hne).2]
    exact hm.selfLinked j hun

end Represents

end Links
