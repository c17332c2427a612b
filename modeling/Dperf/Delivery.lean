import Dperf.Agreement

/-!
The requests of a client reach the parser of its server in the order in which they were made.

* `issuedRequests`: the requests of a client, each counted when it is sent for the first time.
* `Delivery`: what has been issued compared with what has been passed on. All has been passed on, or
  all but the last one (`Pending`).
* `Delivery.client`, `Delivery.server`: a move of either end keeps it.
-/

namespace Dperf

open Peers Sequence

/-! ### Requests of the client -/

/-- A request that is sent for the first time. -/
def Obs.issued : Obs → Option (UInt32 × List UInt8)
  | .sent seg _ _ fresh => if fresh = 0 ∨ seg.data = [] then none else some (seg.seq, seg.data)
  | _ => none

/-- The requests that a client has made, the first one first. -/
def issuedRequests (l : List Obs) : List (UInt32 × List UInt8) := l.filterMap Obs.issued

section Issued

variable {ws : WorkSpace} {l r : List Obs} {m : Mbuf} {v u : View} {f : UInt8}

@[simp] lemma issuedRequests_append :
    issuedRequests (l ++ r) = issuedRequests l ++ issuedRequests r :=
  List.filterMap_append

/-- A request of a reply: a payload goes out, and nothing was outstanding. -/
def ReplyIssues (ws : WorkSpace) (f : UInt8) (v : View) : Prop :=
  ws.mbufAlloc v.allocs = true ∧ v.sk.sndNxt = v.sk.sndUna ∧ payload ws f ≠ []

instance (ws : WorkSpace) (f : UInt8) (v : View) : Decidable (ReplyIssues ws f v) :=
  inferInstanceAs (Decidable (_ ∧ _ ∧ _))

lemma replyFresh_ne_zero (h : ReplyIssues ws f v) : (replyFresh ws f v).toNat ≠ 0 := by
  have hpos : 0 < (payload ws f).length := List.length_pos_iff.mpr h.2.2
  -- a `SYN` carries no payload
  have hsyn : hasFlag f thSyn = false := by
    by_contra hsyn
    exact h.2.2 (if_pos (by simpa using hsyn))
  rw [replyFresh_toNat (.inl hsyn) h.1 h.2.1, segLen]
  omega

lemma issuedRequests_reply (ws : WorkSpace) (f : UInt8) (v : View) (l : List Obs) :
    issuedRequests (l ++ (tcpReply ws f v).trace) = issuedRequests (l ++ v.trace) ++
      if ReplyIssues ws f v then [(v.sk.sndUna, payload ws f)] else [] := by
  rw [tcpReply_trace, ← List.append_assoc, issuedRequests_append (l := l ++ v.trace)]
  congr 1
  by_cases ha : ws.mbufAlloc v.allocs = true
  · rw [if_pos ha]
    by_cases hn : v.sk.sndNxt = v.sk.sndUna
    · by_cases hp : payload ws f = []
      · simp [issuedRequests, Obs.issued, replySegment, hp, ReplyIssues]
      · have hr : ReplyIssues ws f v := ⟨ha, hn, hp⟩
        have hne := replyFresh_ne_zero hr
        rw [if_pos hr]
        simp [issuedRequests, Obs.issued, replySegment, hp, hne]
    · have hr : ¬ ReplyIssues ws f v := fun h => hn h.2.1
      rw [if_neg hr, replyFresh_outstanding hn]
      rfl
  · have hr : ¬ ReplyIssues ws f v := fun h => ha h.1
    rw [if_neg ha, if_neg hr]
    rfl

/-- An accepted segment is no request of this end. -/
lemma Accepted.issued (h : Accepted ws m v u) (l : List Obs) :
    issuedRequests (l ++ u.trace) = issuedRequests (l ++ v.trace) := by
  obtain ⟨r, hr, hreq⟩ := h.trace
  rw [hr, ← List.append_assoc, issuedRequests_append (l := l ++ v.trace)]
  rcases hreq with rfl | ⟨-, -, rfl⟩
  · exact List.append_nil _
  · exact List.append_nil _

lemma issuedRequests_nil (h : sentSegments l = []) : issuedRequests l = [] := by
  rw [issuedRequests, List.filterMap_eq_nil_iff]
  intro o ho
  have hnone : o.segment = none := (List.filterMap_eq_nil_iff.mp h) o ho
  cases o with
  | sent => cases hnone
  | _ => rfl

end Issued

/-! ### What is issued and what is passed on -/

/-- The last request of `c` has not been passed on by `s`. While the client is `ESTABLISHED` it is
still outstanding. -/
structure Pending (c s : Slot) : Prop where
  one : ∃ q, issuedRequests c.obs = passedRequests s.obs ++ [q]
  opened : .established ≤ c.sk.state
  outstanding : c.sk.state = .established →
    c.sk.sndNxt ≠ c.sk.sndUna ∧ s.sk.rcvNxt = c.sk.sndUna

/-- The requests of the client `c` and what its server `s` has passed on. -/
structure Delivery (wc : WorkSpace) (c s : Slot) : Prop where
  again : c.sk.state ≠ .closed → c.sk.sndNxt ≠ c.sk.sndUna → payload wc c.sk.flags ≠ [] →
    (c.sk.sndUna, payload wc c.sk.flags) ∈ issuedRequests c.obs
  flags : c.sk.state ≠ .closed → c.sk.state ≤ .established → hasFlag c.sk.flags thFin = false
  data : ∀ seg ∈ sentSegments c.obs, seg.data ≠ [] → (seg.seq, seg.data) ∈ issuedRequests c.obs
  fins : c.sk.state ≤ .established → ∀ seg ∈ sentSegments c.obs, hasFlag seg.flags thFin = false
  ordered : passedRequests s.obs <+: issuedRequests c.obs
  last : s.sk.state ≤ .established →
    passedRequests s.obs = issuedRequests c.obs ∨ Pending c s

namespace Delivery

variable {wc ws : WorkSpace} {k : Call} {crossing overrun early : Prop} {c c' s s' p : Slot}
  {v v' u : View} {f : UInt8} {m : Mbuf} {b : UInt32}

lemma not_le_of_lt {t : SkState} (h : .established < t) : ¬ t ≤ .established := Nat.not_le.mpr h

lemma le_of_lt {t : SkState} (h : .established < t) : .established ≤ t := Nat.le_of_lt h

lemma le_of_eq {t : SkState} (h : t = .established) : t ≤ .established := h ▸ Nat.le_refl _

lemma ne_of_lt {t : SkState} (h : .established < t) : t ≠ .established := by
  rintro rfl
  exact absurd h (by decide)

/-- Changes of the client that no sequence number and no request depends on. -/
lemma congr (h : Delivery wc c s) (hiss : issuedRequests c'.obs = issuedRequests c.obs)
    (hseg : sentSegments c'.obs = sentSegments c.obs) (hn : c'.sk.sndNxt = c.sk.sndNxt)
    (hu : c'.sk.sndUna = c.sk.sndUna) (hf : c'.sk.flags = c.sk.flags)
    (hst : c'.sk.state = c.sk.state ∨ c.sk.state ≠ .closed ∧ .established < c'.sk.state) :
    Delivery wc c' s := by
  have hopen : c'.sk.state ≠ .closed → c.sk.state ≠ .closed := by
    rcases hst with hst | ⟨ho, -⟩
    · rw [hst]
      exact id
    · exact fun _ => ho
  have hsame : c'.sk.state ≤ .established → c'.sk.state = c.sk.state := fun hle =>
    hst.resolve_right fun hlt => not_le_of_lt hlt.2 hle
  refine ⟨fun ho => ?_, fun ho hle => ?_, ?_, fun hle => ?_, ?_, fun hs => ?_⟩
  · rw [hn, hu, hf, hiss]
    exact h.again (hopen ho)
  · rw [hf]
    exact h.flags (hopen ho) (hsame hle ▸ hle)
  · rw [hseg, hiss]
    exact h.data
  · rw [hseg]
    exact h.fins (hsame hle ▸ hle)
  · rw [hiss]
    exact h.ordered
  · rw [hiss]
    refine (h.last hs).imp_right fun hp => ⟨hiss ▸ hp.one, ?_, fun he => ?_⟩
    · rcases hst with hst | ⟨-, hlt⟩
      · exact hst ▸ hp.opened
      · exact le_of_lt hlt
    · rw [hn, hu]
      exact hp.outstanding (hsame (le_of_eq he) ▸ he)

/-- All that was sent is acknowledged, and has been received. -/
lemma acked (h : Delivery wc c s) (hiss : issuedRequests c'.obs = issuedRequests c.obs)
    (hseg : sentSegments c'.obs = sentSegments c.obs) (hn : c'.sk.sndNxt = c.sk.sndNxt)
    (hu : c'.sk.sndUna = c.sk.sndNxt) (hf : c'.sk.flags = c.sk.flags) (ho : c.sk.state ≠ .closed)
    (hst : c'.sk.state = c.sk.state ∨ .established < c'.sk.state)
    (hr : c'.sk.state = .established → s.sk.rcvNxt = c'.sk.sndUna) : Delivery wc c' s := by
  have hsame : c'.sk.state ≤ .established → c'.sk.state = c.sk.state := fun hle =>
    hst.resolve_right fun hlt => not_le_of_lt hlt hle
  refine ⟨fun _ hne => absurd (hn.trans hu.symm) hne, fun _ hle => ?_, ?_, fun hle => ?_, ?_,
    fun hs => ?_⟩
  · rw [hf]
    exact h.flags ho (hsame hle ▸ hle)
  · rw [hseg, hiss]
    exact h.data
  · rw [hseg]
    exact h.fins (hsame hle ▸ hle)
  · rw [hiss]
    exact h.ordered
  · rw [hiss]
    refine (h.last hs).imp_right fun hp => ⟨hiss ▸ hp.one, ?_, fun he => ?_⟩
    · rcases hst with hst | hlt
      · exact hst ▸ hp.opened
      · exact le_of_lt hlt
    · -- what is outstanding has not been received
      obtain ⟨hne, hrcv⟩ := hp.outstanding (hsame (le_of_eq he) ▸ he)
      exact absurd (hu.symm.trans ((hr he).symm.trans hrcv)) hne

/-- A reply of the client: what is outstanding is sent again, or a request is issued after all
earlier ones have been passed on. -/
lemma reply (h : Delivery wc (c.after v) s)
    (hnew : v.sk.sndNxt = v.sk.sndUna → payload wc f ≠ [] → .established ≤ v.sk.state ∧
      (s.sk.state ≤ .established → passedRequests s.obs = issuedRequests (c.after v).obs) ∧
      (v.sk.state = .established → s.sk.rcvNxt = v.sk.sndUna))
    (hagain : v.sk.sndNxt ≠ v.sk.sndUna → payload wc f ≠ [] →
      (v.sk.sndUna, payload wc f) ∈ issuedRequests (c.after v).obs)
    (hfin : v.sk.state ≤ .established → hasFlag f thFin = false) :
    Delivery wc (c.after (tcpReply wc f v)) s := by
  have hiss : issuedRequests (c.after (tcpReply wc f v)).obs =
      issuedRequests (c.after v).obs ++
        if ReplyIssues wc f v then [(v.sk.sndUna, payload wc f)] else [] :=
    issuedRequests_reply wc f v c.obs
  have hmono : ∀ q ∈ issuedRequests (c.after v).obs,
      q ∈ issuedRequests (c.after (tcpReply wc f v)).obs := by
    intro q hq
    rw [hiss]
    exact List.mem_append_left _ hq
  -- the payload of a reply that finds an mbuf
  have hsent : payload wc f ≠ [] → wc.mbufAlloc v.allocs = true ∨ v.sk.sndNxt ≠ v.sk.sndUna →
      (v.sk.sndUna, payload wc f) ∈ issuedRequests (c.after (tcpReply wc f v)).obs := by
    intro hp ha
    by_cases hn : v.sk.sndNxt = v.sk.sndUna
    · rw [hiss, if_pos ⟨ha.resolve_right (not_not.mpr hn), hn, hp⟩]
      exact List.mem_append_right _ (List.mem_singleton.mpr rfl)
    · exact hmono _ (hagain hn hp)
  refine ⟨fun _ hne hp => ?_, fun _ hle => ?_, fun seg hseg hd => ?_, fun hle seg hseg => ?_, ?_,
    fun hs => ?_⟩
  · rw [Slot.after, tcpReply_flags] at hp
    rw [Slot.after, tcpReply_sndUna, tcpReply_flags]
    refine hsent hp ?_
    rw [Slot.after, tcpReply_sndNxt, tcpReply_sndUna] at hne
    by_contra hno
    rw [not_or, not_not] at hno
    rw [replyFresh, if_neg fun hr => hno.1 hr.1, hno.2] at hne
    exact hne (UInt32.add_zero _)
  · rw [Slot.after, tcpReply_state] at hle
    rw [Slot.after, tcpReply_flags]
    exact hfin hle
  · change seg ∈ sentSegments (c.obs ++ (tcpReply wc f v).trace) at hseg
    rw [tcpReply_trace, ← List.append_assoc, sentSegments_append, List.mem_append] at hseg
    rcases hseg with hseg | hseg
    · exact hmono _ (h.data seg hseg hd)
    · split_ifs at hseg with ha
      · obtain rfl : seg = replySegment wc f v.sk := by simpa [sentSegments, Obs.segment] using hseg
        exact hsent hd (.inl ha)
      · simp [sentSegments] at hseg
  · rw [Slot.after, tcpReply_state] at hle
    rcases mem_sentSegments_reply hseg with hseg | rfl
    · exact h.fins hle seg hseg
    · exact (wireFlags_fin f).trans (hfin hle)
  · rw [hiss]
    exact h.ordered.trans (List.prefix_append _ _)
  · rw [hiss]
    by_cases hr : ReplyIssues wc f v
    · obtain ⟨hopen, hall, hrcv⟩ := hnew hr.2.1 hr.2.2
      refine .inr ⟨⟨(v.sk.sndUna, payload wc f), ?_⟩, ?_, fun he => ?_⟩
      · rw [hall hs, hiss, if_pos hr]
      · rw [Slot.after, tcpReply_state]
        exact hopen
      · rw [Slot.after, tcpReply_state] at he
        rw [Slot.after, tcpReply_sndNxt, tcpReply_sndUna]
        refine ⟨fun heq => ?_, hrcv he⟩
        have hzero : replyFresh wc f v = 0 := by
          have hn := hr.2.1
          grind
        exact replyFresh_ne_zero hr (by rw [hzero]; rfl)
    · rw [if_neg hr, List.append_nil]
      refine (h.last hs).imp_right fun hp => ⟨?_, ?_, fun he => ?_⟩
      · rw [hiss, if_neg hr, List.append_nil]
        exact hp.one
      · rw [Slot.after, tcpReply_state]
        exact hp.opened
      · rw [Slot.after, tcpReply_state] at he
        obtain ⟨hne, hrcv⟩ := hp.outstanding he
        rw [Slot.after, tcpReply_sndNxt, tcpReply_sndUna]
        exact ⟨still_outstanding hne, hrcv⟩

/-- Nothing is outstanding: all requests have been passed on. -/
lemma all_passed (h : Delivery wc c s) (hs : s.sk.state ≤ .established)
    (he : c.sk.state = .established) (hn : c.sk.sndNxt = c.sk.sndUna) :
    passedRequests s.obs = issuedRequests c.obs :=
  (h.last hs).resolve_right fun hp => (hp.outstanding he).1 hn

/-- A client that has sent its `SYN` and nothing else. -/
lemma opened (hiss : issuedRequests c.obs = [])
    (hseg : ∀ seg ∈ sentSegments c.obs, seg.data = [] ∧ hasFlag seg.flags thFin = false)
    (hf : c.sk.flags = thSyn) (hs : passedRequests s.obs = []) : Delivery wc c s := by
  refine ⟨fun _ _ hp => ?_, fun _ _ => ?_, fun seg hmem hd => ?_, fun _ seg hmem => ?_, ?_,
    fun _ => .inl ?_⟩
  · rw [hf] at hp
    exact absurd rfl hp
  · rw [hf]
    rfl
  · exact absurd (hseg seg hmem).1 hd
  · exact (hseg seg hmem).2
  · rw [hs, hiss]
  · rw [hs, hiss]

/-- The client takes the `SYN-ACK`. -/
lemma established (h : Delivery wc (c.after v) s) (hst : v.sk.state = .synSent)
    (hu : u.sk.sndUna = u.sk.sndNxt) (hf : u.sk.flags = v.sk.flags)
    (hobs : ∃ seq ack, u.trace = v.trace ++ [.synAck seq ack]) : Delivery wc (c.after u) s := by
  obtain ⟨seq, ack, htr⟩ := hobs
  have hobs : (c.after u).obs = (c.after v).obs ++ [.synAck seq ack] := by
    rw [Slot.after, htr, ← List.append_assoc]
    rfl
  have hiss : issuedRequests (c.after u).obs = issuedRequests (c.after v).obs := by
    rw [hobs, issuedRequests_append]
    exact List.append_nil _
  have hseg : sentSegments (c.after u).obs = sentSegments (c.after v).obs := by
    rw [hobs, sentSegments_append]
    exact List.append_nil _
  have hle : (c.after v).sk.state ≤ .established := hst ▸ by decide
  refine ⟨fun _ hne => absurd hu.symm hne, fun _ _ => ?_, ?_, fun _ => ?_, ?_, fun hs => .inl ?_⟩
  · rw [Slot.after, hf]
    exact h.flags (hst ▸ by decide) hle
  · rw [hiss, hseg]
    exact h.data
  · rw [hseg]
    exact h.fins hle
  · rw [hiss]
    exact h.ordered
  · rw [hiss]
    refine (h.last hs).resolve_right fun hp => ?_
    have hopen := hp.opened
    rw [Slot.after, hst] at hopen
    exact absurd hopen (by decide)

end Delivery

/-! ### Phases -/

section Phases

variable {wc ws : WorkSpace} {k : Call} {crossing overrun early : Prop} {c s p : Slot}
  {v v' : View} {f : UInt8} {m : Mbuf}

/-- The states of a client. -/
lemma Phase.client_state (h : Phase wc ws c s) (hwc : wc.cfg.server = false) :
    c.sk.state = .closed ∨ c.sk.state = .synSent ∨ Talking c.sk.state := by
  have hcalling : ∀ {b b' x}, Calling wc b b' x c → c.sk.state = .synSent := by
    intro b b' x hcall
    have hst := hcall.state
    rwa [hwc] at hst
  cases h with
  | shut hc => exact .inl hc.state
  | calling hc => exact .inr (.inl (hcalling hc))
  | called hc => exact .inr (.inl (hcalling hc))
  | joined hc =>
      refine .inr (.inr (hc.state.resolve_right fun hr => ?_))
      rw [hwc] at hr
      exact absurd hr.2.1 (by decide)

lemma Phase.client_ne (h : Phase wc ws c s) (hwc : wc.cfg.server = false) {t : SkState}
    (ht : ¬ Talking t) (hc : t ≠ .closed) (hs : t ≠ .synSent) : c.sk.state ≠ t := by
  rintro rfl
  rcases h.client_state hwc with he | he | he
  · exact hc he
  · exact hs he
  · exact ht he

/-- A client with nothing outstanding: all that it sent has been received. -/
lemma Phase.caught_up (h : Phase wc ws c s)
    (he : c.sk.state = .established) (hb : sentBytes c.obs < 2 ^ 31)
    (hn : c.sk.sndNxt = c.sk.sndUna) : s.sk.rcvNxt = c.sk.sndUna := by
  have hcalling : ∀ {b b' x}, ¬ Calling wc b b' x c := fun hc =>
    hc.state_ne (by decide) (by decide) he
  cases h with
  | shut hc => exact absurd (he.symm.trans hc.state) (by decide)
  | calling hc => exact absurd hc hcalling
  | called hc => exact absurd hc hcalling
  | @joined b b' x y hc hs hag =>
      have hx : x.nxt = x.una := (hc.side.acked_iff hb).mp hn
      have hy : y.rcv = x.una := Nat.le_antisymm (hx ▸ hag.le_nxt) hag.una_le
      rw [hs.side.rcvNxt, hc.side.sndUna, hy]

/-- A client that takes a `SYN-ACK`: its `SYN` has been received. -/
lemma Phase.syn_received (h : Phase wc ws (c.after v) s) (hst : v.sk.state = .synSent)
    (hb : sentBytes (c.after v).obs < 2 ^ 31) (hin : ∃ seg ∈ sentSegments s.obs, m.Arrives seg)
    (hf : m.th.flags = thSyn ||| thAck) (hack : m.th.ack = v.sk.sndNxt) :
    s.sk.rcvNxt = v.sk.sndNxt := by
  obtain ⟨seg, hseg, hm⟩ := hin
  have hnil : sentSegments s.obs ≠ [] := List.ne_nil_of_mem hseg
  cases h with
  | shut _ hs => exact absurd hs.sent hnil
  | calling _ hs => exact absurd hs.sent hnil
  | @called b b₀ b' x y hc hs hrcv =>
      obtain ⟨-, e, hsends, hstands⟩ := hs.side.sent seg hseg
      have hnxt := hc.side.nxt_lt hb
      have hle := hsends.ack.trans hrcv
      have hall : e.ack = x.nxt := by
        have heq : seqAt b e.ack = seqAt b x.nxt := by
          rw [← hstands.ack (hm.flags ▸ hf ▸ rfl), ← hm.ack, hack]
          exact hc.side.sndNxt
        exact (seqAt_inj (by omega) hnxt).mp heq
      have hy : y.rcv = x.nxt := Nat.le_antisymm hrcv (hall ▸ hsends.ack)
      rw [hs.side.rcvNxt, hy]
      exact hc.side.sndNxt.symm
  | joined hc =>
      rcases hc.state with ht | ⟨hr, -⟩
      · have ht' : Talking v.sk.state := ht
        rw [hst] at ht'
        exact absurd ht' (by decide)
      · exact absurd (hst.symm.trans hr) (by decide)

/-- The sockets of the opened ends. -/
lemma Phase.shut_of_closed (h : Phase wc ws c s) (hc : c.sk.state = .closed) :
    Shut c ∧ Shut s := by
  cases h with
  | shut hsc hs => exact ⟨hsc, hs⟩
  | calling hcall => exact absurd hc hcall.ne_closed
  | called hcall => exact absurd hc hcall.ne_closed
  | joined hset => exact absurd hc hset.ne_closed

end Phases

/-! ### Moves of the client -/

section Client

variable {wc ws : WorkSpace} {k : Call} {crossing overrun early : Prop} {c p : Slot}
  {v v' : View} {f : UInt8}

lemma payload_eq_nil (wc : WorkSpace) (h : hasFlag f thPush = false) : payload wc f = [] := by
  rw [payload, h]
  split_ifs <;> first | rfl | contradiction

/-- What a move of the client makes of the requests. -/
theorem Delivery.client (h : Delivery wc (c.after v) p) (hp : Phase wc ws (c.after v) p)
    (hp' : Phase wc ws (c.after v') p) (hwc : wc.cfg.server = false)
    (hk : v.sk.state = .closed → k ≠ .retransmit)
    (hin : ∀ m, k = .input m → ∃ seg ∈ sentSegments p.obs, m.Arrives seg)
    (hm : Move wc k crossing overrun early v v') (hgood : Ongoing (c.after v').obs) :
    Delivery wc (c.after v') p := by
  have hb := (hgood.before (move_trace hm)).bytes
  cases hm with
  | frame hf =>
      have htr : (c.after v').obs = (c.after v).obs := congrArg (c.obs ++ ·) hf.trace
      exact h.congr (congrArg _ htr) (congrArg _ htr) hf.sndNxt hf.sndUna hf.flags (.inl hf.state)
  | accept hk' ha =>
      have hst : v'.sk.state = v.sk.state := ha.state.resolve_right fun hs => by
        rw [hwc] at hs
        exact absurd hs.1 (by decide)
      exact h.acked (ha.issued _) (ha.log _).1 ha.sndNxt ha.sndUna ha.flags ha.live (.inl hst)
        fun he => hp'.caught_up he hgood.bytes (ha.sndNxt.trans ha.sndUna.symm)
  | @finAcked m _ u hk' ha hs =>
      have hlt : SkState.established < .finWait2 := by decide
      exact h.acked (ha.issued _) (ha.log _).1 ha.sndNxt ha.sndUna ha.flags ha.live (.inr hlt)
        fun he => absurd he (Delivery.ne_of_lt hlt)
  | lastAcked hk' ha =>
      have hclosed := hgood.not_close
      rcases ha.state with hs | ⟨-, -, hs⟩
      · exact absurd (hs.symm.trans hclosed) ha.live
      · exact absurd (hs.symm.trans hclosed) (by decide)
  | closingAcked _ _ hs =>
      exact absurd hs (hp.client_ne hwc (by decide) (by decide) (by decide))
  | @crossed m _ u hk' hf hnin hs hn hu =>
      have htr : (c.after u).obs = (c.after v).obs ++
          [.accepted m.th.seq m.th.ack (acceptedLen m.th (tcpDataGet m).2)] := by
        rw [Slot.after, hu.trace, crossedView_trace, ← List.append_assoc]
        rfl
      have hiss : issuedRequests (c.after u).obs = issuedRequests (c.after v).obs := by
        rw [htr, issuedRequests_append]
        exact List.append_nil _
      have hseg : sentSegments (c.after u).obs = sentSegments (c.after v).obs := by
        rw [htr, sentSegments_append]
        exact List.append_nil _
      have hlast : (c.after u).sk.state = .lastAck := hu.state
      have hopen : v.sk.state ≠ .closed := by
        rw [hs.1]
        decide
      have hpay : payload wc (thFin ||| thAck) = [] := payload_eq_nil wc rfl
      refine (h.congr hiss hseg hu.sndNxt hu.sndUna hu.flags (.inr ⟨hopen, ?_⟩)).reply
        (fun _ hne => absurd hpay hne) (fun _ hne => absurd hpay hne) fun hle => absurd hle ?_
      · rw [hlast]
        decide
      · rw [show u.sk.state = .lastAck from hlast]
        decide
  | push hs hn =>
      refine h.reply (fun _ _ => ⟨?_, fun hps => h.all_passed hps hs hn, fun he => ?_⟩)
        (fun hne => absurd hn hne) fun _ => rfl
      · rw [hs]
        decide
      · exact hp.caught_up he hb hn
  | @bare f _ hf =>
      rw [hasFlag_seqFlags] at hf
      simp only [Bool.or_eq_false_iff] at hf
      have hpay : payload wc f = [] := payload_eq_nil wc hf.1.1
      exact h.reply (fun _ hne => absurd hpay hne) (fun _ hne => absurd hpay hne) fun _ => hf.2
  | again hn ho =>
      have hopen : v.sk.state ≠ .closed := fun hc => hk hc (ho.resolve_left fun hne => hne hc)
      exact h.reply (fun hn' => absurd hn' hn) (h.again hopen) (h.flags hopen)
  | synAgain hs =>
      exact absurd hs (hp.client_ne hwc (by decide) (by decide) (by decide))
  | @fin t f _ hs ht hf hsyn hpush hn =>
      have hlt : .established < t := by
        rcases ht with rfl | rfl <;> decide
      have hopen : v.sk.state ≠ .closed := by
        rw [hs]
        decide
      have hnone : v.sk.sndNxt ≠ v.sk.sndUna → payload wc f = [] := by
        intro hne
        refine payload_eq_nil wc ?_
        by_contra hps
        exact hne (hpush (by simpa using hps))
      have hmoved : Delivery wc (c.after { v with sk.state := t }) p :=
        h.congr rfl rfl rfl rfl rfl (.inr ⟨hopen, hlt⟩)
      refine hmoved.reply (fun hn' _ => ⟨?_, fun hps => ?_, fun he => absurd he ?_⟩)
        (fun hne hp => absurd (hnone hne) hp) fun hle => absurd hle ?_
      · exact Delivery.le_of_lt hlt
      · exact h.all_passed hps hs hn'
      · exact Delivery.ne_of_lt hlt
      · exact Delivery.not_le_of_lt hlt
  | earlyAcked hs =>
      refine h.congr rfl rfl rfl rfl rfl (.inr ⟨?_, ?_⟩)
      · change v.sk.state ≠ .closed
        rw [hs]
        decide
      · exact show SkState.established < .finWait2 by decide
  | close =>
      rw [socketClose, if_neg (not_not.mpr hgood.not_close)]
      exact h
  | recycle hs =>
      exact absurd hs (hp.client_ne hwc (by decide) (by decide) (by decide))
  | @openServer m _ hk' hf hc =>
      obtain ⟨-, hs⟩ := hp.shut_of_closed hc
      exact absurd hk' (hs.not_input hin m)
  | openClient hs hc =>
      obtain ⟨hsc, hsp⟩ := hp.shut_of_closed hc
      have hopened : ∃ a b, (socketClientOpened wc wc.tsc v).trace = v.trace ++ [.opened a b] :=
        ⟨_, _, rfl⟩
      obtain ⟨a, b, htr⟩ := hopened
      have hobs : (c.after (socketClientOpened wc wc.tsc v)).obs =
          (c.after v).obs ++ [.opened a b] := by
        rw [Slot.after, htr, ← List.append_assoc]
        rfl
      have hseg : sentSegments (c.after (socketClientOpened wc wc.tsc v)).obs = [] := by
        rw [hobs, sentSegments_append, hsc.sent]
        rfl
      refine Delivery.opened ?_ (fun seg hmem => ?_) (tcpReply_flags ..) hsp.passed
      · have hiss := issuedRequests_reply wc thSyn (socketClientOpened wc wc.tsc v) c.obs
        have hnone : ¬ ReplyIssues wc thSyn (socketClientOpened wc wc.tsc v) := fun hr =>
          hr.2.2 rfl
        rw [if_neg hnone, List.append_nil] at hiss
        exact hiss.trans (issuedRequests_nil hseg)
      · rcases mem_sentSegments_reply hmem with hold | rfl
        · rw [show sentSegments (c.obs ++ (socketClientOpened wc wc.tsc v).trace) = [] from hseg]
            at hold
          exact absurd hold List.not_mem_nil
        · exact ⟨rfl, (wireFlags_fin thSyn).trans rfl⟩
  | @synAck m _ hk' hf hs ha =>
      have hrcv := hp.syn_received hs hb (hin m hk') hf ha
      generalize hu : ({ v with
        sk.rcvNxt := m.th.seq + 1, sk.sndUna := m.th.ack, sk.state := .established } : View).log
        (.synAck m.th.seq m.th.ack) = u
      have hst : u.sk.state = .established := by
        rw [← hu]
        rfl
      have hun : u.sk.sndUna = u.sk.sndNxt := by
        rw [← hu]
        exact ha
      have hnn : u.sk.sndNxt = v.sk.sndNxt := by
        rw [← hu]
        rfl
      have hest : Delivery wc (c.after u) p := by
        refine h.established hs hun ?_ ⟨m.th.seq, m.th.ack, ?_⟩
        · rw [← hu]
          rfl
        · rw [← hu]
          rfl
      refine hest.reply (fun _ _ => ⟨?_, fun hps => ?_, fun _ => ?_⟩)
        (fun hne => absurd hun.symm hne) fun _ => rfl
      · rw [hst]
        decide
      · exact hest.all_passed hps hst hun.symm
      · rw [hun, hnn]
        exact hrcv

end Client

/-! ### Moves of the server -/

section Server

variable {wc ws : WorkSpace} {k : Call} {crossing overrun early : Prop} {c s s' p : Slot}
  {v v' u : View} {f : UInt8} {m : Mbuf} {seg : Segment}

/-- Changes of the server that pass nothing on. -/
lemma Delivery.quiet (h : Delivery wc c s) (hpass : passedRequests s'.obs = passedRequests s.obs)
    (hst : s'.sk.state ≤ .established → s.sk.state ≤ .established ∧
      (c.sk.state = .established → s'.sk.rcvNxt = s.sk.rcvNxt)) : Delivery wc c s' := by
  refine ⟨h.again, h.flags, h.data, h.fins, hpass ▸ h.ordered, fun hs => ?_⟩
  obtain ⟨hle, hrcv⟩ := hst hs
  rw [hpass]
  refine (h.last hle).imp_right fun hp => ⟨hpass ▸ hp.one, hp.opened, fun he => ?_⟩
  rw [hrcv he]
  exact hp.outstanding he

/-- A reply of the server. -/
lemma Delivery.answer (h : Delivery wc c (s.after v)) :
    Delivery wc c (s.after (tcpReply ws f v)) := by
  refine h.quiet (passedRequests_reply ws f v s.obs) fun hs => ⟨?_, fun _ => tcpReply_rcvNxt ..⟩
  rw [Slot.after, tcpReply_state] at hs
  exact hs

/-- A server in `ESTABLISHED` passes on what an accepted segment carries, in another state it does
not. -/
lemma Accepted.passes (h : Accepted ws m v u) (hws : ws.cfg.server = true) (hm : m.Arrives seg)
    (l : List Obs) : passedRequests (l ++ u.trace) = passedRequests (l ++ v.trace) ++
      if seg.data ≠ [] ∧ u.sk.state = .established then [(seg.seq, seg.data)] else [] := by
  have hdata : (tcpDataGet m).2 = 0 ↔ seg.data = [] := by
    rw [← List.length_eq_zero_iff, ← hm.length, ← UInt16.toNat_inj]
    rfl
  obtain ⟨r, hr, hreq⟩ := h.trace
  have hskip := h.skipped hws
  rw [hr, List.append_cancel_left_eq, List.cons_eq_cons, and_iff_right rfl] at hskip
  rw [hr, ← List.append_assoc, passedRequests_append (l := l ++ v.trace)]
  congr 1
  rcases hreq with rfl | ⟨-, hne, rfl⟩
  · have hno : ¬ (seg.data ≠ [] ∧ u.sk.state = .established) := by
      rcases hskip.mp rfl with h0 | h0
      · exact fun hp => hp.1 (hdata.mp h0)
      · exact fun hp => h0 hp.2
    rw [if_neg hno]
    rfl
  · have hno : ¬ ((tcpDataGet m).2 = 0 ∨ u.sk.state ≠ .established) := fun h0 =>
      List.cons_ne_nil _ _ (hskip.mpr h0)
    rw [not_or, not_not, hdata] at hno
    rw [if_pos hno, hm.length, hm.data, hm.seq]
    rfl

/-- The states of a server. -/
lemma Phase.server_ne (h : Phase wc ws c s) (hws : ws.cfg.server = true) {t : SkState}
    (ht : ¬ Talking t) (hc : t ≠ .closed) (hs : t ≠ .synReceived) : s.sk.state ≠ t := by
  rintro rfl
  cases h with
  | shut _ hsh => exact hc hsh.state
  | calling _ hsh => exact hc hsh.state
  | called _ hcall =>
      have hst := hcall.state
      rw [hws] at hst
      exact hs hst
  | joined _ hset => exact hset.state.elim ht fun hr => hs hr.1

/-- A segment with data comes from a client after the handshake. -/
lemma Phase.server_passed (h : Phase wc ws c s) (hb : sentBytes c.obs < 2 ^ 31)
    (hseg : seg ∈ sentSegments c.obs) (hm : m.Arrives seg) (hf : dataFlags m)
    (hseq : m.th.seq = s.sk.rcvNxt) (d : List UInt8) :
    (seg.seq, d) ∉ passedRequests s.obs := by
  have hcalling : ∀ {b b' x}, ¬ Calling wc b b' x c := fun hc =>
    not_dataFlags (hm.flags.trans (hc.sent seg hseg)) hf
  cases h with
  | shut hsh => exact absurd hsh.sent (List.ne_nil_of_mem hseg)
  | calling hc => exact absurd hc hcalling
  | called hc => exact absurd hc hcalling
  | @joined b b' x y hc hs hag =>
      intro hmem
      obtain ⟨j, hj, hpos⟩ := hs.passed.position _ hmem
      have hpos' : seg.seq = seqAt b j := hpos
      have hlt := hc.side.nxt_lt hb
      have hle := hag.le_nxt
      rw [hs.side.rcvNxt, hm.seq, hpos', seqAt_inj (by omega) (by omega)] at hseq
      omega

/-- A server that was never opened: its client has not got further than the `SYN`. -/
lemma Phase.server_shut (h : Phase wc ws c s) (hwc : wc.cfg.server = false)
    (hs : s.sk.state = .closed) : Shut s ∧ ¬ .established ≤ c.sk.state := by
  have hcalling : ∀ {b b' x}, Calling wc b b' x c → ¬ .established ≤ c.sk.state := by
    intro b b' x hc
    rw [hc.state, hwc]
    decide
  cases h with
  | shut hsh hsh' =>
      refine ⟨hsh', ?_⟩
      rw [hsh.state]
      decide
  | calling hc hsh => exact ⟨hsh, hcalling hc⟩
  | called _ hcall => exact absurd hs hcall.ne_closed
  | joined _ hset => exact absurd hs hset.ne_closed

/-- The server accepts a segment of the client. -/
lemma Delivery.accepted (h : Delivery wc c (s.after v)) (hp : Phase wc ws c (s.after v))
    (hws : ws.cfg.server = true) (hb : sentBytes c.obs < 2 ^ 31) (ha : Accepted ws m v u)
    (hseg : seg ∈ sentSegments c.obs) (hm : m.Arrives seg) : Delivery wc c (s.after u) := by
  have hpass := ha.passes hws hm s.obs
  have hle : u.sk.state ≤ .established → u.sk.state = .established ∧ v.sk.state ≤ .established := by
    intro hu
    have hopen := ha.opened hws
    rcases ha.state with hs | ⟨-, hlt, hs⟩
    · rw [hs] at hu hopen ⊢
      refine ⟨?_, hu⟩
      cases hv : v.sk.state <;> rw [hv] at hu hopen <;> revert hu hopen <;> decide
    · exact ⟨hs, Nat.le_of_lt hlt⟩
  by_cases hd : seg.data ≠ [] ∧ u.sk.state = .established
  · rw [if_pos hd] at hpass
    have hmem := h.data seg hseg hd.1
    have hno := hp.server_passed hb hseg hm ha.kind ha.order.2 seg.data
    have hall : passedRequests (s.after u).obs = issuedRequests c.obs := by
      rcases h.last (hle (Delivery.le_of_eq hd.2)).2 with heq | hpend
      · exact absurd (heq ▸ hmem) hno
      · obtain ⟨q, hq⟩ := hpend.one
        rw [hq, List.mem_append, List.mem_singleton] at hmem
        exact hpass.trans (hmem.resolve_left hno ▸ hq.symm)
    exact ⟨h.again, h.flags, h.data, h.fins, hall ▸ List.prefix_rfl, fun _ => .inl hall⟩
  · rw [if_neg hd, List.append_nil] at hpass
    refine h.quiet hpass fun hu => ⟨(hle hu).2, fun he => ?_⟩
    -- an empty segment without a `FIN`
    have hnil : seg.data = [] := by
      by_contra hne
      exact hd ⟨hne, (hle hu).1⟩
    have hfin : hasFlag m.th.flags thFin = false :=
      hm.flags ▸ h.fins (Delivery.le_of_eq he) seg hseg
    have hzero : (tcpDataGet m).2 = 0 := by
      rw [← UInt16.toNat_inj, hm.length, hnil]
      rfl
    refine ha.rcvNxt.trans ?_
    rw [finLen, hfin, hzero, ha.order.2]
    exact UInt32.add_zero _

/-- What a move of the server makes of the requests. -/
theorem Delivery.server (h : Delivery wc p (s.after v)) (hp : Phase wc ws p (s.after v))
    (hwc : wc.cfg.server = false) (hws : ws.cfg.server = true)
    (hin : ∀ m, k = .input m → ∃ seg ∈ sentSegments p.obs, m.Arrives seg)
    (hm : Move ws k crossing overrun early v v') (hgood : Ongoing (s.after v').obs)
    (hb : sentBytes p.obs < 2 ^ 31) : Delivery wc p (s.after v') := by
  cases hm with
  | frame hf =>
      refine h.quiet (congrArg (fun l => passedRequests (s.obs ++ l)) hf.trace) fun hs => ?_
      exact ⟨hf.state ▸ hs, fun _ => hf.rcvNxt⟩
  | accept hk' ha =>
      obtain ⟨seg, hseg, harr⟩ := hin _ hk'
      exact h.accepted hp hws hb ha hseg harr
  | @finAcked m _ u hk' ha hs =>
      obtain ⟨seg, hseg, harr⟩ := hin _ hk'
      have hacc := h.accepted hp hws hb ha hseg harr
      exact hacc.quiet rfl fun hle => absurd hle (show ¬ SkState.finWait2 ≤ .established by decide)
  | lastAcked hk' ha =>
      have hclosed := hgood.not_close
      rcases ha.state with hs | ⟨-, -, hs⟩
      · exact absurd (hs.symm.trans hclosed) ha.live
      · exact absurd (hs.symm.trans hclosed) (by decide)
  | closingAcked _ _ hs =>
      exact absurd hs (hp.server_ne hws (by decide) (by decide) (by decide))
  | @crossed m _ u hk' hf hnin hs hn hu =>
      have htr : (s.after u).obs = (s.after v).obs ++
          [.accepted m.th.seq m.th.ack (acceptedLen m.th (tcpDataGet m).2)] := by
        rw [Slot.after, hu.trace, crossedView_trace, ← List.append_assoc]
        rfl
      have hpass : passedRequests (s.after u).obs = passedRequests (s.after v).obs := by
        rw [htr, passedRequests_append]
        exact List.append_nil _
      have hlast : (s.after u).sk.state = .lastAck := hu.state
      refine (h.quiet hpass fun hle => absurd hle ?_).answer
      rw [hlast]
      decide
  | push => exact h.answer
  | bare => exact h.answer
  | again => exact h.answer
  | synAgain => exact h.answer
  | @fin t f _ hs ht =>
      have hlate : ¬ t ≤ .established := by
        rcases ht with rfl | rfl <;> decide
      have hquiet : Delivery wc p (s.after { v with sk.state := t }) :=
        h.quiet rfl fun hle => absurd hle hlate
      exact hquiet.answer
  | earlyAcked =>
      exact h.quiet rfl fun hle => absurd hle (show ¬ SkState.finWait2 ≤ .established by decide)
  | close =>
      rw [socketClose, if_neg (not_not.mpr hgood.not_close)]
      exact h
  | recycle hs => exact absurd hs (hp.server_ne hws (by decide) (by decide) (by decide))
  | @openServer m _ hk' hf hc =>
      obtain ⟨hsh, hno⟩ := hp.server_shut hwc hc
      have hobs : (s.after (socketServerOpen m.th v)).obs = (s.after v).obs ++
          [.opened (socketServerOpen m.th v).sk.sndNxt (socketServerOpen m.th v).sk.rcvNxt] := by
        rw [Slot.after, socketServerOpen_log, ← List.append_assoc]
        rfl
      have hpass : passedRequests (s.after (socketServerOpen m.th v)).obs =
          passedRequests (s.after v).obs := by
        rw [hobs, passedRequests_append]
        exact List.append_nil _
      have hle : (s.after v).sk.state ≤ .established := by
        rw [hsh.state]
        decide
      have hall := (h.last hle).resolve_right fun hpend => hno hpend.opened
      exact Delivery.answer
        ⟨h.again, h.flags, h.data, h.fins, hpass ▸ h.ordered, fun _ => .inl (hpass.trans hall)⟩
  | openClient hs =>
      rw [hws] at hs
      cases hs
  | synAck _ _ hs => exact absurd hs (hp.server_ne hws (by decide) (by decide) (by decide))

end Server

/-! ### Runs -/

section Runs

variable {n m : ℕ} {K : Connection n m} {p p' : Pair n m}

lemma delivery_at {wc : WorkSpace} {c s : Slot} (t : Clock) :
    Delivery (wc.at t) c s ↔ Delivery wc c s :=
  ⟨fun h => ⟨h.again, h.flags, h.data, h.fins, h.ordered, h.last⟩,
    fun h => ⟨h.again, h.flags, h.data, h.fins, h.ordered, h.last⟩⟩

/-- Sockets that were never opened. -/
lemma Delivery.shut {wc : WorkSpace} {c s : Slot} (hc : Shut c) (hs : Shut s) :
    Delivery wc c s := by
  have hiss := issuedRequests_nil hc.sent
  refine ⟨fun ho => absurd hc.state ho, fun ho => absurd hc.state ho, ?_, fun _ => ?_, ?_,
    fun _ => .inl ?_⟩
  · rw [hc.sent]
    exact fun seg hseg => absurd hseg List.not_mem_nil
  · rw [hc.sent]
    exact fun seg hseg => absurd hseg List.not_mem_nil
  · rw [hs.passed, hiss]
  · rw [hs.passed, hiss]

/-- A step of one of the two workers. -/
lemma delivery_of_step (hstep : K.Step p p')
    (h : Ongoing (K.clientObs p) → Ongoing (K.serverObs p) →
      Phase K.clientWs K.serverWs (p.client.slot K.clientSk) (p.server.slot K.serverSk) ∧
        Delivery K.clientWs (p.client.slot K.clientSk) (p.server.slot K.serverSk))
    (hc : Ongoing (K.clientObs p')) (hs : Ongoing (K.serverObs p')) :
    Phase K.clientWs K.serverWs (p'.client.slot K.clientSk) (p'.server.slot K.serverSk) ∧
      Delivery K.clientWs (p'.client.slot K.clientSk) (p'.server.slot K.serverSk) := by
  cases hstep with
  | @client c e w hin hw =>
      have hboth := phase_step (K.clientPlain.at c) hin hw
        (P := fun s => Phase (K.clientWs.at c) K.serverWs s (p.server.slot K.serverSk) ∧
          Delivery (K.clientWs.at c) s (p.server.slot K.serverSk))
        (fun s hP => hP.1.client_place)
        (fun hP hk hin' hm hg => by
          obtain ⟨hphase, hk'⟩ := hP.1.client K.isClient K.isServer hk hin' hm hg hs
          exact ⟨⟨hphase, hP.2.client hP.1 hphase K.isClient hk hin' hm hg⟩, hk'⟩)
        fun hgood => (h hgood hs).imp (phase_at_client c).mpr (delivery_at c).mpr
      exact (hboth hc).imp (phase_at_client c).mp (delivery_at c).mp
  | @server c e w hin hw =>
      have hboth := phase_step (K.serverPlain.at c) hin hw
        (P := fun s => Phase K.clientWs (K.serverWs.at c) (p.client.slot K.clientSk) s ∧
          Delivery K.clientWs (p.client.slot K.clientSk) s)
        (fun s hP => hP.1.server_place)
        (fun hP hk hin' hm hg => by
          obtain ⟨hphase, hk'⟩ := hP.1.server K.isServer hk hin' hm hg hc
          exact ⟨⟨hphase, hP.2.server hP.1 K.isClient K.isServer hin' hm hg hc.bytes⟩, hk'⟩)
        fun hgood => (h hc hgood).imp_left (phase_at_server c).mpr
      exact (hboth hs).imp_left (phase_at_server c).mp

lemma delivery_of_reach (h : K.Reach p) (hc : Ongoing (K.clientObs p))
    (hs : Ongoing (K.serverObs p)) :
    Phase K.clientWs K.serverWs (p.client.slot K.clientSk) (p.server.slot K.serverSk) ∧
      Delivery K.clientWs (p.client.slot K.clientSk) (p.server.slot K.serverSk) := by
  obtain ⟨p₀, h₀, hrun⟩ := h
  induction hrun with
  | refl =>
      have hcsh := h₀.client.shut K.clientSk
      have hssh := h₀.server.shut K.serverSk
      exact ⟨.shut hcsh hssh, .shut hcsh hssh⟩
  | tail _ hstep ih => exact delivery_of_step hstep ih hc hs

/-- **Requests arrive in order.** Over a network that loses, duplicates and reorders segments, in
every state that a client and a server reach before one of the two closes the connection: what the
server has passed to `http_parse_request` is a prefix of the requests that the client has made. As
long as the server is not past `ESTABLISHED` at most the last request is missing, and none is if
the client is `ESTABLISHED` with nothing outstanding. -/
theorem requests_in_order (K : Connection n m) {p : Pair n m} (h : K.Reach p)
    (hc : Ongoing (K.clientObs p)) (hs : Ongoing (K.serverObs p)) :
    passedRequests (K.serverObs p) <+: issuedRequests (K.clientObs p) ∧
    ((p.server.pool K.serverSk).state ≤ .established →
      (issuedRequests (K.clientObs p)).length ≤ (passedRequests (K.serverObs p)).length + 1 ∧
      ((p.client.pool K.clientSk).state = .established →
        (p.client.pool K.clientSk).sndNxt = (p.client.pool K.clientSk).sndUna →
        passedRequests (K.serverObs p) = issuedRequests (K.clientObs p))) := by
  obtain ⟨-, hd⟩ := delivery_of_reach h hc hs
  refine ⟨hd.ordered, fun hst => ⟨?_, fun he hn => hd.all_passed hst he hn⟩⟩
  change (issuedRequests (p.client.slot K.clientSk).obs).length ≤
    (passedRequests (p.server.slot K.serverSk).obs).length + 1
  rcases hd.last hst with heq | hp
  · rw [heq]
    exact Nat.le_succ _
  · obtain ⟨q, hq⟩ := hp.one
    rw [hq, List.length_append]
    exact le_rfl

/-- Two copies of a request, and one call of the parser. -/
theorem requests_in_order_request : ∃ p, Connection.single.Reach p ∧
    issuedRequests (Connection.single.clientObs p) = [(2, [71, 69, 84])] ∧
    passedRequests (Connection.single.serverObs p) <+:
      issuedRequests (Connection.single.clientObs p) := by
  have hrun : (Connection.single.play Connection.handshakeAndRequest Connection.singleStart).any
      (fun p => Connection.single.clientObs p == [.opened 1 0,
          .sent ⟨1, 2, 1, 80, thSyn, 1, 0, []⟩ 1 2 1, .synAck 1 2,
          .sent ⟨1, 2, 1, 80, thPush ||| thAck, 2, 2, [71, 69, 84]⟩ 2 5 3] &&
        Connection.single.serverObs p == [.opened 1 2,
          .sent ⟨2, 1, 80, 1, thSyn ||| thAck, 1, 2, []⟩ 1 2 1, .accepted 2 2 3,
          .request 2 [71, 69, 84],
          .sent ⟨2, 1, 80, 1, thPush ||| thAck, 2, 5, [71, 69, 84]⟩ 2 5 3]) = true := by
    decide
  obtain ⟨p, hp, hval⟩ := (Option.any_eq_true _ _).mp hrun
  simp only [Bool.and_eq_true, beq_iff_eq] at hval
  obtain ⟨hc, hs⟩ := hval
  have hreach : Connection.single.Reach p :=
    ⟨Connection.singleStart, Connection.single_start, Connection.play_run hp⟩
  have hgood : Ongoing (Connection.single.clientObs p) ∧
      Ongoing (Connection.single.serverObs p) := by
    rw [hc, hs]
    exact ⟨⟨by simp, by decide⟩, ⟨by simp, by decide⟩⟩
  refine ⟨p, hreach, ?_, (requests_in_order _ hreach hgood.1 hgood.2).1⟩
  rw [hc]
  decide

end Runs

end Dperf
