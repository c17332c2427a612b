import Dperf.Lib.Traces
import Dperf.Moves

/-!
What a TCP socket with `send_window == 0` sends against what is outstanding.

* `Covers`: a segment with `SYN`, payload or `FIN` covers exactly the range from `snd_una` to
  `snd_nxt`, and repeats the last such segment where it takes no new sequence numbers.
* `Covered`: what has been sent so far covers, and a retransmission will repeat what is
  outstanding. Every move keeps it (`covered_move`) but a crossed `FIN` and an overrun.
* `segments_cover_iff`: the law holds in runs without these two, and each of them breaks it.
-/

namespace Dperf

open Traces

variable {n : ℕ}

/-! ### Segments that take sequence numbers -/

/-- The segment of an entry that hands one over which takes sequence numbers. -/
def Obs.carried : Obs → Option Segment
  | .sent seg _ _ _ => if 0 < seg.seqLen then some seg else none
  | _ => none

/-- The same sequence numbers and the same content. -/
structure SameContent (s t : Segment) : Prop where
  seq : s.seq = t.seq
  data : s.data = t.data
  syn : hasFlag s.flags thSyn = hasFlag t.flags thSyn
  fin : hasFlag s.flags thFin = hasFlag t.flags thFin

/-- A segment that takes sequence numbers covers what is outstanding after it, and is the one
sent last if it takes no fresh ones. -/
def Covers (l : List Obs) (o : Obs) : Prop :=
  ∀ seg sndUna sndNxt fresh, o = .sent seg sndUna sndNxt fresh → 0 < seg.seqLen →
    seg.seq = sndUna ∧ sndUna + UInt32.ofNat seg.seqLen = sndNxt ∧
      (fresh = 0 → ∃ t, latest Obs.carried l = some t ∧ SameContent t seg)

/-- The flags `f` make a segment that repeats what is outstanding. -/
structure Repeats (ws : WorkSpace) (f : UInt8) (sk : Socket) (l : List Obs) : Prop where
  range : sk.sndNxt = sk.sndUna + UInt32.ofNat (segLen ws f)
  last : ∃ t, latest Obs.carried l = some t ∧ SameContent t (replySegment ws f sk)

/-- What a socket in the queue `p` with the trace `l` has sent, and will send again. -/
structure Covered (ws : WorkSpace) (sk : Socket) (p : Option TimerKind) (l : List Obs) : Prop where
  sent : Historic Covers l
  saved : sk.sndNxt ≠ sk.sndUna → hasFlag sk.flags seqFlags = true → Repeats ws sk.flags sk l
  syn : sk.state = .synReceived → sk.flags = thSyn ||| thAck
  fin : sk.state = .finWait1 ∨ sk.state = .lastAck → hasFlag sk.flags thFin = true
  keepalive : p = some .keepalive → sk.sndNxt = sk.sndUna

/-- The time does not matter. -/
lemma covered_at {ws : WorkSpace} {sk : Socket} {p : Option TimerKind} {l : List Obs} (c : Clock) :
    Covered (ws.at c) sk p l ↔ Covered ws sk p l := by
  constructor
  · intro h
    exact ⟨h.sent, fun hn hf => ⟨(h.saved hn hf).range, (h.saved hn hf).last⟩, h.syn, h.fin,
      h.keepalive⟩
  · intro h
    exact ⟨h.sent, fun hn hf => ⟨(h.saved hn hf).range, (h.saved hn hf).last⟩, h.syn, h.fin,
      h.keepalive⟩

/-- `Covered` for a view of a socket that was in the queue `p` with the trace `l`. -/
def CoveredAt (ws : WorkSpace) (p : Option TimerKind) (l : List Obs) (v : View) : Prop :=
  Covered ws v.sk (v.link.after p) (l ++ v.trace)

/-! ### Replies -/

section Reply

variable {ws : WorkSpace} {p : Option TimerKind} {l : List Obs} {f : UInt8} {v : View}

/-- An entry that hands over nothing. -/
lemma covers_other {o : Obs} (h : ∀ s a b c, o ≠ .sent s a b c) (l : List Obs) : Covers l o :=
  fun s a b c ho => absurd ho (h s a b c)

lemma carried_other {o : Obs} (h : ∀ s a b c, o ≠ .sent s a b c) : o.carried = none := by
  cases o with
  | sent s a b c => exact absurd rfl (h s a b c)
  | _ => rfl

lemma seqFlags_of_segLen (h : 0 < segLen ws f) : hasFlag f seqFlags = true := by
  by_contra hf
  rw [segLen_bare (by simpa using hf)] at h
  exact absurd h (lt_irrefl 0)

/-- What may be sent: something new when nothing is outstanding, a repetition otherwise. -/
structure MaySend (ws : WorkSpace) (f : UInt8) (sk : Socket) (l : List Obs) : Prop where
  fresh : sk.sndNxt = sk.sndUna → hasFlag f thSyn = false ∨ hasFlag f thFin = false
  again : sk.sndNxt ≠ sk.sndUna → hasFlag f seqFlags = true → Repeats ws f sk l

/-- Such a segment covers what is outstanding. -/
lemma MaySend.covers (h : MaySend ws f v.sk l) (ha : ws.mbufAlloc v.allocs = true) :
    Covers l (.sent (replySegment ws f v.sk) v.sk.sndUna (v.sk.sndNxt + replyFresh ws f v)
      (replyFresh ws f v).toNat) := by
  intro seg una nxt fresh ho hpos
  cases ho
  rw [replySegment_seqLen] at hpos ⊢
  refine ⟨rfl, ?_⟩
  by_cases hn : v.sk.sndNxt = v.sk.sndUna
  · have hlen := replyFresh_toNat (h.fresh hn) ha hn
    rw [hlen, ← hn, ← hlen, UInt32.ofNat_toNat]
    exact ⟨rfl, fun h0 => by omega⟩
  · have hr := h.again hn (seqFlags_of_segLen hpos)
    rw [replyFresh_outstanding hn, ← hr.range]
    exact ⟨by simp, fun _ => hr.last⟩

/-- After it, its flags repeat what is outstanding. -/
lemma MaySend.repeats (h : MaySend ws f v.sk l) (hf : hasFlag f seqFlags = true)
    (hn' : v.sk.sndNxt + replyFresh ws f v ≠ v.sk.sndUna) :
    Repeats ws f (tcpReply ws f v).sk (l ++ if ws.mbufAlloc v.allocs then
      [.sent (replySegment ws f v.sk) v.sk.sndUna (v.sk.sndNxt + replyFresh ws f v)
        (replyFresh ws f v).toNat] else []) := by
  have hsame : ∀ t, SameContent t (replySegment ws f v.sk) →
      SameContent t (replySegment ws f (tcpReply ws f v).sk) := by
    intro t ht
    refine ⟨?_, ht.data, ht.syn, ht.fin⟩
    rw [replySegment, tcpReply_sndUna]
    exact ht.seq
  cases ha : ws.mbufAlloc v.allocs with
  | true =>
      -- the segment is on its way, and it is the last one that takes sequence numbers
      have hpos : 0 < segLen ws f := by
        by_cases hn : v.sk.sndNxt = v.sk.sndUna
        · rw [← replyFresh_toNat (h.fresh hn) ha hn, Nat.pos_iff_ne_zero]
          intro h0
          rw [UInt32.toNat_inj.mp (h0.trans UInt32.toNat_zero.symm)] at hn'
          exact hn' (by simpa using hn)
        · rw [Nat.pos_iff_ne_zero]
          intro h0
          have hr := (h.again hn hf).range
          rw [h0] at hr
          exact hn (by simpa using hr)
      have hpos' : 0 < (replySegment ws f v.sk).seqLen := by rwa [replySegment_seqLen]
      have hcov := (h.covers ha _ _ _ _ rfl hpos').2.1
      rw [replySegment_seqLen] at hcov
      refine ⟨?_, replySegment ws f v.sk, ?_, hsame _ ⟨rfl, rfl, rfl, rfl⟩⟩
      · rw [tcpReply_sndNxt, tcpReply_sndUna, hcov]
      · exact latest_snoc_some (if_pos hpos')
  | false =>
      have h0 : replyFresh ws f v = 0 := by simp [replyFresh, ha]
      rw [h0] at hn'
      have hr := h.again (by simpa using hn') hf
      obtain ⟨t, hl, ht⟩ := hr.last
      refine ⟨?_, t, by simpa using hl, hsame t ht⟩
      rw [tcpReply_sndNxt, tcpReply_sndUna, h0, ← hr.range]
      simp

/-- A reply that may be sent keeps what is covered; the caller answers for the flags that the
state asks for. -/
lemma covered_reply (hp : Plain ws) (hm : MaySend ws f v.sk (l ++ v.trace))
    (hsent : Historic Covers (l ++ v.trace))
    (hkeep : v.link.after p = some .keepalive → v.sk.sndNxt = v.sk.sndUna)
    (hopen : v.sk.state ≠ .closed ∨ hasFlag f seqFlags = false ∨ v.sk.sndNxt ≠ v.sk.sndUna)
    (hsyn : v.sk.state = .synReceived → f = thSyn ||| thAck)
    (hfin : v.sk.state = .finWait1 ∨ v.sk.state = .lastAck → hasFlag f thFin = true) :
    CoveredAt ws p l (tcpReply ws f v) := by
  have htr : l ++ (tcpReply ws f v).trace = (l ++ v.trace) ++ if ws.mbufAlloc v.allocs then
      [.sent (replySegment ws f v.sk) v.sk.sndUna (v.sk.sndNxt + replyFresh ws f v)
        (replyFresh ws f v).toNat] else [] := by
    rw [tcpReply_trace, List.append_assoc]
  refine ⟨?_, fun hn hf => ?_, fun hs => ?_, fun hs => ?_, fun hk => ?_⟩
  · rw [htr]
    split_ifs with ha
    · exact historic_snoc.mpr ⟨hsent, hm.covers ha⟩
    · simpa using hsent
  · rw [htr, tcpReply_flags]
    rw [tcpReply_flags] at hf
    rw [tcpReply_sndNxt, tcpReply_sndUna] at hn
    exact hm.repeats hf hn
  · rw [tcpReply_state] at hs
    rw [tcpReply_flags]
    exact hsyn hs
  · rw [tcpReply_state] at hs
    rw [tcpReply_flags]
    exact hfin hs
  · rw [tcpReply_sndNxt, tcpReply_sndUna]
    by_contra hn
    rw [tcpReply_link] at hk
    have htimer : replyTimer ws f v ≠ some .keepalive := by
      rw [replyTimer]
      split_ifs <;> simp
    cases hf : hasFlag f seqFlags with
    | true =>
        rcases hopen with ho | hb | hne
        · have ht : replyTimer ws f v = some .retransmit := by
            simp [replyTimer, ho, hp.window, hf, hn]
          rw [ht] at hk
          cases hk
        · simp [hf] at hb
        · cases hq : replyTimer ws f v with
          | none =>
              rw [hq] at hk
              exact hne (hkeep hk)
          | some q =>
              rw [hq] at hk
              cases hk
              exact htimer hq
    | false =>
        rw [replyFresh_bare hf] at hn
        cases hq : replyTimer ws f v with
        | none =>
            rw [hq] at hk
            exact hn (by simpa using hkeep hk)
        | some q =>
            rw [hq] at hk
            cases hk
            exact htimer hq

end Reply

/-! ### Moves -/

section Move

variable {ws : WorkSpace} {k : Call} {early : Prop} {p : Option TimerKind} {l : List Obs}
  {v v' u : View}

/-- Something new when nothing is outstanding. -/
lemma maySend_fresh {f : UInt8} {sk : Socket} {t : List Obs} (hn : sk.sndNxt = sk.sndUna)
    (h : hasFlag f thSyn = false ∨ hasFlag f thFin = false) : MaySend ws f sk t :=
  ⟨fun _ => h, fun hne => absurd hn hne⟩

/-- A bare acknowledgement or reset. -/
lemma maySend_bare {f : UInt8} {sk : Socket} {t : List Obs} (hf : hasFlag f seqFlags = false) :
    MaySend ws f sk t := by
  refine ⟨fun _ => .inr ?_, fun _ h => by simp [hf] at h⟩
  rw [hasFlag_seqFlags] at hf
  simp only [Bool.or_eq_false_iff] at hf
  exact hf.2

/-- Nothing outstanding, nothing to repeat. -/
lemma covered_acked {sk : Socket} {q : Option TimerKind} {t : List Obs}
    (hsent : Historic Covers t) (hn : sk.sndNxt = sk.sndUna)
    (hsyn : sk.state = .synReceived → sk.flags = thSyn ||| thAck)
    (hfin : sk.state = .finWait1 ∨ sk.state = .lastAck → hasFlag sk.flags thFin = true) :
    Covered ws sk q t :=
  ⟨hsent, fun hne => absurd hn hne, hsyn, hfin, fun _ => hn⟩

lemma Repeats.of_eq {f : UInt8} {sk sk' : Socket} {t t' : List Obs} (h : Repeats ws f sk t)
    (hn : sk'.sndNxt = sk.sndNxt) (hu : sk'.sndUna = sk.sndUna)
    (ht : latest Obs.carried t' = latest Obs.carried t) : Repeats ws f sk' t' := by
  obtain ⟨s, hs, hc⟩ := h.last
  exact ⟨by rw [hn, hu, h.range], s, ht.trans hs,
    hc.seq.trans hu.symm, hc.data, hc.syn, hc.fin⟩

/-- Entries that hand over nothing, while the sequence numbers and saved flags stay. -/
lemma covered_log {r : List Obs} (h : CoveredAt ws p l v) (hn : v'.sk.sndNxt = v.sk.sndNxt)
    (hu : v'.sk.sndUna = v.sk.sndUna) (hf : v'.sk.flags = v.sk.flags)
    (ht : v'.trace = v.trace ++ r) (hr : ∀ o ∈ r, ∀ s a b c, o ≠ .sent s a b c)
    (hsyn : v'.sk.state = .synReceived → v'.sk.flags = thSyn ||| thAck)
    (hfin : v'.sk.state = .finWait1 ∨ v'.sk.state = .lastAck → hasFlag v'.sk.flags thFin = true)
    (hkeep : v'.link.after p = some .keepalive → v.sk.sndNxt = v.sk.sndUna) :
    CoveredAt ws p l v' := by
  have htr : l ++ v'.trace = (l ++ v.trace) ++ r := by rw [ht, List.append_assoc]
  have hlast : latest Obs.carried (l ++ v'.trace) = latest Obs.carried (l ++ v.trace) := by
    rw [htr]
    exact latest_append_none fun o ho => carried_other (hr o ho)
  refine ⟨?_, fun hne hfl => ?_, hsyn, hfin, fun hk => ?_⟩
  · rw [htr]
    exact h.sent.append fun o ho => covers_other (hr o ho)
  · rw [hf] at hfl ⊢
    exact (h.saved (by rwa [← hn, ← hu]) hfl).of_eq hn hu hlast
  · rw [hn, hu]
    exact hkeep hk

lemma covered_close (h : CoveredAt ws p l v) : CoveredAt ws p l (socketClose v) := by
  rw [socketClose]
  split_ifs with ho
  · refine covered_log (r := [.closed v.stats.socketCurrent]) h rfl rfl rfl rfl ?_ ?_ ?_ ?_
    · simp
    · exact fun hs => by simp [socketNodeDel] at hs
    · exact fun hs => by simp [socketNodeDel] at hs
    · exact fun hk => by simp [socketNodeDel, Link.after] at hk
  · exact h

/-- What an accepted segment leaves: nothing is outstanding. -/
lemma Accepted.covered {m : Mbuf} (h : Accepted ws m v u) (hv : CoveredAt ws p l v)
    {sk : Socket} {q : Option TimerKind} (hn : sk.sndNxt = u.sk.sndNxt)
    (hu : sk.sndUna = u.sk.sndUna)
    (hsyn : sk.state = .synReceived → sk.flags = thSyn ||| thAck)
    (hfin : sk.state = .finWait1 ∨ sk.state = .lastAck → hasFlag sk.flags thFin = true) :
    Covered ws sk q (l ++ u.trace) := by
  obtain ⟨r, ht, hr⟩ := h.trace
  refine covered_acked ?_ (by rw [hn, hu, h.acked]) hsyn hfin
  rw [ht, ← List.append_assoc]
  refine hv.sent.append fun o ho => covers_other fun s a b c => ?_
  rcases hr with rfl | ⟨-, -, rfl⟩
  · simp only [List.mem_singleton] at ho
    simp [ho]
  · simp only [List.mem_cons, List.not_mem_nil, or_false] at ho
    rcases ho with rfl | rfl <;> simp

/-- The `FIN` that is outstanding alone is repeated by any `FIN` without payload. -/
lemma Repeats.bareFin {sk : Socket} {t : List Obs} (h : Repeats ws sk.flags sk t)
    (hf : hasFlag sk.flags thFin = true) (hn : sk.sndNxt = sk.sndUna + 1) :
    Repeats ws (thFin ||| thAck) sk t := by
  have hrange := h.range
  rw [hn] at hrange
  have h1 : UInt32.ofNat (segLen ws sk.flags) = 1 := by grind
  have hle := segLen_le ws sk.flags
  have hlen : segLen ws sk.flags = 1 := by
    have htn := congrArg UInt32.toNat h1
    rw [UInt32.toNat_ofNat', Nat.mod_eq_of_lt (by omega)] at htn
    exact htn
  obtain ⟨s, hs, hc⟩ := h.last
  -- the one sequence number is the `FIN`, so there is neither payload nor `SYN`
  rw [segLen, hf, if_pos rfl] at hlen
  have hpay : payload ws sk.flags = [] := List.length_eq_zero_iff.mp (by omega)
  have hsyn : hasFlag sk.flags thSyn = false := by
    by_contra hs
    rw [if_pos (by simpa using hs)] at hlen
    omega
  refine ⟨by rw [hn]; rfl, s, hs, hc.seq, ?_, ?_, ?_⟩
  · rw [hc.data]
    exact hpay
  · have hbare : hasFlag (wireFlags (thFin ||| thAck)) thSyn = false := by decide
    exact (hc.syn.trans ((wireFlags_syn _).trans hsyn)).trans hbare.symm
  · have hbare : hasFlag (wireFlags (thFin ||| thAck)) thFin = true := by decide
    exact (hc.fin.trans ((wireFlags_fin _).trans hf)).trans hbare.symm

/-- A reply when nothing is outstanding. -/
lemma covered_fresh {f : UInt8} (hp : Plain ws) (hsent : Historic Covers (l ++ v.trace))
    (hn : v.sk.sndNxt = v.sk.sndUna) (hf : hasFlag f thSyn = false ∨ hasFlag f thFin = false)
    (ho : v.sk.state ≠ .closed) (hsyn : v.sk.state = .synReceived → f = thSyn ||| thAck)
    (hfin : v.sk.state = .finWait1 ∨ v.sk.state = .lastAck → hasFlag f thFin = true) :
    CoveredAt ws p l (tcpReply ws f v) :=
  covered_reply hp (maySend_fresh hn hf) hsent (fun _ => hn) (.inl ho) hsyn hfin

/-- A frame leaves no keepalive timer while something is outstanding. -/
lemma Framed.keepalive (hf : Framed v v')
    (hkeep : v.link.after p = some .keepalive → v.sk.sndNxt = v.sk.sndUna)
    (hk : v'.link.after p = some .keepalive) : v.sk.sndNxt = v.sk.sndUna := by
  rcases hf.link with hl | hl | hl | ⟨-, hn⟩
  · exact hkeep (hl ▸ hk)
  · simp [hl, Link.after] at hk
  · simp [hl, Link.after] at hk
  · exact hn

lemma covered_frame (h : CoveredAt ws p l v) (hf : Framed v v') : CoveredAt ws p l v' := by
  refine covered_log (r := []) h hf.sndNxt hf.sndUna hf.flags (by simp [hf.trace]) (by simp)
    ?_ ?_ (hf.keepalive h.keepalive)
  · rw [hf.state, hf.flags]
    exact h.syn
  · rw [hf.state, hf.flags]
    exact h.fin

/-- The answer to a `FIN` that crosses ours repeats our `FIN` if that alone is outstanding. -/
lemma covered_crossed {m : Mbuf} (hp : Plain ws) (h : CoveredAt ws p l v)
    (hs : simultaneousFin m.th (tcpDataGet m).2 v.sk) (hn : v.sk.sndNxt = v.sk.sndUna + 1)
    (hu : Framed (crossedView m v) u) : CoveredAt ws p l (tcpReply ws (thFin ||| thAck) u) := by
  have hne : v.sk.sndNxt ≠ v.sk.sndUna := by
    rw [hn]
    grind
  have hfin : hasFlag v.sk.flags thFin = true := h.fin (.inl hs.1)
  have hseq : hasFlag v.sk.flags seqFlags = true := by
    rw [hasFlag_seqFlags, hfin]
    simp
  have hrep := (h.saved hne hseq).bareFin hfin hn
  have htr : l ++ u.trace = (l ++ v.trace) ++
      [.accepted m.th.seq m.th.ack (acceptedLen m.th (tcpDataGet m).2)] := by
    rw [hu.trace, crossedView_trace, List.append_assoc]
  refine covered_reply hp ⟨fun _ => .inl rfl, fun _ _ => ?_⟩ ?_ (fun hk => ?_)
    (.inl (by simp [hu.state])) (by simp [hu.state]) fun _ => rfl
  · refine hrep.of_eq hu.sndNxt hu.sndUna ?_
    rw [htr]
    exact latest_snoc_none rfl
  · rw [htr]
    exact historic_snoc.mpr ⟨h.sent, covers_other (by simp) _⟩
  · rw [hu.sndNxt, hu.sndUna]
    exact hu.keepalive h.keepalive hk

/-- Every move but a `FIN` over something else keeps what is covered. -/
theorem covered_move (hp : Plain ws) (h : CoveredAt ws p l v)
    (hm : Move ws k False False early v v') : CoveredAt ws p l v' := by
  have hother : ∀ {o : Obs}, (∀ s a b c, o ≠ .sent s a b c) →
      Historic Covers (l ++ (v.trace ++ [o])) := by
    intro o ho
    rw [← List.append_assoc]
    exact historic_snoc.mpr ⟨h.sent, covers_other ho _⟩
  cases hm with
  | frame hf => exact covered_frame h hf
  | accept _ hacc h1 h2 h3 =>
      have hst : v'.sk.state ≠ .established → v'.sk.state = v.sk.state := hacc.state_eq
      refine hacc.covered h rfl rfl (fun hs => ?_) fun hs => ?_
      · rw [hacc.flags]
        exact h.syn (by rw [← hst (by simp [hs]), hs])
      · rcases hs with hs | hs
        · exact absurd (by rw [← hst (by simp [hs]), hs]) h1
        · exact absurd (by rw [← hst (by simp [hs]), hs]) h3
  | finAcked _ hacc =>
      exact hacc.covered h rfl rfl (fun hs => by simp at hs) (fun hs => by simp at hs)
  | @lastAcked _ _ u _ hacc hs =>
      have hu : CoveredAt ws p l u := by
        refine hacc.covered h rfl rfl (fun hu => ?_) fun _ => ?_
        · rw [hacc.state_eq (by simp [hu])] at hu
          rcases hs with hs | hs <;> simp [hs] at hu
        · rw [hacc.flags]
          exact h.fin hs
      exact covered_close hu
  | @closingAcked _ _ u _ hacc =>
      have hu : Covered ws { u.sk with state := .synSent } none (l ++ u.trace) :=
        hacc.covered h rfl rfl (fun hs => by simp at hs) (fun hs => by simp at hs)
      exact covered_fresh (v := { u with sk.state := .lastAck }) hp hu.sent hacc.acked (.inl rfl)
        (by simp) (by simp) fun _ => rfl
  | crossed _ _ _ hs hn hu => exact covered_crossed hp h hs (hn.resolve_right id) hu
  | push hs hn =>
      exact covered_fresh hp h.sent hn (.inl rfl) (by simp [hs]) (by simp [hs]) (by simp [hs])
  | bare hf hs =>
      refine covered_reply hp (maySend_bare hf) h.sent h.keepalive (.inr (.inl hf)) (fun h' => ?_)
        fun h' => ?_
      · rcases hs with hs | hs | ⟨hs, -⟩ <;> simp [hs] at h'
      · rcases hs with hs | hs | ⟨hs, -⟩ <;> simp [hs] at h'
  | again hn =>
      exact covered_reply hp ⟨fun he => absurd he hn, fun _ hf => h.saved hn hf⟩ h.sent
        h.keepalive (.inr (.inr hn)) h.syn h.fin
  | synAgain hs =>
      have hflags := h.syn hs
      refine covered_reply hp ⟨fun _ => .inr rfl, fun hn hf => ?_⟩ h.sent h.keepalive
        (.inl (by simp [hs])) (fun _ => rfl) (by simp [hs])
      rw [← hflags] at hf ⊢
      exact h.saved hn hf
  | @fin s f _ hs ht hf hsyn hpu hn =>
      have hn := hn.resolve_right id
      refine covered_fresh (v := { v with sk.state := s }) hp h.sent hn (.inl hsyn) ?_ ?_ fun _ => hf
      · rcases ht with rfl | rfl <;> simp
      · rcases ht with rfl | rfl <;> simp
  | earlyAcked hs =>
      exact covered_log (r := []) h rfl rfl rfl (by simp) (by simp) (fun hs => by simp at hs)
        (fun hs => by simp at hs) h.keepalive
  | close => exact covered_close h
  | recycle hs =>
      exact covered_log (r := []) h rfl rfl rfl (by simp) (by simp) (fun hs => by simp at hs)
        (fun hs => by simp at hs) h.keepalive
  | @openServer m _ _ _ hc =>
      refine covered_fresh hp ?_ rfl (.inr rfl) (by simp [socketServerOpen_state]) (fun _ => rfl)
        (by simp [socketServerOpen_state])
      have htr : (socketServerOpen m.th v).trace = v.trace ++ [.opened
          (socketServerOpen m.th v).sk.sndNxt (socketServerOpen m.th v).sk.rcvNxt] := by
        rw [socketServerOpen]
        dsimp only
        split_ifs <;> rfl
      rw [htr]
      exact hother (by simp)
  | openClient _ hc =>
      exact covered_fresh hp (hother (by simp)) rfl (.inr rfl)
        (by simp [socketClientOpened, socketInitHttp])
        (by simp [socketClientOpened, socketInitHttp]) (by simp [socketClientOpened, socketInitHttp])
  | synAck _ _ hs ha =>
      exact covered_fresh hp (hother (by simp)) (by simp [ha]) (.inl rfl) (by simp) (by simp) (by simp)

theorem covered_moves (hp : Plain ws) (h : CoveredAt ws p l v)
    (hm : Moves ws k False False early v v') : CoveredAt ws p l v' := by
  induction hm with
  | refl => exact h
  | tail _ hlast ih => exact covered_move hp ih hlast

end Move

/-! ### Runs -/

/-- A packet crosses a `FIN` that is outstanding with a payload, or makes the client send a
`FIN` over its request. -/
def FinOver (st : SocketTable n) (ws : WorkSpace) (e : Event) (w : Worker n) : Prop :=
  ∃ m i, e = .recv .tcp m ∧ socketLookup st ws w.pool m = some i ∧
    (Crossing (.input m) (w.pool i) ∨ Overrun ws (.input m) (w.view i))

/-- What a call of a guarded step keeps. -/
lemma covered_call {st : SocketTable n} {ws : WorkSpace} {e : Event} {w₀ w : Worker n} {i : Fin n}
    {k : Call} (hp : Plain ws) (hk : Permit ws (e.inp st ws w₀) i k w)
    (hG : ¬ FinOver st ws e w₀) (h : Covered ws (w.pool i) (w.timers.place i) (w.obs i)) :
    CoveredAt ws (w.timers.place i) (w.obs i) (k.run ws (w.view i)) := by
  have hinp : ∀ m, k = .input m → w = w₀ ∧ e = .recv .tcp m ∧ socketLookup st ws w₀.pool m = some i := by
    intro m hm
    have hin := hk.input m hm
    rwa [← hp.protocol]
  have hc : ¬ Crossing k (w.pool i) := by
    rintro ⟨m, rfl, hm⟩
    obtain ⟨rfl, he, hi⟩ := hinp m rfl
    exact hG ⟨m, i, he, hi, .inl ⟨m, rfl, hm⟩⟩
  have ho : ¬ Overrun ws k (w.view i) := by
    rintro (⟨m, rfl, hm⟩ | ⟨rfl, hne⟩)
    · obtain ⟨rfl, he, hi⟩ := hinp m rfl
      exact hG ⟨m, i, he, hi, .inr (.inl ⟨m, rfl, hm⟩)⟩
    · exact hne (h.keepalive (Queues.place_eq_some.mpr (hk.timer _ rfl)))
  have hm := moves_run hp hk.mode (w.view i)
  rw [show Crossing k (w.view i).sk = False from eq_false hc, eq_false ho] at hm
  refine covered_moves hp ?_ hm
  rw [CoveredAt, show (w.view i).trace = [] from rfl, List.append_nil]
  exact h

/-! ### What breaks the law -/

section Breaks

variable {ws : WorkSpace} {m : Mbuf} {v : View} {l : List Obs}

/-- A `FIN` sent while another number of sequence numbers is outstanding. -/
lemma not_covers_fin {u : View} (ha : ws.mbufAlloc u.allocs = true)
    (hn : u.sk.sndNxt ≠ u.sk.sndUna) (hne : u.sk.sndNxt ≠ u.sk.sndUna + 1) :
    ¬ Historic Covers (l ++ (tcpReply ws (thFin ||| thAck) u).trace) := by
  intro h
  rw [tcpReply_trace, if_pos ha, ← List.append_assoc] at h
  have hlen : (replySegment ws (thFin ||| thAck) u.sk).seqLen = 1 := by
    rw [replySegment_seqLen]
    rfl
  have hcov := ((historic_snoc.mp h).2 _ _ _ _ rfl (by omega)).2.1
  rw [replyFresh_outstanding hn, hlen] at hcov
  exact hne (by simpa using hcov.symm)

lemma simultaneousFin_outstanding (hin : ¬ inOrder m.th v.sk)
    (hs : simultaneousFin m.th (tcpDataGet m).2 v.sk) : v.sk.sndNxt ≠ v.sk.sndUna := by
  obtain ⟨-, -, -, hack, hseq⟩ := hs
  intro hn
  exact hin ⟨hack.trans hn.symm, hseq⟩

lemma not_covers_crossing (hp : Plain ws) (ha : ∀ i, ws.mbufAlloc i = true)
    (h : Crossing (.input m) v.sk) :
    (l4Input ws m v).1 = .none ∧ ¬ Historic Covers (l ++ (l4Input ws m v).2.trace) := by
  obtain ⟨m', hm', hf, hin, hs, hn⟩ := h
  cases hm'
  have hout := simultaneousFin_outstanding (v := v) hin hs
  rw [l4Input, hp.protocol]
  cases ws.cfg.server with
  | true =>
      obtain ⟨u, hu, hfr, -⟩ := serverProcessData_crossed (m := m)
        (v := v.count (tcpFlagsRxCount m.th.flags)) hp hin hs
      refine ⟨rfl, ?_⟩
      dsimp only
      rw [tcpServerInput, if_pos (by exact hf), hu]
      exact not_covers_fin (ha _) (by rw [hfr.sndNxt, hfr.sndUna]; exact hout)
        (by rw [hfr.sndNxt, hfr.sndUna]; exact hn)
  | false =>
      have hu := clientProcessData_crossed ws (m := m)
        (v := v.count (tcpFlagsRxCount m.th.flags)) hin hs
      dsimp only
      rw [tcpClientInput, if_pos (by exact hf), hu]
      exact ⟨rfl, not_covers_fin (ha _) hout hn⟩

/-- A `FIN` sent over a request that is outstanding. -/
lemma not_covers_over {u : View} (ha : ∀ i, ws.mbufAlloc i = true) (hb : ws.tcpData.bytes ≠ [])
    (hs : u.sk.state = .established) (hn : u.sk.sndNxt = u.sk.sndUna)
    (hd : workSpaceInDuration ws = true) (hf : hasFlag m.th.flags thFin = true) :
    ¬ Historic Covers
      (l ++ (tcpClientAnswer ws m.th.flags thAck (tcpSendKeepaliveRequest ws u)).trace) := by
  -- the request
  have hpos : 0 < segLen ws (thAck ||| thPush) := segLen_pos hb rfl
  have hfresh : ∀ u' : View, u'.sk.sndNxt = u'.sk.sndUna →
      u'.sk.sndNxt + replyFresh ws (thAck ||| thPush) u' ≠ u'.sk.sndUna :=
    fun u' hn' => reply_outstanding hb (ha _) rfl (.inl rfl)
  have hreq : ∃ u' : View, (tcpSendKeepaliveRequest ws u).trace = u.trace ++
        [.sent (replySegment ws (thAck ||| thPush) u'.sk) u'.sk.sndUna
          (u'.sk.sndNxt + replyFresh ws (thAck ||| thPush) u')
          (replyFresh ws (thAck ||| thPush) u').toNat] ∧
      (tcpSendKeepaliveRequest ws u).sk.state = .established ∧
      (tcpSendKeepaliveRequest ws u).sk.sndNxt ≠ (tcpSendKeepaliveRequest ws u).sk.sndUna := by
    have hout := hfresh { u with sk.keepaliveRequestNum := u.sk.keepaliveRequestNum + 1 } hn
    refine ⟨{ u with sk.keepaliveRequestNum := u.sk.keepaliveRequestNum + 1 }, ?_⟩
    rw [tcpSendKeepaliveRequest, if_pos hd]
    dsimp only
    split_ifs
    · refine ⟨?_, ?_, ?_⟩
      · simp [tcpReply_trace, ha]
      · simpa using hs
      · simpa using hout
    · refine ⟨?_, ?_, ?_⟩
      · simp [tcpReply_trace, ha]
      · simpa using hs
      · simpa using hout
  obtain ⟨u', htr, hst, hout⟩ := hreq
  generalize tcpSendKeepaliveRequest ws u = w at htr hst hout ⊢
  -- the `FIN` over it
  have hans : (tcpClientAnswer ws m.th.flags thAck w).trace =
      (tcpReply ws (thAck ||| (thFin ||| thAck)) { w with sk.state := .lastAck }).trace := by
    have hfin : tcpFinFlags m.th.flags thAck w =
        (thAck ||| (thFin ||| thAck), { w with sk.state := .lastAck }) := by
      have hfl : hasFlag (m.th.flags ||| thAck) thFin = true := by
        rw [hasFlag_or, hf]
        rfl
      rw [tcpFinFlags, if_pos (.inr hfl), tcpProcessFin, hst]
      dsimp only
      rw [if_pos hf]
    rw [tcpClientAnswer, hfin]
    dsimp only
    rw [if_pos (by decide), if_pos (.inl hf)]
  rw [hans, tcpReply_trace, if_pos (ha _), htr, ← List.append_assoc, ← List.append_assoc]
  intro h
  have hlen : (replySegment ws (thAck ||| (thFin ||| thAck))
      ({ w with sk.state := .lastAck } : View).sk).seqLen = 1 := by
    rw [replySegment_seqLen]
    rfl
  have hcov := ((historic_snoc.mp h).2 _ _ _ _ rfl (by rw [hlen]; exact Nat.one_pos)).2.2
  rw [replyFresh_outstanding (by exact hout)] at hcov
  obtain ⟨t, ht, hc⟩ := hcov rfl
  have hpush : ∀ a b c, Obs.carried (.sent (replySegment ws (thAck ||| thPush) u'.sk) a b c) =
      some (replySegment ws (thAck ||| thPush) u'.sk) :=
    fun a b c => if_pos (by rwa [replySegment_seqLen])
  rw [latest_snoc_some (hpush _ _ _)] at ht
  cases ht
  exact hb hc.data

end Breaks

/-- **What is sent covers what is outstanding.** As long as no `FIN` crosses more than a `FIN`
and no response makes the client send a `FIN` over its request, every segment with `SYN`,
payload or `FIN` covers exactly the outstanding range and repeats what was sent for it. Where
mbufs are found, every such packet makes the socket send a segment that does not. -/
theorem segments_cover_iff {st : SocketTable n} {ws : WorkSpace} (hp : Plain ws) :
    (∀ w, Reach st ws (fun ws e w => ¬ FinOver st ws e w) w → ∀ i, Historic Covers (w.obs i)) ∧
      ∀ w w' c e, Reach st ws anyStep w → step st (ws.at c) e w = some w' →
        FinOver st (ws.at c) e w → (∀ i, ws.mbufAlloc i = true) →
        ∃ i, ¬ Historic Covers (w'.obs i) := by
  constructor
  · intro w h i
    have hC : ∀ i, Covered ws (w.slot i).sk (w.slot i).place (w.slot i).obs := by
      refine slots_of_reach (P := fun s => Covered ws s.sk s.place s.obs) ?_ ?_ h
      · intro sk hnew
        obtain ⟨hst, hfl, -⟩ := hnew.closed
        exact ⟨historic_nil, fun _ hf => by simp [hfl, hasFlag] at hf, fun hs => by simp [hst] at hs,
          fun hs => by simp [hst] at hs, fun hk => by cases hk⟩
      · intro c e w₀ hG i k w hk hw
        exact (covered_at c).mp (covered_call (hp.at c) hk hG ((covered_at c).mpr hw))
    exact (hC i).sent
  · rintro w w' c e - hstep ⟨m, i, rfl, hi, hbad⟩ ha
    refine ⟨i, ?_⟩
    have hin : (l4Input (ws.at c) m (w.view i)).1 = .none ∧
        ¬ Historic Covers (w.obs i ++ (l4Input (ws.at c) m (w.view i)).2.trace) := by
      rcases hbad with hc | (⟨m', hm', hreq, hf, hd, -, hb⟩ | ⟨hk, -⟩)
      · exact not_covers_crossing (v := w.view i) (hp.at c) ha hc
      · cases hm'
        obtain ⟨u, hu, hst, hn, -⟩ := RequestsAgain.input (v := w.view i) hreq (hp.at c)
        rw [l4Input, (hp.at c).protocol, hreq.1]
        dsimp only
        rw [hu]
        exact ⟨rfl, not_covers_over ha hb hst hn hd hf⟩
      · cases hk
    have hw' : w' = w.put i (l4Input (ws.at c) m (w.view i)).2 := by
      have hw := hstep
      rw [step, recvPacket, if_pos (hp.at c).protocol.symm, hi, l4Process] at hw
      rw [hin.1] at hw
      exact (Option.some.inj hw).symm
    rw [hw', Worker.obs_put_self]
    exact hin.2

/-- The handshake of a client covers what it sends. -/
theorem segments_cover_handshake :
    ∃ w, Reach .single (.single .single) (fun ws e w => ¬ FinOver SocketTable.single ws e w) w ∧
      (w.pool 0).state = .established ∧ Historic Covers (w.obs 0) := by
  -- a `SYN-ACK` is no data
  have hG : ∀ c e, (c, e) ∈ clientHandshake → ∀ w, ¬ FinOver SocketTable.single
      ((WorkSpace.single .single).at c) e w := by
    rintro c e he w ⟨m, i, rfl, -, hbad⟩
    simp only [clientHandshake, List.mem_cons, Prod.mk.injEq, reduceCtorEq, and_false, false_or,
      Event.recv.injEq, true_and, List.not_mem_nil, or_false] at he
    have hf : ¬ dataFlags m := by
      rw [he.2]
      decide
    rcases hbad with ⟨m', hm, hd, -⟩ | ⟨m', hm, hreq, -⟩ | ⟨hk, -⟩
    · cases hm
      exact hf hd
    · cases hm
      exact hf hreq.2.1
    · cases hk
  obtain ⟨w, hw, hs⟩ := reach_runEvents SocketTable.single _
    (fun ws e w => ¬ FinOver SocketTable.single ws e w)
    (Worker.single_initial (.single .single)) _ (p := fun w => (w.pool 0).state == .established)
    hG (by decide)
  exact ⟨w, hw, by simpa using hs, (segments_cover_iff ⟨rfl, rfl, fun _ => rfl⟩).1 w hw 0⟩

/-- A `FIN` that crosses a response with `FIN` makes the server send a `FIN` at the sequence
number of the response. -/
theorem segments_not_cover :
    ∃ w, Reach .single (.single (.singleServer false)) anyStep w ∧
      ¬ Historic Covers (w.obs 0) := by
  obtain ⟨w, hw, hp⟩ := reach_runEvents SocketTable.single _ anyStep
    (Worker.single_initial (.single (.singleServer false)))
    (serverHandshake ++ [(.single 1, .recv .tcp (.single true (thPush ||| thAck) 101 2 [1])),
      (.single 1, .recv .tcp (.single true (thFin ||| thAck) 102 2 []))])
    (p := fun w => (w.obs 0).getLast? == some (.sent ⟨2, 1, 80, 1, thFin ||| thAck, 2, 103, []⟩ 2 6 0))
    (fun _ _ _ _ => trivial) (by decide)
  refine ⟨w, hw, fun h => ?_⟩
  obtain ⟨l, hl⟩ := List.getLast?_eq_some_iff.mp (beq_iff_eq.mp hp)
  have hcov := h l _ [] hl _ _ _ _ rfl (by decide)
  exact absurd hcov.2.1 (by decide)

end Dperf
