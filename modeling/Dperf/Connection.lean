import Dperf.Lib.Peers
import Dperf.Outstanding
import Dperf.Received
import Dperf.Resets
import Dperf.Responses

/-!
One end of a TCP connection with `send_window == 0`, move by move.

* `Mbuf.Arrives`: a packet that carries a segment of the other end.
* `Ongoing`: the connection has not been closed, and less than `2 ^ 31` bytes have been sent.
* `Side`: where a socket is in the numbers of both ends, and what it has on the way. A reply keeps
  it (`Side.reply`), and so does an accepted segment (`Side.accepted`).
* `PassedOnce`: the requests passed to the parser, each at a position of its own.
* `Settled`: a socket after its half of the handshake. What a move makes of it agrees with the
  other end (`Settled.move`).
-/

namespace Dperf

open Peers Sequence

/-! ### What is on the way -/

/-- A packet that carries a segment with its payload. -/
structure Mbuf.Arrives (m : Mbuf) (seg : Segment) : Prop extends m.Carries seg where
  length : (tcpDataGet m).2.toNat = seg.data.length
  data : (tcpDataGet m).1.take seg.data.length = seg.data

/-- The segments sent on a socket. -/
def sentSegments (l : List Obs) : List Segment := l.filterMap Obs.segment

/-- What is passed to `http_parse_request`, with its sequence number. -/
def Obs.passed : Obs → Option (UInt32 × List UInt8)
  | .request seq data => some (seq, data)
  | _ => none

/-- What has been passed to `http_parse_request` on a socket. -/
def passedRequests (l : List Obs) : List (UInt32 × List UInt8) := l.filterMap Obs.passed

/-- The socket has not been closed, and has sent less than `2 ^ 31` bytes. -/
structure Ongoing (l : List Obs) : Prop where
  closed : ∀ cur, .closed cur ∉ l
  bytes : sentBytes l < 2 ^ 31

section Traces

variable {l r : List Obs}

@[simp] lemma sentSegments_append : sentSegments (l ++ r) = sentSegments l ++ sentSegments r :=
  List.filterMap_append

@[simp] lemma passedRequests_append :
    passedRequests (l ++ r) = passedRequests l ++ passedRequests r := List.filterMap_append

lemma Ongoing.of_append (h : Ongoing (l ++ r)) : Ongoing l := by
  refine ⟨fun cur hc => h.closed cur (List.mem_append_left _ hc), ?_⟩
  have hb := h.bytes
  rw [sentBytes_append] at hb
  omega

/-- It was so at an earlier point of a call. -/
lemma Ongoing.before {s : Slot} {v v' : View} (h : Ongoing (s.after v').obs)
    (hr : ∃ r, v'.trace = v.trace ++ r) : Ongoing (s.after v).obs := by
  obtain ⟨r, hr⟩ := hr
  refine Ongoing.of_append (r := r) ?_
  rw [Slot.after, List.append_assoc, ← hr]
  exact h

/-- A socket that is closed is not going on. -/
lemma Ongoing.not_close {s : Slot} {v : View} (h : Ongoing (s.after (socketClose v)).obs) :
    v.sk.state = .closed := by
  by_contra ho
  obtain ⟨-, cur, hc⟩ := socketClose_logged ho
  exact h.closed cur (List.mem_append_right _ hc)

end Traces

/-! ### One side -/

/-- A segment stands where `s` says, in the numbers of its sender, which begin at `b`, and of the
other end, which begin at `b'`. -/
structure Located (b b' : UInt32) (seg : Segment) (s : Extent) : Prop where
  seq : seg.seq = seqAt b s.start
  stop : s.stop = s.start + seg.seqLen
  ack : hasFlag seg.flags thAck = true → seg.ack = seqAt b' s.ack

/-- The sequence number that the `FIN` will take. -/
def finLeft (t : SkState) : ℕ := if t ≤ .established then 1 else 0

/-- The socket `sk` with the trace `l` is at `x`. Its numbers begin at `b`, those of the other end
at `b'`. -/
structure Side (ws : WorkSpace) (b b' : UInt32) (x : Ends) (sk : Socket) (l : List Obs) :
    Prop where
  sndNxt : sk.sndNxt = seqAt b x.nxt
  sndUna : sk.sndUna = seqAt b x.una
  rcvNxt : sk.rcvNxt = seqAt b' x.rcv
  una_le : x.una ≤ x.nxt
  flight : x.nxt ≤ x.una + 10242
  saved : x.una < x.nxt → x.una + segLen ws sk.flags ≤ x.nxt
  room : x.nxt + finLeft sk.state ≤ sentBytes l + 2
  sent : ∀ seg ∈ sentSegments l, seg.seqLen ≤ 10242 ∧ ∃ s, Sends x s ∧ Located b b' seg s

/-- The time does not matter. -/
lemma side_at {ws : WorkSpace} {b b' : UInt32} {x : Ends} {sk : Socket} {l : List Obs} (c : Clock) :
    Side (ws.at c) b b' x sk l ↔ Side ws b b' x sk l :=
  ⟨fun h => ⟨h.sndNxt, h.sndUna, h.rcvNxt, h.una_le, h.flight, h.saved, h.room, h.sent⟩,
    fun h => ⟨h.sndNxt, h.sndUna, h.rcvNxt, h.una_le, h.flight, h.saved, h.room, h.sent⟩⟩

namespace Side

variable {ws : WorkSpace} {b b' : UInt32} {x : Ends} {sk sk' : Socket} {l l' : List Obs}
  {f : UInt8} {v : View}

/-- The numbers do not come around. -/
lemma nxt_lt (h : Side ws b b' x sk l) (hb : sentBytes l < 2 ^ 31) : x.nxt < 2 ^ 32 := by
  have := h.room
  omega

lemma una_lt (h : Side ws b b' x sk l) (hb : sentBytes l < 2 ^ 31) : x.una < 2 ^ 32 :=
  lt_of_le_of_lt h.una_le (h.nxt_lt hb)

/-- Something is outstanding. -/
lemma acked_iff (h : Side ws b b' x sk l) (hb : sentBytes l < 2 ^ 31) :
    sk.sndNxt = sk.sndUna ↔ x.nxt = x.una := by
  rw [h.sndNxt, h.sndUna, seqAt_inj (h.nxt_lt hb) (h.una_lt hb)]

/-- More has been received, and nothing or all of what was sent is acknowledged. -/
lemma received (h : Side ws b b' x sk l) {una rcv : ℕ} (huna : una = x.una ∨ una = x.nxt)
    (hrcv : x.rcv ≤ rcv) (hn : sk'.sndNxt = sk.sndNxt) (hu : sk'.sndUna = seqAt b una)
    (hr : sk'.rcvNxt = seqAt b' rcv) (hf : sk'.flags = sk.flags)
    (hst : finLeft sk'.state ≤ finLeft sk.state) (hseg : sentSegments l' = sentSegments l)
    (hbytes : sentBytes l' = sentBytes l) :
    Side ws b b' { x with una := una, rcv := rcv } sk' l' := by
  have hle := h.una_le
  have hflight := h.flight
  refine ⟨hn.trans h.sndNxt, hu, hr, ?_, ?_, fun hlt => ?_, ?_, fun seg hs => ?_⟩
  · rcases huna with rfl | rfl
    · exact hle
    · exact le_rfl
  · rcases huna with rfl | rfl
    · exact hflight
    · exact Nat.le_add_right _ _
  · rcases huna with rfl | rfl
    · rw [hf]
      exact h.saved hlt
    · exact absurd hlt (lt_irrefl _)
  · rw [hbytes]
    exact (Nat.add_le_add_left hst _).trans h.room
  · rw [hseg] at hs
    obtain ⟨hsmall, e, he, hstands⟩ := h.sent seg hs
    refine ⟨hsmall, e, he.mono le_rfl ?_ hrcv, hstands⟩
    rcases huna with rfl | rfl
    · exact le_rfl
    · exact hle

/-- A change of the state, of fields that no sequence number depends on, and of entries that send
nothing. -/
lemma congr (h : Side ws b b' x sk l) (hn : sk'.sndNxt = sk.sndNxt) (hu : sk'.sndUna = sk.sndUna)
    (hr : sk'.rcvNxt = sk.rcvNxt) (hf : sk'.flags = sk.flags)
    (hst : finLeft sk'.state ≤ finLeft sk.state) (hseg : sentSegments l' = sentSegments l)
    (hbytes : sentBytes l' = sentBytes l) : Side ws b b' x sk' l' :=
  h.received (.inl rfl) le_rfl hn (hu.trans h.sndUna) (hr.trans h.rcvNxt) hf hst hseg hbytes

/-- The sequence numbers of `SYN` and `FIN`. -/
def marks (f : UInt8) : ℕ := (if hasFlag f thSyn then 1 else 0) + if hasFlag f thFin then 1 else 0

lemma segLen_eq (ws : WorkSpace) (f : UInt8) : segLen ws f = (payload ws f).length + marks f := by
  rw [segLen, marks, Nat.add_assoc]

/-- What a reply takes of the sequence numbers. -/
lemma toNat_replyFresh (h : Side ws b b' x v.sk l) (hb : sentBytes l < 2 ^ 31)
    (hf : x.nxt = x.una → hasFlag f thSyn = false ∨ hasFlag f thFin = false) :
    (replyFresh ws f v).toNat =
      if ws.mbufAlloc v.allocs = true ∧ x.nxt = x.una then segLen ws f else 0 := by
  have hiff := h.acked_iff hb
  split_ifs with hc
  · exact replyFresh_toNat (hf hc.2) hc.1 (hiff.mpr hc.2)
  · rw [replyFresh, if_neg fun hn => hc ⟨hn.1, hiff.mp hn.2⟩]
    rfl

/-- A reply: what is outstanding is sent again, or something new if nothing is. -/
lemma reply (h : Side ws b b' x v.sk (l ++ v.trace)) (hb : sentBytes (l ++ v.trace) < 2 ^ 31)
    (hnew : x.nxt = x.una → (hasFlag f thSyn = false ∨ hasFlag f thFin = false) ∧
      x.nxt + marks f + finLeft v.sk.state ≤ sentBytes (l ++ v.trace) + 2)
    (hagain : x.una < x.nxt → x.una + segLen ws f ≤ x.nxt) :
    ∃ nxt, x.nxt ≤ nxt ∧
      Side ws b b' { x with nxt := nxt } (tcpReply ws f v).sk (l ++ (tcpReply ws f v).trace) := by
  have hfresh := h.toNat_replyFresh hb fun hn => (hnew hn).1
  have hle := h.una_le
  have hlen := segLen_le ws f
  have hflight := h.flight
  have hlog : l ++ (tcpReply ws f v).trace = (l ++ v.trace) ++ if ws.mbufAlloc v.allocs then
      [.sent (replySegment ws f v.sk) v.sk.sndUna (v.sk.sndNxt + replyFresh ws f v)
        (replyFresh ws f v).toNat] else [] := by
    rw [tcpReply_trace, List.append_assoc]
  refine ⟨x.nxt + (replyFresh ws f v).toNat, Nat.le_add_right _ _, ?_, ?_, ?_, ?_, ?_, ?_, ?_, ?_⟩
  · rw [tcpReply_sndNxt, seqAt_add, UInt32.ofNat_toNat, h.sndNxt]
  · rw [tcpReply_sndUna, h.sndUna]
  · rw [tcpReply_rcvNxt, h.rcvNxt]
  · dsimp only
    omega
  · dsimp only
    rw [hfresh]
    split_ifs with hc
    · omega
    · omega
  · dsimp only
    rw [tcpReply_flags, hfresh]
    split_ifs with hc
    · omega
    · exact fun hlt => hagain hlt
  · -- the payload is counted as it is sent
    rw [tcpReply_state, hlog, sentBytes_append]
    dsimp only
    have hroom := h.room
    have hmarks := segLen_eq ws f
    cases ha : ws.mbufAlloc v.allocs with
    | false =>
        rw [hfresh, if_neg (by simp [ha])]
        simpa [sentBytes] using hroom
    | true =>
        rw [if_pos rfl]
        by_cases hn : x.nxt = x.una
        · have hnew' := (hnew hn).2
          rw [if_pos ⟨ha, hn⟩] at hfresh
          have hbytes : sentBytes [.sent (replySegment ws f v.sk) v.sk.sndUna
              (v.sk.sndNxt + replyFresh ws f v) (replyFresh ws f v).toNat] =
              (payload ws f).length := by
            simp only [sentBytes, List.map_cons, List.map_nil, List.sum_cons, List.sum_nil,
              Obs.newData, replySegment, hfresh]
            split_ifs
            · omega
            · rfl
          rw [hbytes, hfresh]
          omega
        · rw [hfresh, if_neg fun hc => hn hc.2]
          omega
  · intro seg hseg
    rw [hlog, sentSegments_append, List.mem_append] at hseg
    rcases hseg with hseg | hseg
    · obtain ⟨hsmall, s, hs, hst⟩ := h.sent seg hseg
      exact ⟨hsmall, s, hs.mono (Nat.le_add_right _ _) le_rfl le_rfl, hst⟩
    · cases ha : ws.mbufAlloc v.allocs with
      | false => simp [ha, sentSegments] at hseg
      | true =>
          simp only [ha, if_true, sentSegments, List.filterMap_cons, Obs.segment,
            List.filterMap_nil, List.mem_singleton] at hseg
          subst hseg
          refine ⟨?_, ⟨x.una, x.una + segLen ws f, x.rcv⟩, ⟨le_rfl, ?_, le_rfl⟩, ?_⟩
          · rw [replySegment_seqLen]
            exact hlen
          · dsimp only
            rw [hfresh]
            split_ifs with hc
            · omega
            · have hne : ¬ x.nxt = x.una := fun hn => hc ⟨ha, hn⟩
              exact hagain (by omega)
          · refine ⟨h.sndUna, ?_, fun _ => h.rcvNxt⟩
            rw [replySegment_seqLen]

/-- A segment of this side that arrives at the other end where that has got to. -/
lemma arrives (h : Side ws b b' x sk l) (hb : sentBytes l < 2 ^ 31) {m : Mbuf} {seg : Segment}
    (hseg : seg ∈ sentSegments l) (hm : m.Arrives seg) (hf : dataFlags m) {rcv : ℕ}
    (hrcv : rcv ≤ x.nxt) (hseq : m.th.seq = seqAt b rcv) :
    acceptedLen m.th (tcpDataGet m).2 ≤ 10242 ∧ ∃ s, Sends x s ∧ s.start = rcv ∧
      s.stop = rcv + acceptedLen m.th (tcpDataGet m).2 ∧ m.th.ack = seqAt b' s.ack := by
  obtain ⟨hsmall, s, hs, hstands⟩ := h.sent seg hseg
  have hlt := h.nxt_lt hb
  have hstart : s.start = rcv := by
    have hstop := hs.stop
    rw [hstands.stop] at hstop
    rw [hm.seq, hstands.seq] at hseq
    exact (seqAt_inj (by omega) (by omega)).mp hseq
  have hlen : seg.seqLen = acceptedLen m.th (tcpDataGet m).2 := by
    have hsyn : hasFlag seg.flags thSyn = false := by
      have hno := hf.1
      rw [hasFlag_mask_or, Bool.or_eq_false_iff, hm.flags] at hno
      exact hno.1
    rw [Segment.seqLen, acceptedLen, hsyn, hm.length, hm.flags]
    rfl
  refine ⟨hlen ▸ hsmall, s, hs, hstart, ?_, ?_⟩
  · rw [hstands.stop, hstart, hlen]
  · rw [hm.ack]
    exact hstands.ack (hm.flags ▸ hf.2)

end Side

/-! ### Requests -/

/-- The requests `l` were carried by segments of `segs`, below the position `rcv`, and no two of
them have one number. -/
structure PassedOnce (b' : UInt32) (rcv : ℕ) (l : List (UInt32 × List UInt8))
    (segs : List Segment) : Prop where
  position : ∀ q ∈ l, ∃ k < rcv, q.1 = seqAt b' k
  segment : ∀ q ∈ l, ∃ seg ∈ segs, seg.seq = q.1 ∧ seg.data = q.2
  nodup : (l.map Prod.fst).Nodup

namespace PassedOnce

variable {b' : UInt32} {rcv rcv' : ℕ} {l : List (UInt32 × List UInt8)} {segs segs' : List Segment}

lemma nil : PassedOnce b' rcv [] segs := ⟨by simp, by simp, List.nodup_nil⟩

lemma mono (h : PassedOnce b' rcv l segs) (hr : rcv ≤ rcv') (hs : segs ⊆ segs') :
    PassedOnce b' rcv' l segs' := by
  refine ⟨fun q hq => ?_, fun q hq => ?_, h.nodup⟩
  · obtain ⟨k, hk, hseq⟩ := h.position q hq
    exact ⟨k, hk.trans_le hr, hseq⟩
  · obtain ⟨seg, hseg, hc⟩ := h.segment q hq
    exact ⟨seg, hs hseg, hc⟩

/-- The next request. -/
lemma snoc (h : PassedOnce b' rcv l segs) {seg : Segment} (hseg : seg ∈ segs)
    (hseq : seg.seq = seqAt b' rcv) (hr : rcv < rcv') (hlt : rcv < 2 ^ 32) :
    PassedOnce b' rcv' (l ++ [(seg.seq, seg.data)]) segs := by
  refine ⟨fun q hq => ?_, fun q hq => ?_, ?_⟩
  · rcases List.mem_append.mp hq with hq | hq
    · obtain ⟨k, hk, hkseq⟩ := h.position q hq
      exact ⟨k, hk.trans hr, hkseq⟩
    · rw [List.mem_singleton.mp hq]
      exact ⟨rcv, hr, hseq⟩
  · rcases List.mem_append.mp hq with hq | hq
    · exact h.segment q hq
    · rw [List.mem_singleton.mp hq]
      exact ⟨seg, hseg, rfl, rfl⟩
  · rw [List.map_append, List.map_singleton, List.nodup_append]
    refine ⟨h.nodup, List.nodup_singleton _, fun a ha c hc heq => ?_⟩
    -- the earlier ones are at lower positions
    obtain ⟨q, hq, rfl⟩ := List.mem_map.mp ha
    obtain ⟨k, hk, hkseq⟩ := h.position q hq
    rw [List.mem_singleton.mp hc, hseq, hkseq, seqAt_inj (hk.trans hlt) hlt] at heq
    omega

end PassedOnce

/-! ### Traces of moves -/

section Traces

variable {ws : WorkSpace} {k : Call} {crossing overrun early : Prop} {v v' u : View} {f : UInt8}
  {m : Mbuf}

lemma tcpReply_log (ws : WorkSpace) (f : UInt8) (v : View) :
    ∃ r, (tcpReply ws f v).trace = v.trace ++ r := ⟨_, tcpReply_trace ws f v⟩

lemma socketClose_log (v : View) : ∃ r, (socketClose v).trace = v.trace ++ r := by
  rw [socketClose]
  split_ifs
  · exact ⟨[.closed v.stats.socketCurrent], rfl⟩
  · exact ⟨[], (List.append_nil _).symm⟩

lemma socketServerOpen_log (th : Tcphdr) (v : View) :
    (socketServerOpen th v).trace = v.trace ++
      [.opened (socketServerOpen th v).sk.sndNxt (socketServerOpen th v).sk.rcvNxt] := by
  rw [socketServerOpen]
  dsimp only
  split_ifs <;> rfl

/-- A move adds to the trace. -/
lemma move_trace (h : Move ws k crossing overrun early v v') : ∃ r, v'.trace = v.trace ++ r := by
  have hthen : ∀ {w w' : View}, (∃ r, w.trace = v.trace ++ r) → (∃ r, w'.trace = w.trace ++ r) →
      ∃ r, w'.trace = v.trace ++ r := by
    rintro w w' ⟨r, hr⟩ ⟨r', hr'⟩
    exact ⟨r ++ r', by rw [hr', hr, List.append_assoc]⟩
  have hacc : ∀ {m u}, Accepted ws m v u → ∃ r, u.trace = v.trace ++ r := by
    rintro m u ha
    obtain ⟨r, hr, -⟩ := ha.trace
    exact ⟨_, hr⟩
  have hnil : ∃ r, v.trace = v.trace ++ r := ⟨[], (List.append_nil _).symm⟩
  cases h with
  | frame hf => exact hf.trace ▸ hnil
  | accept _ ha => exact hacc ha
  | finAcked _ ha =>
      obtain ⟨r, hr⟩ := hacc ha
      exact ⟨r, hr⟩
  | lastAcked _ ha => exact hthen (hacc ha) (socketClose_log _)
  | closingAcked _ ha => exact hthen (hacc ha) (tcpReply_log ws _ _)
  | @crossed m _ u _ _ _ _ _ hu =>
      have hcr : ∃ r, u.trace = v.trace ++ r := ⟨_, hu.trace.trans (crossedView_trace m v)⟩
      exact hthen hcr (tcpReply_log ws _ _)
  | push => exact tcpReply_log ws _ _
  | bare => exact tcpReply_log ws _ _
  | again => exact tcpReply_log ws _ _
  | synAgain => exact tcpReply_log ws _ _
  | fin => exact tcpReply_log ws _ _
  | earlyAcked => exact hnil
  | close => exact socketClose_log _
  | recycle => exact hnil
  | openServer => exact hthen ⟨_, socketServerOpen_log _ v⟩ (tcpReply_log ws _ _)
  | openClient => exact hthen (w := socketClientOpened ws ws.tsc v) ⟨_, rfl⟩ (tcpReply_log ws _ _)
  | synAck => exact hthen ⟨_, rfl⟩ (tcpReply_log ws _ _)

/-- The entries of a reply pass no request on. -/
@[simp] lemma passedRequests_reply (ws : WorkSpace) (f : UInt8) (v : View) (l : List Obs) :
    passedRequests (l ++ (tcpReply ws f v).trace) = passedRequests (l ++ v.trace) := by
  rw [tcpReply_trace, ← List.append_assoc, passedRequests_append]
  split_ifs
  · exact List.append_nil _
  · exact List.append_nil _

/-- The segments sent so far, and the one of the reply. -/
lemma mem_sentSegments_reply {seg : Segment} {l : List Obs}
    (h : seg ∈ sentSegments (l ++ (tcpReply ws f v).trace)) :
    seg ∈ sentSegments (l ++ v.trace) ∨ seg = replySegment ws f v.sk := by
  rw [tcpReply_trace, ← List.append_assoc, sentSegments_append, List.mem_append] at h
  refine h.imp_right fun h => ?_
  split_ifs at h
  · simpa [sentSegments, Obs.segment] using h
  · simp [sentSegments] at h

/-- What an accepted segment adds: a request at most. -/
lemma Accepted.log (h : Accepted ws m v u) (l : List Obs) :
    sentSegments (l ++ u.trace) = sentSegments (l ++ v.trace) ∧
      sentBytes (l ++ u.trace) = sentBytes (l ++ v.trace) ∧
      (passedRequests (l ++ u.trace) = passedRequests (l ++ v.trace) ∨
        (tcpDataGet m).2 ≠ 0 ∧ passedRequests (l ++ u.trace) = passedRequests (l ++ v.trace) ++
          [(m.th.seq, (tcpDataGet m).1.take (tcpDataGet m).2.toNat)]) := by
  obtain ⟨r, hr, hreq⟩ := h.trace
  rw [hr, ← List.append_assoc]
  rcases hreq with rfl | ⟨-, hne, rfl⟩
  · refine ⟨?_, ?_, .inl ?_⟩
    · exact (sentSegments_append ..).trans (List.append_nil _)
    · exact sentBytes_append ..
    · exact (passedRequests_append ..).trans (List.append_nil _)
  · refine ⟨?_, ?_, .inr ⟨hne, ?_⟩⟩
    · exact (sentSegments_append ..).trans (List.append_nil _)
    · exact sentBytes_append ..
    · exact passedRequests_append ..

end Traces

/-! ### After the handshake -/

/-- The states of an open connection after the handshake. -/
def Talking (t : SkState) : Prop :=
  t = .established ∨ t = .finWait1 ∨ t = .finWait2 ∨ t = .lastAck

instance (t : SkState) : Decidable (Talking t) := inferInstanceAs (Decidable (_ ∨ _ ∨ _ ∨ _))

/-- A socket at `x` after its half of the handshake; a server may still wait for the first segment
of the client. -/
structure Settled (ws : WorkSpace) (b b' : UInt32) (x : Ends) (s : Slot) (peer : List Obs) :
    Prop where
  side : Side ws b b' x s.sk s.obs
  state : Talking s.sk.state ∨
    s.sk.state = .synReceived ∧ ws.cfg.server = true ∧ x.una = 0 ∧ 0 < x.nxt
  passed : PassedOnce b' x.rcv (passedRequests s.obs) (sentSegments peer)

namespace Settled

variable {ws wp : WorkSpace} {k : Call} {crossing overrun early : Prop} {b b' : UInt32}
  {x y : Ends} {s : Slot} {peer : List Obs} {psk : Socket} {v v' u : View} {f : UInt8} {m : Mbuf}
  {t : SkState}

lemma state_ne (h : Settled ws b b' x s peer) (ht : ¬ Talking t) (hs : t ≠ .synReceived) :
    s.sk.state ≠ t := by
  rintro rfl
  exact h.state.elim ht fun hr => hs hr.1

lemma ne_closed (h : Settled ws b b' x s peer) : s.sk.state ≠ .closed :=
  h.state_ne (by decide) (by decide)

/-- Another state. -/
lemma restate (h : Settled ws b b' x (s.after v) peer) (ht : Talking t)
    (hleft : finLeft t ≤ finLeft v.sk.state) :
    Settled ws b b' x (s.after { v with sk.state := t }) peer :=
  ⟨h.side.congr rfl rfl rfl rfl hleft rfl rfl, .inl ht, h.passed⟩

lemma reply (h : Settled ws b b' x (s.after v) peer) (hag : Consistent x y)
    (hb : sentBytes (s.after v).obs < 2 ^ 31)
    (hnew : x.nxt = x.una → (hasFlag f thSyn = false ∨ hasFlag f thFin = false) ∧
      x.nxt + Side.marks f + finLeft v.sk.state ≤ sentBytes (s.after v).obs + 2)
    (hagain : x.una < x.nxt → x.una + segLen ws f ≤ x.nxt) :
    ∃ x', Settled ws b b' x' (s.after (tcpReply ws f v)) peer ∧ Consistent x' y := by
  obtain ⟨nxt, hle, hside⟩ := h.side.reply hb hnew hagain
  refine ⟨_, ⟨hside, ?_, ?_⟩, hag.send hle rfl rfl⟩
  · refine h.state.imp (fun ht => ?_) fun ⟨hs, hserver, huna, hpos⟩ => ?_
    · exact (tcpReply_state ws f v).symm ▸ ht
    · exact ⟨(tcpReply_state ws f v).trans hs, hserver, huna, hpos.trans_le hle⟩
  · have hlog := passedRequests_reply ws f v s.obs
    exact hlog ▸ h.passed

/-- The other end sends what it sends, and the number it sends it at. -/
lemma accepted (h : Settled ws b b' x (s.after v) peer) (hag : Consistent x y)
    (hpeer : Side wp b' b y psk peer) (hbp : sentBytes peer < 2 ^ 31)
    (hb : sentBytes (s.after v).obs < 2 ^ 31) {seg : Segment} (hseg : seg ∈ sentSegments peer)
    (hm : m.Arrives seg) (ha : Accepted ws m v u) (ht : Talking t)
    (hleft : finLeft t ≤ finLeft v.sk.state) :
    ∃ x', Settled ws b b' x' (s.after { u with sk.state := t }) peer ∧ Consistent x' y := by
  have hseq : m.th.seq = seqAt b' x.rcv := ha.order.2.trans h.side.rcvNxt
  obtain ⟨hsmall, e, hsends, hstart, hstop, hack⟩ :=
    hpeer.arrives hbp hseg hm ha.kind hag.le_nxt' hseq
  have hlt := hpeer.nxt_lt hbp
  -- it acknowledges all that was sent
  have hall : e.ack = x.nxt := by
    have heq : m.th.ack = seqAt b x.nxt := ha.order.1.trans h.side.sndNxt
    have hle := hsends.ack.trans hag.le_nxt
    have hnxt := h.side.nxt_lt hb
    rw [hack] at heq
    exact (seqAt_inj (by omega) hnxt).mp heq
  obtain ⟨hsegs, hbytes, hreq⟩ := ha.log s.obs
  have hrcv : x.rcv ≤ e.stop := hstop ▸ Nat.le_add_right _ _
  refine ⟨{ x with una := x.nxt, rcv := e.stop }, ⟨?_, .inl ht, ?_⟩,
    hag.accept hsends hstart (hstart ▸ hrcv) hall⟩
  · refine h.side.received (.inr rfl) hrcv ha.sndNxt ?_ ?_ ha.flags hleft hsegs hbytes
    · exact ha.sndUna.trans h.side.sndNxt
    · have hfin : (finLen m.th (tcpDataGet m).2).toUInt32 =
          UInt32.ofNat (acceptedLen m.th (tcpDataGet m).2) :=
        (finLen_eq_iff _ _).mpr (by omega)
      refine ha.rcvNxt.trans ?_
      rw [hfin, hseq, hstop, seqAt_add]
  · rcases hreq with hreq | ⟨hne, hreq⟩
    · exact hreq ▸ h.passed.mono hrcv fun _ h => h
    · have hpos : 0 < acceptedLen m.th (tcpDataGet m).2 := by
        have hdata : (tcpDataGet m).2.toNat ≠ 0 := fun h0 => hne (UInt16.toNat_inj.mp h0)
        rw [acceptedLen]
        omega
      have hnext : x.rcv < e.stop := by omega
      have hpassed := h.passed.snoc hseg (hm.seq ▸ hseq) hnext (lt_of_le_of_lt hag.le_nxt' hlt)
      rw [hm.length, hm.data, hm.seq] at hreq
      exact hreq ▸ hpassed

/-- A `FIN` that crosses the own one is taken, without its acknowledgement. -/
lemma crossed (h : Settled ws b b' x (s.after v) peer) (hag : Consistent x y)
    (hpeer : Side wp b' b y psk peer) (hbp : sentBytes peer < 2 ^ 31) {seg : Segment}
    (hseg : seg ∈ sentSegments peer) (hm : m.Arrives seg) (hf : dataFlags m)
    (hs : simultaneousFin m.th (tcpDataGet m).2 v.sk) (hu : Framed (crossedView m v) u) :
    ∃ rcv, Settled ws b b' { x with rcv := rcv } (s.after u) peer ∧
      Consistent { x with rcv := rcv } y := by
  have hseq : m.th.seq = seqAt b' x.rcv := hs.2.2.2.2.trans h.side.rcvNxt
  obtain ⟨-, e, hsends, hstart, hstop, -⟩ := hpeer.arrives hbp hseg hm hf hag.le_nxt' hseq
  have hone : acceptedLen m.th (tcpDataGet m).2 = 1 := by
    rw [acceptedLen, hs.dataLen, hs.2.1]
    rfl
  rw [hone] at hstop
  have hrcv : x.rcv ≤ e.stop := hstop ▸ Nat.le_add_right _ _
  have htr : s.obs ++ u.trace = (s.obs ++ v.trace) ++
      [.accepted m.th.seq m.th.ack (acceptedLen m.th (tcpDataGet m).2)] := by
    rw [hu.trace, crossedView_trace, List.append_assoc]
  refine ⟨e.stop, ⟨?_, .inl ?_, ?_⟩, hag.take hsends hstart (hstart ▸ hrcv)⟩
  · refine h.side.received (.inl rfl) hrcv hu.sndNxt (hu.sndUna.trans h.side.sndUna) ?_
      hu.flags ?_ ?_ ?_
    · refine hu.rcvNxt.trans ?_
      rw [crossedView_rcvNxt, hseq, hstop, seqAt_add]
      rfl
    · have hlast : (s.after u).sk.state = .lastAck := hu.state
      rw [hlast]
      exact Nat.zero_le _
    · exact (congrArg sentSegments htr).trans (by simp [sentSegments, Slot.after, Obs.segment])
    · exact (congrArg sentBytes htr).trans (by simp [sentBytes, Slot.after, Obs.newData])
  · exact .inr (.inr (.inr hu.state))
  · have hlog : passedRequests (s.obs ++ u.trace) = passedRequests (s.obs ++ v.trace) :=
      (congrArg passedRequests htr).trans (by simp [passedRequests, Obs.passed])
    exact hlog ▸ h.passed.mono hrcv fun _ h => h

/-- What a move makes of a socket after the handshake, as long as the connection goes on. -/
theorem move (h : Settled ws b b' x (s.after v) peer) (hag : Consistent x y)
    (hpeer : Side wp b' b y psk peer) (hbp : sentBytes peer < 2 ^ 31)
    (hin : ∀ m, k = .input m → ∃ seg ∈ sentSegments peer, m.Arrives seg)
    (hm : Move ws k crossing overrun early v v') (hgood : Ongoing (s.after v').obs) :
    ∃ x', Settled ws b b' x' (s.after v') peer ∧ Consistent x' y := by
  have hb := (hgood.before (move_trace hm)).bytes
  have hiff := h.side.acked_iff hb
  have hroom := h.side.room
  have hlive : v.sk.state ≠ .closed := h.ne_closed
  cases hm with
  | frame hf =>
      have htr : (s.after v').obs = (s.after v).obs := congrArg (s.obs ++ ·) hf.trace
      refine ⟨x, ⟨?_, ?_, htr ▸ h.passed⟩, hag⟩
      · exact h.side.congr hf.sndNxt hf.sndUna hf.rcvNxt hf.flags (hf.state ▸ le_rfl)
          (congrArg _ htr) (congrArg _ htr)
      · exact hf.state ▸ h.state
  | accept hk ha =>
      obtain ⟨seg, hseg, harr⟩ := hin _ hk
      -- a server that had not seen the acknowledgement of its `SYN` is `ESTABLISHED` now
      have ht : Talking v'.sk.state ∧ finLeft v'.sk.state ≤ finLeft v.sk.state := by
        rcases ha.state with hs | ⟨-, hlt, hs⟩
        · refine ⟨h.state.elim (fun ht => hs ▸ ht) fun hr => ?_, hs ▸ le_rfl⟩
          exact absurd (by rw [hs, show v.sk.state = _ from hr.1]; decide) (ha.opened hr.2.1)
        · rw [hs]
          have hle : v.sk.state ≤ .established := Nat.le_of_lt hlt
          exact ⟨.inl rfl, by rw [finLeft, finLeft, if_pos hle]; decide⟩
      exact h.accepted hag hpeer hbp hb hseg harr ha ht.1 ht.2
  | finAcked hk ha =>
      obtain ⟨seg, hseg, harr⟩ := hin _ hk
      exact h.accepted hag hpeer hbp hb hseg harr ha (.inr (.inr (.inl rfl))) (Nat.zero_le _)
  | lastAcked _ ha =>
      have hclosed := hgood.not_close
      rcases ha.state with hs | ⟨-, -, hs⟩
      · exact absurd (hs.symm.trans hclosed) hlive
      · exact absurd (hs.symm.trans hclosed) (by decide)
  | closingAcked _ _ hs => exact absurd hs (h.state_ne (by decide) (by decide))
  | crossed hk hf hnin hs _ hu =>
      obtain ⟨seg, hseg, harr⟩ := hin _ hk
      obtain ⟨rcv, hset, hag'⟩ := h.crossed hag hpeer hbp hseg harr hf hs hu
      have hout : ¬ x.nxt = x.una := fun hn => simultaneousFin_outstanding hnin hs (hiff.mpr hn)
      refine hset.reply hag' (hgood.before (tcpReply_log ws _ _)).bytes (fun hn => ?_) fun hlt => ?_
      · exact absurd hn hout
      · exact hlt
  | push _ hn =>
      refine h.reply hag hb (fun _ => ⟨.inr rfl, hroom⟩) fun hlt => ?_
      exact absurd (hiff.mp hn) hlt.ne'
  | @bare f _ hf =>
      have hlen : segLen ws f = 0 := segLen_bare hf
      have hmarks : Side.marks f = 0 := by
        have heq := Side.segLen_eq ws f
        omega
      refine h.reply hag hb (fun _ => ⟨.inr ?_, by rw [hmarks]; exact hroom⟩) fun hlt => ?_
      · rw [hasFlag_seqFlags, Bool.or_eq_false_iff] at hf
        exact hf.2
      · rw [hlen]
        exact hlt.le
  | again hn => exact h.reply hag hb (fun hx => absurd (hiff.mpr hx) hn) h.side.saved
  | synAgain hs =>
      have hstart := h.state.resolve_left fun ht =>
        absurd (hs ▸ ht : Talking .synReceived) (by decide)
      refine h.reply hag hb (fun hn => ?_) fun hlt => ?_
      · omega
      · exact hlt
  | @fin t f _ hs ht hf hsyn hp =>
      have hleft : finLeft t = 0 := by
        rcases ht with rfl | rfl <;> rfl
      have htalk : Talking t := by
        rcases ht with rfl | rfl <;> decide
      have hest : finLeft v.sk.state = 1 := by
        rw [hs]
        rfl
      have hmarks : Side.marks f = 1 := by
        rw [Side.marks, hf, hsyn]
        rfl
      refine (h.restate htalk (by omega)).reply hag hb (fun _ => ⟨.inl hsyn, ?_⟩) fun hlt => ?_
      · rw [hmarks, hleft]
        exact hest ▸ hroom
      · -- no payload goes out over what is outstanding
        have hpush : hasFlag f thPush = false := by
          by_contra hpush
          exact hlt.ne' (hiff.mp (hp (by simpa using hpush)))
        rw [Side.segLen_eq, hmarks, payload, hsyn, hpush]
        exact hlt
  | earlyAcked => exact ⟨x, h.restate (.inr (.inr (.inl rfl))) (Nat.zero_le _), hag⟩
  | close => exact absurd hgood.not_close hlive
  | recycle hs => exact absurd hs (h.state_ne (by decide) (by decide))
  | openServer _ _ hc => exact absurd hc hlive
  | openClient _ hc => exact absurd hc hlive
  | synAck _ _ hs => exact absurd hs (h.state_ne (by decide) (by decide))

end Settled

end Dperf
