import Dperf.Turns

/-!
The calls on a TCP socket with `send_window == 0`, taken apart into moves.

* `Plain`: a TCP server, or a client that does not flood, with `send_window == 0`.
* `Move`: the few things that a call does to the sequence numbers, the state and the saved
  flags of its socket, each with the tests under which the source does it. The three places
  where the source lacks a test are marked by `Crossing`, `Overrun` and `EarlyFin`.
* `moves_run`: every call is a sequence of moves. An invariant of a socket has to be checked
  for the moves only.
-/

namespace Dperf

/-- A TCP server or client that answers with one segment; the client does not flood. -/
structure Plain (ws : WorkSpace) : Prop where
  protocol : ws.cfg.protocol = .tcp
  window : ws.sendWindow = 0
  flood : ws.cfg.server = false → ws.cfg.flood = false

lemma Plain.at {ws : WorkSpace} (h : Plain ws) (c : Clock) : Plain (ws.at c) :=
  ⟨h.protocol, h.window, h.flood⟩

/-! ### Moves -/

/-- The flags of a segment that goes to `tcp_check_sequence`. -/
def dataFlags (m : Mbuf) : Prop :=
  hasFlag m.th.flags (thSyn ||| thRst) = false ∧ hasFlag m.th.flags thAck = true

instance (m : Mbuf) : Decidable (dataFlags m) := inferInstanceAs (Decidable (_ ∧ _))

/-- Nothing happens to the sequence numbers, the state and the saved flags; the keepalive
timer is started only when nothing is outstanding. -/
structure Framed (v v' : View) : Prop where
  state : v'.sk.state = v.sk.state
  rcvNxt : v'.sk.rcvNxt = v.sk.rcvNxt
  sndNxt : v'.sk.sndNxt = v.sk.sndNxt
  sndUna : v'.sk.sndUna = v.sk.sndUna
  flags : v'.sk.flags = v.sk.flags
  trace : v'.trace = v.trace
  link : v'.link = v.link ∨ v'.link = .self ∨ v'.link = .tail .timeout ∨
    v'.link = .tail .keepalive ∧ v.sk.sndNxt = v.sk.sndUna

/-- A segment has passed the first branch of `tcp_check_sequence`: all that was sent is
acknowledged, and the server passes a payload on to the parser. -/
structure Accepted (ws : WorkSpace) (m : Mbuf) (v u : View) : Prop where
  kind : dataFlags m
  order : inOrder m.th v.sk
  live : v.sk.state ≠ .closed
  state : u.sk.state = v.sk.state ∨
    ws.cfg.server = true ∧ v.sk.state < .established ∧ u.sk.state = .established
  opened : ws.cfg.server = true → ¬ u.sk.state < .established
  rcvNxt : u.sk.rcvNxt = m.th.seq + (finLen m.th (tcpDataGet m).2).toUInt32
  sndNxt : u.sk.sndNxt = v.sk.sndNxt
  sndUna : u.sk.sndUna = v.sk.sndNxt
  flags : u.sk.flags = v.sk.flags
  link : u.link = v.link ∨ u.link = .self
  trace : ∃ r, u.trace =
      v.trace ++ .accepted m.th.seq m.th.ack (acceptedLen m.th (tcpDataGet m).2) :: r ∧
    (r = [] ∨ ws.cfg.server = true ∧ (tcpDataGet m).2 ≠ 0 ∧
      r = [.request m.th.seq ((tcpDataGet m).1.take (tcpDataGet m).2.toNat)])
  skipped : ws.cfg.server = true →
    (u.trace = v.trace ++ [.accepted m.th.seq m.th.ack (acceptedLen m.th (tcpDataGet m).2)] ↔
      (tcpDataGet m).2 = 0 ∨ u.sk.state ≠ .established)

/-- A socket that has taken a `FIN` crossing its own, when it answers. -/
def crossedView (m : Mbuf) (v : View) : View :=
  { v with sk.rcvNxt := m.th.seq + 1, sk.state := .lastAck }.log
    (.accepted m.th.seq m.th.ack (acceptedLen m.th (tcpDataGet m).2))

section CrossedView

variable (m : Mbuf) (v : View)

@[simp] lemma crossedView_state : (crossedView m v).sk.state = .lastAck := rfl
@[simp] lemma crossedView_rcvNxt : (crossedView m v).sk.rcvNxt = m.th.seq + 1 := rfl
@[simp] lemma crossedView_sndNxt : (crossedView m v).sk.sndNxt = v.sk.sndNxt := rfl
@[simp] lemma crossedView_sndUna : (crossedView m v).sk.sndUna = v.sk.sndUna := rfl
@[simp] lemma crossedView_flags : (crossedView m v).sk.flags = v.sk.flags := rfl
@[simp] lemma crossedView_link : (crossedView m v).link = v.link := rfl
@[simp] lemma crossedView_allocs : (crossedView m v).allocs = v.allocs := rfl
@[simp] lemma crossedView_trace : (crossedView m v).trace =
    v.trace ++ [.accepted m.th.seq m.th.ack (acceptedLen m.th (tcpDataGet m).2)] := rfl

end CrossedView

/-- One thing that a call of the kind `k` does. The last three arguments say when the source
resends a `FIN` for more than a `FIN`, sends a `FIN` over a request, and takes a `FIN` for
acknowledged that it has just sent. -/
inductive Move (ws : WorkSpace) (k : Call) (crossing overrun early : Prop) : View → View → Prop
  | frame {v v'} (h : Framed v v') : Move ws k crossing overrun early v v'
  | accept {m v u} (hk : k = .input m) (h : Accepted ws m v u) (h1 : v.sk.state ≠ .finWait1)
      (h2 : v.sk.state ≠ .closing) (h3 : v.sk.state ≠ .lastAck) :
      Move ws k crossing overrun early v u
  | finAcked {m v u} (hk : k = .input m) (h : Accepted ws m v u) (hs : v.sk.state = .finWait1) :
      Move ws k crossing overrun early v { u with sk.state := .finWait2 }
  | lastAcked {m v u} (hk : k = .input m) (h : Accepted ws m v u)
      (hs : v.sk.state = .finWait1 ∨ v.sk.state = .lastAck) :
      Move ws k crossing overrun early v (socketClose u)
  | closingAcked {m v u} (hk : k = .input m) (h : Accepted ws m v u)
      (hs : v.sk.state = .closing) :
      Move ws k crossing overrun early v
        (tcpReply ws (thFin ||| thAck) { u with sk.state := .lastAck })
  | crossed {m v u} (hk : k = .input m) (hf : dataFlags m) (hin : ¬ inOrder m.th v.sk)
      (hs : simultaneousFin m.th (tcpDataGet m).2 v.sk)
      (hn : v.sk.sndNxt = v.sk.sndUna + 1 ∨ crossing)
      (hu : Framed (crossedView m v) u) :
      Move ws k crossing overrun early v (tcpReply ws (thFin ||| thAck) u)
  | push {v} (hs : v.sk.state = .established) (hn : v.sk.sndNxt = v.sk.sndUna) :
      Move ws k crossing overrun early v (tcpReply ws (thPush ||| thAck) v)
  | bare {f v} (hf : hasFlag f seqFlags = false)
      (hs : v.sk.state = .established ∨ v.sk.state = .finWait2 ∨
        v.sk.state = .closed ∧ ∃ cur, .closed cur ∈ v.trace) :
      Move ws k crossing overrun early v (tcpReply ws f v)
  | again {v} (hn : v.sk.sndNxt ≠ v.sk.sndUna) (ho : v.sk.state ≠ .closed ∨ k = .retransmit) :
      Move ws k crossing overrun early v (tcpReply ws v.sk.flags v)
  | synAgain {v} (hs : v.sk.state = .synReceived) :
      Move ws k crossing overrun early v (tcpReply ws (thSyn ||| thAck) v)
  | fin {s f v} (hs : v.sk.state = .established) (ht : s = .lastAck ∨ s = .finWait1)
      (hf : hasFlag f thFin = true) (hsyn : hasFlag f thSyn = false)
      (hp : hasFlag f thPush = true → v.sk.sndNxt = v.sk.sndUna)
      (hn : v.sk.sndNxt = v.sk.sndUna ∨ overrun) :
      Move ws k crossing overrun early v (tcpReply ws f { v with sk.state := s })
  | earlyAcked {v} (hs : v.sk.state = .finWait1) (he : early) :
      Move ws k crossing overrun early v { v with sk.state := .finWait2 }
  | close {v} : Move ws k crossing overrun early v (socketClose v)
  | recycle {v} (hs : v.sk.state = .timeWait) :
      Move ws k crossing overrun early v { v with sk.state := .closed }
  | openServer {m v} (hk : k = .input m) (hf : m.th.flags = thSyn) (hc : v.sk.state = .closed) :
      Move ws k crossing overrun early v (tcpReply ws (thSyn ||| thAck) (socketServerOpen m.th v))
  | openClient {v} (hs : ws.cfg.server = false) (hc : v.sk.state = .closed) :
      Move ws k crossing overrun early v (tcpReply ws thSyn (socketClientOpened ws ws.tsc v))
  | synAck {m v} (hk : k = .input m) (hf : m.th.flags = thSyn ||| thAck)
      (hs : v.sk.state = .synSent) (ha : m.th.ack = v.sk.sndNxt) :
      Move ws k crossing overrun early v
        (tcpReply ws (thPush ||| thAck)
          ({ v with sk.rcvNxt := m.th.seq + 1, sk.sndUna := m.th.ack, sk.state := .established }.log
            (.synAck m.th.seq m.th.ack)))

/-- Moves one after the other. -/
abbrev Moves (ws : WorkSpace) (k : Call) (crossing overrun early : Prop) : View → View → Prop :=
  Relation.ReflTransGen (Move ws k crossing overrun early)

/-! ### The gaps -/

/-- A `FIN` crosses ours while more than our `FIN` is outstanding: it is answered with a bare
`FIN` at the sequence number of the payload. -/
def Crossing (k : Call) (sk : Socket) : Prop :=
  ∃ m, k = .input m ∧ dataFlags m ∧ ¬ inOrder m.th sk ∧
    simultaneousFin m.th (tcpDataGet m).2 sk ∧ sk.sndNxt ≠ sk.sndUna + 1

/-- The client answers a response with the next request at once. -/
def RequestsAgain (ws : WorkSpace) (m : Mbuf) (sk : Socket) : Prop :=
  ws.cfg.server = false ∧ dataFlags m ∧ inOrder m.th sk ∧ sk.state = .established ∧
    (tcpDataGet m).2 ≠ 0 ∧ ws.cfg.http = false ∧ sk.keepalive = true ∧
    ws.cfg.keepaliveRequestInterval = 0

/-- The response carries the server's `FIN`: the client sends its own over the request that it
has just sent. A keepalive timer that fires while something is outstanding does the same. -/
def Overrun (ws : WorkSpace) (k : Call) (v : View) : Prop :=
  (∃ m, k = .input m ∧ RequestsAgain ws m v.sk ∧ hasFlag m.th.flags thFin = true ∧
    workSpaceInDuration ws = true ∧ ws.mbufAlloc v.allocs = true ∧ ws.tcpData.bytes ≠ []) ∨
  (k = .keepalive ∧ v.sk.sndNxt ≠ v.sk.sndUna)

/-- After the end of the test the client sends a `FIN` instead of the request, and then takes
the response for its acknowledgement. -/
def EarlyFin (ws : WorkSpace) (k : Call) (sk : Socket) : Prop :=
  ∃ m, k = .input m ∧ RequestsAgain ws m sk ∧ hasFlag m.th.flags thFin = false ∧
    workSpaceInDuration ws = false

/-! ### Frames -/

section Traversal

variable {ws : WorkSpace} {k : Call} {crossing overrun early : Prop} {m : Mbuf} {v v' u : View}

lemma Framed.refl (v : View) : Framed v v := ⟨rfl, rfl, rfl, rfl, rfl, rfl, .inl rfl⟩

lemma Moves.frame (h : Framed v v') : Moves ws k crossing overrun early v v' := .single (.frame h)

/-- A change of counters, of other fields of the socket, and of the room for mbufs. -/
lemma Moves.touch (hs : v'.sk.state = v.sk.state) (hr : v'.sk.rcvNxt = v.sk.rcvNxt)
    (hn : v'.sk.sndNxt = v.sk.sndNxt) (hu : v'.sk.sndUna = v.sk.sndUna)
    (hf : v'.sk.flags = v.sk.flags) (ht : v'.trace = v.trace) (hl : v'.link = v.link) :
    Moves ws k crossing overrun early v v' :=
  .frame ⟨hs, hr, hn, hu, hf, ht, .inl hl⟩

lemma Moves.count (f : NetStats → NetStats) : Moves ws k crossing overrun early v (v.count f) :=
  .touch rfl rfl rfl rfl rfl rfl rfl

lemma Moves.delTimer : Moves ws k crossing overrun early v (socketDelTimer v) :=
  .frame ⟨rfl, rfl, rfl, rfl, rfl, rfl, .inr (.inl rfl)⟩

lemma Moves.startTimeoutTimer (tsc : UInt64) :
    Moves ws k crossing overrun early v (socketStartTimeoutTimer tsc v) :=
  .frame ⟨rfl, rfl, rfl, rfl, rfl, rfl, .inr (.inr (.inl rfl))⟩

lemma framed_startKeepaliveTimer (tsc : UInt64) :
    Framed v (socketStartKeepaliveTimer ws tsc v) := by
  rw [socketStartKeepaliveTimer]
  split_ifs with h
  · rw [Bool.and_eq_true, decide_eq_true_eq] at h
    exact ⟨rfl, rfl, rfl, rfl, rfl, rfl, .inr (.inr (.inr ⟨rfl, h.2⟩))⟩
  · exact ⟨rfl, rfl, rfl, rfl, rfl, rfl, .inl rfl⟩

lemma Moves.doRetransmit (hp : Plain ws) (ho : v.sk.state ≠ .closed ∨ k = .retransmit) :
    Moves ws k crossing overrun early v (tcpDoRetransmit ws v) := by
  have hs := tcpDoRetransmit_step ws v
  generalize tcpDoRetransmit ws v = r at hs ⊢
  have hnum : Moves ws k crossing overrun early v { v with sk.retrans := v.sk.retrans + 1 } :=
    .touch rfl rfl rfl rfl rfl rfl rfl
  cases hs with
  | acked => exact .touch rfl rfl rfl rfl rfl rfl rfl
  | handedOver => exact .single .close
  | burst _ _ hw => exact absurd hp.window hw
  | again hn =>
      have hagain : Move ws k crossing overrun early { v with sk.retrans := v.sk.retrans + 1 }
          (tcpReply ws v.sk.flags { v with sk.retrans := v.sk.retrans + 1 }) := .again hn ho
      exact (hnum.tail hagain).trans (Moves.count _)
  | giveUp => exact (hnum.trans (Moves.count _)).tail .close

/-! ### After the acceptance test -/

lemma Accepted.state_ne (h : Accepted ws m v u) {s : SkState} (hs : ¬ s < .established)
    (hu : u.sk.state ≠ s) : v.sk.state ≠ s := by
  rcases h.state with he | ⟨-, hlt, -⟩
  · rwa [he] at hu
  · rintro rfl
    exact hs hlt

lemma Accepted.state_eq (h : Accepted ws m v u) (hu : u.sk.state ≠ .established) :
    u.sk.state = v.sk.state :=
  h.state.resolve_right fun he => hu he.2.2

lemma Accepted.acked (h : Accepted ws m v u) : u.sk.sndNxt = u.sk.sndUna := by
  rw [h.sndNxt, h.sndUna]

lemma socketClose_logged (ho : v.sk.state ≠ .closed) :
    (socketClose v).sk.state = .closed ∧ ∃ cur, .closed cur ∈ (socketClose v).trace := by
  rw [socketClose, if_pos ho]
  exact ⟨rfl, v.stats.socketCurrent, by simp [socketNodeDel]⟩

/-- What follows the acceptance on a socket that is not `ESTABLISHED`. -/
lemma Accepted.finFlags (crossing overrun early : Prop) (hk : k = .input m)
    (h : Accepted ws m v u) (hu : u.sk.state ≠ .established) :
    ∃ tx w, tcpFinFlags m.th.flags 0 u = (tx, w) ∧
      (tx = 0 ∧ Moves ws k crossing overrun early v w ∨
        tx = thAck ∧ hasFlag m.th.flags thFin = true ∧
          (w.sk.state = .closed ∧ ∃ cur, .closed cur ∈ w.trace) ∧
          Moves ws k crossing overrun early v w ∨
        tx = thFin ||| thAck ∧ Moves ws k crossing overrun early v (tcpReply ws tx w)) := by
  have hs := tcpFinFlags_step m.th.flags 0 u
  have hv := h.state_eq hu
  have ho : u.sk.state ≠ .closed := hv ▸ h.live
  generalize tcpFinFlags m.th.flags 0 u = r at hs ⊢
  cases hs with
  | keep h1 h2 h3 =>
      refine ⟨_, _, rfl, .inl ⟨rfl, .single (.accept hk h ?_ ?_ ?_)⟩⟩
      · exact hv ▸ h1
      · exact hv ▸ h2
      · exact hv ▸ h3
  | passive he => exact absurd he hu
  | active he => exact absurd he hu
  | finAcked he => exact ⟨_, _, rfl, .inl ⟨rfl, .single (.finAcked hk h (hv ▸ he))⟩⟩
  | finBoth he hf =>
      refine ⟨_, _, rfl, .inr (.inl ⟨rfl, hf, socketClose_logged ho, ?_⟩)⟩
      rcases he with he | he
      · exact .single (.lastAcked hk h (.inl (hv ▸ he)))
      · have hw : v.sk.state = .finWait2 := hv ▸ he
        have hacc : Move ws k crossing overrun early v u :=
          .accept hk h (by simp [hw]) (by simp [hw]) (by simp [hw])
        exact (Relation.ReflTransGen.single hacc).tail .close
  | closing he =>
      refine ⟨_, _, rfl, .inr (.inr ⟨rfl, ?_⟩)⟩
      exact .single (.closingAcked hk h (hv ▸ he))
  | lastAck he => exact ⟨_, _, rfl, .inl ⟨rfl, .single (.lastAcked hk h (.inr (hv ▸ he)))⟩⟩

/-- The answer to a simultaneous `FIN`: the saved flags of a second `FIN` replace the others. -/
lemma finFlags_crossed (hu : u.sk.state = .closing) (rx : UInt8) :
    tcpFinFlags rx 0 u = (thFin ||| thAck, { u with sk.state := .lastAck }) := by
  have hlt : SkState.established < u.sk.state := by
    rw [hu]
    decide
  rw [tcpFinFlags, if_pos (.inl hlt), tcpProcessFin, hu]
  rfl

/-! ### The server -/

lemma responseFlags_push {sk : Socket} (h : hasFlag (responseFlags sk) thFin = false) :
    responseFlags sk = thPush ||| thAck := by
  rw [responseFlags] at h ⊢
  split_ifs at h ⊢
  · rfl
  · cases h

/-- The flags of a `FIN` that may carry a payload. -/
lemma finFlags_or {tx : UInt8} (h : hasFlag tx thSyn = false) :
    tx ||| (thFin ||| thAck) ≠ 0 ∧ hasFlag (tx ||| (thFin ||| thAck)) thFin = true ∧
      hasFlag (tx ||| (thFin ||| thAck)) thSyn = false := by
  have hfin : hasFlag (tx ||| (thFin ||| thAck)) thFin = true := by
    rw [hasFlag_or]
    exact Bool.or_eq_true_iff.mpr (.inr rfl)
  refine ⟨fun h0 => ?_, hfin, ?_⟩
  · rw [h0] at hfin
    cases hfin
  · rw [hasFlag_or, h]
    rfl

/-- The end of `tcp_server_process_data` on an accepted segment. -/
lemma Accepted.serverAnswer (hk : k = .input m) (h : Accepted ws m v u) {tx : UInt8}
    (htx : tx = 0 ∨ u.sk.state = .established ∧ tx = responseFlags u.sk) :
    Moves ws k crossing overrun early v (tcpServerAnswer ws m.th.flags tx u) := by
  rw [tcpServerAnswer]
  by_cases hu : u.sk.state = .established
  · have hacc : Moves ws k crossing overrun early v u :=
      .single (.accept hk h (h.state_ne (by decide) (by simp [hu]))
        (h.state_ne (by decide) (by simp [hu])) (h.state_ne (by decide) (by simp [hu])))
    have hsyn : hasFlag tx thSyn = false := by
      rcases htx with rfl | ⟨-, rfl⟩
      · rfl
      · exact (responseFlags_seq _).2
    obtain ⟨hne, hfin, hsyn'⟩ := finFlags_or hsyn
    have hs := tcpFinFlags_step m.th.flags tx u
    generalize tcpFinFlags m.th.flags tx u = r at hs ⊢
    cases hs with
    | keep _ _ _ he =>
        split_ifs with h0
        · obtain ⟨-, rfl⟩ := htx.resolve_left h0
          rw [responseFlags_push (he hu).2]
          exact hacc.tail (.push hu h.acked)
        · exact hacc.trans (Moves.startTimeoutTimer _)
        · exact hacc
    | passive =>
        rw [if_pos hne]
        exact hacc.tail (.fin hu (.inl rfl) hfin hsyn' (fun _ => h.acked) (.inl h.acked))
    | active =>
        rw [if_pos hne]
        exact hacc.tail (.fin hu (.inr rfl) hfin hsyn' (fun _ => h.acked) (.inl h.acked))
    | finAcked he => exact absurd (hu.symm.trans he) (by simp)
    | finBoth he =>
        rcases he with he | he
        · exact absurd (hu.symm.trans he) (by simp)
        · exact absurd (hu.symm.trans he) (by simp)
    | closing he => exact absurd (hu.symm.trans he) (by simp)
    | lastAck he => exact absurd (hu.symm.trans he) (by simp)
  · obtain rfl := htx.resolve_right fun he => hu he.1
    obtain ⟨tx, w, hr, hw⟩ := h.finFlags crossing overrun early hk hu
    rw [hr]
    dsimp only
    rcases hw with ⟨rfl, hw⟩ | ⟨rfl, -, hc, hw⟩ | ⟨rfl, hw⟩
    · rw [if_neg (by simp)]
      split_ifs
      · exact hw.trans (Moves.startTimeoutTimer _)
      · exact hw
    · rw [if_pos (by decide)]
      exact hw.tail (.bare rfl (.inr (.inr hc)))
    · rw [if_pos (by decide)]
      exact hw

/-- `tcp_check_sequence` where it lets the segment through, or else a frame or a
retransmission. -/
inductive Checked (ws : WorkSpace) (k : Call) (crossing overrun early : Prop) (m : Mbuf)
    (v : View) : Bool × View → Prop
  | accept (hin : inOrder m.th v.sk) (ho : v.sk.state ≠ .closed) :
      Checked ws k crossing overrun early m v
        (true, tcpAcceptInOrder ws m.th (tcpDataGet m).2 v)
  | simultaneous (hin : ¬ inOrder m.th v.sk) (hf : simultaneousFin m.th (tcpDataGet m).2 v.sk) :
      Checked ws k crossing overrun early m v
        (true, { v with sk.rcvNxt := m.th.seq + 1, sk.state := .closing })
  | drop {w : View} (hw : Moves ws k crossing overrun early v w) :
      Checked ws k crossing overrun early m v (false, w)

lemma checked (k : Call) (crossing overrun early : Prop) (hp : Plain ws) (m : Mbuf) (v : View) :
    Checked ws k crossing overrun early m v
      (tcpCheckSequence ws m.th (tcpDataGet m).2 v) := by
  have hs := tcpCheckSequence_step ws m.th (tcpDataGet m).2 v
  generalize tcpCheckSequence ws m.th (tcpDataGet m).2 v = r at hs ⊢
  cases hs with
  | accept hin ho => exact .accept hin ho
  | closedSocket => exact .drop (Moves.touch rfl rfl rfl rfl rfl rfl rfl)
  | simultaneous hin hf => exact .simultaneous hin hf
  | drop => exact .drop .refl
  | newAck _ _ _ hw => exact absurd hp.window hw
  | dupAck _ _ hw => exact absurd hp.window hw
  | thirdDupAck _ _ hw => exact absurd hp.window hw
  | fastRetransmit _ _ ho => exact .drop (Moves.doRetransmit hp (.inl ho))

lemma tcpAcceptInOrder_allocs (ws : WorkSpace) (th : Tcphdr) (dataLen : UInt16) (v : View) :
    (tcpAcceptInOrder ws th dataLen v).allocs = v.allocs := by
  simp only [tcpAcceptInOrder, socketStopRetransmitTimer, socketDelTimer, socketQueueDel,
    socketNodeDel]
  split_ifs <;> rfl

/-- The fields of a socket that has accepted a segment. -/
lemma tcpAcceptInOrder_eq (hp : Plain ws) (th : Tcphdr) (dataLen : UInt16) (v : View) :
    (tcpAcceptInOrder ws th dataLen v).sk =
        { v.sk with retrans := 0, sndUna := th.ack,
                    rcvNxt := th.seq + (finLen th dataLen).toUInt32 } ∧
      (tcpAcceptInOrder ws th dataLen v).trace = v.trace ∧
      ((tcpAcceptInOrder ws th dataLen v).link = v.link ∨
        (tcpAcceptInOrder ws th dataLen v).link = .self) := by
  simp only [tcpAcceptInOrder, if_pos hp.window, socketStopRetransmitTimer, socketDelTimer,
    socketQueueDel, socketNodeDel]
  split_ifs
  · exact ⟨rfl, rfl, .inr rfl⟩
  · exact ⟨rfl, rfl, .inl rfl⟩
  · exact ⟨rfl, rfl, .inl rfl⟩

lemma simultaneousFin.dataLen {th : Tcphdr} {dataLen : UInt16} {sk : Socket}
    (h : simultaneousFin th dataLen sk) : dataLen = 0 := by
  have h1 := h.2.2.1
  rw [finLen, if_pos h.2.1] at h1
  grind

lemma crossing_or (hc : Crossing k v.sk → crossing) (hk : k = .input m) (hf : dataFlags m)
    (hin : ¬ inOrder m.th v.sk) (hs : simultaneousFin m.th (tcpDataGet m).2 v.sk) :
    v.sk.sndNxt = v.sk.sndUna + 1 ∨ crossing := by
  by_cases hn : v.sk.sndNxt = v.sk.sndUna + 1
  · exact .inl hn
  · exact .inr (hc ⟨m, hk, hf, hin, hs, hn⟩)

lemma serverProcessData_crossed (hp : Plain ws) (hin : ¬ inOrder m.th v.sk)
    (hs : simultaneousFin m.th (tcpDataGet m).2 v.sk) :
    ∃ u, tcpServerProcessData ws m v = tcpReply ws (thFin ||| thAck) u ∧
      Framed (crossedView m v) u ∧ u.allocs = v.allocs := by
  obtain ⟨tx, u, he, hul, hua, hu, ⟨r, hr, hr', -⟩, htx⟩ := tcpServerAccepted_small hp.window m.th
    (tcpDataGet m).1 (tcpDataGet m).2
    { v with sk.rcvNxt := m.th.seq + 1, sk.state := .closing }
  have hst : u.sk.state = .closing := by
    rw [hu]
    rfl
  obtain rfl := htx.resolve_right (by simp [hst])
  obtain rfl := hr'.resolve_right fun h0 => h0.1 hs.dataLen
  rw [tcpServerProcessData, tcpCheckSequence_simultaneous hin hs]
  dsimp only
  rw [if_neg (by simp), he, tcpServerAnswer, finFlags_crossed hst]
  dsimp only
  rw [if_pos (by decide)]
  have hlk : u.link = v.link := hul
  refine ⟨_, rfl, ⟨rfl, ?_, ?_, ?_, ?_, hr, .inl hlk⟩, hua⟩
  all_goals
    rw [hu]
    rfl

lemma clientProcessData_crossed (ws : WorkSpace) (hin : ¬ inOrder m.th v.sk)
    (hs : simultaneousFin m.th (tcpDataGet m).2 v.sk) :
    tcpClientProcessData ws m v =
      (.none, tcpReply ws (thFin ||| thAck) (crossedView m v)) := by
  rw [tcpClientProcessData, tcpCheckSequence_simultaneous hin hs]
  dsimp only
  rw [if_neg (by simp), tcpClientAccepted]
  dsimp only
  rw [View.log_sk, if_neg (by simp), tcpClientAnswer, finFlags_crossed rfl]
  dsimp only
  rw [if_pos (by decide), if_pos (.inr (.inl (by decide)))]
  rfl

lemma Moves.serverProcessData (hp : Plain ws) (hs : ws.cfg.server = true) (hk : k = .input m)
    (hf : dataFlags m) (hc : Crossing k v.sk → crossing) :
    Moves ws k crossing overrun early v (tcpServerProcessData ws m v) := by
  by_cases hcr : ¬ inOrder m.th v.sk ∧ simultaneousFin m.th (tcpDataGet m).2 v.sk
  · obtain ⟨u, hu, hfr, -⟩ := serverProcessData_crossed (m := m) hp hcr.1 hcr.2
    rw [hu]
    exact .single
      (.crossed hk hf hcr.1 hcr.2 (crossing_or hc hk hf hcr.1 hcr.2) hfr)
  have hr := checked k crossing overrun early hp m v
  rw [tcpServerProcessData]
  generalize tcpCheckSequence ws m.th (tcpDataGet m).2 v = r at hr ⊢
  cases hr with
  | accept hin ho =>
      obtain ⟨hsk, htr, hl⟩ := tcpAcceptInOrder_eq hp m.th (tcpDataGet m).2 v
      obtain ⟨tx, u, he, hul, -, hu, ⟨r, hr, hr', hnil⟩, htx⟩ := tcpServerAccepted_small hp.window
        m.th (tcpDataGet m).1 (tcpDataGet m).2 (tcpAcceptInOrder ws m.th (tcpDataGet m).2 v)
      dsimp only
      rw [if_neg (by simp), he]
      refine Accepted.serverAnswer hk ⟨hf, hin, ho, ?_, fun _ => ?_, ?_, ?_, ?_, ?_, ?_, ⟨r, ?_,
        hr'.imp_right fun h => ⟨hs, h⟩⟩, fun _ => ?_⟩ htx
      · rw [hu, hsk]
        dsimp only
        rw [SkState.establish]
        split_ifs with hlt
        · exact .inr ⟨hs, hlt, rfl⟩
        · exact .inl rfl
      · rw [hu]
        dsimp only
        rw [SkState.establish]
        split_ifs with hlt
        · decide
        · exact hlt
      · rw [hu, hsk]
      · rw [hu, hsk]
      · rw [hu, hsk]
        exact hin.1
      · rw [hu, hsk]
      · rwa [hul]
      · rw [hr, htr]
      · rw [hr, htr, List.append_cancel_left_eq, List.cons_eq_cons]
        exact (and_iff_right rfl).trans hnil
  | simultaneous hin hsim => exact absurd ⟨hin, hsim⟩ hcr
  | drop hw =>
      dsimp only
      rw [if_pos rfl]
      exact hw.trans (Moves.count _)

lemma Moves.serverProcessSyn (hk : k = .input m) (hf : m.th.flags = thSyn) :
    Moves ws k crossing overrun early v (tcpServerProcessSyn ws m.th v) := by
  rw [tcpServerProcessSyn]
  dsimp only
  generalize hu : (if v.sk.state = .timeWait then { v with sk.state := .closed } else v : View) = u
  have h₁ : Moves ws k crossing overrun early v u := by
    rw [← hu]
    split_ifs with ht
    · exact .single (.recycle ht)
    · exact .refl
  split_ifs with hc hr
  · exact h₁.tail (.openServer hk hf hc)
  · exact (h₁.tail (.synAgain hr)).trans (Moves.count _)
  · exact h₁
  · exact h₁.trans (Moves.count _)

lemma Moves.processRst : Moves ws k crossing overrun early v (tcpProcessRst v) := by
  rw [tcpProcessRst]
  split_ifs
  · exact .single .close
  · exact .refl

lemma Moves.serverInput (hp : Plain ws) (hs : ws.cfg.server = true) (hk : k = .input m)
    (hc : Crossing k v.sk → crossing) :
    Moves ws k crossing overrun early v (tcpServerInput ws m v) := by
  refine (Moves.count (tcpFlagsRxCount m.th.flags)).trans ?_
  rw [tcpServerInput]
  split_ifs with hf hsyn
  · exact Moves.serverProcessData hp hs hk hf hc
  · exact Moves.serverProcessSyn hk hsyn
  · exact Moves.processRst
  · exact Moves.count _

/-! ### The client -/

lemma Moves.sendKeepaliveRequest (hs : v.sk.state = .established)
    (hn : v.sk.sndNxt = v.sk.sndUna) :
    Moves ws k crossing overrun early v (tcpSendKeepaliveRequest ws v) := by
  rw [tcpSendKeepaliveRequest]
  dsimp only
  have hnum : Moves ws k crossing overrun early v
      { v with sk.keepaliveRequestNum := v.sk.keepaliveRequestNum + 1 } :=
    .touch rfl rfl rfl rfl rfl rfl rfl
  have hpush : Moves ws k crossing overrun early v (tcpReply ws (thAck ||| thPush)
      { v with sk.keepaliveRequestNum := v.sk.keepaliveRequestNum + 1 }) :=
    hnum.tail (.push hs hn)
  have hfin : Moves ws k crossing overrun early v
      (tcpReply ws (thAck ||| thFin) { v with sk.state := .finWait1 }) :=
    .single (.fin hs (.inr rfl) rfl rfl (fun _ => hn) (.inl hn))
  split_ifs
  · exact hpush.trans (Moves.touch rfl rfl rfl rfl rfl rfl rfl)
  · exact hpush
  · exact hfin.trans (Moves.touch rfl rfl rfl rfl rfl rfl rfl)

/-- What an `ESTABLISHED` client does with an accepted segment before `tcp_process_fin`: it
parses and starts timers at most, or it sends the next request, or a `FIN` instead. -/
inductive Answering (ws : WorkSpace) (k : Call) (crossing overrun early : Prop) (u : View) :
    UInt8 → View → Prop
  | rest {tx : UInt8} {w : View} (hw : Moves ws k crossing overrun early u w)
      (hs : w.sk.state = .established) (hn : w.sk.sndNxt = w.sk.sndUna)
      (ht : tx = 0 ∨ tx = thAck ∨ tx = thAck ||| thFin) :
      Answering ws k crossing overrun early u tx w
  | requested {w : View} (hw : Moves ws k crossing overrun early u w)
      (hs : w.sk.state = .established) (hk : u.sk.keepalive = true)
      (hi : ws.cfg.keepaliveRequestInterval = 0) (hd : workSpaceInDuration ws = true)
      (ha : w.sk.sndNxt ≠ w.sk.sndUna →
        ws.mbufAlloc u.allocs = true ∧ ws.tcpData.bytes ≠ []) :
      Answering ws k crossing overrun early u thAck w
  | finished {w : View} (hw : Moves ws k crossing overrun early u w)
      (hs : w.sk.state = .finWait1) (hk : u.sk.keepalive = true)
      (hi : ws.cfg.keepaliveRequestInterval = 0) (hd : workSpaceInDuration ws = false) :
      Answering ws k crossing overrun early u thAck w

/-- A request takes sequence numbers only if an mbuf is found and the template is not empty. -/
lemma push_fresh {f : UInt8} (hf : hasFlag f thSyn = false) (hf' : hasFlag f thFin = false)
    (hn : v.sk.sndNxt = v.sk.sndUna)
    (hne : v.sk.sndNxt + replyFresh ws f v ≠ v.sk.sndUna) :
    ws.mbufAlloc v.allocs = true ∧ ws.tcpData.bytes ≠ [] := by
  have hfresh : replyFresh ws f v ≠ 0 := by
    intro h0
    rw [h0] at hne
    exact hne (by simpa using hn)
  have ha : ws.mbufAlloc v.allocs = true := by
    by_contra ha
    exact hfresh (by simp [replyFresh, ha])
  refine ⟨ha, fun hb => hfresh ?_⟩
  have hlen := replyFresh_toNat (f := f) (.inl hf) ha hn
  rw [← UInt32.toNat_inj, hlen, segLen, payload, hf, hf', hb]
  simp

lemma Answering.response (hs : u.sk.state = .established) (hn : u.sk.sndNxt = u.sk.sndUna)
    (data : List UInt8) (dataLen : UInt16) :
    Answering ws k crossing overrun early u (tcpClientResponse ws data dataLen u).1
      (tcpClientResponse ws data dataLen u).2 := by
  have hcount : Moves ws k crossing overrun early u (u.count (httpParseResponse data dataLen)) :=
    Moves.count _
  rw [tcpClientResponse]
  split_ifs with hka hi
  · exact .rest hcount hs hn (.inr (.inr rfl))
  · have ht : Framed (u.count (httpParseResponse data dataLen)) (socketStartKeepaliveTimer ws
        u.sk.timerTsc (u.count (httpParseResponse data dataLen))) :=
      framed_startKeepaliveTimer _
    refine .rest (hcount.trans (Moves.frame ht)) (ht.state.trans hs) ?_ (.inr (.inl rfl))
    rw [View.count_sk, ht.sndNxt, ht.sndUna]
    exact hn
  · have hka' : u.sk.keepalive = true := by simpa using hka
    have hi' : ws.cfg.keepaliveRequestInterval = 0 := not_not.mp hi
    have hw := hcount.trans (Moves.sendKeepaliveRequest
      (v := u.count (httpParseResponse data dataLen)) hs hn)
    cases hd : workSpaceInDuration ws with
    | true =>
        refine .requested hw ?_ hka' hi' hd fun hne => ?_
        · rw [tcpSendKeepaliveRequest, if_pos hd]
          dsimp only
          split_ifs <;> simpa using hs
        · rw [tcpSendKeepaliveRequest, if_pos hd] at hne
          dsimp only at hne
          refine push_fresh (f := thAck ||| thPush) (v := { u with
            sk.keepaliveRequestNum := u.sk.keepaliveRequestNum + 1 }) rfl rfl hn ?_
          split_ifs at hne <;> simpa [replyFresh] using hne
    | false =>
        refine .finished hw ?_ hka' hi' hd
        rw [tcpSendKeepaliveRequest, if_neg (by simp [hd])]
        simp

lemma framed_parse (data : List UInt8) (dataLen : UInt16) (v : View) :
    Framed v (httpParseRun data dataLen v).2 := by
  obtain ⟨_, _, _, _, _, hsk⟩ := httpParseRun_httpOnly data dataLen v
  obtain ⟨hl, ht, -⟩ := httpParseRun_rest data dataLen v
  exact ⟨by rw [hsk], by rw [hsk], by rw [hsk], by rw [hsk], by rw [hsk], ht, .inl hl⟩

/-- A frame and what comes after it. -/
lemma Framed.then {w : View} (h : Framed v u) (hw : Framed u w) : Framed v w := by
  refine ⟨hw.state.trans h.state, hw.rcvNxt.trans h.rcvNxt, hw.sndNxt.trans h.sndNxt,
    hw.sndUna.trans h.sndUna, hw.flags.trans h.flags, hw.trace.trans h.trace, ?_⟩
  rcases hw.link with hl | hl | hl | ⟨hl, hn⟩
  · rw [hl]
    exact h.link
  · exact .inr (.inl hl)
  · exact .inr (.inr (.inl hl))
  · exact .inr (.inr (.inr ⟨hl, by rwa [← h.sndNxt, ← h.sndUna]⟩))

lemma framed_httpClientData (ws : WorkSpace) (rx : UInt8) (data : List UInt8) (dataLen : UInt16)
    (u : View) :
    Framed u (httpClientProcessData ws rx data dataLen u).2.2 ∧
      ((httpClientProcessData ws rx data dataLen u).1 = 0 ∨
        (httpClientProcessData ws rx data dataLen u).1 = thAck ∨
        (httpClientProcessData ws rx data dataLen u).1 = thAck ||| thFin) := by
  have hp := framed_parse data dataLen u
  rw [httpClientProcessData]
  dsimp only
  generalize httpParseRun data dataLen u = r at hp ⊢
  have htouch : ∀ w : View, w.sk.state = r.2.sk.state → w.sk.rcvNxt = r.2.sk.rcvNxt →
      w.sk.sndNxt = r.2.sk.sndNxt → w.sk.sndUna = r.2.sk.sndUna → w.sk.flags = r.2.sk.flags →
      w.trace = r.2.trace → w.link = r.2.link → Framed u w :=
    fun w hs hr hn hu hf ht hl => hp.then ⟨hs, hr, hn, hu, hf, ht, .inl hl⟩
  have hinit : Framed u { r.2 with sk := socketInitHttp r.2.sk } :=
    htouch _ rfl rfl rfl rfl rfl rfl rfl
  split
  · split_ifs
    · exact ⟨htouch _ rfl rfl rfl rfl rfl rfl rfl, .inl rfl⟩
    · exact ⟨hp, .inl rfl⟩
    · exact ⟨htouch _ rfl rfl rfl rfl rfl rfl rfl, .inr (.inl rfl)⟩
    · exact ⟨hp, .inr (.inl rfl)⟩
  · split_ifs
    · exact ⟨hinit, .inl rfl⟩
    · exact ⟨hinit.then (framed_startKeepaliveTimer _), .inl rfl⟩
    · exact ⟨htouch _ rfl rfl rfl rfl rfl rfl rfl, .inr (.inr rfl)⟩
  · exact ⟨htouch _ rfl rfl rfl rfl rfl rfl rfl, .inr (.inr rfl)⟩

/-- The end of `tcp_client_process_data` on an `ESTABLISHED` socket. -/
lemma Moves.clientAnswer {rx tx : UInt8} {w : View} (hw : Moves ws k crossing overrun early u w)
    (hs : w.sk.state = .established) (ht : tx = 0 ∨ tx = thAck ∨ tx = thAck ||| thFin)
    (hn : hasFlag rx thFin = true ∨ tx ≠ thAck → w.sk.sndNxt = w.sk.sndUna ∨ overrun) :
    Moves ws k crossing overrun early u (tcpClientAnswer ws rx tx w) := by
  -- a `FIN` from `ESTABLISHED` carries no payload
  have hfin : ∀ s, (s = .lastAck ∨ s = .finWait1) →
      (w.sk.sndNxt = w.sk.sndUna ∨ overrun) → Moves ws k crossing overrun early u
        (tcpReply ws (tx ||| (thFin ||| thAck)) { w with sk.state := s }) := by
    intro s hs' ho
    rcases ht with rfl | rfl | rfl
    · exact hw.tail (.fin hs hs' rfl rfl (fun h => by cases h) ho)
    · exact hw.tail (.fin hs hs' rfl rfl (fun h => by cases h) ho)
    · exact hw.tail (.fin hs hs' rfl rfl (fun h => by cases h) ho)
  have hne : ∀ t : UInt8, (t = 0 ∨ t = thAck ∨ t = thAck ||| thFin) →
      t ||| (thFin ||| thAck) ≠ 0 ∧ t ||| (thFin ||| thAck) ≠ thAck := by
    rintro t (rfl | rfl | rfl) <;> exact ⟨by decide, by decide⟩
  have hstep := tcpFinFlags_step rx tx w
  rw [tcpClientAnswer]
  generalize tcpFinFlags rx tx w = r at hstep ⊢
  cases hstep with
  | keep _ _ _ he =>
      have htf := (he hs).2
      rcases ht with rfl | rfl | rfl
      · exact hw
      · dsimp only
        split_ifs
        · exact hw.tail (.bare rfl (.inl hs))
        · exact hw
        · exact hw
      · cases htf
  | passive _ hf =>
      rw [if_pos (hne tx ht).1, if_pos (.inl hf)]
      exact hfin _ (.inl rfl) (hn (.inl hf))
  | active _ hf htf =>
      rw [if_pos (hne tx ht).1, if_pos (.inr (.inl (hne tx ht).2))]
      refine hfin _ (.inr rfl) (hn (.inr ?_))
      rintro rfl
      cases htf
  | finAcked he => exact absurd (hs.symm.trans he) (by simp)
  | finBoth he =>
      rcases he with he | he
      · exact absurd (hs.symm.trans he) (by simp)
      · exact absurd (hs.symm.trans he) (by simp)
  | closing he => exact absurd (hs.symm.trans he) (by simp)
  | lastAck he => exact absurd (hs.symm.trans he) (by simp)

/-- The same when the client has just sent a `FIN` of its own. -/
lemma Moves.clientAnswerFin {rx : UInt8} {w : View}
    (hw : Moves ws k crossing overrun early u w) (hs : w.sk.state = .finWait1)
    (he : hasFlag rx thFin = false → early) :
    Moves ws k crossing overrun early u (tcpClientAnswer ws rx thAck w) := by
  have hstep := tcpFinFlags_step rx thAck w
  have hclosed := socketClose_logged (v := w) (by simp [hs])
  rw [tcpClientAnswer]
  generalize tcpFinFlags rx thAck w = r at hstep ⊢
  cases hstep with
  | keep h1 => exact absurd hs h1
  | passive hs' => exact absurd (hs.symm.trans hs') (by simp)
  | active hs' => exact absurd (hs.symm.trans hs') (by simp)
  | finAcked _ hf =>
      have hw' := hw.tail (.earlyAcked hs (he hf))
      dsimp only
      split_ifs
      · exact hw'.tail (.bare rfl (.inr (.inl rfl)))
      · exact hw'
      · exact hw'
  | finBoth _ hf =>
      dsimp only
      rw [if_pos (by decide), if_pos (.inl hf)]
      exact (hw.tail .close).tail (.bare rfl (.inr (.inr hclosed)))
  | closing hs' => exact absurd (hs.symm.trans hs') (by simp)
  | lastAck hs' => exact absurd (hs.symm.trans hs') (by simp)

/-- The answer, or the reset of `fast_close`. -/
lemma Moves.clientDone {rx tx : UInt8} {w : View} (hw : Moves ws k crossing overrun early u w)
    (hs : w.sk.state = .established) (ht : tx = 0 ∨ tx = thAck ∨ tx = thAck ||| thFin)
    (hn : hasFlag rx thFin = true ∨ tx ≠ thAck → w.sk.sndNxt = w.sk.sndUna ∨ overrun) :
    Moves ws k crossing overrun early u
      (if hasFlag tx thFin && ws.cfg.fastClose then tcpFastClose ws w
        else tcpClientAnswer ws rx tx w) := by
  split_ifs
  · exact (hw.tail (.bare rfl (.inl hs))).tail .close
  · exact Moves.clientAnswer hw hs ht hn

lemma Answering.done {rx tx : UInt8} {w : View}
    (h : Answering ws k crossing overrun early u tx w)
    (ho : u.sk.keepalive = true → ws.cfg.keepaliveRequestInterval = 0 →
      workSpaceInDuration ws = true → ws.mbufAlloc u.allocs = true → ws.tcpData.bytes ≠ [] →
      hasFlag rx thFin = true → overrun)
    (he : u.sk.keepalive = true → ws.cfg.keepaliveRequestInterval = 0 →
      workSpaceInDuration ws = false → hasFlag rx thFin = false → early) :
    Moves ws k crossing overrun early u
      (if hasFlag tx thFin && ws.cfg.fastClose then tcpFastClose ws w
        else tcpClientAnswer ws rx tx w) := by
  cases h with
  | rest hw hs hn ht => exact Moves.clientDone hw hs ht fun _ => .inl hn
  | requested hw hs hk hi hd ha =>
      refine Moves.clientDone hw hs (.inr (.inl rfl)) fun hf => ?_
      have hf' := hf.resolve_right fun h => h rfl
      by_cases hn : w.sk.sndNxt = w.sk.sndUna
      · exact .inl hn
      · exact .inr (ho hk hi hd (ha hn).1 (ha hn).2 hf')
  | finished hw hs hk hi hd =>
      rw [show hasFlag thAck thFin = false from rfl, Bool.false_and, if_neg Bool.false_ne_true]
      exact Moves.clientAnswerFin hw hs (he hk hi hd)

/-- `Overrun` and `EarlyFin` reach the moves of the client's data path. -/
structure Gaps (ws : WorkSpace) (k : Call) (crossing overrun early : Prop) (v : View) : Prop where
  crossing : Crossing k v.sk → crossing
  overrun : Overrun ws k v → overrun
  early : EarlyFin ws k v.sk → early

lemma Moves.clientAccepted (hp : Plain ws) (hs : ws.cfg.server = false) (hk : k = .input m)
    (hg : Gaps ws k crossing overrun early v) (hf : dataFlags m) (hin : inOrder m.th v.sk)
    (hlive : v.sk.state ≠ .closed) :
    Moves ws k crossing overrun early v (tcpClientAccepted ws m.th (tcpDataGet m).1
      (tcpDataGet m).2 (tcpAcceptInOrder ws m.th (tcpDataGet m).2 v)).2 := by
  obtain ⟨hsk, htr, hl⟩ := tcpAcceptInOrder_eq hp m.th (tcpDataGet m).2 v
  have hal := tcpAcceptInOrder_allocs ws m.th (tcpDataGet m).2 v
  rw [tcpClientAccepted]
  dsimp only
  generalize hu : (tcpAcceptInOrder ws m.th (tcpDataGet m).2 v).log
    (.accepted m.th.seq m.th.ack (acceptedLen m.th (tcpDataGet m).2)) = u
  have hacc : Accepted ws m v u := by
    rw [← hu]
    exact ⟨hf, hin, hlive, .inl (by simp [hsk]), by simp [hs], by simp [hsk], by simp [hsk],
      by simpa [hsk] using hin.1, by simp [hsk], hl, ⟨[], by simp [htr], .inl rfl⟩, by simp [hs]⟩
  by_cases he : u.sk.state = .established
  · have hv : v.sk.state = .established := by
      rw [← he, ← hu, View.log_sk, hsk]
    have hone : Moves ws k crossing overrun early v u :=
      .single (.accept hk hacc (by simp [hv]) (by simp [hv]) (by simp [hv]))
    have hka : u.sk.keepalive = v.sk.keepalive := by rw [← hu, View.log_sk, hsk]
    have hua : u.allocs = v.allocs := by rw [← hu, View.log_allocs, hal]
    rw [if_pos he]
    by_cases hd : (tcpDataGet m).2 ≠ 0
    · rw [if_pos hd]
      by_cases hh : ws.cfg.http = true
      · obtain ⟨hfr, htx⟩ := framed_httpClientData ws m.th.flags (tcpDataGet m).1
          (tcpDataGet m).2 u
        rw [if_pos hh, apply_ite Prod.snd]
        refine hone.trans (Moves.clientDone (Moves.frame hfr) (hfr.state.trans he) htx fun _ => ?_)
        rw [hfr.sndNxt, hfr.sndUna]
        exact .inl hacc.acked
      · have hh' : ws.cfg.http = false := by simpa using hh
        have hagain : u.sk.keepalive = true → ws.cfg.keepaliveRequestInterval = 0 →
            RequestsAgain ws m v.sk :=
          fun hu hi => ⟨hs, hf, hin, hv, hd, hh', hka ▸ hu, hi⟩
        rw [if_neg hh, apply_ite Prod.snd]
        refine hone.trans (Answering.done (.response he hacc.acked _ _) ?_ ?_)
        · intro hu hi hdur hal' hb hfin
          exact hg.overrun (.inl ⟨m, hk, hagain hu hi, hfin, hdur, hua ▸ hal', hb⟩)
        · intro hu hi hdur hfin
          exact hg.early ⟨m, hk, hagain hu hi, hfin, hdur⟩
    · rw [if_neg hd, apply_ite Prod.snd]
      exact hone.trans (Moves.clientDone .refl he (.inl rfl) fun _ => .inl hacc.acked)
  · rw [if_neg he, tcpClientAnswer]
    obtain ⟨tx, w, hr, hw⟩ := hacc.finFlags crossing overrun early hk he
    rw [hr]
    dsimp only
    rcases hw with ⟨rfl, hw⟩ | ⟨rfl, hfin, hc, hw⟩ | ⟨rfl, hw⟩
    · rw [if_neg (by simp)]
      exact hw
    · rw [if_pos (by decide), if_pos (.inl hfin)]
      exact hw.tail (.bare rfl (.inr (.inr hc)))
    · rw [if_pos (by decide), if_pos (.inr (.inl (by decide)))]
      exact hw

lemma Moves.clientProcessData (hp : Plain ws) (hs : ws.cfg.server = false) (hk : k = .input m)
    (hg : Gaps ws k crossing overrun early v) (hf : dataFlags m) :
    Moves ws k crossing overrun early v (tcpClientProcessData ws m v).2 := by
  by_cases hcr : ¬ inOrder m.th v.sk ∧ simultaneousFin m.th (tcpDataGet m).2 v.sk
  · rw [clientProcessData_crossed ws hcr.1 hcr.2]
    exact .single (.crossed hk hf hcr.1 hcr.2
      (crossing_or hg.crossing hk hf hcr.1 hcr.2) (.refl _))
  have hr := checked k crossing overrun early hp m v
  have hcl := fun hin ho => Moves.clientAccepted (v := v) hp hs hk hg hf hin ho
  rw [tcpClientProcessData]
  generalize tcpCheckSequence ws m.th (tcpDataGet m).2 v = r at hr ⊢
  cases hr with
  | accept hin ho => exact hcl hin ho
  | simultaneous hin hsim => exact absurd ⟨hin, hsim⟩ hcr
  | drop hw =>
      dsimp only
      rw [if_pos rfl]
      dsimp only
      exact hw.trans (Moves.count _)

lemma Moves.clientProcessSynAck (hk : k = .input m) (hf : m.th.flags = thSyn ||| thAck) :
    Moves ws k crossing overrun early v (tcpClientProcessSynAck ws m.th v) := by
  rw [tcpClientProcessSynAck]
  dsimp only
  split_ifs with hs ha he
  · exact Moves.count _
  · exact (Moves.count (netStatsRtt ws v.sk)).tail (.synAck hk hf hs (not_not.mp ha))
  · have hcount : Moves ws k crossing overrun early v
        (v.count fun s => { s with pktLost := s.pktLost + 1 }) := Moves.count _
    exact (hcount.tail (.bare rfl (.inl he))).trans (Moves.count _)
  · exact Moves.count _
  · exact Moves.count _

lemma Moves.clientInput (hp : Plain ws) (hs : ws.cfg.server = false) (hk : k = .input m)
    (hg : Gaps ws k crossing overrun early v) :
    Moves ws k crossing overrun early v (tcpClientInput ws m v).2 := by
  refine (Moves.count (tcpFlagsRxCount m.th.flags)).trans ?_
  have hg' : Gaps ws k crossing overrun early (v.count (tcpFlagsRxCount m.th.flags)) :=
    ⟨hg.crossing, hg.overrun, hg.early⟩
  rw [tcpClientInput]
  split_ifs with hf hsyn
  · exact Moves.clientProcessData hp hs hk hg' hf
  · exact Moves.clientProcessSynAck hk hsyn
  · exact Moves.processRst
  · dsimp only
    exact Moves.count _

lemma Moves.doKeepalive (hp : Plain ws) (hs : ws.cfg.server = false) (hk : k = .keepalive)
    (ho : Overrun ws k v → overrun) :
    Moves ws k crossing overrun early v (tcpDoKeepalive ws v) := by
  rw [tcpDoKeepalive]
  split_ifs with hn hfl hd hst
  · exact absurd hfl (by simp [hp.flood hs])
  · exact absurd hfl (by simp [hp.flood hs])
  · refine .single (.fin hst.2 (.inr rfl) rfl rfl (fun h => by cases h) ?_)
    by_cases hne : v.sk.sndNxt = v.sk.sndUna
    · exact .inl hne
    · exact .inr (ho (.inr ⟨hk, hne⟩))
  · exact .refl
  · rw [not_or, not_or] at hn
    exact Moves.sendKeepaliveRequest (not_not.mp hn.2.1) (not_not.mp hn.1)

lemma Moves.ackDelayDone (b : Bool) :
    Moves ws k crossing overrun early v (tcpAckDelayDone ws b v) := by
  have hack : Moves ws k crossing overrun early v { v with sk.httpAck := true } :=
    .touch rfl rfl rfl rfl rfl rfl rfl
  rw [tcpAckDelayDone]
  dsimp only
  split_ifs
  · exact hack.trans (Moves.frame (framed_startKeepaliveTimer _))
  · exact hack

lemma Moves.ackDelayFlushOne :
    Moves ws k crossing overrun early v (tcpAckDelayFlushOne ws v) := by
  have hack : Moves ws k crossing overrun early v { v with sk.httpAck := false } :=
    .touch rfl rfl rfl rfl rfl rfl rfl
  rw [tcpAckDelayFlushOne]
  dsimp only
  split_ifs with _ he
  · exact hack.tail (.bare rfl (.inl he))
  · exact hack
  · exact .refl

end Traversal

/-- A response that the client answers with the next request, up to `tcp_process_fin`. -/
lemma RequestsAgain.input {ws : WorkSpace} {m : Mbuf} {v : View} (h : RequestsAgain ws m v.sk)
    (hp : Plain ws) :
    ∃ u, tcpClientInput ws m v =
        (.none, tcpClientAnswer ws m.th.flags thAck (tcpSendKeepaliveRequest ws u)) ∧
      u.sk.state = .established ∧ u.sk.sndNxt = u.sk.sndUna ∧ u.allocs = v.allocs ∧
      ∃ l, u.trace = v.trace ++ l := by
  obtain ⟨hs, hf, hin, hst, hd, hh, hka, hi⟩ := h
  have hst' : (v.count (tcpFlagsRxCount m.th.flags)).sk.state ≠ .closed := by simp [hst]
  obtain ⟨hsk, htr, -⟩ := tcpAcceptInOrder_eq hp m.th (tcpDataGet m).2
    (v.count (tcpFlagsRxCount m.th.flags))
  have hal := tcpAcceptInOrder_allocs ws m.th (tcpDataGet m).2 (v.count (tcpFlagsRxCount m.th.flags))
  have hin' : inOrder m.th (v.count (tcpFlagsRxCount m.th.flags)).sk := hin
  have hack : m.th.ack = v.sk.sndNxt := hin.1
  have hresp : ∀ w : View, w.sk.keepalive = true →
      tcpClientResponse ws (tcpDataGet m).1 (tcpDataGet m).2 w = (thAck,
        tcpSendKeepaliveRequest ws
          (w.count (httpParseResponse (tcpDataGet m).1 (tcpDataGet m).2))) := by
    intro w hw
    rw [tcpClientResponse, if_neg (by simp [hw]), if_neg (by simp [hi])]
  rw [tcpClientInput, if_pos (by exact hf), tcpClientProcessData,
    tcpCheckSequence_inOrder hin' hst']
  dsimp only
  rw [if_neg (by simp), tcpClientAccepted]
  generalize tcpAcceptInOrder ws m.th (tcpDataGet m).2
    (v.count (tcpFlagsRxCount m.th.flags)) = u at hsk htr hal ⊢
  dsimp only
  rw [if_pos (by simpa [hsk] using hst), if_pos hd]
  simp only [hh, Bool.false_eq_true, if_false]
  rw [hresp _ (by simp [hsk, hka])]
  simp only [show hasFlag thAck thFin = false from rfl, Bool.false_and, Bool.false_eq_true, if_false]
  refine ⟨_, rfl, ?_, ?_, ?_, ?_⟩
  · simpa [hsk] using hst
  · simp [hsk, hack]
  · simpa using hal
  · refine ⟨[.accepted m.th.seq m.th.ack (acceptedLen m.th (tcpDataGet m).2)], ?_⟩
    simp [htr]

/-! ### Calls -/

/-- Every call on a TCP socket with `send_window == 0` is a sequence of moves. -/
theorem moves_run {ws : WorkSpace} (hp : Plain ws) {k : Call} (hm : k.Allowed ws.cfg) (v : View) :
    Moves ws k (Crossing k v.sk) (Overrun ws k v) (EarlyFin ws k v.sk) v (k.run ws v) := by
  cases k with
  | input m =>
      rw [Call.run, l4Input, hp.protocol]
      cases hs : ws.cfg.server with
      | true => exact Moves.serverInput hp hs rfl id
      | false => exact Moves.clientInput hp hs rfl ⟨id, id, id⟩
  | ackDone b => exact Moves.ackDelayDone b
  | ackFlush => exact Moves.ackDelayFlushOne
  | retransmit =>
      rw [Call.run, hp.protocol]
      exact Moves.delTimer.trans (Moves.doRetransmit hp (.inr rfl))
  | keepalive =>
      rw [Call.run, hp.protocol]
      exact Moves.delTimer.trans (Moves.doKeepalive hp hm.1 rfl id)
  | timeout => exact (Moves.delTimer.trans (Moves.count _)).tail .close
  | launch turns =>
      rw [Call.run, hp.protocol, socketClientOpen]
      by_cases hc : v.sk.state = .closed
      · rw [if_pos hc]
        dsimp only
        rw [if_pos rfl, tcpClientStart, if_neg (by simp [hp.flood hm])]
        exact .single (.openClient hm hc)
      · rw [if_neg hc]
        exact .refl
  | disableKeepalive => exact .touch rfl rfl rfl rfl rfl rfl rfl

end Dperf
