import Dperf.Handshake

/-!
A client socket and a server socket for one connection, each on its worker, and a network between
them that loses, duplicates and reorders.

* `Connection`: the two sockets. `Connection.Step`: one event on one of the two workers, at any
  time; what reaches the socket is anything that the other one has ever sent.
* `Phase`: how far the two have got with the connection. Kept by every move of the client
  (`Phase.client`) and of the server (`Phase.server`), and so by every run (`phase_of_reach`).
* `connection_agrees`: as long as none of the two has closed, each has received all that the other
  one takes for acknowledged and no more than was sent, and every request of the client is passed
  to the parser once at most.
-/

namespace Dperf

open Peers Sequence

/-! ### Two workers -/

/-- A worker with the client and one with the server. -/
structure Pair (n m : ℕ) where
  client : Worker n
  server : Worker m

/-- The addresses and ports of the one are those of the other, the other way around. -/
structure SameTuple (c s : Socket) : Prop where
  laddr : c.laddr = s.faddr
  faddr : c.faddr = s.laddr
  lport : c.lport = s.fport
  fport : c.fport = s.lport

/-- A client socket that does not flood and a server socket, both with `send_window == 0`. -/
structure Connection (n m : ℕ) where
  clientTable : SocketTable n
  serverTable : SocketTable m
  clientWs : WorkSpace
  serverWs : WorkSpace
  clientSk : Fin n
  serverSk : Fin m
  clientPlain : Plain clientWs
  serverPlain : Plain serverWs
  isClient : clientWs.cfg.server = false
  isServer : serverWs.cfg.server = true

/-- The packet of an event, if it is one for the socket `i`, carries a segment of `segs`. -/
def Delivers {n : ℕ} (st : SocketTable n) (ws : WorkSpace) (w : Worker n) (i : Fin n)
    (segs : List Segment) (e : Event) : Prop :=
  ∀ m, e = .recv .tcp m → socketLookup st ws w.pool m = some i → ∃ seg ∈ segs, m.Arrives seg

namespace Connection

variable {n m : ℕ} (K : Connection n m)

/-- What has happened on the client socket. -/
def clientObs (p : Pair n m) : List Obs := p.client.obs K.clientSk

/-- What has happened on the server socket. -/
def serverObs (p : Pair n m) : List Obs := p.server.obs K.serverSk

/-- Two workers at the start of their loops. -/
structure Start (p : Pair n m) : Prop where
  client : Initial K.clientWs p.client
  server : Initial K.serverWs p.server
  tuple : SameTuple (p.client.pool K.clientSk) (p.server.pool K.serverSk)

/-- An event on one of the workers. Its packet may be any that the other socket has sent before;
packets for other sockets are arbitrary. -/
inductive Step : Pair n m → Pair n m → Prop
  | client {p : Pair n m} {c : Clock} {e : Event} {w : Worker n}
      (hin : Delivers K.clientTable (K.clientWs.at c) p.client K.clientSk
        (sentSegments (K.serverObs p)) e)
      (h : step K.clientTable (K.clientWs.at c) e p.client = some w) : Step p ⟨w, p.server⟩
  | server {p : Pair n m} {c : Clock} {e : Event} {w : Worker m}
      (hin : Delivers K.serverTable (K.serverWs.at c) p.server K.serverSk
        (sentSegments (K.clientObs p)) e)
      (h : step K.serverTable (K.serverWs.at c) e p.server = some w) : Step p ⟨p.client, w⟩

/-- The states of the runs of the two workers. -/
def Reach (p : Pair n m) : Prop := ∃ p₀, K.Start p₀ ∧ Relation.ReflTransGen K.Step p₀ p

end Connection

/-! ### Given runs -/

/-- The packet of an event, if there is one, is made of a segment of `segs`. -/
def Event.carried (segs : List Segment) : Event → Bool
  | .recv _ m => segs.any fun seg => decide (seg.data.length < 2 ^ 16) && m == seg.mbuf
  | _ => true

lemma Segment.mbuf_arrives {seg : Segment} (h : seg.data.length < 2 ^ 16) :
    seg.mbuf.Arrives seg := by
  refine ⟨seg.mbuf_carries, ?_, List.take_length⟩
  have hlen : (tcpDataGet seg.mbuf).2 = seg.data.length.toUInt16 := by
    rw [tcpDataGet, if_pos (show seg.mbuf.version = 4 from rfl)]
    change 40 + seg.data.length.toUInt16 - (20 + (5 : UInt8).toUInt16 * 4) = _
    rw [show (20 + (5 : UInt8).toUInt16 * 4 : UInt16) = 40 by decide]
    grind
  rw [hlen]
  exact UInt16.toNat_ofNat_of_lt' h

lemma Event.carried_delivers {n : ℕ} {segs : List Segment} {e : Event} (h : e.carried segs = true)
    (st : SocketTable n) (ws : WorkSpace) (w : Worker n) (i : Fin n) :
    Delivers st ws w i segs e := by
  rintro m rfl -
  obtain ⟨seg, hseg, hm⟩ := List.any_eq_true.mp h
  rw [Bool.and_eq_true, decide_eq_true_eq, beq_iff_eq] at hm
  exact ⟨seg, hseg, hm.2 ▸ Segment.mbuf_arrives hm.1⟩

namespace Connection

variable {n m : ℕ}

/-- The run of some events, each with its time; `true` is the side of the client. -/
def play (K : Connection n m) : List (Bool × Clock × Event) → Pair n m → Option (Pair n m)
  | [], p => some p
  | (true, c, e) :: l, p =>
      if e.carried (sentSegments (K.serverObs p)) then
        (step K.clientTable (K.clientWs.at c) e p.client).bind fun w => K.play l ⟨w, p.server⟩
      else none
  | (false, c, e) :: l, p =>
      if e.carried (sentSegments (K.clientObs p)) then
        (step K.serverTable (K.serverWs.at c) e p.server).bind fun w => K.play l ⟨p.client, w⟩
      else none

lemma play_run {K : Connection n m} : ∀ {l : List (Bool × Clock × Event)} {p p' : Pair n m},
    K.play l p = some p' → Relation.ReflTransGen K.Step p p' := by
  intro l
  induction l with
  | nil =>
      intro p p' h
      cases h
      exact .refl
  | cons a l ih =>
      intro p p' h
      obtain ⟨side, c, e⟩ := a
      cases side with
      | true =>
          rw [play] at h
          split_ifs at h with hc
          obtain ⟨w, hw, hrest⟩ := Option.bind_eq_some_iff.mp h
          exact .head (.client (Event.carried_delivers hc _ _ _ _) hw) (ih hrest)
      | false =>
          rw [play] at h
          split_ifs at h with hc
          obtain ⟨w, hw, hrest⟩ := Option.bind_eq_some_iff.mp h
          exact .head (.server (Event.carried_delivers hc _ _ _ _) hw) (ih hrest)

lemma plain_client : Plain (WorkSpace.single Config.single) := ⟨rfl, rfl, fun _ => rfl⟩

lemma plain_server : Plain (WorkSpace.single (Config.singleServer true)) :=
  ⟨rfl, rfl, fun _ => rfl⟩

lemma single_client : (WorkSpace.single Config.single).cfg.server = false := rfl

lemma single_server : (WorkSpace.single (Config.singleServer true)).cfg.server = true := rfl

/-- The smallest setting: one client and one server address. -/
def single : Connection 1 1 where
  clientTable := SocketTable.single
  serverTable := SocketTable.single
  clientWs := WorkSpace.single Config.single
  serverWs := WorkSpace.single (Config.singleServer true)
  clientSk := ⟨0, Nat.zero_lt_one⟩
  serverSk := ⟨0, Nat.zero_lt_one⟩
  clientPlain := plain_client
  serverPlain := plain_server
  isClient := single_client
  isServer := single_server

/-- Its workers at the start of their loops. -/
def singleStart : Pair 1 1 := ⟨.single single.clientWs, .single single.serverWs⟩

lemma single_start : single.Start singleStart :=
  ⟨Worker.single_initial _, Worker.single_initial _, ⟨rfl, rfl, rfl, rfl⟩⟩

/-- A handshake and a request that arrives twice. -/
def handshakeAndRequest : List (Bool × Clock × Event) :=
  [(true, .single 1, .launch 1),
    (false, .single 1, .recv .tcp (Segment.mbuf ⟨1, 2, 1, 80, thSyn, 1, 0, []⟩)),
    (true, .single 1, .recv .tcp (Segment.mbuf ⟨2, 1, 80, 1, thSyn ||| thAck, 1, 2, []⟩)),
    (false, .single 1,
      .recv .tcp (Segment.mbuf ⟨1, 2, 1, 80, thPush ||| thAck, 2, 2, [71, 69, 84]⟩)),
    (false, .single 1,
      .recv .tcp (Segment.mbuf ⟨1, 2, 1, 80, thPush ||| thAck, 2, 2, [71, 69, 84]⟩))]

end Connection

/-! ### Phases -/

/-- How far a client and a server have got: neither was opened; the client has sent its `SYN`; the
server has answered it; the client has taken the answer. -/
inductive Phase (wc ws : WorkSpace) (c s : Slot) : Prop
  | shut (hc : Shut c) (hs : Shut s)
  | calling {b b₀ x} (hc : Calling wc b b₀ x c) (hs : Shut s)
  | called {b b₀ b' x y} (hc : Calling wc b b₀ x c) (hs : Calling ws b' b y s)
      (hrcv : y.rcv ≤ x.nxt)
  | joined {b b' x y} (hc : Settled wc b b' x c s.obs) (hs : Settled ws b' b y s c.obs)
      (hag : Consistent x y)

section Time

variable {ws wc : WorkSpace} {b b' : UInt32} {x : Ends} {c s : Slot} {peer : List Obs}

lemma calling_at (t : Clock) : Calling (ws.at t) b b' x s ↔ Calling ws b b' x s :=
  ⟨fun h => ⟨(side_at t).mp h.side, h.state, h.flags, h.una, h.sent, h.passed⟩,
    fun h => ⟨(side_at t).mpr h.side, h.state, h.flags, h.una, h.sent, h.passed⟩⟩

lemma settled_at (t : Clock) : Settled (ws.at t) b b' x s peer ↔ Settled ws b b' x s peer :=
  ⟨fun h => ⟨(side_at t).mp h.side, h.state, h.passed⟩,
    fun h => ⟨(side_at t).mpr h.side, h.state, h.passed⟩⟩

lemma phase_at_client (t : Clock) : Phase (wc.at t) ws c s ↔ Phase wc ws c s := by
  constructor
  · rintro (⟨hc, hs⟩ | ⟨hc, hs⟩ | ⟨hc, hs, hr⟩ | ⟨hc, hs, hag⟩)
    · exact .shut hc hs
    · exact .calling ((calling_at t).mp hc) hs
    · exact .called ((calling_at t).mp hc) hs hr
    · exact .joined ((settled_at t).mp hc) hs hag
  · rintro (⟨hc, hs⟩ | ⟨hc, hs⟩ | ⟨hc, hs, hr⟩ | ⟨hc, hs, hag⟩)
    · exact .shut hc hs
    · exact .calling ((calling_at t).mpr hc) hs
    · exact .called ((calling_at t).mpr hc) hs hr
    · exact .joined ((settled_at t).mpr hc) hs hag

lemma phase_at_server (t : Clock) : Phase wc (ws.at t) c s ↔ Phase wc ws c s := by
  constructor
  · rintro (⟨hc, hs⟩ | ⟨hc, hs⟩ | ⟨hc, hs, hr⟩ | ⟨hc, hs, hag⟩)
    · exact .shut hc hs
    · exact .calling hc hs
    · exact .called hc ((calling_at t).mp hs) hr
    · exact .joined hc ((settled_at t).mp hs) hag
  · rintro (⟨hc, hs⟩ | ⟨hc, hs⟩ | ⟨hc, hs, hr⟩ | ⟨hc, hs, hag⟩)
    · exact .shut hc hs
    · exact .calling hc hs
    · exact .called hc ((calling_at t).mpr hs) hr
    · exact .joined hc ((settled_at t).mpr hs) hag

end Time

/-! ### Moves -/

section Moves

variable {wc ws : WorkSpace} {k : Call} {crossing overrun early : Prop} {c s p : Slot}
  {v v' : View} {m : Mbuf}

/-- The other end goes on. -/
lemma Settled.peer {b b' : UInt32} {x : Ends} {l l' : List Obs} (h : Settled ws b b' x s l)
    (hl : sentSegments l ⊆ sentSegments l') : Settled ws b b' x s l' :=
  ⟨h.side, h.state, h.passed.mono le_rfl hl⟩

lemma sentSegments_move (hm : Move ws k crossing overrun early v v') :
    sentSegments (s.after v).obs ⊆ sentSegments (s.after v').obs := by
  obtain ⟨r, hr⟩ := move_trace hm
  change sentSegments (s.obs ++ v.trace) ⊆ sentSegments (s.obs ++ v'.trace)
  rw [hr, ← List.append_assoc, sentSegments_append (l := s.obs ++ v.trace)]
  exact List.subset_append_left _ _

/-- A segment of the handshake is no data. -/
lemma not_dataFlags {server : Bool} (hf : m.th.flags = callFlags server) : ¬ dataFlags m := by
  rw [dataFlags, hf]
  cases server <;> decide

/-- What a socket in the handshake has sent is no data. -/
lemma Calling.not_data {b b' : UInt32} {x : Ends} (h : Calling ws b b' x p)
    (hin : ∀ m, k = .input m → ∃ seg ∈ sentSegments p.obs, m.Arrives seg) :
    ∀ m, k = .input m → m.th.flags = callFlags ws.cfg.server ∧ ¬ dataFlags m := by
  intro m hk
  obtain ⟨seg, hseg, hm⟩ := hin m hk
  have hf : m.th.flags = callFlags ws.cfg.server := hm.flags.trans (h.sent seg hseg)
  exact ⟨hf, not_dataFlags hf⟩

/-- Nothing arrives from a socket that was never opened. -/
lemma Shut.not_input (h : Shut p)
    (hin : ∀ m, k = .input m → ∃ seg ∈ sentSegments p.obs, m.Arrives seg) (m : Mbuf) :
    k ≠ .input m := by
  intro hk
  obtain ⟨seg, hseg, -⟩ := hin m hk
  rw [h.sent] at hseg
  exact absurd hseg List.not_mem_nil

/-- A move of the client. -/
theorem Phase.client (h : Phase wc ws (c.after v) p) (hwc : wc.cfg.server = false)
    (hws : ws.cfg.server = true) (hk : v.sk.state = .closed → k ≠ .retransmit)
    (hin : ∀ m, k = .input m → ∃ seg ∈ sentSegments p.obs, m.Arrives seg)
    (hm : Move wc k crossing overrun early v v') (hgood : Ongoing (c.after v').obs)
    (hp : Ongoing p.obs) :
    Phase wc ws (c.after v') p ∧ (v'.sk.state = .closed → k ≠ .retransmit) := by
  have hb := (hgood.before (move_trace hm)).bytes
  cases h with
  | shut hc hs =>
      have hno := hs.not_input hin
      rcases hc.move (hk hc.state) (fun m hkm => absurd hkm (hno m)) hm hgood with
        hshut | ⟨m, hkm, -⟩ | ⟨-, rfl⟩
      · exact ⟨.shut hshut hs, fun _ => hk hc.state⟩
      · exact absurd hkm (hno m)
      · have hst : (socketClientOpened wc wc.tsc v).sk.state = callState wc.cfg.server := by
          rw [hwc]
          rfl
        obtain ⟨nxt, hcall⟩ := hc.calling (b := v.sk.sndNxt + 1)
          (u := socketClientOpened wc wc.tsc v) rfl rfl (seqAt_zero 0).symm hst ⟨_, _, rfl⟩ hb
        rw [hwc] at hcall
        exact ⟨.calling hcall hs, fun hcl => absurd hcl hcall.ne_closed⟩
  | calling hc hs =>
      have hno := hs.not_input hin
      rcases hc.move (fun m hkm => absurd hkm (hno m)) hm hgood with ⟨nxt, -, hcall⟩ | ⟨m, hkm, -⟩
      · exact ⟨.calling hcall hs, fun hcl => absurd hcl hcall.ne_closed⟩
      · exact absurd hkm (hno m)
  | called hc hs hrcv =>
      rcases hc.move (fun m hkm => (hs.not_data hin m hkm).2) hm hgood with
        ⟨nxt, hle, hcall⟩ | ⟨m, hkm, hf, -, hack, rfl⟩
      · exact ⟨.called hcall hs (hrcv.trans hle), fun hcl => absurd hcl hcall.ne_closed⟩
      · obtain ⟨seg, hseg, harr⟩ := hin m hkm
        obtain ⟨hpos, x', hag, hset⟩ := hc.establish hwc hs hrcv hb hseg harr hf hack
        exact ⟨.joined hset (hs.settled hws hpos _) hag, fun hcl => absurd hcl hset.ne_closed⟩
  | joined hc hs hag =>
      obtain ⟨x', hset, hag'⟩ := hc.move hag hs.side hp.bytes hin hm hgood
      exact ⟨.joined hset (hs.peer (sentSegments_move hm)) hag',
        fun hcl => absurd hcl hset.ne_closed⟩

/-- A move of the server. -/
theorem Phase.server (h : Phase wc ws p (s.after v)) (hws : ws.cfg.server = true)
    (hk : v.sk.state = .closed → k ≠ .retransmit)
    (hin : ∀ m, k = .input m → ∃ seg ∈ sentSegments p.obs, m.Arrives seg)
    (hm : Move ws k crossing overrun early v v') (hgood : Ongoing (s.after v').obs)
    (hp : Ongoing p.obs) :
    Phase wc ws p (s.after v') ∧ (v'.sk.state = .closed → k ≠ .retransmit) := by
  have hb := (hgood.before (move_trace hm)).bytes
  have hnot : ¬ ws.cfg.server = false := by simp [hws]
  cases h with
  | shut hc hs =>
      have hno := hc.not_input hin
      rcases hs.move (hk hs.state) (fun m hkm => absurd hkm (hno m)) hm hgood with
        hshut | ⟨m, hkm, -⟩ | ⟨hserver, -⟩
      · exact ⟨.shut hc hshut, fun _ => hk hs.state⟩
      · exact absurd hkm (hno m)
      · exact absurd hserver hnot
  | @calling b _ x hc hs =>
      rcases hs.move (hk hs.state) (fun m hkm => (hc.not_data hin m hkm).2) hm hgood with
        hshut | ⟨m, hkm, hf, rfl⟩ | ⟨hserver, -⟩
      · exact ⟨.calling hc hshut, fun _ => hk hs.state⟩
      · -- the `SYN` of the client
        obtain ⟨seg, hseg, harr⟩ := hin m hkm
        obtain ⟨-, e, hsends, hstands⟩ := hc.side.sent seg hseg
        have hstart : e.start = 0 := Nat.le_zero.mp (hc.una ▸ hsends.start)
        have hpos : 1 ≤ x.nxt := by
          have hlen : 1 ≤ seg.seqLen := by
            rw [Segment.seqLen, ← harr.flags, hf, show hasFlag thSyn thSyn = true from rfl,
              if_pos rfl]
            omega
          have hstop := hsends.stop
          rw [hstands.stop] at hstop
          omega
        have hrcv : m.th.seq + 1 = seqAt b 1 := by
          rw [harr.seq, hstands.seq, hstart, seqAt_zero]
          rfl
        have hst : (socketServerOpen m.th v).sk.state = callState ws.cfg.server := by
          rw [socketServerOpen_state, hws]
          rfl
        obtain ⟨nxt, hcall⟩ := hs.calling (u := socketServerOpen m.th v) rfl rfl hrcv hst
          ⟨_, _, socketServerOpen_log m.th v⟩ hb
        rw [hws] at hcall
        exact ⟨.called hc hcall hpos, fun hcl => absurd hcl hcall.ne_closed⟩
      · exact absurd hserver hnot
  | called hc hs hrcv =>
      rcases hs.move (fun m hkm => (hc.not_data hin m hkm).2) hm hgood with
        ⟨nxt, -, hcall⟩ | ⟨m, -, -, hserver, -⟩
      · exact ⟨.called hc hcall hrcv, fun hcl => absurd hcl hcall.ne_closed⟩
      · exact absurd hserver hnot
  | joined hc hs hag =>
      obtain ⟨y', hset, hag'⟩ := hs.move hag.symm hc.side hp.bytes hin hm hgood
      exact ⟨.joined (hc.peer (sentSegments_move hm)) hset hag'.symm,
        fun hcl => absurd hcl hset.ne_closed⟩

/-- What every move keeps of a phase holds after the moves of a call. -/
lemma phase_moves {P : Slot → Prop} (hk : v.sk.state = .closed → k ≠ .retransmit)
    (hmove : ∀ {u u' : View}, P (s.after u) → (u.sk.state = .closed → k ≠ .retransmit) →
      Move ws k crossing overrun early u u' → Ongoing (s.after u').obs →
      P (s.after u') ∧ (u'.sk.state = .closed → k ≠ .retransmit))
    (h : P (s.after v)) (hms : Moves ws k crossing overrun early v v')
    (hgood : Ongoing (s.after v').obs) :
    P (s.after v') ∧ (v'.sk.state = .closed → k ≠ .retransmit) := by
  induction hms with
  | refl => exact ⟨h, hk⟩
  | tail _ hm ih =>
      obtain ⟨hP, hk'⟩ := ih (hgood.before (move_trace hm))
      exact hmove hP hk' hm hgood

end Moves

/-! ### Calls and runs -/

section Runs

variable {n m : ℕ} {K : Connection n m} {p p' : Pair n m}

lemma moves_log {ws : WorkSpace} {k : Call} {crossing overrun early : Prop} {v v' : View}
    (hms : Moves ws k crossing overrun early v v') : ∃ r, v'.trace = v.trace ++ r := by
  induction hms with
  | refl => exact ⟨[], (List.append_nil _).symm⟩
  | tail _ hm ih =>
      obtain ⟨r, hr⟩ := ih
      obtain ⟨r', hr'⟩ := move_trace hm
      exact ⟨r ++ r', by rw [hr', hr, List.append_assoc]⟩

lemma slot_after_view (w : Worker n) (i : Fin n) : (w.slot i).after (w.view i) = w.slot i := by
  simp [Slot.after, Worker.slot, Worker.view, Link.after]

/-- What the moves of a socket keep holds after a step of its worker. -/
lemma phase_step {st : SocketTable n} {ws : WorkSpace} {i : Fin n} {segs : List Segment}
    {P : Slot → Prop} (hplain : Plain ws) {e : Event} {w w' : Worker n}
    (hin : Delivers st ws w i segs e) (hs : step st ws e w = some w')
    (hplace : ∀ s, P s → s.sk.state = .closed → s.place ≠ some .retransmit)
    (hmove : ∀ {k crossing overrun early s u u'}, P (Slot.after s u) →
      (u.sk.state = .closed → k ≠ .retransmit) →
      (∀ m, k = .input m → ∃ seg ∈ segs, m.Arrives seg) →
      Move ws k crossing overrun early u u' → Ongoing (Slot.after s u').obs →
      P (Slot.after s u') ∧ (u'.sk.state = .closed → k ≠ .retransmit))
    (h : Ongoing (w.obs i) → P (w.slot i)) : Ongoing (w'.obs i) → P (w'.slot i) := by
  refine slot_of_turns (P := fun s => Ongoing s.obs → P s) (fun k w₁ hk ih hgood => ?_)
    (step_turns hs) h
  have hms := moves_run hplain hk.mode (w₁.view i)
  have hstart : P (w₁.slot i) := by
    have hbefore := hgood.before (moves_log hms)
    rw [slot_after_view] at hbefore
    exact ih hbefore
  -- a call from the queue of retransmissions finds the socket in it
  have hk' : (w₁.view i).sk.state = .closed → k ≠ .retransmit := by
    rintro hcl rfl
    exact hplace _ hstart hcl (Queues.place_eq_some.mpr (hk.timer _ rfl))
  have hin' : ∀ m, k = .input m → ∃ seg ∈ segs, m.Arrives seg := by
    intro m hkm
    obtain ⟨rfl, he, hi⟩ := hk.input m hkm
    exact hin m (hplain.protocol ▸ he) hi
  refine (phase_moves hk' (fun hP hcl hm hg => hmove hP hcl hin' hm hg) ?_ hms hgood).1
  rw [slot_after_view]
  exact hstart

/-- A socket that is closed was never opened. -/
lemma Phase.client_place {wc ws : WorkSpace} {c s : Slot} (h : Phase wc ws c s)
    (hc : c.sk.state = .closed) : c.place ≠ some .retransmit := by
  cases h with
  | shut hsh => exact hsh.place
  | calling hcall => exact absurd hc hcall.ne_closed
  | called hcall => exact absurd hc hcall.ne_closed
  | joined hset => exact absurd hc hset.ne_closed

lemma Phase.server_place {wc ws : WorkSpace} {c s : Slot} (h : Phase wc ws c s)
    (hs : s.sk.state = .closed) : s.place ≠ some .retransmit := by
  cases h with
  | shut _ hsh => exact hsh.place
  | calling _ hsh => exact hsh.place
  | called _ hcall => exact absurd hs hcall.ne_closed
  | joined _ hset => exact absurd hs hset.ne_closed

/-- A step of one of the two workers. -/
theorem phase_of_step (hstep : K.Step p p')
    (h : Ongoing (K.clientObs p) → Ongoing (K.serverObs p) →
      Phase K.clientWs K.serverWs (p.client.slot K.clientSk) (p.server.slot K.serverSk))
    (hc : Ongoing (K.clientObs p')) (hs : Ongoing (K.serverObs p')) :
    Phase K.clientWs K.serverWs (p'.client.slot K.clientSk) (p'.server.slot K.serverSk) := by
  cases hstep with
  | @client c e w hin hw =>
      have hphase := phase_step (K.clientPlain.at c) hin hw
        (P := fun s => Phase (K.clientWs.at c) K.serverWs s (p.server.slot K.serverSk))
        (fun s hP => hP.client_place)
        (fun hP hk hin' hm hg => hP.client K.isClient K.isServer hk hin' hm hg hs)
        fun hgood => (phase_at_client c).mpr (h hgood hs)
      exact (phase_at_client c).mp (hphase hc)
  | @server c e w hin hw =>
      have hphase := phase_step (K.serverPlain.at c) hin hw
        (P := fun s => Phase K.clientWs (K.serverWs.at c) (p.client.slot K.clientSk) s)
        (fun s hP => hP.server_place)
        (fun hP hk hin' hm hg => hP.server K.isServer hk hin' hm hg hc)
        fun hgood => (phase_at_server c).mpr (h hc hgood)
      exact (phase_at_server c).mp (hphase hs)

lemma Initial.shut {ws : WorkSpace} {w : Worker n} (h : Initial ws w) (i : Fin n) :
    Shut (w.slot i) := by
  rw [h.slot]
  exact ⟨h.closed i, by simp, rfl, rfl⟩

/-- Every run leads to one of the phases, as long as none of the two has closed. -/
theorem phase_of_reach (h : K.Reach p) (hc : Ongoing (K.clientObs p))
    (hs : Ongoing (K.serverObs p)) :
    Phase K.clientWs K.serverWs (p.client.slot K.clientSk) (p.server.slot K.serverSk) := by
  obtain ⟨p₀, h₀, hrun⟩ := h
  induction hrun with
  | refl => exact .shut (h₀.client.shut _) (h₀.server.shut _)
  | tail _ hstep ih => exact phase_of_step hstep ih hc hs

end Runs

/-! ### Agreement -/

/-- Positions of one stream, the later one in reach of the earlier one. -/
lemma tcpSeqLe_seqAt {b : UInt32} {i j : ℕ} (h : i ≤ j) (hd : j ≤ i + 10242) :
    tcpSeqLe (seqAt b i) (seqAt b j) = true :=
  decide_eq_true (seqAt_sub_nonpos h (by omega))

/-- **Agreement of client and server.** In every state that a client and a server reach over a
network that loses, duplicates and reorders their segments, in which the client is `ESTABLISHED`
or later, none of the two has closed and each has sent less than `2 ^ 31` bytes: each has received
all that the other one takes for acknowledged and no more than the other one has sent, no request
of the client has been passed to `http_parse_request` twice, and nothing else has been. -/
theorem connection_agrees {n m : ℕ} (K : Connection n m) {p : Pair n m} (h : K.Reach p)
    (he : .established ≤ (p.client.pool K.clientSk).state) (hc : Ongoing (K.clientObs p))
    (hs : Ongoing (K.serverObs p)) :
    (tcpSeqLe (p.client.pool K.clientSk).sndUna (p.server.pool K.serverSk).rcvNxt = true ∧
      tcpSeqLe (p.server.pool K.serverSk).rcvNxt (p.client.pool K.clientSk).sndNxt = true) ∧
    (tcpSeqLe (p.server.pool K.serverSk).sndUna (p.client.pool K.clientSk).rcvNxt = true ∧
      tcpSeqLe (p.client.pool K.clientSk).rcvNxt (p.server.pool K.serverSk).sndNxt = true) ∧
    (∀ seg ∈ sentSegments (K.clientObs p),
      ((passedRequests (K.serverObs p)).map Prod.fst).count seg.seq ≤ 1) ∧
    ∀ q ∈ passedRequests (K.serverObs p),
      ∃ seg ∈ sentSegments (K.clientObs p), seg.seq = q.1 ∧ seg.data = q.2 := by
  -- before the client has taken the `SYN-ACK` it is not `ESTABLISHED`
  have hcalling : ∀ {b b' x}, ¬ Calling K.clientWs b b' x (p.client.slot K.clientSk) := by
    intro b b' x hcall
    have hst : (p.client.pool K.clientSk).state = .synSent := by
      have hrole := hcall.state
      rwa [K.isClient] at hrole
    rw [hst] at he
    exact absurd he (by decide)
  cases phase_of_reach h hc hs with
  | shut hsh =>
      have hst : (p.client.pool K.clientSk).state = .closed := hsh.state
      rw [hst] at he
      exact absurd he (by decide)
  | calling hcall => exact absurd hcall hcalling
  | called hcall => exact absurd hcall hcalling
  | @joined b b' x y hcs hss hag =>
      have hcu : (p.client.pool K.clientSk).sndUna = seqAt b x.una := hcs.side.sndUna
      have hcn : (p.client.pool K.clientSk).sndNxt = seqAt b x.nxt := hcs.side.sndNxt
      have hcr : (p.client.pool K.clientSk).rcvNxt = seqAt b' x.rcv := hcs.side.rcvNxt
      have hsu : (p.server.pool K.serverSk).sndUna = seqAt b' y.una := hss.side.sndUna
      have hsn : (p.server.pool K.serverSk).sndNxt = seqAt b' y.nxt := hss.side.sndNxt
      have hsr : (p.server.pool K.serverSk).rcvNxt = seqAt b y.rcv := hss.side.rcvNxt
      have hx := hcs.side.flight
      have hy := hss.side.flight
      obtain ⟨h1, h2, h3, h4⟩ := hag
      rw [hcu, hcn, hcr, hsu, hsn, hsr]
      refine ⟨⟨tcpSeqLe_seqAt h1 (by omega), tcpSeqLe_seqAt h2 (by omega)⟩,
        ⟨tcpSeqLe_seqAt h3 (by omega), tcpSeqLe_seqAt h4 (by omega)⟩, fun seg _ => ?_,
        hss.passed.segment⟩
      exact List.nodup_iff_count_le_one.mp hss.passed.nodup _

/-- A request that arrives twice is passed to the parser once. -/
theorem connection_agrees_request : ∃ p, Connection.single.Reach p ∧
    passedRequests (Connection.single.serverObs p) = [(2, [71, 69, 84])] ∧
    tcpSeqLe (p.client.pool 0).sndUna (p.server.pool 0).rcvNxt = true ∧
    ∀ seg ∈ sentSegments (Connection.single.clientObs p),
      ((passedRequests (Connection.single.serverObs p)).map Prod.fst).count seg.seq ≤ 1 := by
  have hrun : (Connection.single.play Connection.handshakeAndRequest Connection.singleStart).any
      (fun p => (p.client.pool 0).state == .established &&
        Connection.single.clientObs p == [.opened 1 0,
          .sent ⟨1, 2, 1, 80, thSyn, 1, 0, []⟩ 1 2 1, .synAck 1 2,
          .sent ⟨1, 2, 1, 80, thPush ||| thAck, 2, 2, [71, 69, 84]⟩ 2 5 3] &&
        Connection.single.serverObs p == [.opened 1 2,
          .sent ⟨2, 1, 80, 1, thSyn ||| thAck, 1, 2, []⟩ 1 2 1, .accepted 2 2 3,
          .request 2 [71, 69, 84],
          .sent ⟨2, 1, 80, 1, thPush ||| thAck, 2, 5, [71, 69, 84]⟩ 2 5 3]) = true := by
    decide
  obtain ⟨p, hp, hval⟩ := (Option.any_eq_true _ _).mp hrun
  simp only [Bool.and_eq_true, beq_iff_eq] at hval
  obtain ⟨⟨hst, hc⟩, hs⟩ := hval
  have hreach : Connection.single.Reach p :=
    ⟨Connection.singleStart, Connection.single_start, Connection.play_run hp⟩
  have hest : SkState.established ≤ (p.client.pool 0).state := by
    rw [hst]
    decide
  have hgood : Ongoing (Connection.single.clientObs p) ∧
      Ongoing (Connection.single.serverObs p) := by
    rw [hc, hs]
    exact ⟨⟨by simp, by decide⟩, ⟨by simp, by decide⟩⟩
  obtain ⟨⟨hle, -⟩, -, hcount, -⟩ := connection_agrees _ hreach hest hgood.1 hgood.2
  refine ⟨p, hreach, ?_, hle, hcount⟩
  rw [hs]
  rfl

end Dperf
