import Dperf.Worker

/-!
The runs of a worker without RSS: the events of its loop in any order, each at any reading
of the clock.

* `Initial`: a worker as `socket_table_init` and `client_init` leave it.
* `Event`, `step`: one piece of work of `client_loop`, `server_loop` or the control thread.
* `Runs st ws G`: runs in which every step passes the test `G`; `Reach` starts them at an
  initial worker.
* `Slot`: what a run has to say about one socket: the socket, the timer queue it is in, and
  what has happened on it.
* `runEvents`: a run given by its events, to be evaluated; `SocketTable.single` and
  `Worker.single` are the smallest setting for it, one client and one server address.
-/

namespace Dperf

variable {n : ℕ}

/-! ### Initial workers -/

/-- `socket_init`; `seed` is what `rand_r` returned. -/
def socketInit (ws : WorkSpace) (clientIp : UInt32) (clientPort : UInt16) (serverIp : UInt32)
    (serverPort : UInt16) (seed : UInt32) : Socket :=
  let sk : Socket := { keepalive := ws.cfg.keepalive, sndNxt := seed }
  if ws.cfg.server then
    { sk with laddr := serverIp, faddr := clientIp, lport := serverPort, fport := clientPort }
  else { sk with faddr := serverIp, laddr := clientIp, fport := serverPort, lport := clientPort }

/-- A socket of a new pool: `rand_r` returns at most `RAND_MAX`. -/
def SocketNew (ws : WorkSpace) (sk : Socket) : Prop :=
  ∃ clientIp clientPort serverIp serverPort, ∃ seed : UInt32, seed < 0x80000000 ∧
    sk = socketInit ws clientIp clientPort serverIp serverPort seed

/-- A new socket is closed and has sent nothing. -/
lemma SocketNew.closed {ws : WorkSpace} {sk : Socket} (h : SocketNew ws sk) :
    sk.state = .closed ∧ sk.flags = 0 ∧ sk.sndNxt < 0x80000000 := by
  obtain ⟨_, _, _, _, seed, hs, rfl⟩ := h
  rw [socketInit]
  dsimp only
  split_ifs <;> exact ⟨rfl, rfl, hs⟩

/-- A worker at the start of its loop. -/
structure Initial (ws : WorkSpace) (w : Worker n) : Prop where
  pool : ∀ i, SocketNew ws (w.pool i)
  timers : w.timers = Queues.empty _ _
  stats : w.stats = {}
  trace : w.trace = []
  ackDelay : w.ackDelay = []
  next : w.next = 0

/-! ### Steps -/

/-- What the loop of a worker or the control thread does; `fuel` bounds the loops of the
source that may not return. -/
inductive Event where
  | recv (p : Protocol) (m : Mbuf)
  | launch (fuel : ℕ)
  | socketTimer (fuel : ℕ)
  | timeoutTimer (fuel : ℕ)
  | ackFlush
  | setLaunchInterval (launchInterval : UInt64)
  | stop

/-- One event at the time of the work space. Launches and delayed acknowledgements are the
client's. -/
def step (st : SocketTable n) (ws : WorkSpace) (e : Event) (w : Worker n) : Option (Worker n) :=
  match e with
  | .recv p m => some (recvPacket st ws p m w)
  | .launch fuel => if ws.cfg.server then none else clientLaunch st ws fuel w
  | .socketTimer fuel => socketTimerProcess ws fuel w
  | .timeoutTimer fuel => socketTimeoutTimerExpire ws fuel w
  | .ackFlush => if ws.cfg.server then none else some (tcpAckDelayFlush ws w)
  | .setLaunchInterval x => some (workSpaceSetLaunchInterval ws x w)
  | .stop => some (workSpaceStop w)

/-- A test on the steps of a run: the work space at the time of the event, the event, and
the worker before it. -/
abbrev Guard (n : ℕ) := WorkSpace → Event → Worker n → Prop

/-- Runs whose steps all pass the test `G`. -/
def Runs (st : SocketTable n) (ws : WorkSpace) (G : Guard n) : Worker n → Worker n → Prop :=
  Relation.ReflTransGen fun w w' =>
    ∃ (c : Clock) (e : Event), G (ws.at c) e w ∧ step st (ws.at c) e w = some w'

/-- The states of the runs from an initial worker. -/
def Reach (st : SocketTable n) (ws : WorkSpace) (G : Guard n) (w : Worker n) : Prop :=
  ∃ w₀, Initial ws w₀ ∧ Runs st ws G w₀ w

/-- No test at all. -/
def anyStep : Guard n := fun _ _ _ => True

/-! ### Slots -/

/-- What has happened on one socket. -/
def Worker.obs (w : Worker n) (i : Fin n) : List Obs :=
  w.trace.filterMap fun
    | .sk j o => if j = i then some o else none
    | _ => none

/-- A socket of the pool, its timer queue, and what has happened on it. -/
structure Slot where
  sk : Socket
  place : Option TimerKind
  obs : List Obs

/-- The slot of the socket `i`. -/
noncomputable def Worker.slot (w : Worker n) (i : Fin n) : Slot :=
  ⟨w.pool i, w.timers.place i, w.obs i⟩

/-- A slot after a call. -/
def Slot.after (s : Slot) (v : View) : Slot := ⟨v.sk, v.link.after s.place, s.obs ++ v.trace⟩

namespace Worker

variable (w : Worker n) {i j : Fin n}

lemma obs_put_self (v : View) : (w.put i v).obs i = w.obs i ++ v.trace := by
  simp [obs, put, List.filterMap_map]

lemma obs_put_ne (h : j ≠ i) (v : View) : (w.put i v).obs j = w.obs j := by
  simp [obs, put, List.filterMap_map, h.symm]

@[simp] lemma pool_put_self (v : View) : (w.put i v).pool i = v.sk := by simp [put]

@[simp] lemma pool_put_ne (h : j ≠ i) (v : View) : (w.put i v).pool j = w.pool j := by
  simp [put, h]

/-- A call changes its own slot as its view says. -/
lemma slot_put_self (v : View) : (w.put i v).slot i = (w.slot i).after v := by
  have hp : (w.put i v).timers.place i = v.link.after (w.timers.place i) :=
    place_relink_self v.link
  rw [slot, pool_put_self, hp, obs_put_self]
  rfl

/-- A call changes no other slot. -/
lemma slot_put_ne (h : j ≠ i) (v : View) : (w.put i v).slot j = w.slot j := by
  have hp : (w.put i v).timers.place j = w.timers.place j := place_relink_ne h v.link
  rw [slot, pool_put_ne w h, hp, obs_put_ne w h]
  rfl

end Worker

/-- A packet for a socket of a TCP server is one call on it. -/
lemma step_serverInput {st : SocketTable n} {ws : WorkSpace} {w : Worker n} {m : Mbuf} {i : Fin n}
    (hp : ws.cfg.protocol = .tcp) (hs : ws.cfg.server = true)
    (hi : socketLookup st ws w.pool m = some i) :
    step st ws (.recv .tcp m) w = some (w.on i (tcpServerInput ws m)) := by
  simp [step, recvPacket, hp, hi, l4Process, l4Input, hs, tcpAckDelayRest, Worker.on]

/-- The same for a client, where the call leaves nothing to the worker. -/
lemma step_clientInput {st : SocketTable n} {ws : WorkSpace} {w : Worker n} {m : Mbuf} {i : Fin n}
    (hp : ws.cfg.protocol = .tcp) (hs : ws.cfg.server = false)
    (hi : socketLookup st ws w.pool m = some i)
    (hd : (tcpClientInput ws m (w.view i)).1 = .none) :
    step st ws (.recv .tcp m) w = some (w.on i fun v => (tcpClientInput ws m v).2) := by
  simp [step, recvPacket, hp, hi, l4Process, l4Input, hs, hd, tcpAckDelayRest, Worker.on]

lemma Initial.closed {ws : WorkSpace} {w : Worker n} (h : Initial ws w) (i : Fin n) :
    (w.pool i).state = .closed := (h.pool i).closed.1

lemma Initial.slot {ws : WorkSpace} {w : Worker n} (h : Initial ws w) (i : Fin n) :
    w.slot i = ⟨w.pool i, none, []⟩ := by
  rw [Worker.slot, h.timers, Queues.place_empty, Worker.obs, h.trace]
  rfl

/-! ### Given runs -/

/-- The run of some events, each with its time. -/
def runEvents (st : SocketTable n) (ws : WorkSpace) :
    List (Clock × Event) → Worker n → Option (Worker n)
  | [], w => some w
  | (c, e) :: l, w => (step st (ws.at c) e w).bind (runEvents st ws l)

lemma runEvents_runs {st : SocketTable n} {ws : WorkSpace} {G : Guard n} :
    ∀ {l : List (Clock × Event)} {w w' : Worker n}, (∀ c e, (c, e) ∈ l → ∀ w, G (ws.at c) e w) →
      runEvents st ws l w = some w' → Runs st ws G w w' := by
  intro l
  induction l with
  | nil =>
      intro w w' _ h
      cases h
      exact .refl
  | cons a l ih =>
      intro w w' hG h
      obtain ⟨w₁, h₁, h₂⟩ := Option.bind_eq_some_iff.mp h
      have htail : Runs st ws G w₁ w' :=
        ih (fun c e he => hG c e (List.mem_cons_of_mem _ he)) h₂
      exact .head ⟨a.1, a.2, hG _ _ List.mem_cons_self w, h₁⟩ htail

/-- What the run of some events from an initial worker yields is reachable. -/
lemma reach_runEvents (st : SocketTable n) (ws : WorkSpace) (G : Guard n) {w₀ : Worker n}
    (h₀ : Initial ws w₀) (l : List (Clock × Event)) {p : Worker n → Bool}
    (hG : ∀ c e, (c, e) ∈ l → ∀ w, G (ws.at c) e w)
    (h : (runEvents st ws l w₀).any p = true) : ∃ w, Reach st ws G w ∧ p w = true := by
  obtain ⟨w, hw, hp⟩ := (Option.any_eq_true p _).mp h
  exact ⟨w, ⟨w₀, h₀, runEvents_runs hG hw⟩, hp⟩

/-- The table of one client address and port and one server address and port. -/
def SocketTable.single : SocketTable 1 where
  serverIpNum := 1
  serverIpMin := 2
  serverIpMax := 2
  serverPortNum := 1
  serverPortMin := 80
  serverPortMax := 80
  clientPortNum := 1
  clientPortMin := 1
  clientPortMax := 1
  serverIpPortNum := 1
  clientHop := false
  rss := false
  rssId := 0
  rssNum := 1
  ht low := if low = 1 then some 0 else none
  serverIp_eq := by decide
  serverPort_eq := by decide
  clientPort_eq := by decide
  serverIpPort_eq := by decide
  inPool := by
    intro low base h
    split at h
    · cases h
      decide
    · cases h
  pool_lt := by decide

/-- The worker of this table at the start of its loop, to launch one connection a turn. -/
def Worker.single (ws : WorkSpace) : Worker 1 where
  pool _ := socketInit ws 1 1 2 80 0
  launch := { launchNum := 1 }

lemma Worker.single_initial (ws : WorkSpace) : Initial ws (Worker.single ws) :=
  ⟨fun _ => ⟨1, 1, 2, 80, 0, by decide, rfl⟩, rfl, rfl, rfl, rfl, rfl⟩

/-- A packet between the two addresses: `toServer` is its direction. -/
def Mbuf.single (toServer : Bool) (flags : UInt8) (seq ack : UInt32) (data : List UInt8) : Mbuf where
  version := 4
  saddr := if toServer then 1 else 2
  daddr := if toServer then 2 else 1
  totLen := 40 + data.length.toUInt16
  ip6Plen := 0
  th :=
    { sport := if toServer then 1 else 80
      dport := if toServer then 80 else 1
      seq := seq
      ack := ack
      off := 5
      flags := flags }
  data := data

/-- A configuration of a TCP client without payload parsing. -/
def Config.single : Config where
  protocol := .tcp
  server := false
  keepalive := true
  flood := false
  http := false
  fastClose := false
  disableAck := false
  tcpRst := true
  httpMethod := .get
  pipeline := 0
  duration := 10
  retransmitTimeout := 1000
  keepaliveRequestInterval := 0
  keepaliveRequestNum := 0

/-- Its work space, with a template of three bytes; an mbuf is always found. -/
def WorkSpace.single (cfg : Config) : WorkSpace where
  cfg := cfg
  kni := false
  vxlan := false
  localIp := 0
  sendWindow := 0
  payloadSize := 0
  tcpData := ⟨[71, 69, 84], by decide⟩
  tscPerSec := 1000
  mbufAlloc _ := true
  tsc := 0
  second := 0
  stop := false

/-- A clock at the second `second`, with no stop request. -/
def Clock.single (second : UInt64) : Clock := ⟨second * 1000, second, false⟩

/-- The same for a TCP server. -/
def Config.singleServer (keepalive : Bool) : Config :=
  { Config.single with server := true, keepalive := keepalive }

/-- The work space of a server with a send window. -/
def WorkSpace.window : WorkSpace :=
  { WorkSpace.single (.singleServer true) with sendWindow := 1460, payloadSize := 9 }

/-- The handshake of a client, as a server sees it. -/
def serverHandshake : List (Clock × Event) :=
  [(.single 1, .recv .tcp (.single true thSyn 100 0 [])),
    (.single 1, .recv .tcp (.single true thAck 101 2 []))]

/-- The handshake of a client, up to its first request. -/
def clientHandshake : List (Clock × Event) :=
  [(.single 1, .launch 1),
    (.single 1, .recv .tcp (.single false (thSyn ||| thAck) 100 2 []))]

end Dperf
