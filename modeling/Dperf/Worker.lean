import Dperf.SocketTable
import Dperf.Tcp.Client
import Dperf.Tcp.Server
import Dperf.Udp

/-!
One worker: the part of `struct work_space` and of the per-thread globals that its event
loop changes, and the functions of the source that work on more than one socket.

* `Worker.on`: call a function of one socket; the worker takes over what it did.
* `socketTimerRun`: the loop of `socket_timer.h`, with a bound on its turns; nothing comes
  back where the bound is reached first.
* `recvPacket`, `clientLaunch`, `socketTimerProcess`, `socketTimeoutTimerExpire`,
  `tcpAckDelayFlush`: the work of `client_loop` and `server_loop`, for the functions that
  `tcp_init` and `udp_init` pass to them.
-/

namespace Dperf

/-- What a worker does that can be told from outside: something on one of its sockets, a
reset in answer to a packet without a socket, a packet given to the kernel. -/
inductive Out (ι : Type) where
  | sk (i : ι) (o : Obs)
  | rst (seg : Segment)
  | kni (m : Mbuf)
  deriving DecidableEq

/-- `struct client_launch`. -/
structure ClientLaunch where
  cc : UInt64 := 0
  launchNext : UInt64 := 0
  launchInterval : UInt64 := 0
  launchIntervalDefault : UInt64 := 0
  launchReduce : UInt64 := 0
  launchNum : UInt32 := 0
  deriving DecidableEq, Inhabited

/-- The state of a worker with `n` sockets: the pool and its cursor `socket_pool.next`, the
timer queues, `g_net_stats`, the sockets listed in `ack_delay`, `client_launch`. -/
structure Worker (n : ℕ) where
  pool : Fin n → Socket
  timers : Timers (Fin n) := Queues.empty _ _
  stats : NetStats := {}
  trace : List (Out (Fin n)) := []
  allocs : ℕ := 0
  ackDelay : List (Fin n) := []
  next : UInt32 := 0
  launch : ClientLaunch := {}

namespace Worker

variable {n : ℕ}

/-! ### Calls on one socket -/

/-- What a function called on the socket `i` finds. -/
def view (w : Worker n) (i : Fin n) : View :=
  { sk := w.pool i, stats := w.stats, allocs := w.allocs }

/-- The worker after a call on the socket `i`. -/
def put (w : Worker n) (i : Fin n) (v : View) : Worker n :=
  { w with
    pool := Function.update w.pool i v.sk
    timers := w.timers.relink i v.link
    stats := v.stats
    trace := w.trace ++ v.trace.map (.sk i)
    allocs := v.allocs }

/-- Call a function on the socket `i`. -/
def on (w : Worker n) (i : Fin n) (f : View → View) : Worker n := w.put i (f (w.view i))

/-- A counter update. -/
def count (w : Worker n) (f : NetStats → NetStats) : Worker n := { w with stats := f w.stats }

/-- Append to the trace. -/
def log (w : Worker n) (o : Out (Fin n)) : Worker n := { w with trace := w.trace ++ [o] }

end Worker

variable {n : ℕ}

/-! ### Timers -/

/-- `socket_timer_run`, with a bound on the tests of its loop: the sockets the handler was
called on, and the worker. -/
def socketTimerRun (ws : WorkSpace) (q : TimerKind) (timeout : UInt64) (handler : View → View) :
    ℕ → Worker n → Option (List (Fin n) × Worker n)
  | 0, _ => none
  | fuel + 1, w =>
      match w.timers.list q with
      | [] => some ([], w)
      | i :: _ =>
          if (w.pool i).timerTsc + timeout ≤ ws.tsc then
            (socketTimerRun ws q timeout handler fuel
              (w.on i fun v => handler (socketDelTimer v))).map fun r => (i :: r.1, r.2)
          else some ([], w)

/-- `socket_timer_process` of the four run loops: `tcp_server_socket_timer_process`,
`tcp_client_socket_timer_process` and their UDP twins. -/
def socketTimerProcess (ws : WorkSpace) (fuel : ℕ) (w : Worker n) : Option (Worker n) :=
  let rto := ws.cfg.retransmitTimeout
  let interval := ws.cfg.keepaliveRequestInterval
  match ws.cfg.protocol, ws.cfg.server with
  | .tcp, true =>
      -- the server delays sending to avoid simultaneous retransmission
      (socketTimerRun ws .retransmit (rto + rto / 10) (tcpDoRetransmit ws) fuel w).map Prod.snd
  | .tcp, false =>
      (socketTimerRun ws .retransmit rto (tcpDoRetransmit ws) fuel w).bind fun r =>
        if ws.cfg.keepalive then
          (socketTimerRun ws .keepalive interval (tcpDoKeepalive ws) fuel r.2).map Prod.snd
        else some r.2
  | .udp, true => some w
  | .udp, false =>
      if ws.cfg.keepalive then
        (socketTimerRun ws .keepalive interval (udpSocketKeepaliveTimerHandler ws) fuel w).map
          Prod.snd
      else (socketTimerRun ws .retransmit rto udpRetransmitHandler fuel w).map Prod.snd

/-- `socket_timeout_timer_expire`. -/
def socketTimeoutTimerExpire (ws : WorkSpace) (fuel : ℕ) (w : Worker n) : Option (Worker n) :=
  let timeoutTsc :=
    ws.cfg.retransmitTimeout * retransmitNumMax.toUInt64 + ws.cfg.keepaliveRequestInterval
  (socketTimerRun ws .timeout timeoutTsc socketTimeoutHandler fuel w).map Prod.snd

/-! ### Delayed acknowledgements -/

/-- `tcp_ack_delay_flush`. -/
def tcpAckDelayFlush (ws : WorkSpace) (w : Worker n) : Worker n :=
  { w.ackDelay.foldl (fun w i => w.on i (tcpAckDelayFlushOne ws)) w with ackDelay := [] }

/-- The rest of a call that ended in `tcp_ack_delay_add`. -/
def tcpAckDelayRest (ws : WorkSpace) (i : Fin n) (d : AckDelay) (w : Worker n) : Worker n :=
  match d with
  | .none => w
  | .add keepaliveTimer =>
      let w := if tcpAckDelayMax ≤ w.ackDelay.length then tcpAckDelayFlush ws w else w
      { w with ackDelay := w.ackDelay ++ [i] }.on i (tcpAckDelayDone ws keepaliveTimer)

/-! ### Packets -/

/-- `tcp_rst_set_ip` and `tcp_rst_set_tcp`: the reset in answer to a packet. -/
def tcpRstSegment (m : Mbuf) : Segment :=
  let seq := m.th.seq
  let seq := if hasFlag m.th.flags thSyn then seq + 1 else seq
  let seq := if hasFlag m.th.flags thFin then seq + 1 else seq
  { saddr := m.daddr, daddr := m.saddr, sport := m.th.dport, dport := m.th.sport
    flags := thRst ||| thAck, seq := 0, ack := seq, data := [] }

/-- `tcp_reply_rst`. -/
def tcpReplyRst (ws : WorkSpace) (m : Mbuf) (w : Worker n) : Worker n :=
  -- not support rst yet
  if ws.vxlan then w.count fun s => { s with tcpDrop := s.tcpDrop + 1 }
  else (w.count fun s => { s with rstTx := s.rstTx + 1 }).log (.rst (tcpRstSegment m))

/-- `tcp_drop` or `udp_drop`. -/
def l4Drop (ws : WorkSpace) (p : Protocol) (m : Mbuf) (w : Worker n) : Worker n :=
  if ws.kni && m.daddr == ws.localIp then w.log (.kni m)
  else
    match p with
    | .tcp => w.count fun s => { s with tcpDrop := s.tcpDrop + 1 }
    | .udp => w.count fun s => { s with udpDrop := s.udpDrop + 1 }

/-- What the process functions do with a packet for which there is no socket. -/
def noSocket (ws : WorkSpace) (m : Mbuf) (w : Worker n) : Worker n :=
  if ws.kni && m.daddr == ws.localIp then w.log (.kni m)
  else
    match ws.cfg.protocol with
    | .tcp =>
        if ws.cfg.tcpRst then tcpReplyRst ws m w
        else w.count fun s => { s with tcpDrop := s.tcpDrop + 1 }
    | .udp => w.count fun s => { s with udpDrop := s.udpDrop + 1 }

/-- The process function of the run loop, once the socket is found: `tcp_server_process`,
`tcp_client_process`, `udp_server_process` or `udp_client_process`. -/
def l4Input (ws : WorkSpace) (m : Mbuf) (v : View) : AckDelay × View :=
  match ws.cfg.protocol, ws.cfg.server with
  | .tcp, true => (.none, tcpServerInput ws m v)
  | .tcp, false => tcpClientInput ws m v
  | .udp, true => (.none, udpSend ws v)
  | .udp, false => (.none, udpClientInput ws v)

/-- The process function of the run loop, with the socket that the lookup found. -/
def l4Process (ws : WorkSpace) (m : Mbuf) (found : Option (Fin n)) (w : Worker n) : Worker n :=
  match found with
  | none => noSocket ws m w
  | some i =>
      let r := l4Input ws m (w.view i)
      tcpAckDelayRest ws i r.1 (w.put i r.2)

/-- The lookup of the process function; a client's without the RSS check. -/
def socketLookup (st : SocketTable n) (ws : WorkSpace) (pool : Fin n → Socket) (m : Mbuf) :
    Option (Fin n) :=
  if ws.cfg.server then socketServerLookup st pool m else socketClientLookup st pool m

/-- A TCP or UDP packet handed over by `ipv4_input`, `ipv6_input` or `vxlan_input`. -/
def recvPacket (st : SocketTable n) (ws : WorkSpace) (p : Protocol) (m : Mbuf) (w : Worker n) :
    Worker n :=
  if p = ws.cfg.protocol then l4Process ws m (socketLookup st ws w.pool m) w
  else l4Drop ws p m w

/-! ### Launches -/

/-- `socket_disable_keepalive_random`. -/
def socketDisableKeepaliveRandom (w : Worker n) : Worker n :=
  match w.timers.list .keepalive with
  | [] => w
  | i :: _ => w.on i fun v => { v with sk.keepalive := false }

/-- `work_space_client_launch_num`. -/
def workSpaceClientLaunchNum (st : SocketTable n) (ws : WorkSpace) (w : Worker n) :
    UInt64 × Worker n :=
  let launchNum := w.launch.launchNum.toUInt64
  let cc := w.launch.cc
  if w.launch.launchNext ≤ ws.tsc then
    let w := { w with launch.launchNext := w.launch.launchNext + w.launch.launchInterval }
    if 0 < cc then
      if w.stats.socketCurrent < cc then
        let gap := cc - w.stats.socketCurrent
        (if gap < launchNum then gap else launchNum, w)
      else if w.stats.socketCurrent = cc then (0, w)
      else if st.rss && w.launch.launchReduce != ws.second then
        (0, { socketDisableKeepaliveRandom w with
                launch := { w.launch with launchReduce := ws.second } })
      else (0, w)
    else (launchNum, w)
  else (0, w)

/-- One turn of the launch loops: `socket_client_open`, and what is done with a socket it
opened. The flag says whether it did. -/
def clientLaunchOne (st : SocketTable n) (ws : WorkSpace) (fuel : ℕ) (start : View → View)
    (w : Worker n) : Option (Bool × Worker n) :=
  (socketTableGetSocket st w.pool fuel w.next).map fun p =>
    let w := { w with next := p.2 }
    ((socketClientOpen ws ws.tsc (w.view p.1)).1,
      w.on p.1 fun v =>
        let r := socketClientOpen ws ws.tsc v
        if r.1 then start r.2 else r.2)

/-- The loop of `tcp_client_launch`. -/
def tcpClientLaunch (st : SocketTable n) (ws : WorkSpace) (fuel : ℕ) :
    ℕ → Worker n → Option (Worker n)
  | 0, w => some w
  | num + 1, w =>
      (clientLaunchOne st ws fuel (tcpClientStart ws) w).bind fun r =>
        tcpClientLaunch st ws fuel num r.2

/-- The loop of `udp_client_launch`: `pipeline` counts down across all its turns. -/
def udpClientLaunch (st : SocketTable n) (ws : WorkSpace) (fuel : ℕ) :
    ℕ → Int → Worker n → Option (Worker n)
  | 0, _, w => some w
  | num + 1, pipeline, w =>
      let turns := pipelineTurns pipeline
      (clientLaunchOne st ws fuel (udpClientStart ws turns) w).bind fun r =>
        udpClientLaunch st ws fuel num (if r.1 then pipeline - turns else pipeline) r.2

/-- `tcp_client_launch` or `udp_client_launch`. -/
def clientLaunch (st : SocketTable n) (ws : WorkSpace) (fuel : ℕ) (w : Worker n) :
    Option (Worker n) :=
  let r := workSpaceClientLaunchNum st ws w
  match ws.cfg.protocol with
  | .tcp => tcpClientLaunch st ws fuel r.1.toNat r.2
  | .udp => udpClientLaunch st ws fuel r.1.toNat ws.cfg.pipeline.toNat r.2

/-! ### Control -/

/-- `work_space_set_launch_interval` on one worker. -/
def workSpaceSetLaunchInterval (ws : WorkSpace) (launchInterval : UInt64) (w : Worker n) :
    Worker n :=
  let interval := if ws.tscPerSec ≤ launchInterval then ws.tscPerSec else launchInterval
  let interval :=
    if interval ≤ w.launch.launchIntervalDefault then w.launch.launchIntervalDefault else interval
  { w with launch.launchInterval := interval }

/-- `work_space_stop_all` on one worker; the flag it sets is read from the clock. -/
def workSpaceStop (w : Worker n) : Worker n := { w with launch.launchNum := 0 }

end Dperf
