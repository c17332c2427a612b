import Dperf.Basic
import Dperf.Lib.Queues

/-!
`socket_timer.h` and the list operations of `socket.h`: the functions of one socket.
The loop over a queue, `socket_timer_run`, follows in `Worker`.

* `socketAccurateTimerTsc`: the re-arm time of the keepalive timer, with the 64-bit
  wrap of the C sums.
* `Timers`, `Timers.relink`: the three queues of a worker, and how the place that one
  call gives its node (`View.link`) changes them; `place_relink_self` and
  `place_relink_ne` say where every socket is afterwards.
-/

namespace Dperf

/-! ### The node of a socket -/

/-- `socket_node_del`: a node linked to itself is left alone, so the result is the
same in both cases. -/
def socketNodeDel (v : View) : View := { v with link := .self }

/-- `socket_queue_del`. -/
def socketQueueDel (v : View) : View := socketNodeDel v

/-- `socket_queue_push`. -/
def socketQueuePush (q : TimerKind) (v : View) : View := { v with link := .tail q }

/-- `socket_del_timer`. -/
def socketDelTimer (v : View) : View := socketQueueDel v

/-- `socket_add_timer`. -/
def socketAddTimer (head : TimerKind) (nowTsc : UInt64) (v : View) : View :=
  socketQueuePush head (socketQueueDel { v with sk.timerTsc := nowTsc })

/-- `socket_start_timeout_timer`. -/
def socketStartTimeoutTimer (nowTsc : UInt64) (v : View) : View :=
  socketAddTimer .timeout nowTsc v

/-- `socket_accurate_timer_tsc`. -/
def socketAccurateTimerTsc (interval : UInt64) (sk : Socket) (nowTsc : UInt64) : UInt64 :=
  if nowTsc ≤ sk.timerTsc + interval then sk.timerTsc
  else if nowTsc ≤ sk.timerTsc + 2 * interval then sk.timerTsc + interval
  else if nowTsc ≤ sk.timerTsc + 3 * interval then sk.timerTsc + 2 * interval
  -- the gap is too large: trigger immediate sending
  else if interval < nowTsc then nowTsc - interval else nowTsc

/-- `socket_start_keepalive_timer`. -/
def socketStartKeepaliveTimer (ws : WorkSpace) (nowTsc : UInt64) (v : View) : View :=
  if v.sk.keepalive && decide (v.sk.sndNxt = v.sk.sndUna) then
    socketAddTimer .keepalive
      (socketAccurateTimerTsc ws.cfg.keepaliveRequestInterval v.sk nowTsc) v
  else v

/-- `socket_start_retransmit_timer_force`. -/
def socketStartRetransmitTimerForce (nowTsc : UInt64) (v : View) : View :=
  socketAddTimer .retransmit nowTsc v

/-- `socket_start_retransmit_timer`. -/
def socketStartRetransmitTimer (nowTsc : UInt64) (v : View) : View :=
  if v.sk.sndNxt ≠ v.sk.sndUna then socketStartRetransmitTimerForce nowTsc v else v

/-- `socket_stop_retransmit_timer`. -/
def socketStopRetransmitTimer (v : View) : View :=
  let v := { v with sk.retrans := 0 }
  if v.sk.sndNxt = v.sk.sndUna then socketDelTimer v else v

/-! ### Opening and closing -/

/-- `net_stats_socket_open`. -/
def netStatsSocketOpen (s : NetStats) : NetStats :=
  { s with socketOpen := s.socketOpen + 1, socketCurrent := s.socketCurrent + 1 }

/-- `net_stats_socket_close`. -/
def netStatsSocketClose (s : NetStats) : NetStats :=
  { s with socketClose := s.socketClose + 1, socketCurrent := s.socketCurrent - 1 }

/-- `net_stats_socket_error`. -/
def netStatsSocketError (s : NetStats) : NetStats :=
  { s with socketError := s.socketError + 1 }

/-- `socket_close`. -/
def socketClose (v : View) : View :=
  if v.sk.state ≠ .closed then
    let v := v.log (.closed v.stats.socketCurrent)
    (socketNodeDel { v with sk.state := .closed }).count netStatsSocketClose
  else v

lemma socketClose_closed (v : View) : (socketClose v).sk.state = .closed := by
  rw [socketClose]
  split_ifs with h
  · rfl
  · exact not_not.mp h

/-- `socket_init_http`. -/
def socketInitHttp (sk : Socket) : Socket :=
  { sk with httpLength := 0, httpParseState := .init, httpFlags := 0, httpAck := false,
            httpFrags := 0 }

/-- `socket_init_http_server`. -/
def socketInitHttpServer (payloadSize : UInt32) (sk : Socket) : Socket :=
  { sk with httpLength := 0, httpParseState := .init, httpFlags := 0, httpAck := false,
            sndMax := sk.sndNxt + payloadSize }

/-- `socket_server_open`. -/
def socketServerOpen (th : Tcphdr) (v : View) : View :=
  let v := if v.sk.state ≠ .synReceived then
      ({ v with sk.state := .synReceived }).count netStatsSocketOpen
    else v
  let v := socketNodeDel v
  let sk := v.sk
  let v := { v with sk := { sk with
    retrans := 0
    keepaliveRequestNum := 0
    sndNxt := sk.sndNxt + 1
    sndUna := sk.sndNxt + 1
    sndWindow := 1
    rcvNxt := th.seq + 1 } }
  v.log (.opened v.sk.sndNxt v.sk.rcvNxt)

lemma socketServerOpen_state (th : Tcphdr) (v : View) :
    (socketServerOpen th v).sk.state = .synReceived := by
  rw [socketServerOpen]
  dsimp only
  split_ifs with h
  · rfl
  · exact not_not.mp h

/-- What `socket_client_open` does with a closed socket. -/
def socketClientOpened (ws : WorkSpace) (nowTsc : UInt64) (v : View) : View :=
  let sk := v.sk
  let v := { v with sk := { sk with
    timerTsc := nowTsc
    retrans := 0
    keepaliveRequestNum := 0
    keepalive := ws.cfg.keepalive
    sndNxt := sk.sndNxt + 1
    sndUna := sk.sndNxt + 1
    rcvNxt := 0
    state := .synSent } }
  let v := (v.count netStatsSocketOpen).log (.opened v.sk.sndNxt v.sk.rcvNxt)
  { v with sk := socketInitHttp v.sk }

/-- The part of `socket_client_open` that works on the socket it picked: the socket is
opened if it is closed, and the first component says whether it was. -/
def socketClientOpen (ws : WorkSpace) (nowTsc : UInt64) (v : View) : Bool × View :=
  if v.sk.state = .closed then (true, socketClientOpened ws nowTsc v) else (false, v)

/-- `socket_timeout_handler`. -/
def socketTimeoutHandler (v : View) : View := socketClose (v.count netStatsSocketError)

/-! ### The queues of a worker -/

/-- The retransmit, keepalive and timeout queue of a worker with sockets `ι`. -/
abbrev Timers (ι : Type) := Queues TimerKind ι

/-- The queues after a call on the socket `i` that left its node at `l`. -/
def Timers.relink {ι : Type} [DecidableEq ι] (i : ι) (l : Link) (t : Timers ι) : Timers ι :=
  match l with
  | .kept => t
  | .self => t.remove i
  | .tail q => t.enqueue q i

section Relink

variable {ι : Type} [DecidableEq ι] {i j : ι} {t : Timers ι} {q k : TimerKind}

@[simp] lemma relink_kept : Timers.relink i .kept t = t := rfl

lemma mem_relink_self : i ∉ (Timers.relink i .self t).list k := by
  simp [Timers.relink]

lemma mem_relink_tail : i ∈ (Timers.relink i (.tail q) t).list k ↔ k = q :=
  Queues.mem_enqueue_self

/-- A call on one socket leaves every other socket where it is. -/
lemma mem_relink_ne (h : j ≠ i) (l : Link) :
    j ∈ (Timers.relink i l t).list k ↔ j ∈ t.list k := by
  cases l with
  | kept => rfl
  | self => simp [Timers.relink, h]
  | tail q => exact Queues.mem_enqueue_ne h

/-- Where a call that left its node at `l` leaves a socket that was in the queue `p`. -/
def Link.after (l : Link) (p : Option TimerKind) : Option TimerKind :=
  match l with
  | .kept => p
  | .self => none
  | .tail q => some q

lemma place_relink_self (l : Link) : (Timers.relink i l t).place i = l.after (t.place i) := by
  cases l with
  | kept => rfl
  | self => exact Queues.place_eq_none.mpr fun _ => mem_relink_self
  | tail q => exact Queues.place_eq_some.mpr (mem_relink_tail.mpr rfl)

lemma place_relink_ne (h : j ≠ i) (l : Link) : (Timers.relink i l t).place j = t.place j :=
  Queues.place_congr fun _ => mem_relink_ne h l

/-- A relation along a queue after a call on the socket `i`, which may have changed what the
relation says of it. -/
lemma pairwise_relink {R R' : ι → ι → Prop} {l : Link} (h : (t.list k).Pairwise R)
    (hne : ∀ a b, a ≠ i → b ≠ i → R a b → R' a b)
    (hkept : l = .kept → i ∈ t.list k → ∀ a b, R a b → R' a b)
    (htail : l = .tail k → ∀ j ∈ t.list k, j ≠ i → R' j i) :
    ((Timers.relink i l t).list k).Pairwise R' := by
  cases l with
  | kept =>
      rw [relink_kept]
      by_cases hi : i ∈ t.list k
      · exact h.imp (hkept rfl hi _ _)
      · refine h.imp_of_mem fun {a b} ha hb => hne a b ?_ ?_
        · exact ne_of_mem_of_not_mem ha hi
        · exact ne_of_mem_of_not_mem hb hi
  | self => exact Queues.pairwise_remove h hne
  | tail q => exact Queues.pairwise_enqueue h hne fun hk => htail (by rw [hk])

end Relink

end Dperf
