import Dperf.SocketTimer
import Dperf.Tcp.Reply

/-!
`udp.c` on one socket: sending, the client's input, and the two timer handlers. A UDP
socket borrows the TCP states: `synSent` after a request, `synReceived` after a response.
-/

namespace Dperf

/-- `udp_send`, `udp_new_packet` included. -/
def udpSend (ws : WorkSpace) (v : View) : View :=
  let a := mbufCacheAlloc ws v
  let v := a.2
  if a.1 then
    (v.count fun s => { s with udpTx := s.udpTx + 1 }).log
      (.datagram v.sk.lport v.sk.fport v.sk.laddr v.sk.faddr)
  else v

/-- `n` turns of a `do { } while` loop that sends. -/
def udpRepeat (send : View → View) : ℕ → View → View
  | 0, v => v
  | n + 1, v => udpRepeat send n (send v)

/-- `udp_retransmit_handler`. -/
def udpRetransmitHandler (v : View) : View :=
  -- rss auto: this socket is closed by another worker
  let v := if v.sk.laddr ≠ 0 then v.count fun s => { s with udpRt := s.udpRt + 1 } else v
  socketClose v

/-- `udp_send_request`. -/
def udpSendRequest (ws : WorkSpace) (v : View) : View :=
  udpSend ws { v with sk.state := .synSent
                      sk.keepaliveRequestNum := v.sk.keepaliveRequestNum + 1 }

lemma udpSend_sk (ws : WorkSpace) (v : View) : (udpSend ws v).sk = v.sk := by
  rw [udpSend, mbufCacheAlloc]
  dsimp only
  split_ifs <;> rfl

lemma udpSendRequest_state (ws : WorkSpace) (v : View) :
    (udpSendRequest ws v).sk.state = .synSent := by
  rw [udpSendRequest, udpSend_sk]

/-- The turns of a `do { pipeline--; } while (pipeline > 0)` loop. -/
def pipelineTurns (pipeline : Int) : ℕ := max 1 pipeline.toNat

/-- `udp_socket_keepalive_timer_handler`. -/
def udpSocketKeepaliveTimerHandler (ws : WorkSpace) (v : View) : View :=
  if workSpaceInDuration ws then
    -- rss auto: this socket is closed by another worker
    if v.sk.laddr = 0 then socketClose v
    else
      -- if not flood mode, let's check packet loss
      let v :=
        if ws.cfg.flood = false ∧ v.sk.state = .synSent then
          v.count fun s => { s with udpRt := s.udpRt + 1 }
        else v
      let v := udpRepeat (udpSendRequest ws) (pipelineTurns ws.cfg.pipeline.toNat) v
      if ws.cfg.keepaliveRequestInterval ≠ 0 then socketStartKeepaliveTimer ws ws.tsc v else v
  else v

/-- `udp_client_process` on the socket that the lookup found. -/
def udpClientInput (ws : WorkSpace) (v : View) : View :=
  if v.sk.state ≠ .closed then
    let v := { v with sk.state := .synReceived }
    if v.sk.keepalive = false then
      socketClose (v.count fun s =>
        { s with rttNum := s.rttNum + 1, rttTsc := s.rttTsc + (ws.tsc - v.sk.timerTsc) })
    else if ws.cfg.keepaliveRequestInterval = 0 ∧ ws.stop = false then udpSendRequest ws v
    else v
  else v.count fun s => { s with udpDrop := s.udpDrop + 1 }

/-- What `udp_client_launch` does with a socket that `socket_client_open` opened, `turns`
being the turns of its send loop. -/
def udpClientStart (ws : WorkSpace) (turns : ℕ) (v : View) : View :=
  let v := udpRepeat (udpSend ws) turns v
  if v.sk.keepalive then
    -- for rtt calculation
    if ws.cfg.keepaliveRequestInterval ≠ 0 then socketStartKeepaliveTimer ws ws.tsc v else v
  else if ws.cfg.flood then socketClose v
  else socketStartRetransmitTimerForce ws.tsc v

end Dperf
