import Dperf.Tcp.Input

/-!
The client's side of `tcp.c` on one socket.

* `tcpClientInput`: `tcp_client_process` once the socket is found.
* `AckDelay`: what `tcp_ack_delay_add` leaves to the worker. It may flush the delayed
  acknowledgements of other sockets, and after it the call only sets `http_ack` and
  starts the keepalive timer (`tcpAckDelayDone`).
-/

namespace Dperf

/-! ### Handshake and requests -/

/-- `net_stats_rtt`. -/
def netStatsRtt (ws : WorkSpace) (sk : Socket) (s : NetStats) : NetStats :=
  { s with rttNum := s.rttNum + 1, rttTsc := s.rttTsc + (ws.tsc - sk.timerTsc) }

/-- `tcp_client_process_syn_ack`. -/
def tcpClientProcessSynAck (ws : WorkSpace) (th : Tcphdr) (v : View) : View :=
  if v.sk.state = .synSent then
    if th.ack ≠ v.sk.sndNxt then v.count fun s => { s with tcpDrop := s.tcpDrop + 1 }
    else
      let v := v.count (netStatsRtt ws v.sk)
      let v := { v with sk.rcvNxt := th.seq + 1, sk.sndUna := th.ack, sk.state := .established }
      let v := v.log (.synAck th.seq th.ack)
      tcpReply ws (thAck ||| thPush) v
  else if v.sk.state = .established then
    -- ack lost
    let v := v.count fun s => { s with pktLost := s.pktLost + 1 }
    if th.ack = v.sk.sndNxt ∧ th.seq + 1 = v.sk.rcvNxt then
      (tcpReply ws thAck v).count fun s => { s with ackRt := s.ackRt + 1 }
    else v
  else v.count fun s => { s with tcpDrop := s.tcpDrop + 1 }

/-- `tcp_send_keepalive_request`. -/
def tcpSendKeepaliveRequest (ws : WorkSpace) (v : View) : View :=
  if workSpaceInDuration ws then
    let v := { v with sk.keepaliveRequestNum := v.sk.keepaliveRequestNum + 1 }
    let v := tcpReply ws (thAck ||| thPush) v
    if 0 < ws.cfg.keepaliveRequestNum ∧
        ws.cfg.keepaliveRequestNum ≤ (v.sk.keepaliveRequestNum.val : Int) then
      { v with sk.keepalive := false }
    else v
  else
    let v := tcpReply ws (thAck ||| thFin) { v with sk.state := .finWait1 }
    { v with sk.keepalive := false }

/-- The branch of `tcp_client_process_data` for a response that is not parsed. -/
def tcpClientResponse (ws : WorkSpace) (data : List UInt8) (dataLen : UInt16) (v : View) :
    UInt8 × View :=
  let v := v.count (httpParseResponse data dataLen)
  if v.sk.keepalive = false then (thAck ||| thFin, v)
  else if ws.cfg.keepaliveRequestInterval ≠ 0 then
    (thAck, socketStartKeepaliveTimer ws v.sk.timerTsc v)
  else (thAck, tcpSendKeepaliveRequest ws v)

/-- The end of `tcp_client_process_data`, from `tcp_process_fin` on. -/
def tcpClientAnswer (ws : WorkSpace) (rxFlags txFlags : UInt8) (v : View) : View :=
  let r := tcpFinFlags rxFlags txFlags v
  if r.1 ≠ 0 then
    -- delay ack
    if hasFlag rxFlags thFin ∨ r.1 ≠ thAck ∨ r.2.sk.keepalive = false ∨
        (r.2.sk.keepalive = true ∧
          ws.cfg.retransmitTimeout ≤ ws.cfg.keepaliveRequestInterval ∧ ws.cfg.disableAck = false) then
      tcpReply ws r.1 r.2
    else r.2
  else r.2

/-- The `fast_close` branch of `tcp_client_process_data`. -/
def tcpFastClose (ws : WorkSpace) (v : View) : View := socketClose (tcpReply ws (thRst ||| thAck) v)

/-! ### Delayed acknowledgements -/

/-- What `tcp_ack_delay_add` leaves to the worker: nothing, or to list the socket, and then
to start its keepalive timer if the flag says so. -/
inductive AckDelay where
  | none | add (keepaliveTimer : Bool)
  deriving DecidableEq, Repr

/-- The test of `tcp_ack_delay_add`: a socket with `http_ack` is listed already. -/
def tcpAckDelayAdd (sk : Socket) : AckDelay := if sk.httpAck then .none else .add false

/-- The rest of `tcp_ack_delay_add` once the list has room, and of the call that made it. -/
def tcpAckDelayDone (ws : WorkSpace) (keepaliveTimer : Bool) (v : View) : View :=
  let v := { v with sk.httpAck := true }
  if keepaliveTimer then socketStartKeepaliveTimer ws ws.tsc v else v

/-- One delayed acknowledgement, the body of the loop of `tcp_ack_delay_flush`. -/
def tcpAckDelayFlushOne (ws : WorkSpace) (v : View) : View :=
  if v.sk.httpAck then
    let v := { v with sk.httpAck := false }
    if v.sk.state = .established then tcpReply ws thAck v else v
  else v

/-! ### Data -/

/-- `http_client_process_data`: the flags to answer with, and what is left to the worker. -/
def httpClientProcessData (ws : WorkSpace) (rxFlags : UInt8) (data : List UInt8)
    (dataLen : UInt16) (v : View) : UInt8 × AckDelay × View :=
  let r := httpParseRun data dataLen v
  let v := r.2
  match r.1 with
  | .ok =>
      let v := if v.sk.httpFrags < 4 then { v with sk.httpFrags := v.sk.httpFrags + 1 } else v
      if hasFlag rxFlags thFin = false then (0, tcpAckDelayAdd v.sk, v) else (thAck, .none, v)
  | .done =>
      let httpFrags := v.sk.httpFrags
      let v := { v with sk := socketInitHttp v.sk }
      if v.sk.keepalive ∧ hasFlag rxFlags thFin = false then
        -- 3 http fragments are not acked, or each is to be acked quickly
        if 2 ≤ httpFrags ∨
            (ws.cfg.retransmitTimeout ≤ ws.cfg.keepaliveRequestInterval ∧
              ws.cfg.disableAck = false) then
          (0, .add true, v)
        else (0, .none, socketStartKeepaliveTimer ws ws.tsc v)
      else (thAck ||| thFin, .none, { v with sk.httpAck := false })
  | .err =>
      let v := { v with sk := { socketInitHttp v.sk with keepalive := false, httpLength := 0 } }
      (thAck ||| thFin, .none, v.count fun s => { s with httpError := s.httpError + 1 })

/-- `tcp_client_process_data` after the acceptance test. -/
def tcpClientAccepted (ws : WorkSpace) (th : Tcphdr) (data : List UInt8) (dataLen : UInt16)
    (v : View) : AckDelay × View :=
  let v := v.log (.accepted th.seq th.ack (acceptedLen th dataLen))
  if v.sk.state = .established then
    let t :=
      if dataLen ≠ 0 then
        if ws.cfg.http then httpClientProcessData ws th.flags data dataLen v
        else
          let r := tcpClientResponse ws data dataLen v
          (r.1, .none, r.2)
      else (0, .none, v)
    if hasFlag t.1 thFin && ws.cfg.fastClose then (t.2.1, tcpFastClose ws t.2.2)
    else (t.2.1, tcpClientAnswer ws th.flags t.1 t.2.2)
  else (.none, tcpClientAnswer ws th.flags 0 v)

/-- `tcp_client_process_data`. -/
def tcpClientProcessData (ws : WorkSpace) (m : Mbuf) (v : View) : AckDelay × View :=
  let d := tcpDataGet m
  let r := tcpCheckSequence ws m.th d.2 v
  if r.1 = false then (.none, r.2.count fun s => { s with tcpDrop := s.tcpDrop + 1 })
  else tcpClientAccepted ws m.th d.1 d.2 r.2

/-- `tcp_client_process` on the socket that the lookup found. -/
def tcpClientInput (ws : WorkSpace) (m : Mbuf) (v : View) : AckDelay × View :=
  let flags := m.th.flags
  let v := v.count (tcpFlagsRxCount flags)
  if hasFlag flags (thSyn ||| thRst) = false ∧ hasFlag flags thAck then
    tcpClientProcessData ws m v
  else if flags = thSyn ||| thAck then (.none, tcpClientProcessSynAck ws m.th v)
  else if hasFlag flags thRst then (.none, tcpProcessRst v)
  else (.none, v.count fun s => { s with tcpDrop := s.tcpDrop + 1 })

/-! ### Timer and launch -/

/-- `tcp_do_keepalive`. -/
def tcpDoKeepalive (ws : WorkSpace) (v : View) : View :=
  if v.sk.sndNxt ≠ v.sk.sndUna ∨ v.sk.state ≠ .established ∨ v.sk.keepalive = false then
    if ws.cfg.flood then
      if workSpaceInDuration ws then
        let v := tcpReply ws thSyn v
        let v := { v with sk.sndUna := v.sk.sndNxt }
        socketStartKeepaliveTimer ws ws.tsc v
      else socketClose v
    else if v.sk.keepalive = false ∧ v.sk.state = .established then
      tcpReply ws (thAck ||| thFin) { v with sk.state := .finWait1 }
    else v
  else if ws.cfg.server = false then tcpSendKeepaliveRequest ws v
  else v

/-- What `tcp_client_launch` does with a socket that `socket_client_open` opened. -/
def tcpClientStart (ws : WorkSpace) (v : View) : View :=
  let v := tcpReply ws thSyn v
  if ws.cfg.flood then
    if v.sk.keepalive then
      let v := { v with sk.sndUna := v.sk.sndNxt }
      socketStartKeepaliveTimer ws ws.tsc v
    else socketClose v
  else v

/-! ### What is left to the worker -/

/-- What is left to the worker comes without an answer, and without a `FIN` of the peer. -/
lemma httpClientProcessData_add {ws : WorkSpace} {rx : UInt8} {data : List UInt8}
    {dataLen : UInt16} {v : View} (h : (httpClientProcessData ws rx data dataLen v).2.1 ≠ .none) :
    (httpClientProcessData ws rx data dataLen v).1 = 0 ∧ hasFlag rx thFin = false ∧
      (httpClientProcessData ws rx data dataLen v).2.2.sk.state = v.sk.state := by
  obtain ⟨_, _, _, _, -, hsk⟩ := httpParseRun_httpOnly data dataLen v
  have hst : (httpParseRun data dataLen v).2.sk.state = v.sk.state := by rw [hsk]
  rw [httpClientProcessData] at h ⊢
  dsimp only at h ⊢
  generalize httpParseRun data dataLen v = r at hst h ⊢
  cases hr : r.1 with
  | ok =>
      rw [hr] at h
      dsimp only at h ⊢
      by_cases hfin : hasFlag rx thFin = false
      · rw [if_pos hfin] at h ⊢
        refine ⟨rfl, hfin, ?_⟩
        split_ifs <;> exact hst
      · rw [if_neg hfin] at h
        exact absurd rfl h
  | done =>
      rw [hr] at h
      dsimp only at h ⊢
      split_ifs at h ⊢ with hkeep hfrags
      · exact ⟨rfl, hkeep.2, hst⟩
      · exact absurd rfl h
      · exact absurd rfl h
  | err =>
      rw [hr] at h
      exact absurd rfl h

/-- The same of the end of the call. -/
lemma tcpClientAccepted_add {ws : WorkSpace} {th : Tcphdr} {data : List UInt8} {dataLen : UInt16}
    {v : View} (h : (tcpClientAccepted ws th data dataLen v).1 ≠ .none) :
    (tcpClientAccepted ws th data dataLen v).2.sk.state = .established := by
  have hdone : ∀ (d : AckDelay) (u u' : View) (p : Prop) [Decidable p],
      (if p then (d, u) else (d, u')).1 = d := by
    intro d u u' p hp
    split_ifs <;> rfl
  rw [tcpClientAccepted] at h ⊢
  dsimp only at h ⊢
  generalize hv : v.log (.accepted th.seq th.ack (acceptedLen th dataLen)) = u at h ⊢
  by_cases he : u.sk.state = .established
  · rw [if_pos he, hdone] at h
    rw [if_pos he]
    by_cases hparse : dataLen ≠ 0 ∧ ws.cfg.http = true
    · rw [if_pos hparse.1, if_pos hparse.2] at h ⊢
      obtain ⟨h0, hfin, hkept⟩ := httpClientProcessData_add h
      generalize httpClientProcessData ws th.flags data dataLen u = r at h0 hkept ⊢
      have hopen : ¬ (hasFlag 0 thFin && ws.cfg.fastClose) = true := Bool.false_ne_true
      have hlt : ¬ SkState.established < r.2.2.sk.state := by
        rw [hkept, he]
        decide
      have hflag : ¬ hasFlag (th.flags ||| 0) thFin = true := by
        rw [hasFlag_or, hfin]
        exact Bool.false_ne_true
      have hnone : ¬ (0 : UInt8) ≠ 0 := not_not.mpr rfl
      rw [h0, if_neg hopen, tcpClientAnswer, tcpFinFlags, if_neg (not_or.mpr ⟨hlt, hflag⟩)]
      dsimp only
      rw [if_neg hnone, hkept, he]
    · -- nothing is left without the parser
      split_ifs at h with hd hh
      · exact absurd ⟨hd, hh⟩ hparse
      · exact absurd rfl h
      · exact absurd rfl h
  · rw [if_neg he] at h
    exact absurd rfl h

/-- What is left to the worker is left by an open connection. -/
lemma tcpClientInput_add {ws : WorkSpace} {m : Mbuf} {v : View}
    (h : (tcpClientInput ws m v).1 ≠ .none) :
    (tcpClientInput ws m v).2.sk.state = .established := by
  rw [tcpClientInput] at h ⊢
  split_ifs at h ⊢ with hf hsyn hrst
  · rw [tcpClientProcessData] at h ⊢
    split_ifs at h ⊢ with hr
    · exact absurd rfl h
    · exact tcpClientAccepted_add h
  · exact absurd rfl h
  · exact absurd rfl h
  · exact absurd rfl h

end Dperf
