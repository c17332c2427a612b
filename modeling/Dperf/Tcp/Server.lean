import Dperf.Tcp.Input

/-!
The server's side of `tcp.c` on one socket.

* `tcpReplyMore`: the burst of a large response; the `while` loop is bounded by
  `snd_window`, which it does not change.
* `tcpServerInput`: `tcp_server_process` once the socket is found.
-/

namespace Dperf

/-- The loop of `tcp_reply_more`, with `n` turns left to `snd_window`. -/
def tcpReplyMoreLoop (ws : WorkSpace) (sndWnd sndMax : UInt32) : ℕ → View → View
  | 0, v => v
  | n + 1, v =>
      if tcpSeqLt v.sk.sndNxt sndWnd && tcpSeqLt v.sk.sndNxt sndMax then
        tcpReplyMoreLoop ws sndWnd sndMax n
          (tcpReply ws (thPush ||| thAck ||| thUrg) { v with sk.sndUna := v.sk.sndNxt })
      else v

lemma tcpReplyMoreLoop_state (ws : WorkSpace) (sndWnd sndMax : UInt32) :
    ∀ (n : ℕ) (v : View), (tcpReplyMoreLoop ws sndWnd sndMax n v).sk.state = v.sk.state := by
  intro n
  induction n with
  | zero => exact fun v => rfl
  | succ n ih =>
      intro v
      rw [tcpReplyMoreLoop]
      split_ifs
      · rw [ih, tcpReply_state]
      · rfl

/-- `tcp_reply_more`. -/
def tcpReplyMore (ws : WorkSpace) (v : View) : View :=
  let sndUna := v.sk.sndUna
  let sndMax := v.sk.sndMax
  let sndWnd := sndUna + ws.sendWindow
  -- wait a burst finish
  let v := tcpReplyMoreLoop ws sndWnd sndMax v.sk.sndWindow.toNat v
  let v := { v with sk.sndUna := sndUna }
  if sndUna = sndMax then
    if v.sk.keepalive then socketStartTimeoutTimer ws.tsc v
    else tcpReply ws (thFin ||| thAck) { v with sk.state := .finWait1 }
  else v

/-- `tcp_server_process_syn`. -/
def tcpServerProcessSyn (ws : WorkSpace) (th : Tcphdr) (v : View) : View :=
  -- fast recycle
  let v := if v.sk.state = .timeWait then { v with sk.state := .closed } else v
  if v.sk.state = .closed then tcpReply ws (thSyn ||| thAck) (socketServerOpen th v)
  else if v.sk.state = .synReceived then
    -- syn-ack lost, resend it
    if v.sk.timerTsc + ws.tscPerSec < ws.tsc then
      (tcpReply ws (thSyn ||| thAck) v).count fun s => { s with synRt := s.synRt + 1 }
    else v
  else v.count fun s => { s with tcpDrop := s.tcpDrop + 1 }

/-- The end of `tcp_server_process_data`, from `tcp_process_fin` on. -/
def tcpServerAnswer (ws : WorkSpace) (rxFlags txFlags : UInt8) (v : View) : View :=
  let r := tcpFinFlags rxFlags txFlags v
  if r.1 ≠ 0 then tcpReply ws r.1 r.2
  else if r.2.sk.state ≠ .closed then socketStartTimeoutTimer ws.tsc r.2
  else r.2

/-- The branch of `tcp_server_process_data` that starts a large response. -/
def tcpServerStartResponse (ws : WorkSpace) (v : View) : View :=
  let v := { v with sk := socketInitHttpServer ws.payloadSize v.sk }
  let v := v.count fun s => { s with tcpRsp := s.tcpRsp + 1, http2xx := s.http2xx + 1 }
  let v :=
    if v.sk.keepaliveRequestNum ≠ 0 then tcpReplyMore ws v
    -- slow start
    else
      let v := tcpReply ws (thPush ||| thAck) v
      { v with sk.keepaliveRequestNum := 1 }
  socketStartRetransmitTimer ws.tsc v

/-- The flags `tcp_server_process_data` answers a request with. -/
def responseFlags (sk : Socket) : UInt8 :=
  if sk.keepalive then thPush ||| thAck else thPush ||| thAck ||| thFin

/-- The state of a server socket once a segment is accepted. -/
def SkState.establish (s : SkState) : SkState := if s < .established then .established else s

lemma SkState.establish_ne {s t : SkState} (hs : s ≠ t) (ht : t ≠ .established) :
    s.establish ≠ t := by
  rw [establish]
  split_ifs
  · exact ht.symm
  · exact hs

/-- `tcp_server_process_data` after the acceptance test. -/
def tcpServerAccepted (ws : WorkSpace) (th : Tcphdr) (data : List UInt8) (dataLen : UInt16)
    (v : View) : View :=
  let v := v.log (.accepted th.seq th.ack (acceptedLen th dataLen))
  let v := { v with sk.state := v.sk.state.establish }
  if v.sk.state = .established then
    if dataLen ≠ 0 then
      let v := v.count (httpParseRequest data dataLen)
      let v := v.log (.request th.seq (data.take dataLen.toNat))
      if ws.sendWindow ≠ 0 ∧ hasFlag th.flags thFin = false then tcpServerStartResponse ws v
      else tcpServerAnswer ws th.flags (responseFlags v.sk) v
    else if ws.sendWindow ≠ 0 ∧ hasFlag th.flags thFin = false then tcpReplyMore ws v
    else tcpServerAnswer ws th.flags 0 v
  else tcpServerAnswer ws th.flags 0 v

/-- `tcp_server_process_data`. -/
def tcpServerProcessData (ws : WorkSpace) (m : Mbuf) (v : View) : View :=
  let d := tcpDataGet m
  let r := tcpCheckSequence ws m.th d.2 v
  if r.1 = false then r.2.count fun s => { s with tcpDrop := s.tcpDrop + 1 }
  else tcpServerAccepted ws m.th d.1 d.2 r.2

/-- `tcp_server_process` on the socket that the lookup found. -/
def tcpServerInput (ws : WorkSpace) (m : Mbuf) (v : View) : View :=
  let flags := m.th.flags
  let v := v.count (tcpFlagsRxCount flags)
  if hasFlag flags (thSyn ||| thRst) = false ∧ hasFlag flags thAck then
    tcpServerProcessData ws m v
  else if flags = thSyn then tcpServerProcessSyn ws m.th v
  else if hasFlag flags thRst then tcpProcessRst v
  else v.count fun s => { s with tcpDrop := s.tcpDrop + 1 }

/-- With `send_window == 0` all data ends in `tcpServerAnswer`, on a socket that differs from
the accepting one in its state at most. -/
lemma tcpServerAccepted_small {ws : WorkSpace} (hw : ws.sendWindow = 0) (th : Tcphdr)
    (data : List UInt8) (dataLen : UInt16) (v : View) :
    ∃ tx u, tcpServerAccepted ws th data dataLen v = tcpServerAnswer ws th.flags tx u ∧
      u.link = v.link ∧ u.allocs = v.allocs ∧
      u.sk = { v.sk with state := v.sk.state.establish } ∧
      (∃ r, u.trace = v.trace ++ .accepted th.seq th.ack (acceptedLen th dataLen) :: r ∧
        (r = [] ∨ dataLen ≠ 0 ∧ r = [.request th.seq (data.take dataLen.toNat)]) ∧
        (r = [] ↔ dataLen = 0 ∨ u.sk.state ≠ .established)) ∧
      (tx = 0 ∨ u.sk.state = .established ∧ tx = responseFlags u.sk) := by
  have hw' : ¬ (ws.sendWindow ≠ 0 ∧ hasFlag th.flags thFin = false) := fun h => h.1 hw
  rw [tcpServerAccepted]
  dsimp only
  rw [if_neg hw', if_neg hw']
  split_ifs with he hd
  · refine ⟨_, _, rfl, rfl, rfl, rfl, ⟨_, by simp [View.count, View.log], .inr ⟨hd, rfl⟩, ?_⟩,
      .inr ⟨he, rfl⟩⟩
    exact ⟨fun h => absurd h (List.cons_ne_nil _ _), fun h => absurd he (h.resolve_left hd)⟩
  · exact ⟨0, _, rfl, rfl, rfl, rfl,
      ⟨[], rfl, .inl rfl, fun _ => .inl (not_not.mp hd), fun _ => rfl⟩, .inl rfl⟩
  · exact ⟨0, _, rfl, rfl, rfl, rfl, ⟨[], rfl, .inl rfl, fun _ => .inr he, fun _ => rfl⟩, .inl rfl⟩

lemma responseFlags_seq (sk : Socket) :
    hasFlag (responseFlags sk) seqFlags = true ∧ hasFlag (responseFlags sk) thSyn = false := by
  rw [responseFlags]
  split_ifs <;> exact ⟨rfl, rfl⟩

/-- A `SYN` on a closed socket opens it and is answered. -/
lemma tcpServerProcessSyn_closed {ws : WorkSpace} {th : Tcphdr} {v : View}
    (hc : v.sk.state = .closed) :
    tcpServerProcessSyn ws th v = tcpReply ws (thSyn ||| thAck) (socketServerOpen th v) := by
  have ht : v.sk.state ≠ .timeWait := by simp [hc]
  simp only [tcpServerProcessSyn, if_neg ht, if_pos hc]

lemma tcpServerInput_syn {ws : WorkSpace} {m : Mbuf} {v : View} (hm : m.th.flags = thSyn) :
    tcpServerInput ws m v = tcpServerProcessSyn ws m.th (v.count (tcpFlagsRxCount thSyn)) := by
  have h₁ : ¬ (hasFlag thSyn (thSyn ||| thRst) = false ∧ hasFlag thSyn thAck = true) := by decide
  simp only [tcpServerInput, hm, if_neg h₁, if_true]

end Dperf
