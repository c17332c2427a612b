import Dperf.Acts
import Dperf.CallRuns

/-!
The queue to which a call appends the socket of a client, and the date, told from what the call
finds: the branch of `tcp.c`, and `socket_accurate_timer_tsc` of the socket when it is asked. The
client does not flood, and `send_window` is zero.

* `Dating`: the queue with the date, and whether a segment with `SYN`, `PUSH` or `FIN` gets an mbuf.
* `Call.dating`: what a call does; a definition for each function of `tcp.c` that can come to a
  timer.
* `told_run`: the call does so.
-/

namespace Dperf

/-! ### Dates -/

/-- The queue to which a socket is appended last, with the date; and whether a segment with `SYN`,
`PUSH` or `FIN` gets an mbuf. -/
structure Dating where
  timer : Option (TimerKind × UInt64) := none
  sent : Bool := false

instance (ws : WorkSpace) (m : Mbuf) (sk : Socket) : Decidable (FastRetransmits ws m sk) :=
  decidable_of_iff (dataFlags m ∧ ws.sendWindow = 0 ∧ ¬ inOrder m.th sk ∧
      ¬ simultaneousFin m.th (tcpDataGet m).2 sk ∧ sk.state ≠ .closed ∧
      tcpSeqLe m.th.ack sk.sndNxt = true ∧ sk.timerTsc + ws.tscPerSec < ws.tsc)
    ⟨fun ⟨h₁, h₂, h₃, h₄, h₅, h₆, h₇⟩ => ⟨h₁, h₂, h₃, h₄, h₅, h₆, h₇⟩,
      fun h => ⟨h.kind, h.window, h.order, h.crossed, h.live, h.ack, h.due⟩⟩

section Branches

variable (ws : WorkSpace)

/-- `tcp_reply`: `keepalive` is tested here, and `socket_accurate_timer_tsc` asked. -/
def replyDating (f : UInt8) (v : View) (d : Dating) : Dating where
  timer := ((replyTimer ws f v).map fun q => (q, replyTsc ws f v.sk)).or d.timer
  sent := d.sent || hasFlag f seqFlags && ws.mbufAlloc v.allocs

/-- `socket_start_keepalive_timer`. -/
def keepaliveDating (nowTsc : UInt64) (v : View) : Dating where
  timer :=
    if v.sk.keepalive && decide (v.sk.sndNxt = v.sk.sndUna) then
      some (.keepalive, socketAccurateTimerTsc ws.cfg.keepaliveRequestInterval v.sk nowTsc)
    else none

/-- `tcp_do_retransmit`. -/
def retransmitDating (v : View) : Dating :=
  if Retransmits v.sk then replyDating ws v.sk.flags { v with sk.retrans := v.sk.retrans + 1 } {}
  else {}

/-- `tcp_send_keepalive_request`. -/
def requestDating (v : View) : Dating :=
  if workSpaceInDuration ws then
    replyDating ws (thAck ||| thPush)
      { v with sk.keepaliveRequestNum := v.sk.keepaliveRequestNum + 1 } {}
  else replyDating ws (thAck ||| thFin) { v with sk.state := .finWait1 } {}

/-- `tcp_do_keepalive`. -/
def doKeepaliveDating (v : View) : Dating :=
  if v.sk.sndNxt ≠ v.sk.sndUna ∨ v.sk.state ≠ .established ∨ v.sk.keepalive = false then
    if v.sk.keepalive = false ∧ v.sk.state = .established then
      replyDating ws (thAck ||| thFin) { v with sk.state := .finWait1 } {}
    else {}
  else requestDating ws v

/-- The response that is not parsed. -/
def responseDating (v : View) : Dating :=
  if v.sk.keepalive = false then {}
  else if ws.cfg.keepaliveRequestInterval ≠ 0 then keepaliveDating ws v.sk.timerTsc v
  else requestDating ws v

/-- `http_client_process_data`: the timer is started at once where no acknowledgement is delayed. -/
def httpDating (rxFlags : UInt8) (data : List UInt8) (dataLen : UInt16) (v : View) : Dating :=
  let r := httpParseRun data dataLen v
  if r.1 = .done ∧ r.2.sk.keepalive = true ∧ hasFlag rxFlags thFin = false ∧
      ¬ (2 ≤ r.2.sk.httpFrags ∨
        (ws.cfg.retransmitTimeout ≤ ws.cfg.keepaliveRequestInterval ∧
          ws.cfg.disableAck = false)) then
    keepaliveDating ws ws.tsc { r.2 with sk := socketInitHttp r.2.sk }
  else {}

/-- The end of `tcp_client_process_data`: `tcp_process_fin` may close the socket, and what it
answers is sent by `tcp_reply`. -/
def answerDating (rxFlags txFlags : UInt8) (v : View) (d : Dating) : Dating :=
  let r := tcpFinFlags rxFlags txFlags v
  let d := if r.2.sk.state = .closed then { d with timer := none } else d
  if r.1 ≠ 0 then
    if hasFlag rxFlags thFin ∨ r.1 ≠ thAck ∨ r.2.sk.keepalive = false ∨
        (r.2.sk.keepalive = true ∧
          ws.cfg.retransmitTimeout ≤ ws.cfg.keepaliveRequestInterval ∧
          ws.cfg.disableAck = false) then
      replyDating ws r.1 r.2 d
    else d
  else d

/-- `tcp_client_process_data` after the acceptance test. -/
def acceptedDating (th : Tcphdr) (data : List UInt8) (dataLen : UInt16) (v : View) : Dating :=
  let v := v.log (.accepted th.seq th.ack (acceptedLen th dataLen))
  if v.sk.state = .established then
    let t :=
      if dataLen ≠ 0 then
        if ws.cfg.http then
          let r := httpClientProcessData ws th.flags data dataLen v
          (r.1, r.2.2, httpDating ws th.flags data dataLen v)
        else
          let r := tcpClientResponse ws data dataLen v
          (r.1, r.2, responseDating ws (v.count (httpParseResponse data dataLen)))
      else (0, v, {})
    if hasFlag t.1 thFin && ws.cfg.fastClose then { t.2.2 with timer := none }
    else answerDating ws th.flags t.1 t.2.1 t.2.2
  else answerDating ws th.flags 0 v {}

/-- `tcp_client_process_data`: what does not pass `tcp_check_sequence` may be sent again. -/
def dataDating (m : Mbuf) (v : View) : Dating :=
  let d := tcpDataGet m
  let r := tcpCheckSequence ws m.th d.2 v
  if r.1 then acceptedDating ws m.th d.1 d.2 r.2
  else if FastRetransmits ws m v.sk then retransmitDating ws v
  else {}

/-- `tcp_client_process`; a `SYN-ACK` that is waited for is answered with the first request. -/
def inputDating (m : Mbuf) (v : View) : Dating :=
  let v := v.count (tcpFlagsRxCount m.th.flags)
  if dataFlags m then dataDating ws m v
  else if m.th.flags = thSyn ||| thAck ∧ v.sk.state = .synSent ∧ m.th.ack = v.sk.sndNxt then
    replyDating ws (thAck ||| thPush)
      { v with sk.rcvNxt := m.th.seq + 1, sk.sndUna := m.th.ack, sk.state := .established } {}
  else {}

/-- A call on a socket of a client. -/
def Call.dating (k : Call) (v : View) : Dating :=
  match k with
  | .input m => inputDating ws m v
  | .ackDone b => if b then keepaliveDating ws ws.tsc v else {}
  | .retransmit => retransmitDating ws v
  | .keepalive => doKeepaliveDating ws v
  | .launch _ =>
      if v.sk.state = .closed then replyDating ws thSyn (socketClientOpened ws ws.tsc v) {} else {}
  | .ackFlush | .timeout | .disableKeepalive => {}

end Branches

/-! ### What is sent -/

section Sent

variable {ws : WorkSpace} {v : View}

lemma any_idle {r : List Obs} (hr : ∀ o ∈ r, o.Idle) (l : List Obs) :
    (l ++ r).any Obs.transmits = l.any Obs.transmits := by
  have hnone : r.any Obs.transmits = false := by
    rw [List.any_eq_false]
    intro o ho
    have hidle := hr o ho
    cases o with
    | sent => exact hidle.elim
    | _ => simp [Obs.transmits]
  rw [List.any_append, hnone, Bool.or_false]

/-- A segment that is sent takes sequence numbers by its flags. -/
lemma seqFlags_of_transmits {f : UInt8} {una nxt : UInt32} {fresh : ℕ}
    (h : (Obs.sent (replySegment ws f v.sk) una nxt fresh).transmits = true) :
    hasFlag f seqFlags = true := by
  have hwire : hasFlag (wireFlags f) thPush = true → hasFlag f thPush = true := by
    rw [wireFlags]
    split_ifs with hs hp
    · exact id
    · exact fun _ => (Bool.and_eq_true_iff.mp hp).1
    · exact id
  rw [Obs.transmits, replySegment, Bool.or_eq_true] at h
  rw [hasFlag_seqFlags]
  rcases h with hflag | hdata
  · rw [← seqFlags, hasFlag_seqFlags, wireFlags_syn, wireFlags_fin] at hflag
    simp only [Bool.or_eq_true] at hflag ⊢
    exact hflag.imp_left (Or.imp_left hwire)
  · have hpush : hasFlag f thPush = true := by
      by_contra hp
      simp [payload, hp] at hdata
    rw [hpush]
    rfl

/-- A bare acknowledgement or reset does not count. -/
lemma any_reply {f : UInt8} (h : (tcpReply ws f v).trace.any Obs.transmits = true)
    (hf : hasFlag f seqFlags = false) : v.trace.any Obs.transmits = true := by
  rw [tcpReply_trace, List.any_append, Bool.or_eq_true] at h
  refine h.resolve_right fun hnew => ?_
  split_ifs at hnew
  · rw [List.any_cons, List.any_nil, Bool.or_false] at hnew
    exact absurd (hf.symm.trans (seqFlags_of_transmits hnew)) (by simp)
  · cases hnew

end Sent

/-! ### What is told is done -/

/-- `d` tells where the call has put its socket, with which date, and whether something was sent;
what is sent and not acknowledged is in the retransmit queue. -/
structure Told (d : Dating) (v : View) : Prop where
  timer : ∀ q t, d.timer = some (q, t) ↔ v.link = .tail q ∧ v.sk.timerTsc = t
  sent : v.trace.any Obs.transmits = true → d.sent = true
  armed : v.trace.any Obs.transmits = true → v.sk.sndNxt ≠ v.sk.sndUna → v.sk.state ≠ .closed →
    v.link = .tail .retransmit

namespace Told

variable {ws : WorkSpace} {d : Dating} {v v' : View} {f : UInt8}

/-- Nothing has been sent, and nothing queued. -/
lemma start (hl : ∀ q, v.link ≠ .tail q) (ht : v.trace.any Obs.transmits = false) : Told {} v := by
  refine ⟨fun q t => iff_of_false (by simp) fun h => hl q h.1, fun h => ?_, fun h => ?_⟩ <;>
  exact absurd (ht.symm.trans h) Bool.false_ne_true

/-- The timer and what is outstanding are left alone. -/
lemma frame (h : Told d v) (hl : v'.link = v.link) (ht : v'.sk.timerTsc = v.sk.timerTsc)
    (htr : v'.trace.any Obs.transmits = v.trace.any Obs.transmits)
    (hn : v'.sk.sndNxt ≠ v'.sk.sndUna → v.sk.sndNxt ≠ v.sk.sndUna)
    (hs : v.sk.state = .closed → v'.sk.state = .closed) : Told d v' := by
  refine ⟨fun q t => ?_, fun hsent => h.sent (htr ▸ hsent), fun hsent hne ho => ?_⟩
  · rw [hl, ht]
    exact h.timer q t
  · rw [hl]
    exact h.armed (htr ▸ hsent) (hn hne) fun hc => ho (hs hc)

/-- A socket that is closed is in no queue. -/
lemma unlink (h : Told d v) (hl : v'.link = .self) (htr : v'.trace.any Obs.transmits =
    v.trace.any Obs.transmits) (hs : v'.sk.state = .closed) : Told { d with timer := none } v' := by
  refine ⟨fun q t => iff_of_false (by simp) fun hq => ?_, fun hsent => h.sent (htr ▸ hsent),
    fun _ _ ho => absurd hs ho⟩
  rw [hl] at hq
  cases hq.1

lemma close (h : Told d v) (ho : v.sk.state ≠ .closed) :
    Told { d with timer := none } (socketClose v) := by
  rw [socketClose, if_pos ho]
  refine h.unlink rfl ?_ rfl
  exact any_idle (r := [.closed v.stats.socketCurrent]) (by simp [Obs.Idle]) v.trace

lemma shut (h : Told {} v) : Told {} (socketClose v) := by
  by_cases ho : v.sk.state = .closed
  · rw [socketClose, if_neg (not_not.mpr ho)]
    exact h
  · exact h.close ho

/-- A change of counters, and of fields that neither the timer nor what is outstanding read. -/
lemma touch (h : Told d v) (hl : v'.link = v.link) (ht : v'.sk.timerTsc = v.sk.timerTsc)
    (htr : v'.trace = v.trace) (hn : v'.sk.sndNxt = v.sk.sndNxt)
    (hu : v'.sk.sndUna = v.sk.sndUna) (hs : v'.sk.state = v.sk.state) : Told d v' :=
  h.frame hl ht (by rw [htr]) (by rw [hn, hu]; exact id) (by rw [hs]; exact id)

lemma reply (h : Told d v) (hp : Plain ws) (hs : ws.cfg.server = false) (f : UInt8) :
    Told (replyDating ws f v d) (tcpReply ws f v) := by
  have hlink := tcpReply_link ws f v
  have hsk := tcpReply_sk ws f v
  have hsent : (tcpReply ws f v).trace.any Obs.transmits = true →
      v.trace.any Obs.transmits = true ∨
        hasFlag f seqFlags = true ∧ ws.mbufAlloc v.allocs = true := by
    intro hany
    by_cases hold : v.trace.any Obs.transmits = true
    · exact .inl hold
    refine .inr ⟨?_, ?_⟩
    · by_contra hf
      exact hold (any_reply hany (Bool.eq_false_iff.mpr hf))
    · by_contra ha
      rw [tcpReply_trace, if_neg ha, List.append_nil] at hany
      exact hold hany
  refine ⟨fun q t => ?_, fun hany => ?_, fun hany hne ho => ?_⟩
  · rw [replyDating, hlink, hsk]
    cases hq : replyTimer ws f v with
    | none => exact h.timer q t
    | some r => simp
  · rw [replyDating, Bool.or_eq_true, Bool.and_eq_true]
    exact (hsent hany).imp_left h.sent
  · rw [tcpReply_state] at ho
    rw [tcpReply_sndNxt, tcpReply_sndUna] at hne
    cases hseq : hasFlag f seqFlags with
    | true =>
        have htimer : replyTimer ws f v = some .retransmit := by
          rw [replyTimer, if_neg (by simp [ho, hp.window]), if_pos hseq, if_pos hne]
        rw [hlink, htimer]
    | false =>
        -- a bare acknowledgement leaves the timer of a client alone
        have htimer : replyTimer ws f v = none := by
          rw [replyTimer, if_neg (by simp [ho, hp.window]), if_neg (by simp [hseq]), hs]
          rfl
        rw [replyFresh_bare hseq, UInt32.add_zero] at hne
        rw [hlink, htimer]
        exact h.armed (any_reply hany hseq) hne ho

lemma count (h : Told d v) (f : NetStats → NetStats) : Told d (v.count f) :=
  h.touch rfl rfl rfl rfl rfl rfl

/-- A bare acknowledgement or reset. -/
lemma bare (h : Told d v) (hp : Plain ws) (hs : ws.cfg.server = false)
    (hf : hasFlag f seqFlags = false) : Told d (tcpReply ws f v) := by
  have hnone : replyTimer ws f v = none := by
    rw [replyTimer, hf, hs]
    simp
  have hd : replyDating ws f v d = d := by
    rw [replyDating, hnone, hf, Bool.false_and, Bool.or_false]
    rfl
  exact hd ▸ h.reply hp hs f

lemma keepaliveTimer (hl : ∀ q, v.link ≠ .tail q) (ht : v.trace.any Obs.transmits = false)
    (tsc : UInt64) : Told (keepaliveDating ws tsc v) (socketStartKeepaliveTimer ws tsc v) := by
  rw [keepaliveDating, socketStartKeepaliveTimer]
  by_cases hc : (v.sk.keepalive && decide (v.sk.sndNxt = v.sk.sndUna)) = true
  · rw [if_pos hc, if_pos hc]
    refine ⟨fun q t => ?_, fun h => absurd (ht.symm.trans h) (by simp),
      fun h => absurd (ht.symm.trans h) (by simp)⟩
    simp [socketAddTimer, socketQueuePush, socketQueueDel, socketNodeDel]
  · rw [if_neg hc, if_neg hc]
    exact start hl ht

lemma doRetransmit (hp : Plain ws) (hs : ws.cfg.server = false) (hl : ∀ q, v.link ≠ .tail q)
    (ht : v.trace.any Obs.transmits = false) :
    Told (retransmitDating ws v) (tcpDoRetransmit ws v) := by
  have hstart : Told {} v := start hl ht
  rw [retransmitDating, tcpDoRetransmit]
  by_cases hn : v.sk.sndNxt = v.sk.sndUna
  · rw [if_neg fun h => h.1 hn, if_pos hn]
    exact hstart.touch rfl rfl rfl rfl rfl rfl
  rw [if_neg hn]
  by_cases hladdr : v.sk.laddr = 0
  · rw [if_neg fun h => h.2.1 hladdr, if_pos hladdr]
    exact hstart.shut
  rw [if_neg hladdr]
  dsimp only
  by_cases hr : (v.sk.retrans + 1).val < retransmitNumMax
  · have hburst : ¬ (ws.sendWindow ≠ 0 ∧ v.sk.sndNxt ≠ v.sk.sndUna ∧
        hasFlag v.sk.flags thPush = true) := fun h => h.1 hp.window
    have hnum : Told {} { v with sk.retrans := v.sk.retrans + 1 } :=
      hstart.touch rfl rfl rfl rfl rfl rfl
    rw [if_pos ⟨hn, hladdr, hr⟩, if_pos hr, if_neg hburst]
    exact (hnum.reply hp hs v.sk.flags).touch rfl rfl rfl rfl rfl rfl
  · have hnum : Told {} ({ v with sk.retrans := v.sk.retrans + 1 }.count netStatsSocketError) :=
      hstart.touch rfl rfl rfl rfl rfl rfl
    rw [if_neg fun h => hr h.2.2, if_neg hr]
    exact hnum.shut

/-- A change of the state of an open socket. -/
lemma move (h : Told d v) (ho : v.sk.state ≠ .closed) (s : SkState) :
    Told d { v with sk.state := s } :=
  h.frame rfl rfl rfl id fun hc => absurd hc ho

lemma sendKeepaliveRequest (h : Told {} v) (hp : Plain ws) (hs : ws.cfg.server = false)
    (ho : v.sk.state ≠ .closed) : Told (requestDating ws v) (tcpSendKeepaliveRequest ws v) := by
  have hnum : Told {} { v with sk.keepaliveRequestNum := v.sk.keepaliveRequestNum + 1 } :=
    h.touch rfl rfl rfl rfl rfl rfl
  have hpush := hnum.reply hp hs (thAck ||| thPush)
  have hfin := (h.move ho .finWait1).reply hp hs (thAck ||| thFin)
  rw [requestDating, tcpSendKeepaliveRequest]
  dsimp only
  split_ifs
  · exact hpush.touch rfl rfl rfl rfl rfl rfl
  · exact hpush
  · exact hfin.touch rfl rfl rfl rfl rfl rfl

lemma doKeepalive (h : Told {} v) (hp : Plain ws) (hs : ws.cfg.server = false) :
    Told (doKeepaliveDating ws v) (tcpDoKeepalive ws v) := by
  have hflood : ¬ ws.cfg.flood = true := by simp [hp.flood hs]
  rw [doKeepaliveDating, tcpDoKeepalive]
  split_ifs with hn hfin
  · exact (h.move (by simp [hfin.2]) .finWait1).reply hp hs (thAck ||| thFin)
  · exact h
  · rw [not_or, not_or, not_not, not_not] at hn
    exact h.sendKeepaliveRequest hp hs (by simp [hn.2.1])

lemma response (hl : ∀ q, v.link ≠ .tail q) (ht : v.trace.any Obs.transmits = false)
    (hp : Plain ws) (hs : ws.cfg.server = false) (ho : v.sk.state ≠ .closed) (data : List UInt8)
    (dataLen : UInt16) :
    Told (responseDating ws (v.count (httpParseResponse data dataLen)))
      (tcpClientResponse ws data dataLen v).2 := by
  have hcount : Told {} (v.count (httpParseResponse data dataLen)) := start hl ht
  rw [responseDating, tcpClientResponse]
  split_ifs
  · exact hcount
  · exact keepaliveTimer (v := v.count (httpParseResponse data dataLen)) hl ht _
  · exact hcount.sendKeepaliveRequest hp hs ho

lemma httpClientData (hl : ∀ q, v.link ≠ .tail q) (ht : v.trace.any Obs.transmits = false)
    (rx : UInt8) (data : List UInt8) (dataLen : UInt16) :
    Told (httpDating ws rx data dataLen v)
      (httpClientProcessData ws rx data dataLen v).2.2 := by
  obtain ⟨hlink, htrace, -⟩ := httpParseRun_rest data dataLen v
  rw [httpDating, httpClientProcessData]
  dsimp only
  generalize httpParseRun data dataLen v = r at hlink htrace ⊢
  have hl' : ∀ q, r.2.link ≠ .tail q := hlink ▸ hl
  have ht' : r.2.trace.any Obs.transmits = false := htrace ▸ ht
  have hstart : ∀ u : View, u.link = r.2.link → u.trace = r.2.trace → Told {} u :=
    fun u hul hut => start (hul ▸ hl') (hut ▸ ht')
  cases hr : r.1 with
  | ok =>
      rw [if_neg fun h => HttpRet.noConfusion h.1]
      dsimp only
      split_ifs <;> exact hstart _ rfl rfl
  | done =>
      dsimp only
      by_cases hkeep : r.2.sk.keepalive = true ∧ hasFlag rx thFin = false
      · have hkeep' : (socketInitHttp r.2.sk).keepalive = true ∧ hasFlag rx thFin = false := hkeep
        rw [if_pos hkeep']
        by_cases hfrags : 2 ≤ r.2.sk.httpFrags ∨
            (ws.cfg.retransmitTimeout ≤ ws.cfg.keepaliveRequestInterval ∧
              ws.cfg.disableAck = false)
        · rw [if_neg fun h => h.2.2.2 hfrags, if_pos hfrags]
          exact hstart _ rfl rfl
        · rw [if_pos ⟨rfl, hkeep.1, hkeep.2, hfrags⟩, if_neg hfrags]
          exact keepaliveTimer (v := { r.2 with sk := socketInitHttp r.2.sk }) hl' ht' _
      · have hkeep' : ¬ ((socketInitHttp r.2.sk).keepalive = true ∧ hasFlag rx thFin = false) :=
          hkeep
        rw [if_neg fun h => hkeep ⟨h.2.1, h.2.2.1⟩, if_neg hkeep']
        exact hstart _ rfl rfl
  | err =>
      rw [if_neg fun h => HttpRet.noConfusion h.1]
      exact hstart _ rfl rfl

lemma finFlags (h : Told d v) (ho : v.sk.state ≠ .closed) (rx tx : UInt8) :
    Told (if (tcpFinFlags rx tx v).2.sk.state = .closed then { d with timer := none } else d)
      (tcpFinFlags rx tx v).2 := by
  have hs := tcpFinFlags_step rx tx v
  generalize tcpFinFlags rx tx v = r at hs ⊢
  cases hs with
  | keep =>
      rw [if_neg ho]
      exact h
  | passive | active | finAcked | closing =>
      rw [if_neg (by simp)]
      exact h.move ho _
  | finBoth | lastAck =>
      rw [if_pos (socketClose_closed v)]
      exact h.close ho

lemma clientAnswer (h : Told d v) (hp : Plain ws) (hs : ws.cfg.server = false)
    (ho : v.sk.state ≠ .closed) (rx tx : UInt8) :
    Told (answerDating ws rx tx v d) (tcpClientAnswer ws rx tx v) := by
  have hfin := h.finFlags ho rx tx
  rw [answerDating, tcpClientAnswer]
  split_ifs at hfin ⊢
  all_goals first
    | exact hfin.reply hp hs _
    | exact hfin

lemma fastClose (h : Told d v) (hp : Plain ws) (hs : ws.cfg.server = false)
    (ho : v.sk.state ≠ .closed) : Told { d with timer := none } (tcpFastClose ws v) := by
  have hrst : Told d (tcpReply ws (thRst ||| thAck) v) := h.bare hp hs rfl
  exact hrst.close (by rwa [tcpReply_state])

/-- The answer, or the reset of `fast_close`. -/
lemma clientDone (h : Told d v) (hp : Plain ws) (hs : ws.cfg.server = false)
    (ho : v.sk.state ≠ .closed) (rx tx : UInt8) :
    Told (if hasFlag tx thFin && ws.cfg.fastClose then { d with timer := none }
        else answerDating ws rx tx v d)
      (if hasFlag tx thFin && ws.cfg.fastClose then tcpFastClose ws v
        else tcpClientAnswer ws rx tx v) := by
  split_ifs
  · exact h.fastClose hp hs ho
  · exact h.clientAnswer hp hs ho rx tx

lemma clientAccepted (hl : ∀ q, v.link ≠ .tail q) (ht : v.trace.any Obs.transmits = false)
    (hp : Plain ws) (hs : ws.cfg.server = false) (ho : v.sk.state ≠ .closed) (th : Tcphdr)
    (data : List UInt8) (dataLen : UInt16) :
    Told (acceptedDating ws th data dataLen v) (tcpClientAccepted ws th data dataLen v).2 := by
  rw [acceptedDating, tcpClientAccepted]
  dsimp only
  have ht' : (v.log (.accepted th.seq th.ack (acceptedLen th dataLen))).trace.any Obs.transmits =
      false := by
    rw [← ht]
    exact any_idle (r := [.accepted th.seq th.ack (acceptedLen th dataLen)]) (by simp [Obs.Idle])
      v.trace
  have hl' : ∀ q, (v.log (.accepted th.seq th.ack (acceptedLen th dataLen))).link ≠ .tail q := hl
  have ho' : (v.log (.accepted th.seq th.ack (acceptedLen th dataLen))).sk.state ≠ .closed := ho
  generalize v.log (.accepted th.seq th.ack (acceptedLen th dataLen)) = u at ht' hl' ho' ⊢
  have hstart : Told {} u := start hl' ht'
  by_cases he : u.sk.state = .established
  · rw [if_pos he, if_pos he]
    by_cases hd : dataLen ≠ 0
    · simp only [if_pos hd]
      by_cases hh : ws.cfg.http = true
      · simp only [if_pos hh]
        rw [apply_ite Prod.snd]
        have hdata := Acts.httpClientData ws .timeout True th.flags data dataLen u he
        exact (httpClientData hl' ht' th.flags data dataLen).clientDone hp hs hdata.2.live th.flags
          (httpClientProcessData ws th.flags data dataLen u).1
      · simp only [if_neg hh]
        rw [apply_ite Prod.snd]
        have hdata := Acts.response ws .timeout True data dataLen u he
        exact (response hl' ht' hp hs ho' data dataLen).clientDone hp hs hdata.2.live th.flags
          (tcpClientResponse ws data dataLen u).1
    · simp only [if_neg hd]
      rw [apply_ite Prod.snd]
      exact hstart.clientDone hp hs ho' th.flags 0
  · rw [if_neg he, if_neg he]
    exact hstart.clientAnswer hp hs ho' th.flags 0

end Told

/-- What does not come to `tcp_do_retransmit` sends nothing and starts no timer. -/
lemma tcpCheckSequence_still {ws : WorkSpace} {m : Mbuf} {v : View} (hw : ws.sendWindow = 0)
    (hm : dataFlags m) (hf : ¬ FastRetransmits ws m v.sk) :
    ((tcpCheckSequence ws m.th (tcpDataGet m).2 v).2.link = v.link ∨
      (tcpCheckSequence ws m.th (tcpDataGet m).2 v).2.link = .self) ∧
      (tcpCheckSequence ws m.th (tcpDataGet m).2 v).2.trace = v.trace := by
  rw [tcpCheckSequence]
  dsimp only
  by_cases hin : inOrder m.th v.sk
  · rw [if_pos hin]
    split_ifs
    · have hacked : Acked ws v _ := acked_inOrder (tcpDataGet m).2 hin
      exact ⟨hacked.link, hacked.trace⟩
    · exact ⟨.inl rfl, rfl⟩
  rw [if_neg hin, if_neg (not_not.mpr hw)]
  split_ifs with hsim hc hle hdue hn hseq
  · exact ⟨.inl rfl, rfl⟩
  · exact ⟨.inl rfl, rfl⟩
  · exact absurd ⟨hm, hw, hin, hsim, hc, hle, hdue⟩ hf
  · exact ⟨.inl rfl, rfl⟩
  · exact absurd (hn ▸ tcpSeqLe_refl _) hle
  · exact ⟨.inl rfl, rfl⟩
  · exact ⟨.inl rfl, rfl⟩

namespace Told

variable {ws : WorkSpace} {d : Dating} {v v' : View}

lemma clientProcessData (hl : ∀ q, v.link ≠ .tail q) (ht : v.trace.any Obs.transmits = false)
    (hp : Plain ws) (hs : ws.cfg.server = false) {m : Mbuf} (hm : dataFlags m) :
    Told (dataDating ws m v) (tcpClientProcessData ws m v).2 := by
  rw [dataDating, tcpClientProcessData]
  by_cases hf : FastRetransmits ws m v.sk
  · have hcheck : tcpCheckSequence ws m.th (tcpDataGet m).2 v = (false, tcpDoRetransmit ws v) := by
      rw [tcpCheckSequence, if_neg hf.order, if_neg hf.crossed, if_neg hf.live, if_pos hf.ack,
        if_neg (not_not.mpr hf.window), if_pos hf.due]
    rw [hcheck, if_neg Bool.false_ne_true, if_pos hf, if_pos rfl]
    exact (doRetransmit hp hs hl ht).count fun s => { s with tcpDrop := s.tcpDrop + 1 }
  · obtain ⟨hlink, htrace⟩ := tcpCheckSequence_still hp.window hm hf
    have hlive : (tcpCheckSequence ws m.th (tcpDataGet m).2 v).1 = true →
        (tcpCheckSequence ws m.th (tcpDataGet m).2 v).2.sk.state ≠ .closed := tcpCheckSequence_live
    generalize tcpCheckSequence ws m.th (tcpDataGet m).2 v = r at hlink htrace hlive ⊢
    have hl' : ∀ q, r.2.link ≠ .tail q := by
      rcases hlink with hlink | hlink
      · exact hlink ▸ hl
      · simp [hlink]
    have ht' : r.2.trace.any Obs.transmits = false := htrace ▸ ht
    cases hr : r.1 with
    | true => exact clientAccepted hl' ht' hp hs (hlive hr) m.th (tcpDataGet m).1 (tcpDataGet m).2
    | false =>
        rw [if_neg Bool.false_ne_true, if_neg hf, if_pos rfl]
        exact (start hl' ht').count fun s => { s with tcpDrop := s.tcpDrop + 1 }

lemma clientProcessSynAck (hl : ∀ q, v.link ≠ .tail q) (ht : v.trace.any Obs.transmits = false)
    (hp : Plain ws) (hs : ws.cfg.server = false) (th : Tcphdr) :
    Told (if v.sk.state = .synSent ∧ th.ack = v.sk.sndNxt then
        replyDating ws (thAck ||| thPush)
          { v with sk.rcvNxt := th.seq + 1, sk.sndUna := th.ack, sk.state := .established } {}
      else {}) (tcpClientProcessSynAck ws th v) := by
  have hstart : Told {} v := start hl ht
  rw [tcpClientProcessSynAck]
  by_cases hst : v.sk.state = .synSent
  · rw [if_pos hst]
    by_cases hack : th.ack = v.sk.sndNxt
    · have htr : (v.trace ++ [Obs.synAck th.seq th.ack]).any Obs.transmits = false := by
        rw [any_idle (by simp [Obs.Idle])]
        exact ht
      have hopened : Told {}
          ({ v.count (netStatsRtt ws v.sk) with
              sk.rcvNxt := th.seq + 1, sk.sndUna := th.ack, sk.state := .established }.log
            (.synAck th.seq th.ack)) := start hl htr
      rw [if_pos ⟨hst, hack⟩, if_neg (not_not.mpr hack)]
      exact hopened.reply hp hs (thAck ||| thPush)
    · rw [if_neg fun h => hack h.2, if_pos hack]
      exact hstart.count fun s => { s with tcpDrop := s.tcpDrop + 1 }
  · rw [if_neg fun h => hst h.1, if_neg hst]
    have hlost := hstart.count fun s => { s with pktLost := s.pktLost + 1 }
    dsimp only
    split_ifs
    · exact (hlost.bare hp hs rfl).count _
    · exact hlost
    · exact hstart.count _

lemma clientInput (hl : ∀ q, v.link ≠ .tail q) (ht : v.trace.any Obs.transmits = false)
    (hp : Plain ws) (hs : ws.cfg.server = false) (m : Mbuf) :
    Told (inputDating ws m v) (tcpClientInput ws m v).2 := by
  have hl' : ∀ q, (v.count (tcpFlagsRxCount m.th.flags)).link ≠ .tail q := hl
  have ht' : (v.count (tcpFlagsRxCount m.th.flags)).trace.any Obs.transmits = false := ht
  rw [inputDating, tcpClientInput]
  dsimp only
  generalize v.count (tcpFlagsRxCount m.th.flags) = u at hl' ht' ⊢
  have hstart : Told {} u := start hl' ht'
  by_cases hm : dataFlags m
  · have hm' : hasFlag m.th.flags (thSyn ||| thRst) = false ∧ hasFlag m.th.flags thAck = true := hm
    rw [if_pos hm, if_pos hm']
    exact clientProcessData hl' ht' hp hs hm
  have hm' : ¬ (hasFlag m.th.flags (thSyn ||| thRst) = false ∧ hasFlag m.th.flags thAck = true) :=
    hm
  rw [if_neg hm, if_neg hm']
  by_cases hsyn : m.th.flags = thSyn ||| thAck
  · have hsynack := clientProcessSynAck hl' ht' hp hs m.th
    simp only [hsyn, true_and, if_true]
    exact hsynack
  · rw [if_neg fun h => hsyn h.1, if_neg hsyn]
    split_ifs
    · rw [tcpProcessRst]
      split_ifs
      · exact hstart.shut
      · exact hstart
    · exact hstart.count fun s => { s with tcpDrop := s.tcpDrop + 1 }

lemma clientStart (hl : ∀ q, v.link ≠ .tail q) (ht : v.trace.any Obs.transmits = false)
    (hp : Plain ws) (hs : ws.cfg.server = false) :
    Told (replyDating ws thSyn v {}) (tcpClientStart ws v) := by
  have hflood : ¬ ws.cfg.flood = true := by simp [hp.flood hs]
  rw [tcpClientStart]
  dsimp only
  rw [if_neg hflood]
  exact (start hl ht).reply hp hs thSyn

end Told

/-- A call of a client does what its `Dating` tells. -/
theorem told_run {ws : WorkSpace} (hp : Plain ws) (hs : ws.cfg.server = false) (k : Call) {v : View}
    (hl : v.link = .kept) (ht : v.trace = []) : Told (k.dating ws v) (k.run ws v) := by
  have hkept : ∀ q, v.link ≠ .tail q := by simp [hl]
  have hquiet : v.trace.any Obs.transmits = false := by simp [ht]
  have hstart : Told {} v := .start hkept hquiet
  have hdel : ∀ q, (socketDelTimer v).link ≠ .tail q := by
    simp [socketDelTimer, socketQueueDel, socketNodeDel]
  cases k with
  | input m =>
      rw [Call.run, l4Input, hp.protocol, hs]
      exact Told.clientInput hkept hquiet hp hs m
  | ackDone b =>
      have hack : Told {} { v with sk.httpAck := true } := hstart.touch rfl rfl rfl rfl rfl rfl
      rw [Call.run, tcpAckDelayDone, Call.dating]
      cases b with
      | true => exact Told.keepaliveTimer (v := { v with sk.httpAck := true }) hkept hquiet ws.tsc
      | false => exact hack
  | ackFlush =>
      have hack : Told {} { v with sk.httpAck := false } := hstart.touch rfl rfl rfl rfl rfl rfl
      rw [Call.run, tcpAckDelayFlushOne]
      dsimp only
      split_ifs
      · exact hack.bare hp hs rfl
      · exact hack
      · exact hstart
  | retransmit =>
      rw [Call.run, hp.protocol]
      exact Told.doRetransmit (v := socketDelTimer v) hp hs hdel hquiet
  | keepalive =>
      rw [Call.run, hp.protocol]
      exact (Told.start hdel hquiet).doKeepalive hp hs
  | timeout =>
      have hdel' : Told {} (socketDelTimer v) := .start hdel hquiet
      exact (hdel'.count netStatsSocketError).shut
  | launch turns =>
      rw [Call.run, hp.protocol, socketClientOpen, Call.dating]
      by_cases hc : v.sk.state = .closed
      · rw [if_pos hc, if_pos hc]
        have hquiet' : (socketClientOpened ws ws.tsc v).trace.any Obs.transmits = false := by
          rw [starts_client.trace, ht]
          rfl
        exact Told.clientStart hkept hquiet' hp hs
      · rw [if_neg hc, if_neg hc]
        exact hstart
  | disableKeepalive => exact hstart.touch rfl rfl rfl rfl rfl rfl

end Dperf
