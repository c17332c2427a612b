import Dperf.SocketCount
import Dperf.SocketPool

/-!
What the loop of a client leaves alone in its pool.

* `Socket.addrs`: the addresses and ports of a socket. No call writes to them (`run_addrs`), so no
  step does (`step_addrs`).
* `run_shut`: only a launch opens a closed socket.
* `step_shut`: with RSS, a closed socket that is not the worker's to open stays closed.
-/

namespace Dperf

/-- The addresses and ports of a socket. -/
def Socket.addrs (sk : Socket) : UInt32 × UInt32 × UInt16 × UInt16 :=
  (sk.laddr, sk.faddr, sk.lport, sk.fport)

/-! ### Addresses -/

section Addresses

variable (ws : WorkSpace) (v : View)

lemma startKeepaliveTimer_addrs (tsc : UInt64) :
    (socketStartKeepaliveTimer ws tsc v).sk.addrs = v.sk.addrs := by
  rw [socketStartKeepaliveTimer]
  split_ifs <;> rfl

lemma startRetransmitTimer_addrs (tsc : UInt64) :
    (socketStartRetransmitTimer tsc v).sk.addrs = v.sk.addrs := by
  rw [socketStartRetransmitTimer]
  split_ifs <;> rfl

lemma socketClose_addrs : (socketClose v).sk.addrs = v.sk.addrs := by
  rw [socketClose]
  split_ifs <;> rfl

lemma tcpReply_addrs (f : UInt8) : (tcpReply ws f v).sk.addrs = v.sk.addrs := by
  rw [tcpReply_sk]
  rfl

lemma tcpDoRetransmit_addrs : (tcpDoRetransmit ws v).sk.addrs = v.sk.addrs := by
  have hs := tcpDoRetransmit_step ws v
  generalize tcpDoRetransmit ws v = r at hs ⊢
  cases hs with
  | acked => rfl
  | handedOver => exact socketClose_addrs v
  | burst => exact (startRetransmitTimer_addrs _ _).trans (tcpReply_addrs ..)
  | again => exact tcpReply_addrs ..
  | giveUp => exact socketClose_addrs _

lemma growWindow_addrs (sk : Socket) : (growWindow sk).addrs = sk.addrs := by
  rw [growWindow]
  split_ifs <;> rfl

lemma tcpAcceptInOrder_addrs (th : Tcphdr) (dataLen : UInt16) :
    (tcpAcceptInOrder ws th dataLen v).sk.addrs = v.sk.addrs := by
  simp only [tcpAcceptInOrder, socketStopRetransmitTimer, socketDelTimer, socketQueueDel,
    socketNodeDel]
  split_ifs
  · rfl
  · rfl
  · rfl
  · exact growWindow_addrs _

lemma tcpCheckSequence_addrs (th : Tcphdr) (dataLen : UInt16) :
    (tcpCheckSequence ws th dataLen v).2.sk.addrs = v.sk.addrs := by
  have hs := tcpCheckSequence_step ws th dataLen v
  generalize tcpCheckSequence ws th dataLen v = r at hs ⊢
  cases hs with
  | accept => exact tcpAcceptInOrder_addrs ws v th dataLen
  | closedSocket | simultaneous | drop | dupAck => rfl
  | newAck => exact growWindow_addrs { v.sk with sndUna := th.ack }
  | thirdDupAck => exact tcpReply_addrs ..
  | fastRetransmit => exact tcpDoRetransmit_addrs ws v

lemma tcpFinFlags_addrs (rx tx : UInt8) : (tcpFinFlags rx tx v).2.sk.addrs = v.sk.addrs := by
  have hs := tcpFinFlags_step rx tx v
  generalize tcpFinFlags rx tx v = r at hs ⊢
  cases hs with
  | keep | passive | active | finAcked | closing => rfl
  | finBoth | lastAck => exact socketClose_addrs v

lemma tcpProcessRst_addrs : (tcpProcessRst v).sk.addrs = v.sk.addrs := by
  rw [tcpProcessRst]
  split_ifs
  · exact socketClose_addrs v
  · rfl

lemma tcpClientProcessSynAck_addrs (th : Tcphdr) :
    (tcpClientProcessSynAck ws th v).sk.addrs = v.sk.addrs := by
  rw [tcpClientProcessSynAck]
  dsimp only
  split_ifs
  · rfl
  · exact tcpReply_addrs ..
  · exact tcpReply_addrs ..
  · rfl
  · rfl

lemma tcpSendKeepaliveRequest_addrs : (tcpSendKeepaliveRequest ws v).sk.addrs = v.sk.addrs := by
  rw [tcpSendKeepaliveRequest]
  dsimp only
  split_ifs <;> exact tcpReply_addrs ..

lemma tcpClientResponse_addrs (data : List UInt8) (dataLen : UInt16) :
    (tcpClientResponse ws data dataLen v).2.sk.addrs = v.sk.addrs := by
  rw [tcpClientResponse]
  split_ifs
  · rfl
  · exact startKeepaliveTimer_addrs ..
  · exact tcpSendKeepaliveRequest_addrs ..

lemma httpParseRun_addrs (data : List UInt8) (dataLen : UInt16) :
    (httpParseRun data dataLen v).2.sk.addrs = v.sk.addrs := by
  obtain ⟨_, _, _, _, _, hsk⟩ := httpParseRun_httpOnly data dataLen v
  rw [hsk]
  rfl

lemma httpClientProcessData_addrs (rx : UInt8) (data : List UInt8) (dataLen : UInt16) :
    (httpClientProcessData ws rx data dataLen v).2.2.sk.addrs = v.sk.addrs := by
  have hparse := httpParseRun_addrs v data dataLen
  rw [httpClientProcessData]
  dsimp only
  generalize httpParseRun data dataLen v = r at hparse ⊢
  split
  · split_ifs <;> exact hparse
  · split_ifs
    · exact hparse
    · exact (startKeepaliveTimer_addrs ..).trans hparse
    · exact hparse
  · exact hparse

lemma tcpClientAnswer_addrs (rx tx : UInt8) :
    (tcpClientAnswer ws rx tx v).sk.addrs = v.sk.addrs := by
  have hfin := tcpFinFlags_addrs v rx tx
  rw [tcpClientAnswer]
  generalize tcpFinFlags rx tx v = r at hfin ⊢
  split_ifs
  · exact (tcpReply_addrs ..).trans hfin
  · exact hfin
  · exact hfin

lemma tcpClientAccepted_addrs (th : Tcphdr) (data : List UInt8) (dataLen : UInt16) :
    (tcpClientAccepted ws th data dataLen v).2.sk.addrs = v.sk.addrs := by
  rw [tcpClientAccepted]
  dsimp only
  have hu : (v.log (.accepted th.seq th.ack (acceptedLen th dataLen))).sk.addrs = v.sk.addrs := rfl
  generalize v.log _ = u at hu ⊢
  rw [← hu]
  have hdata : (if dataLen ≠ 0 then
      if ws.cfg.http = true then httpClientProcessData ws th.flags data dataLen u
      else ((tcpClientResponse ws data dataLen u).1, AckDelay.none,
        (tcpClientResponse ws data dataLen u).2)
      else (0, .none, u)).2.2.sk.addrs = u.sk.addrs := by
    split_ifs
    · exact httpClientProcessData_addrs ..
    · exact tcpClientResponse_addrs ..
    · rfl
  generalize (if dataLen ≠ 0 then _ else _ : UInt8 × AckDelay × View) = t at hdata ⊢
  split_ifs
  · exact ((socketClose_addrs _).trans (tcpReply_addrs ..)).trans hdata
  · exact (tcpClientAnswer_addrs ..).trans hdata
  · exact tcpClientAnswer_addrs ..

lemma tcpClientInput_addrs (m : Mbuf) : (tcpClientInput ws m v).2.sk.addrs = v.sk.addrs := by
  rw [tcpClientInput]
  split_ifs
  · rw [tcpClientProcessData]
    split_ifs
    · exact tcpCheckSequence_addrs ..
    · exact (tcpClientAccepted_addrs ..).trans (tcpCheckSequence_addrs ..)
  · exact tcpClientProcessSynAck_addrs ..
  · exact tcpProcessRst_addrs _
  · rfl

lemma tcpDoKeepalive_addrs : (tcpDoKeepalive ws v).sk.addrs = v.sk.addrs := by
  rw [tcpDoKeepalive]
  dsimp only
  split_ifs
  · exact (startKeepaliveTimer_addrs ..).trans (tcpReply_addrs ..)
  · exact socketClose_addrs v
  · exact tcpReply_addrs ..
  · rfl
  · exact tcpSendKeepaliveRequest_addrs ..
  · rfl

lemma tcpClientStart_addrs : (tcpClientStart ws v).sk.addrs = v.sk.addrs := by
  rw [tcpClientStart]
  dsimp only
  split_ifs
  · exact (startKeepaliveTimer_addrs ..).trans (tcpReply_addrs ..)
  · exact (socketClose_addrs _).trans (tcpReply_addrs ..)
  · exact tcpReply_addrs ..

lemma tcpAckDelayDone_addrs (b : Bool) : (tcpAckDelayDone ws b v).sk.addrs = v.sk.addrs := by
  rw [tcpAckDelayDone]
  dsimp only
  split_ifs
  · exact startKeepaliveTimer_addrs ..
  · rfl

lemma tcpAckDelayFlushOne_addrs : (tcpAckDelayFlushOne ws v).sk.addrs = v.sk.addrs := by
  rw [tcpAckDelayFlushOne]
  dsimp only
  split_ifs
  · exact tcpReply_addrs ..
  · rfl
  · rfl

lemma udpSendRequest_addrs : (udpSendRequest ws v).sk.addrs = v.sk.addrs := by
  rw [udpSendRequest, udpSend_sk]
  rfl

lemma udpRepeatRequest_addrs (turns : ℕ) :
    (udpRepeat (udpSendRequest ws) turns v).sk.addrs = v.sk.addrs := by
  induction turns generalizing v with
  | zero => rfl
  | succ turns ih => exact (ih _).trans (udpSendRequest_addrs ws v)

lemma udpRetransmitHandler_addrs : (udpRetransmitHandler v).sk.addrs = v.sk.addrs := by
  rw [udpRetransmitHandler]
  refine (socketClose_addrs _).trans ?_
  split_ifs <;> rfl

lemma udpKeepalive_addrs : (udpSocketKeepaliveTimerHandler ws v).sk.addrs = v.sk.addrs := by
  rw [udpSocketKeepaliveTimerHandler]
  dsimp only
  split_ifs
  · exact socketClose_addrs v
  · exact (startKeepaliveTimer_addrs ..).trans (udpRepeatRequest_addrs ..)
  · exact (startKeepaliveTimer_addrs ..).trans (udpRepeatRequest_addrs ..)
  · exact udpRepeatRequest_addrs ..
  · exact udpRepeatRequest_addrs ..
  · rfl

lemma udpClientInput_addrs : (udpClientInput ws v).sk.addrs = v.sk.addrs := by
  rw [udpClientInput]
  dsimp only
  split_ifs
  · exact socketClose_addrs _
  · exact udpSendRequest_addrs ..
  · rfl
  · rfl

lemma udpClientStart_addrs (turns : ℕ) : (udpClientStart ws turns v).sk.addrs = v.sk.addrs := by
  have hsend : (udpRepeat (udpSend ws) turns v).sk.addrs = v.sk.addrs := by
    rw [udpRepeatSend_sk]
  rw [udpClientStart]
  split_ifs
  · exact (startKeepaliveTimer_addrs ..).trans hsend
  · exact hsend
  · exact (socketClose_addrs _).trans hsend
  · exact hsend

/-- No call of a client writes to the addresses of its socket. -/
lemma run_addrs (hs : ws.cfg.server = false) (k : Call) : (k.run ws v).sk.addrs = v.sk.addrs := by
  cases k with
  | input m =>
      rw [Call.run, l4Input, hs]
      cases ws.cfg.protocol with
      | tcp => exact tcpClientInput_addrs ws v m
      | udp => exact udpClientInput_addrs ws v
  | ackDone b => exact tcpAckDelayDone_addrs ws v b
  | ackFlush => exact tcpAckDelayFlushOne_addrs ws v
  | retransmit =>
      rw [Call.run]
      cases ws.cfg.protocol with
      | tcp => exact tcpDoRetransmit_addrs ws (socketDelTimer v)
      | udp => exact udpRetransmitHandler_addrs (socketDelTimer v)
  | keepalive =>
      rw [Call.run]
      cases ws.cfg.protocol with
      | tcp => exact tcpDoKeepalive_addrs ws (socketDelTimer v)
      | udp => exact udpKeepalive_addrs ws (socketDelTimer v)
  | timeout => exact socketClose_addrs _
  | launch turns =>
      rw [Call.run, socketClientOpen]
      by_cases hc : v.sk.state = .closed
      · have hopen : (socketClientOpened ws ws.tsc v).sk.addrs = v.sk.addrs := rfl
        rw [if_pos hc]
        dsimp only
        rw [if_pos rfl]
        cases ws.cfg.protocol with
        | tcp => exact (tcpClientStart_addrs ..).trans hopen
        | udp => exact (udpClientStart_addrs ..).trans hopen
      · rw [if_neg hc]
        rfl
  | disableKeepalive => rfl

end Addresses

/-! ### Closed sockets -/

section Shut

variable {ws : WorkSpace} {v : View}

/-- A TCP socket that is closed stays so, whatever its functions do. -/
lemma steady_shut (ws : WorkSpace) : Steady ws fun v => v.sk.state = .closed where
  touch h _ hs _ _ := hs.trans h
  move h ho _ _ := absurd h ho
  reply _ h := (tcpReply_state ..).trans h
  close _ := socketClose_closed _

lemma tcpClientInput_shut (h : v.sk.state = .closed) (m : Mbuf) :
    (tcpClientInput ws m v).2.sk.state = .closed := by
  have hcount : (v.count (tcpFlagsRxCount m.th.flags)).sk.state = .closed := h
  rw [tcpClientInput]
  split_ifs
  · obtain ⟨hdrop, hshut⟩ := tcpCheckSequence_closed ws hcount m.th (tcpDataGet m).2
    rw [tcpClientProcessData]
    rw [if_pos hdrop]
    exact hshut
  · refine (steady_shut ws).clientProcessSynAck hcount fun hu hs => ?_
    exact absurd (hu.symm.trans hs) (by decide)
  · exact tcpProcessRst_closed _
  · exact h

lemma udpClientInput_shut (h : v.sk.state = .closed) : (udpClientInput ws v).sk.state = .closed := by
  rw [udpClientInput, if_neg (not_not.mpr h)]
  exact h

/-- A call of a client other than a launch leaves a closed socket closed; the UDP keepalive handler
is called on open sockets only. -/
lemma run_shut (hs : ws.cfg.server = false) {k : Call} (hl : ∀ turns, k ≠ .launch turns)
    (hk : ws.cfg.protocol = .udp → k ≠ .keepalive) (h : v.sk.state = .closed) :
    (k.run ws v).sk.state = .closed := by
  cases k with
  | input m =>
      rw [Call.run, l4Input, hs]
      cases ws.cfg.protocol with
      | tcp => exact tcpClientInput_shut h m
      | udp => exact udpClientInput_shut h
  | ackDone b => exact (steady_shut ws).ackDelayDone h b
  | ackFlush => exact (steady_shut ws).ackDelayFlushOne h
  | retransmit =>
      rw [Call.run]
      cases ws.cfg.protocol with
      | tcp => exact (steady_shut ws).doRetransmit (v := socketDelTimer v) h
      | udp => exact socketClose_closed _
  | keepalive =>
      rw [Call.run]
      cases hp : ws.cfg.protocol with
      | tcp => exact (steady_shut ws).doKeepalive (v := socketDelTimer v) h
      | udp => exact absurd rfl (hk hp)
  | timeout => exact socketClose_closed _
  | launch turns => exact absurd rfl (hl turns)
  | disableKeepalive => exact h

end Shut

/-! ### Steps -/

section Steps

variable {n : ℕ} {st : SocketTable n} {ws : WorkSpace} {inp : Grants n} {w w' : Worker n}
  {i : Fin n}

lemma turns_addrs (hs : ws.cfg.server = false) (ht : Turns ws inp w w') (i : Fin n) :
    (w'.pool i).addrs = (w.pool i).addrs := by
  induction ht with
  | refl => rfl
  | @tail b c _ hbc ih =>
      cases hbc with
      | @call j k _ hp =>
          by_cases hij : i = j
          · subst hij
            rw [Worker.on, Worker.pool_put_self, run_addrs ws _ hs k]
            exact ih
          · rw [Worker.on, Worker.pool_put_ne _ hij]
            exact ih
      | quiet hq => rw [hq.pool, ih]

/-- A step writes to no address. -/
lemma step_addrs (hs : ws.cfg.server = false) {e : Event} (h : step st ws e w = some w')
    (i : Fin n) : (w'.pool i).addrs = (w.pool i).addrs := turns_addrs hs (step_turns h) i

/-- Turns without a launch open nothing. -/
lemma Counted.turns_shut (hs : ws.cfg.server = false) (hn : n < 2 ^ 32) (h : Counted ws w)
    (hno : ¬ inp.launch) (ht : Turns ws inp w w') (hi : (w.pool i).state = .closed) :
    (w'.pool i).state = .closed := by
  induction ht with
  | refl => exact hi
  | @tail b c hb hbc ih =>
      cases hbc with
      | @call j k _ hp =>
          by_cases hij : i = j
          · subst hij
            rw [Worker.on, Worker.pool_put_self]
            refine run_shut hs (fun turns hk => hno (hp.launch turns hk)) (fun hu hk => ?_) ih
            -- the keepalive handler found its socket in a queue
            have hq : i ∈ b.timers.list .keepalive := hp.timer _ (by rw [hk]; rfl)
            refine (h.turns hn hb).queued hu i ?_ ih
            rw [Worker.slot, Queues.place_eq_some.mpr hq]
            exact Option.some_ne_none _
          · rw [Worker.on, Worker.pool_put_ne _ hij]
            exact ih
      | quiet hq => rw [hq.pool, ih]

/-- The search yields a socket of the worker. -/
lemma socketTableGetSocketRss_picks {pool : Fin n → Socket} :
    ∀ {fuel : ℕ} {next : UInt32} {r : Fin n × UInt32},
      socketTableGetSocketRss st pool fuel next = some r → rssPicks st (pool r.1) := by
  intro fuel
  induction fuel with
  | zero =>
      intro next r h
      cases h
  | succ fuel ih =>
      intro next r h
      rw [socketTableGetSocketRss] at h
      split_ifs at h with hn
      dsimp only at h
      split_ifs at h with hskip hwrap
      · exact ih h
      · exact ih h
      · cases h
        rw [not_or, not_not] at hskip
        exact hskip

lemma socketTableGetSocket_picks (hrss : st.rss = true) {pool : Fin n → Socket} {fuel : ℕ}
    {next : UInt32} {r : Fin n × UInt32} (h : socketTableGetSocket st pool fuel next = some r) :
    rssPicks st (pool r.1) := by
  obtain ⟨p, hp, rfl⟩ := Option.map_eq_some_iff.mp h
  rw [if_neg (by rw [hrss]; decide)] at hp
  have hpick := socketTableGetSocketRss_picks hp
  split_ifs <;> exact hpick

/-- A launch leaves the sockets of the others alone. -/
lemma clientLaunchOne_other (hrss : st.rss = true) {fuel : ℕ} {start : View → View}
    {r : Bool × Worker n} (h : clientLaunchOne st ws fuel start w = some r)
    (hi : ¬ rssPicks st (w.pool i)) : r.2.pool i = w.pool i := by
  obtain ⟨p, hp, rfl⟩ := Option.map_eq_some_iff.mp h
  have hne : i ≠ p.1 := fun heq => hi (heq ▸ socketTableGetSocket_picks hrss hp)
  exact Worker.pool_put_ne { w with next := p.2 } hne _

lemma tcpClientLaunch_other (hrss : st.rss = true) {fuel : ℕ} : ∀ {num : ℕ} {w w' : Worker n},
    tcpClientLaunch st ws fuel num w = some w' → ¬ rssPicks st (w.pool i) →
      w'.pool i = w.pool i := by
  intro num
  induction num with
  | zero =>
      intro w w' h _
      cases h
      rfl
  | succ num ih =>
      intro w w' h hi
      obtain ⟨r, hr, h⟩ := Option.bind_eq_some_iff.mp h
      have hone := clientLaunchOne_other hrss hr hi
      exact (ih h (hone ▸ hi)).trans hone

lemma udpClientLaunch_other (hrss : st.rss = true) {fuel : ℕ} :
    ∀ {num : ℕ} {pipeline : Int} {w w' : Worker n},
      udpClientLaunch st ws fuel num pipeline w = some w' → ¬ rssPicks st (w.pool i) →
        w'.pool i = w.pool i := by
  intro num
  induction num with
  | zero =>
      intro pipeline w w' h _
      cases h
      rfl
  | succ num ih =>
      intro pipeline w w' h hi
      obtain ⟨r, hr, h⟩ := Option.bind_eq_some_iff.mp h
      have hone := clientLaunchOne_other hrss hr hi
      exact (ih h (hone ▸ hi)).trans hone

/-- With RSS, a closed socket that is not the worker's to open stays closed. -/
lemma step_shut (hs : ws.cfg.server = false) (hrss : st.rss = true) (h : Counted ws w)
    {e : Event} (hstep : step st ws e w = some w') (hi : ¬ rssPicks st (w.pool i))
    (hc : (w.pool i).state = .closed) : (w'.pool i).state = .closed := by
  by_cases hl : ∃ fuel, e = .launch fuel
  · obtain ⟨fuel, rfl⟩ := hl
    rw [step, if_neg (by rw [hs]; exact Bool.false_ne_true)] at hstep
    -- how many are launched may cost one of the sockets its keepalive
    let still : Grants n := ⟨fun _ _ _ => False, False⟩
    have hturns : Turns ws still w (workSpaceClientLaunchNum st ws w).2 :=
      turns_of_loopCalls (loopCalls_of_loopTurns (workSpaceClientLaunchNum_turns hs w))
    have hnum := h.turns_shut hs st.pool_lt id hturns hc
    have hkept : ¬ rssPicks st ((workSpaceClientLaunchNum st ws w).2.pool i) := by
      have haddrs := turns_addrs hs hturns i
      rw [Socket.addrs, Socket.addrs, Prod.mk.injEq, Prod.mk.injEq, Prod.mk.injEq] at haddrs
      rwa [rssPicks, haddrs.1, haddrs.2.2.1]
    rw [clientLaunch] at hstep
    cases hp : ws.cfg.protocol with
    | tcp =>
        rw [hp] at hstep
        rw [tcpClientLaunch_other hrss hstep hkept, hnum]
    | udp =>
        rw [hp] at hstep
        rw [udpClientLaunch_other hrss hstep hkept, hnum]
  · exact h.turns_shut hs st.pool_lt hl (step_turns hstep) hc

end Steps

end Dperf
