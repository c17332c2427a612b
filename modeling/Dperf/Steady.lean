import Dperf.Turns

/-!
Properties of the view of a socket that neither its timers nor what is sent touch.

* `Steady`: such a property is kept where a socket replies, is closed, or goes on from one open
  state to the next.
* `Steady.doRetransmit`, `Steady.serverAccepted`, `Steady.clientAccepted`, ...: the functions of a
  TCP socket keep it. What an accepted segment adds to the trace is left to the property.
-/

namespace Dperf

lemma tcpAcceptInOrder_rest (ws : WorkSpace) (th : Tcphdr) (dataLen : UInt16) (v : View) :
    (tcpAcceptInOrder ws th dataLen v).stats = v.stats ∧
      (tcpAcceptInOrder ws th dataLen v).trace = v.trace := by
  simp only [tcpAcceptInOrder, socketStopRetransmitTimer, socketDelTimer, socketQueueDel,
    socketNodeDel]
  split_ifs <;> exact ⟨rfl, rfl⟩

/-- The property is kept by all that does not concern it: the counters but those of the sockets, the
fields of the socket but `state` and `rcv_nxt`, and its node; and by the steps that are alike for
all functions. -/
structure Steady (ws : WorkSpace) (P : View → Prop) : Prop where
  touch : ∀ {v v' : View}, P v → v'.stats.sockets = v.stats.sockets →
    v'.sk.state = v.sk.state → v'.sk.rcvNxt = v.sk.rcvNxt → v'.trace = v.trace → P v'
  move : ∀ {v : View} {s : SkState}, P v → v.sk.state ≠ .closed → s ≠ .closed →
    (s = .timeWait → v.sk.state = .timeWait) → P { v with sk.state := s }
  reply : ∀ {v : View} (f : UInt8), P v → P (tcpReply ws f v)
  close : ∀ {v : View}, P v → P (socketClose v)

namespace Steady

variable {ws : WorkSpace} {P : View → Prop} {v : View} (hP : Steady ws P)

include hP

/-- A counter that is not about sockets. -/
lemma count (h : P v) {f : NetStats → NetStats} (hf : (f v.stats).sockets = v.stats.sockets) :
    P (v.count f) :=
  hP.touch h hf rfl rfl rfl

/-! ### Timers -/

lemma startKeepaliveTimer (h : P v) (tsc : UInt64) : P (socketStartKeepaliveTimer ws tsc v) := by
  rw [socketStartKeepaliveTimer]
  split_ifs
  · exact hP.touch h rfl rfl rfl rfl
  · exact h

lemma startRetransmitTimer (h : P v) (tsc : UInt64) : P (socketStartRetransmitTimer tsc v) := by
  rw [socketStartRetransmitTimer]
  split_ifs
  · exact hP.touch h rfl rfl rfl rfl
  · exact h

lemma doRetransmit (h : P v) : P (tcpDoRetransmit ws v) := by
  have hs := tcpDoRetransmit_step ws v
  generalize tcpDoRetransmit ws v = r at hs ⊢
  cases hs with
  | acked => exact hP.touch h rfl rfl rfl rfl
  | handedOver => exact hP.close h
  | burst =>
      -- one payload from `snd_una`, with `snd_nxt` put back
      have hback : P { v with sk.retrans := v.sk.retrans + 1, sk.sndNxt := v.sk.sndUna } :=
        hP.touch h rfl rfl rfl rfl
      refine hP.startRetransmitTimer (hP.count ?_ rfl) _
      exact hP.touch (hP.reply (thPush ||| thAck) hback) rfl rfl rfl rfl
  | again =>
      have hnum : P { v with sk.retrans := v.sk.retrans + 1 } := hP.touch h rfl rfl rfl rfl
      exact hP.count (hP.reply _ hnum) (retransmitCount_sockets _ _)
  | giveUp =>
      have hnum : P { v with sk.retrans := v.sk.retrans + 1 } := hP.touch h rfl rfl rfl rfl
      exact hP.close (hP.count hnum rfl)

lemma doKeepalive_syn (h : P v) :
    P { tcpReply ws thSyn v with sk.sndUna := (tcpReply ws thSyn v).sk.sndNxt } :=
  hP.touch (hP.reply thSyn h) rfl rfl rfl rfl

/-! ### Input -/

/-- What `tcp_check_sequence` does not let pass. -/
lemma dropped (h : P v) {th : Tcphdr} {dataLen : UInt16}
    (hr : (tcpCheckSequence ws th dataLen v).1 = false) :
    P (tcpCheckSequence ws th dataLen v).2 := by
  have hs := tcpCheckSequence_step ws th dataLen v
  generalize tcpCheckSequence ws th dataLen v = r at hr hs ⊢
  cases hs with
  | accept | simultaneous | newAck => cases hr
  | closedSocket => exact hP.touch h rfl rfl rfl rfl
  | drop => exact h
  | dupAck => exact hP.touch h rfl rfl rfl rfl
  | thirdDupAck =>
      have hback : P ({ v with
          sk.retrans := v.sk.retrans + 1
          sk.sndNxt := th.ack }.count fun s => { s with ackDup := s.ackDup + 1 }) :=
        hP.touch h rfl rfl rfl rfl
      exact hP.touch (hP.reply (thPush ||| thAck) hback) rfl rfl rfl rfl
  | fastRetransmit => exact hP.doRetransmit h

lemma finFlags (h : P v) (rx tx : UInt8) : P (tcpFinFlags rx tx v).2 := by
  have hs := tcpFinFlags_step rx tx v
  generalize tcpFinFlags rx tx v = r at hs ⊢
  cases hs with
  | keep => exact h
  | passive hs => exact hP.move h (by simp [hs]) (by simp) (by simp)
  | active hs => exact hP.move h (by simp [hs]) (by simp) (by simp)
  | finAcked hs => exact hP.move h (by simp [hs]) (by simp) (by simp)
  | finBoth => exact hP.close h
  | closing hs => exact hP.move h (by simp [hs]) (by simp) (by simp)
  | lastAck => exact hP.close h

lemma rst (h : P v) : P (tcpProcessRst v) := by
  rw [tcpProcessRst]
  split_ifs
  · exact hP.close h
  · exact h

/-! ### The server -/

lemma replyMoreLoop (wnd mx : UInt32) : ∀ (m : ℕ) {v : View}, P v →
    P (tcpReplyMoreLoop ws wnd mx m v) := by
  intro m
  induction m with
  | zero => exact fun h => h
  | succ m ih =>
      intro v h
      rw [tcpReplyMoreLoop]
      split_ifs
      · have h₁ : P { v with sk.sndUna := v.sk.sndNxt } := hP.touch h rfl rfl rfl rfl
        exact ih (hP.reply _ h₁)
      · exact h

lemma replyMore (h : P v) (ho : v.sk.state ≠ .closed) : P (tcpReplyMore ws v) := by
  have h₁ : P (tcpReplyMoreLoop ws (v.sk.sndUna + ws.sendWindow) v.sk.sndMax
      v.sk.sndWindow.toNat v) := hP.replyMoreLoop _ _ _ h
  have h₂ := tcpReplyMoreLoop_state ws (v.sk.sndUna + ws.sendWindow) v.sk.sndMax
    v.sk.sndWindow.toNat v
  rw [tcpReplyMore]
  dsimp only
  generalize tcpReplyMoreLoop ws _ _ _ v = u at h₁ h₂ ⊢
  have h₃ : P { u with sk.sndUna := v.sk.sndUna } := hP.touch h₁ rfl rfl rfl rfl
  split_ifs
  · exact hP.touch h₃ rfl rfl rfl rfl
  · exact hP.reply _ (hP.move h₃ (h₂ ▸ ho) (by simp) (by simp))
  · exact h₃

lemma serverAnswer (h : P v) (rx tx : UInt8) : P (tcpServerAnswer ws rx tx v) := by
  have hr := hP.finFlags h rx tx
  rw [tcpServerAnswer]
  generalize tcpFinFlags rx tx v = r at hr ⊢
  split_ifs
  · exact hP.reply _ hr
  · exact hP.touch hr rfl rfl rfl rfl
  · exact hr

lemma serverStartResponse (h : P v) (ho : v.sk.state ≠ .closed) :
    P (tcpServerStartResponse ws v) := by
  rw [tcpServerStartResponse]
  dsimp only
  refine hP.startRetransmitTimer ?_ _
  have h₁ : P ({ v with sk := socketInitHttpServer ws.payloadSize v.sk }.count fun s =>
      { s with tcpRsp := s.tcpRsp + 1, http2xx := s.http2xx + 1 }) := hP.touch h rfl rfl rfl rfl
  split_ifs
  · exact hP.replyMore h₁ ho
  · exact hP.touch (hP.reply _ h₁) rfl rfl rfl rfl

/-- A server and an accepted segment: `hreq` is about its payload, which is passed on right after
the entry of the segment. -/
lemma serverAccepted {th : Tcphdr} {data : List UInt8} {dataLen : UInt16}
    (h : P (v.log (.accepted th.seq th.ack (acceptedLen th dataLen))))
    (ho : v.sk.state ≠ .closed)
    (hreq : ∀ {u : View}, P u → dataLen ≠ 0 →
      (∃ t, u.trace = t ++ [.accepted th.seq th.ack (acceptedLen th dataLen)]) →
        P (u.log (.request th.seq (data.take dataLen.toNat)))) :
    P (tcpServerAccepted ws th data dataLen v) := by
  rw [tcpServerAccepted]
  dsimp only
  have htrace : ∃ t, (v.log (.accepted th.seq th.ack (acceptedLen th dataLen))).trace =
      t ++ [.accepted th.seq th.ack (acceptedLen th dataLen)] := ⟨v.trace, rfl⟩
  have hu : (v.log (.accepted th.seq th.ack (acceptedLen th dataLen))).sk.state ≠ .closed := ho
  generalize v.log (.accepted th.seq th.ack (acceptedLen th dataLen)) = u at h htrace hu ⊢
  have ho₁ : u.sk.state.establish ≠ .closed := SkState.establish_ne hu (by simp)
  have h₁ := hP.move h hu ho₁ fun ht => by
    by_contra hne
    exact SkState.establish_ne hne (by simp) ht
  have h₂ : dataLen ≠ 0 → P
      (({ u with sk.state := u.sk.state.establish }.count (httpParseRequest data dataLen)).log
        (.request th.seq (data.take dataLen.toNat))) := fun hd =>
    hreq (hP.count h₁ (httpParseRequest_sockets data dataLen _)) hd htrace
  split_ifs with he hd
  · exact hP.serverStartResponse (h₂ hd) ho₁
  · exact hP.serverAnswer (h₂ hd) _ _
  · exact hP.replyMore h₁ ho₁
  · exact hP.serverAnswer h₁ _ _
  · exact hP.serverAnswer h₁ _ _

/-! ### The client -/

lemma parse (h : P v) (data : List UInt8) (dataLen : UInt16) :
    P (httpParseRun data dataLen v).2 := by
  obtain ⟨_, _, _, _, _, hsk⟩ := httpParseRun_httpOnly data dataLen v
  exact hP.touch h (httpParseRun_sockets data dataLen v) (by rw [hsk]) (by rw [hsk])
    (httpParseRun_rest data dataLen v).2.1

lemma sendKeepaliveRequest (h : P v) (ho : v.sk.state ≠ .closed) :
    P (tcpSendKeepaliveRequest ws v) := by
  have h₁ : P { v with sk.keepaliveRequestNum := v.sk.keepaliveRequestNum + 1 } :=
    hP.touch h rfl rfl rfl rfl
  rw [tcpSendKeepaliveRequest]
  dsimp only
  split_ifs
  · exact hP.touch (hP.reply _ h₁) rfl rfl rfl rfl
  · exact hP.reply _ h₁
  · exact hP.touch (hP.reply _ (hP.move h ho (by simp) (by simp))) rfl rfl rfl rfl

lemma clientResponse (h : P v) (ho : v.sk.state ≠ .closed) (data : List UInt8)
    (dataLen : UInt16) : P (tcpClientResponse ws data dataLen v).2 := by
  have h₁ := hP.count h (httpParseResponse_sockets data dataLen v.stats)
  rw [tcpClientResponse]
  split_ifs
  · exact h₁
  · exact hP.startKeepaliveTimer h₁ _
  · exact hP.sendKeepaliveRequest h₁ ho

lemma httpClientData (h : P v) (rx : UInt8) (data : List UInt8) (dataLen : UInt16) :
    P (httpClientProcessData ws rx data dataLen v).2.2 := by
  have h₁ := hP.parse h data dataLen
  rw [httpClientProcessData]
  dsimp only
  generalize httpParseRun data dataLen v = r at h₁ ⊢
  have h₂ : P { r.2 with sk := socketInitHttp r.2.sk } := hP.touch h₁ rfl rfl rfl rfl
  split
  · split_ifs <;> exact hP.touch h₁ rfl rfl rfl rfl
  · split_ifs
    · exact h₂
    · exact hP.startKeepaliveTimer h₂ _
    · exact hP.touch h₂ rfl rfl rfl rfl
  · exact hP.touch h₂ rfl rfl rfl rfl

lemma clientAnswer (h : P v) (rx tx : UInt8) : P (tcpClientAnswer ws rx tx v) := by
  have hr := hP.finFlags h rx tx
  rw [tcpClientAnswer]
  generalize tcpFinFlags rx tx v = r at hr ⊢
  split_ifs
  · exact hP.reply _ hr
  · exact hr
  · exact hr

/-- A client and an accepted segment. -/
lemma clientAccepted {th : Tcphdr} {dataLen : UInt16} (data : List UInt8)
    (h : P (v.log (.accepted th.seq th.ack (acceptedLen th dataLen)))) :
    P (tcpClientAccepted ws th data dataLen v).2 := by
  rw [tcpClientAccepted]
  dsimp only
  generalize v.log _ = u at h ⊢
  by_cases he : u.sk.state = .established
  · have ho : u.sk.state ≠ .closed := by simp [he]
    have h₂ : P (if dataLen ≠ 0 then
        if ws.cfg.http = true then httpClientProcessData ws th.flags data dataLen u
        else ((tcpClientResponse ws data dataLen u).1, AckDelay.none,
          (tcpClientResponse ws data dataLen u).2)
        else (0, .none, u)).2.2 := by
      split_ifs
      · exact hP.httpClientData h _ _ _
      · exact hP.clientResponse h ho _ _
      · exact h
    rw [if_pos he]
    generalize (if dataLen ≠ 0 then _ else _ : UInt8 × AckDelay × View) = t at h₂ ⊢
    split_ifs
    · exact hP.close (hP.reply _ h₂)
    · exact hP.clientAnswer h₂ _ _
  · rw [if_neg he]
    exact hP.clientAnswer h _ _

/-- `hsyn` is about the `SYN-ACK` that a client waited for. -/
lemma clientProcessSynAck (h : P v) {th : Tcphdr}
    (hsyn : ∀ {u : View}, P u → u.sk.state = .synSent → P ({ u with
      sk.rcvNxt := th.seq + 1
      sk.sndUna := th.ack
      sk.state := .established }.log (.synAck th.seq th.ack))) :
    P (tcpClientProcessSynAck ws th v) := by
  rw [tcpClientProcessSynAck]
  dsimp only
  split_ifs with hs
  · exact hP.count h rfl
  · exact hP.reply _ (hsyn (hP.count h rfl) hs)
  · exact hP.count (hP.reply _ (hP.count h rfl)) rfl
  · exact hP.count h rfl
  · exact hP.count h rfl

lemma doKeepalive (h : P v) : P (tcpDoKeepalive ws v) := by
  have h₁ := hP.doKeepalive_syn h
  rw [tcpDoKeepalive]
  split_ifs with hn _ _ hs _
  · exact hP.startKeepaliveTimer h₁ _
  · exact hP.close h
  · exact hP.reply _ (hP.move h (by simp [hs.2]) (by simp) (by simp))
  · exact h
  · have he : v.sk.state = .established := not_not.mp fun h => hn (.inr (.inl h))
    exact hP.sendKeepaliveRequest h (by simp [he])
  · exact h

lemma clientStart (h : P v) : P (tcpClientStart ws v) := by
  have h₁ := hP.reply thSyn h
  have h₂ := hP.doKeepalive_syn h
  rw [tcpClientStart]
  dsimp only
  split_ifs
  · exact hP.startKeepaliveTimer h₂ _
  · exact hP.close h₁
  · exact h₁

lemma ackDelayDone (h : P v) (b : Bool) : P (tcpAckDelayDone ws b v) := by
  have h₁ : P { v with sk.httpAck := true } := hP.touch h rfl rfl rfl rfl
  rw [tcpAckDelayDone]
  dsimp only
  split_ifs
  · exact hP.startKeepaliveTimer h₁ _
  · exact h₁

lemma ackDelayFlushOne (h : P v) : P (tcpAckDelayFlushOne ws v) := by
  have h₁ : P { v with sk.httpAck := false } := hP.touch h rfl rfl rfl rfl
  rw [tcpAckDelayFlushOne]
  dsimp only
  split_ifs
  · exact hP.reply _ h₁
  · exact h₁
  · exact h

end Steady

end Dperf
