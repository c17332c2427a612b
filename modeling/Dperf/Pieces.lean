import Dperf.Turns

/-!
The calls on a TCP socket with any `send_window`, floods included, taken apart into the functions
that they are built from.

* `Touched`: what a call may change besides.
* `Piece`: one function; `pieces_run`: every call is a sequence of them. An invariant of a socket
  has to be checked for the pieces only (`of_pieces`).
-/

namespace Dperf

/-- Nothing happens to the numbers that are sent, to the timer and to the node of the socket, and
no delayed acknowledgement is listed; an open socket stays open. -/
structure Touched (v v' : View) : Prop where
  state : v'.sk.state = v.sk.state ∨
    v.sk.state ≠ .closed ∧ v'.sk.state ≠ .closed ∧ v'.sk.state ≠ .timeWait
  sndNxt : v'.sk.sndNxt = v.sk.sndNxt
  sndUna : v'.sk.sndUna = v.sk.sndUna
  timerTsc : v'.sk.timerTsc = v.sk.timerTsc
  httpAck : v'.sk.httpAck = true → v.sk.httpAck = true
  link : v'.link = v.link

/-- One function of a call of the kind `k` on the socket `e`: a server acknowledges what it found
sent, and opens what it found closed. -/
inductive Piece (ws : WorkSpace) (k : Call) (e : Socket) : View → View → Prop
  | touch {v v'} (h : Touched v v') : Piece ws k e v v'
  | unlink {v} : Piece ws k e v (socketNodeDel v)
  | ackAll {v} (he : ws.cfg.server = true → v.sk.sndNxt = e.sndNxt) :
      Piece ws k e v { v with sk.sndUna := v.sk.sndNxt }
  | ackPart {v} {ack : UInt32} (he : v.sk.sndNxt = e.sndNxt ∧ v.sk.sndUna = e.sndUna)
      (hw : ws.sendWindow ≠ 0) (hle : tcpSeqLe ack v.sk.sndNxt = true)
      (hgt : tcpSeqGt ack v.sk.sndUna = true) :
      Piece ws k e v { v with sk.sndUna := ack }
  | close {v} : Piece ws k e v (socketClose v)
  | serverOpen {v} {th : Tcphdr} (hs : ws.cfg.server = true)
      (he : e.state = .closed ∨ e.state = .timeWait) :
      Piece ws k e v (socketServerOpen th { v with sk.state := .closed })
  | clientOpen {v} (hs : ws.cfg.server = false) (hk : ∃ turns, k = .launch turns)
      (hc : v.sk.state = .closed) : Piece ws k e v (socketClientOpened ws ws.tsc v)
  | reply {f v} (hf : hasFlag f thSyn = false ∨ hasFlag f thFin = false) :
      Piece ws k e v (tcpReply ws f v)
  | again {v} (hn : v.sk.sndNxt ≠ v.sk.sndUna) : Piece ws k e v (tcpReply ws v.sk.flags v)
  | oneAgain {v} (hw : ws.sendWindow ≠ 0) :
      Piece ws k e v ((fun w : View => { w with sk.sndNxt := v.sk.sndNxt })
        (tcpReply ws (thPush ||| thAck) { v with sk.sndNxt := v.sk.sndUna }))
  | burst {v} {sndMax : UInt32} {m : ℕ} (hw : ws.sendWindow ≠ 0) :
      Piece ws k e v ((fun w : View => { w with sk.sndUna := v.sk.sndUna })
        (tcpReplyMoreLoop ws (v.sk.sndUna + ws.sendWindow) sndMax m v))
  | retransmitTimer {v} (hw : ws.sendWindow ≠ 0) :
      Piece ws k e v (socketStartRetransmitTimer ws.tsc v)
  | keepaliveTimer {v} {tsc : UInt64}
      (hs : v.sk.state = .established ∨ ws.cfg.server = false ∧ ws.cfg.flood = true) :
      Piece ws k e v (socketStartKeepaliveTimer ws tsc v)
  | timeoutTimer {v} (hs : ws.cfg.server = true) (ho : v.sk.state ≠ .closed) :
      Piece ws k e v (socketStartTimeoutTimer ws.tsc v)
  | mark {v} (hk : ∃ b, k = .ackDone b) : Piece ws k e v { v with sk.httpAck := true }

/-- Pieces one after the other. -/
abbrev Pieces (ws : WorkSpace) (k : Call) (e : Socket) : View → View → Prop :=
  Relation.ReflTransGen (Piece ws k e)

/-- What every piece keeps. -/
lemma of_pieces {ws : WorkSpace} {k : Call} {e : Socket} {v v' : View} {P : View → Prop}
    (hP : ∀ u u', Piece ws k e u u' → P u → P u') (h : Pieces ws k e v v') (hv : P v) : P v' := by
  induction h with
  | refl => exact hv
  | tail _ hpiece ih => exact hP _ _ hpiece ih

namespace Pieces

variable {ws : WorkSpace} {k : Call} {e : Socket} {v v' : View}

/-! ### Single functions -/

/-- A change of counters, of the trace and of fields that no piece is about. -/
lemma touch (hs : v'.sk.state = v.sk.state) (hn : v'.sk.sndNxt = v.sk.sndNxt)
    (hu : v'.sk.sndUna = v.sk.sndUna) (ht : v'.sk.timerTsc = v.sk.timerTsc)
    (ha : v'.sk.httpAck = true → v.sk.httpAck = true) (hl : v'.link = v.link) :
    Pieces ws k e v v' := .single (.touch ⟨.inl hs, hn, hu, ht, ha, hl⟩)

lemma count (f : NetStats → NetStats) : Pieces ws k e v (v.count f) := touch rfl rfl rfl rfl id rfl

lemma log (o : Obs) : Pieces ws k e v (v.log o) := touch rfl rfl rfl rfl id rfl

/-- A change of the state of an open socket. -/
lemma move {s : SkState} (ho : v.sk.state ≠ .closed) (hs : s ≠ .closed) (ht : s ≠ .timeWait) :
    Pieces ws k e v { v with sk.state := s } :=
  .single (.touch ⟨.inr ⟨ho, hs, ht⟩, rfl, rfl, rfl, id, rfl⟩)

/-- A segment without `SYN`. -/
lemma reply {f : UInt8} (hf : hasFlag f thSyn = false) : Pieces ws k e v (tcpReply ws f v) :=
  .single (.reply (.inl hf))

lemma doRetransmit (ws : WorkSpace) (k : Call) (v : View) :
    Pieces ws k e v (tcpDoRetransmit ws v) := by
  have hnum : Pieces ws k e v { v with sk.retrans := v.sk.retrans + 1 } :=
    touch rfl rfl rfl rfl id rfl
  have hs := tcpDoRetransmit_step ws v
  generalize tcpDoRetransmit ws v = r at hs ⊢
  cases hs with
  | acked => exact touch rfl rfl rfl rfl id rfl
  | handedOver => exact .single .close
  | burst hn hl hw =>
      refine Relation.ReflTransGen.tail ?_ (.retransmitTimer hw)
      have hone := hnum.tail (.oneAgain hw)
      exact hone.trans (touch rfl rfl rfl rfl id rfl)
  | again hn => exact (hnum.tail (.again hn)).trans (count _)
  | giveUp => exact (hnum.trans (count _)).tail .close

lemma acceptInOrder {th : Tcphdr} (dataLen : UInt16) (he : v.sk = e) (hin : inOrder th v.sk) :
    Pieces ws k e v (tcpAcceptInOrder ws th dataLen v) := by
  have hack : th.ack = v.sk.sndNxt := hin.1
  have hall : Pieces ws k e v { v with
      sk.retrans := 0
      sk.sndUna := th.ack
      sk.rcvNxt := th.seq + (finLen th dataLen).toUInt32 } := by
    have hall : Pieces ws k e v { v with sk.sndUna := v.sk.sndNxt } :=
      .single (.ackAll fun _ => by rw [he])
    rw [hack]
    exact hall.trans (touch rfl rfl rfl rfl id rfl)
  rw [tcpAcceptInOrder]
  dsimp only
  split_ifs
  · rw [socketStopRetransmitTimer]
    dsimp only
    rw [if_pos hack.symm]
    exact (hall.trans (touch rfl rfl rfl rfl id rfl)).tail .unlink
  · exact hall
  · refine hall.trans ?_
    have hgrow : ∀ u : View, Pieces ws k e u { u with sk := growWindow u.sk } := by
      intro u
      rw [growWindow]
      split_ifs
      · exact touch rfl rfl rfl rfl id rfl
      · exact .refl
    exact hgrow _

lemma checkSequence (ws : WorkSpace) (k : Call) (th : Tcphdr) (dataLen : UInt16) (v : View)
    (he : v.sk = e) :
    Pieces ws k e v (tcpCheckSequence ws th dataLen v).2 := by
  have hs := tcpCheckSequence_step ws th dataLen v
  generalize tcpCheckSequence ws th dataLen v = r at hs ⊢
  cases hs with
  | accept hin => exact acceptInOrder dataLen he hin
  | closedSocket => exact touch rfl rfl rfl rfl id rfl
  | simultaneous _ hf =>
      have hopen : v.sk.state ≠ .closed := by simp [hf.1]
      have hmove : Pieces ws k e v { v with sk.state := .closing } :=
        move hopen (by simp) (by simp)
      exact hmove.trans (touch rfl rfl rfl rfl id rfl)
  | drop => exact .refl
  | newAck _ _ _ hw hle hgt =>
      have hack : Pieces ws k e v { v with sk.sndUna := th.ack } := 
        .single (.ackPart ⟨by rw [he], by rw [he]⟩ hw hle hgt)
      dsimp only
      rw [growWindow]
      split_ifs <;> exact hack.trans (touch rfl rfl rfl rfl id rfl)
  | dupAck => exact touch rfl rfl rfl rfl id rfl
  | thirdDupAck _ _ hw ha =>
      have hnum : Pieces ws k e v ({ v with sk.retrans := v.sk.retrans + 1 }.count fun s =>
          { s with ackDup := s.ackDup + 1 }) := touch rfl rfl rfl rfl id rfl
      have hone := hnum.tail (.oneAgain hw)
      rw [ha]
      exact hone.trans (touch rfl rfl rfl rfl id rfl)
  | fastRetransmit => exact doRetransmit ws k v

/-- `tcp_process_fin` asks for no `SYN`. -/
lemma finFlags (ws : WorkSpace) (k : Call) (rx : UInt8) {tx : UInt8} (v : View)
    (htx : hasFlag tx thSyn = false) :
    Pieces ws k e v (tcpFinFlags rx tx v).2 ∧ hasFlag (tcpFinFlags rx tx v).1 thSyn = false := by
  have hor : ∀ f : UInt8, hasFlag f thSyn = false → hasFlag (tx ||| f) thSyn = false := by
    intro f hf
    rw [hasFlag_or, htx, hf]
    rfl
  have hs := tcpFinFlags_step rx tx v
  generalize tcpFinFlags rx tx v = r at hs ⊢
  cases hs with
  | keep => exact ⟨.refl, htx⟩
  | passive hs => exact ⟨move (by simp [hs]) (by simp) (by simp), hor _ rfl⟩
  | active hs => exact ⟨move (by simp [hs]) (by simp) (by simp), hor _ rfl⟩
  | finAcked hs => exact ⟨move (by simp [hs]) (by simp) (by simp), htx⟩
  | finBoth => exact ⟨.single .close, hor _ rfl⟩
  | closing hs => exact ⟨move (by simp [hs]) (by simp) (by simp), hor _ rfl⟩
  | lastAck => exact ⟨.single .close, htx⟩

lemma processRst : Pieces ws k e v (tcpProcessRst v) := by
  rw [tcpProcessRst]
  split_ifs
  · exact .single .close
  · exact .refl

/-! ### The server -/

lemma serverAnswer (hs : ws.cfg.server = true) (rx : UInt8) {tx : UInt8} (v : View)
    (htx : hasFlag tx thSyn = false) : Pieces ws k e v (tcpServerAnswer ws rx tx v) := by
  obtain ⟨hfin, hsyn⟩ := finFlags ws k rx v htx
  rw [tcpServerAnswer]
  generalize tcpFinFlags rx tx v = r at hfin hsyn ⊢
  split_ifs with h0 ho
  · exact hfin.trans (reply hsyn)
  · exact hfin.tail (.timeoutTimer hs ho)
  · exact hfin

lemma replyMore (hs : ws.cfg.server = true) (hw : ws.sendWindow ≠ 0)
    (ho : v.sk.state ≠ .closed) : Pieces ws k e v (tcpReplyMore ws v) := by
  have hburst : Pieces ws k e v ((fun w : View => { w with sk.sndUna := v.sk.sndUna })
      (tcpReplyMoreLoop ws (v.sk.sndUna + ws.sendWindow) v.sk.sndMax v.sk.sndWindow.toNat v)) :=
    .single (.burst hw)
  have hstate := tcpReplyMoreLoop_state ws (v.sk.sndUna + ws.sendWindow) v.sk.sndMax
    v.sk.sndWindow.toNat v
  rw [tcpReplyMore]
  dsimp only at hburst ⊢
  generalize tcpReplyMoreLoop ws _ _ _ v = u at hburst hstate ⊢
  have hu : u.sk.state ≠ .closed := hstate.symm ▸ ho
  split_ifs
  · exact hburst.tail (.timeoutTimer hs hu)
  · have hfin : Pieces ws k e { u with sk.sndUna := v.sk.sndUna }
        { u with sk.sndUna := v.sk.sndUna, sk.state := .finWait1 } :=
      move hu (by simp) (by simp)
    exact (hburst.trans hfin).trans (reply rfl)
  · exact hburst

lemma serverStartResponse (hs : ws.cfg.server = true) (hw : ws.sendWindow ≠ 0)
    (ho : v.sk.state ≠ .closed) : Pieces ws k e v (tcpServerStartResponse ws v) := by
  rw [tcpServerStartResponse]
  dsimp only
  generalize hu : ({ v with sk := socketInitHttpServer ws.payloadSize v.sk } : View).count _ = u
  have hinit : Pieces ws k e v u := by
    rw [← hu]
    exact touch rfl rfl rfl rfl (fun h => by cases h) rfl
  have hopen : u.sk.state ≠ .closed := by
    rw [← hu]
    exact ho
  refine Relation.ReflTransGen.tail (hinit.trans ?_) (.retransmitTimer hw)
  split_ifs
  · exact replyMore hs hw hopen
  · have hpush : Pieces ws k e u (tcpReply ws (thPush ||| thAck) u) := reply rfl
    exact hpush.trans (touch rfl rfl rfl rfl id rfl)

lemma serverAccepted (hs : ws.cfg.server = true) (th : Tcphdr) (data : List UInt8)
    (dataLen : UInt16) (v : View) (ho : v.sk.state ≠ .closed) :
    Pieces ws k e v (tcpServerAccepted ws th data dataLen v) := by
  have hopen : v.sk.state.establish ≠ .closed := SkState.establish_ne ho (by simp)
  have hacc : Pieces ws k e v { v.log (.accepted th.seq th.ack (acceptedLen th dataLen)) with
      sk.state := v.sk.state.establish } := by
    refine .single (.touch ⟨?_, rfl, rfl, rfl, id, rfl⟩)
    by_cases ht : v.sk.state = .timeWait
    · exact .inl (by rw [ht]; rfl)
    · exact .inr ⟨ho, hopen, SkState.establish_ne ht (by simp)⟩
  have hreq : Pieces ws k e v ((({ v.log (.accepted th.seq th.ack (acceptedLen th dataLen)) with
      sk.state := v.sk.state.establish } : View).count (httpParseRequest data dataLen)).log
        (.request th.seq (data.take dataLen.toNat))) :=
    (hacc.trans (count _)).trans (log _)
  rw [tcpServerAccepted]
  dsimp only
  split_ifs with he hd hw hw
  · exact hreq.trans (serverStartResponse hs hw.1 hopen)
  · exact hreq.trans (serverAnswer hs _ _ (responseFlags_seq _).2)
  · exact hacc.trans (replyMore hs hw.1 hopen)
  · exact hacc.trans (serverAnswer hs _ _ rfl)
  · exact hacc.trans (serverAnswer hs _ _ rfl)

lemma serverProcessSyn (hs : ws.cfg.server = true) (he : v.sk = e) (th : Tcphdr) :
    Pieces ws k e v (tcpServerProcessSyn ws th v) := by
  have hopens : v.sk.state = .closed ∨ v.sk.state = .timeWait →
      Pieces ws k e v (tcpReply ws (thSyn ||| thAck)
        (socketServerOpen th { v with sk.state := .closed })) :=
    fun hc => (Relation.ReflTransGen.single (.serverOpen hs (he ▸ hc))).tail (.reply (.inr rfl))
  rw [tcpServerProcessSyn]
  dsimp only
  by_cases ht : v.sk.state = .timeWait
  · rw [if_pos ht, if_pos rfl]
    exact hopens (.inr ht)
  · rw [if_neg ht]
    split_ifs with hc hr
    · have hsame : ({ v with sk.state := .closed } : View) = v := by rw [← hc]
      have hopened := hopens (.inl hc)
      rwa [hsame] at hopened
    · exact (Relation.ReflTransGen.single (.reply (.inr rfl))).trans (count _)
    · exact .refl
    · exact count _

lemma serverInput (hs : ws.cfg.server = true) (m : Mbuf) :
    Pieces ws k v.sk v (tcpServerInput ws m v) := by
  have hsk : (v.count (tcpFlagsRxCount m.th.flags)).sk = v.sk := rfl
  refine (count (tcpFlagsRxCount m.th.flags)).trans ?_
  rw [tcpServerInput]
  generalize v.count (tcpFlagsRxCount m.th.flags) = u at hsk ⊢
  split_ifs
  · have hcheck := checkSequence ws k m.th (tcpDataGet m).2 u hsk
    rw [tcpServerProcessData]
    split_ifs with hr
    · exact hcheck.trans (count _)
    · have hlive := tcpCheckSequence_live (Bool.not_eq_false _ ▸ hr)
      exact hcheck.trans (serverAccepted hs _ _ _ _ hlive)
  · exact serverProcessSyn hs hsk _
  · exact processRst
  · exact count _

/-! ### The client -/

lemma sendKeepaliveRequest (ho : v.sk.state ≠ .closed) :
    Pieces ws k e v (tcpSendKeepaliveRequest ws v) := by
  have hnum : Pieces ws k e v
      { v with sk.keepaliveRequestNum := v.sk.keepaliveRequestNum + 1 } :=
    touch rfl rfl rfl rfl id rfl
  have hpush : Pieces ws k e v (tcpReply ws (thAck ||| thPush)
      { v with sk.keepaliveRequestNum := v.sk.keepaliveRequestNum + 1 }) :=
    hnum.trans (reply rfl)
  have hfin : Pieces ws k e v (tcpReply ws (thAck ||| thFin) { v with sk.state := .finWait1 }) :=
    (move ho (by simp) (by simp)).trans (reply rfl)
  rw [tcpSendKeepaliveRequest]
  dsimp only
  split_ifs
  · refine hpush.trans ?_
    exact touch rfl rfl rfl rfl id rfl
  · exact hpush
  · refine hfin.trans ?_
    exact touch rfl rfl rfl rfl id rfl

lemma response (ws : WorkSpace) (k : Call) (data : List UInt8) (dataLen : UInt16) (v : View)
    (he : v.sk.state = .established) :
    Pieces ws k e v (tcpClientResponse ws data dataLen v).2 ∧
      hasFlag (tcpClientResponse ws data dataLen v).1 thSyn = false := by
  have hcount : Pieces ws k e v (v.count (httpParseResponse data dataLen)) := count _
  have hack : hasFlag thAck thSyn = false := rfl
  have hfin : hasFlag (thAck ||| thFin) thSyn = false := rfl
  rw [tcpClientResponse]
  split_ifs
  · exact ⟨hcount, hfin⟩
  · exact ⟨hcount.tail (.keepaliveTimer (.inl he)), hack⟩
  · refine ⟨hcount.trans (sendKeepaliveRequest ?_), hack⟩
    simp [he]

lemma httpClientData (ws : WorkSpace) (k : Call) (rx : UInt8) (data : List UInt8)
    (dataLen : UInt16) (v : View) (he : v.sk.state = .established) :
    Pieces ws k e v (httpClientProcessData ws rx data dataLen v).2.2 ∧
      hasFlag (httpClientProcessData ws rx data dataLen v).1 thSyn = false := by
  obtain ⟨_, _, _, _, -, hsk⟩ := httpParseRun_httpOnly data dataLen v
  obtain ⟨hl, -, -⟩ := httpParseRun_rest data dataLen v
  rw [httpClientProcessData]
  dsimp only
  generalize httpParseRun data dataLen v = r at hsk hl ⊢
  have hst : r.2.sk.state = .established := by rw [hsk, he]
  have htouch : ∀ w : View, w.sk.state = r.2.sk.state → w.sk.sndNxt = r.2.sk.sndNxt →
      w.sk.sndUna = r.2.sk.sndUna → w.sk.timerTsc = r.2.sk.timerTsc →
      (w.sk.httpAck = true → r.2.sk.httpAck = true) → w.link = r.2.link → Pieces ws k e v w :=
    fun w hs hn hu ht ha hw => touch (by rw [hs, hsk]) (by rw [hn, hsk]) (by rw [hu, hsk])
      (by rw [ht, hsk]) (fun h => by have h' := ha h; rwa [hsk] at h') (hw.trans hl)
  have hinit : Pieces ws k e v { r.2 with sk := socketInitHttp r.2.sk } :=
    htouch _ rfl rfl rfl rfl (fun h => by cases h) rfl
  have hnone : hasFlag 0 thSyn = false := rfl
  have hack : hasFlag thAck thSyn = false := rfl
  have hfin : hasFlag (thAck ||| thFin) thSyn = false := rfl
  split
  · split_ifs
    · exact ⟨htouch _ rfl rfl rfl rfl id rfl, hnone⟩
    · exact ⟨htouch _ rfl rfl rfl rfl id rfl, hnone⟩
    · exact ⟨htouch _ rfl rfl rfl rfl id rfl, hack⟩
    · exact ⟨htouch _ rfl rfl rfl rfl id rfl, hack⟩
  · split_ifs
    · exact ⟨hinit, hnone⟩
    · exact ⟨hinit.tail (.keepaliveTimer (.inl hst)), hnone⟩
    · exact ⟨htouch _ rfl rfl rfl rfl (fun h => by cases h) rfl, hfin⟩
  · exact ⟨htouch _ rfl rfl rfl rfl (fun h => by cases h) rfl, hfin⟩

lemma clientAnswer (rx : UInt8) {tx : UInt8} (htx : hasFlag tx thSyn = false) :
    Pieces ws k e v (tcpClientAnswer ws rx tx v) := by
  obtain ⟨hfin, hsyn⟩ := finFlags ws k rx v htx
  rw [tcpClientAnswer]
  generalize tcpFinFlags rx tx v = r at hfin hsyn ⊢
  split_ifs
  · exact hfin.trans (reply hsyn)
  · exact hfin
  · exact hfin

/-- The answer, or the reset of `fast_close`. -/
lemma clientDone (rx : UInt8) {tx : UInt8} (htx : hasFlag tx thSyn = false) :
    Pieces ws k e v (if hasFlag tx thFin && ws.cfg.fastClose then tcpFastClose ws v
      else tcpClientAnswer ws rx tx v) := by
  split_ifs
  · have hrst : Pieces ws k e v (tcpReply ws (thRst ||| thAck) v) := reply rfl
    exact hrst.tail .close
  · exact clientAnswer rx htx

lemma clientAccepted (th : Tcphdr) (data : List UInt8) (dataLen : UInt16) :
    Pieces ws k e v (tcpClientAccepted ws th data dataLen v).2 := by
  refine (log (.accepted th.seq th.ack (acceptedLen th dataLen))).trans ?_
  rw [tcpClientAccepted]
  dsimp only
  generalize v.log (.accepted th.seq th.ack (acceptedLen th dataLen)) = u
  by_cases he : u.sk.state = .established
  · rw [if_pos he, apply_ite Prod.snd]
    by_cases hd : dataLen ≠ 0
    · rw [if_pos hd]
      by_cases hh : ws.cfg.http = true
      · rw [if_pos hh]
        obtain ⟨hdata, hsyn⟩ := httpClientData ws k th.flags data dataLen u he
        exact hdata.trans (clientDone _ hsyn)
      · rw [if_neg hh]
        obtain ⟨hdata, hsyn⟩ := response ws k data dataLen u he
        exact hdata.trans (clientDone _ hsyn)
    · have hnone : hasFlag 0 thSyn = false := rfl
      rw [if_neg hd]
      exact clientDone _ hnone
  · rw [if_neg he]
    exact clientAnswer _ rfl

lemma clientProcessSynAck (he : v.sk = e) (th : Tcphdr) :
    Pieces ws k e v (tcpClientProcessSynAck ws th v) := by
  rw [tcpClientProcessSynAck]
  dsimp only
  split_ifs with hst ha hest
  · exact count _
  · have hack : th.ack = v.sk.sndNxt := not_not.mp ha
    have hall : Pieces ws k e v { v with sk.sndUna := v.sk.sndNxt } :=
      .single (.ackAll fun _ => by rw [he])
    have hmove : Pieces ws k e v
        { v with sk.sndUna := v.sk.sndNxt, sk.state := .established } :=
      hall.trans (move (by simp [hst]) (by simp) (by simp))
    rw [hack]
    refine Relation.ReflTransGen.tail (hmove.trans ?_) (.reply (.inl rfl))
    exact touch rfl rfl rfl rfl id rfl
  · have hlost : Pieces ws k e v (v.count fun s => { s with pktLost := s.pktLost + 1 }) := count _
    exact (hlost.trans (reply rfl)).trans (count _)
  · exact count _
  · exact count _

lemma clientInput (m : Mbuf) : Pieces ws k v.sk v (tcpClientInput ws m v).2 := by
  have hsk : (v.count (tcpFlagsRxCount m.th.flags)).sk = v.sk := rfl
  refine (count (tcpFlagsRxCount m.th.flags)).trans ?_
  rw [tcpClientInput]
  generalize v.count (tcpFlagsRxCount m.th.flags) = u at hsk ⊢
  split_ifs
  · have hcheck := checkSequence ws k m.th (tcpDataGet m).2 u hsk
    rw [tcpClientProcessData]
    generalize tcpCheckSequence ws m.th (tcpDataGet m).2 u = r at hcheck ⊢
    split_ifs
    · dsimp only
      exact hcheck.trans (count _)
    · exact hcheck.trans (clientAccepted _ _ _)
  · exact clientProcessSynAck hsk _
  · exact processRst
  · dsimp only
    exact count _

/-- A `SYN` of a flood, which is taken for acknowledged. -/
lemma floodSyn (hc : ws.cfg.server = false) : Pieces ws k e v
    ((fun w : View => { w with sk.sndUna := w.sk.sndNxt }) (tcpReply ws thSyn v)) := by
  have hsyn : Pieces ws k e v (tcpReply ws thSyn v) := .single (.reply (.inr rfl))
  exact hsyn.tail (.ackAll fun hs => absurd (hs.symm.trans hc) (by simp))

lemma doKeepalive (hc : ws.cfg.server = false) : Pieces ws k e v (tcpDoKeepalive ws v) := by
  rw [tcpDoKeepalive]
  split_ifs with hn hfl hd hst
  · exact (floodSyn hc).tail (.keepaliveTimer (.inr ⟨hc, hfl⟩))
  · exact .single .close
  · exact (move (by simp [hst.2]) (by simp) (by simp)).trans (reply rfl)
  · exact .refl
  · rw [not_or, not_or, not_not, not_not] at hn
    exact sendKeepaliveRequest (by simp [hn.2.1])

lemma clientStart (hc : ws.cfg.server = false) : Pieces ws k e v (tcpClientStart ws v) := by
  have hsyn : Pieces ws k e v (tcpReply ws thSyn v) := .single (.reply (.inr rfl))
  rw [tcpClientStart]
  dsimp only
  split_ifs with hf
  · exact (floodSyn hc).tail (.keepaliveTimer (.inr ⟨hc, hf⟩))
  · exact hsyn.tail .close
  · exact hsyn

lemma ackDelayDone (b : Bool) (hk : k = .ackDone b) (he : v.sk.state = .established) :
    Pieces ws k e v (tcpAckDelayDone ws b v) := by
  have hmark : Pieces ws k e v { v with sk.httpAck := true } := .single (.mark ⟨b, hk⟩)
  rw [tcpAckDelayDone]
  dsimp only
  split_ifs
  · exact hmark.tail (.keepaliveTimer (.inl he))
  · exact hmark

lemma ackDelayFlushOne : Pieces ws k e v (tcpAckDelayFlushOne ws v) := by
  have hclear : Pieces ws k e v { v with sk.httpAck := false } :=
    touch rfl rfl rfl rfl (fun h => by cases h) rfl
  rw [tcpAckDelayFlushOne]
  dsimp only
  split_ifs
  · exact hclear.trans (reply rfl)
  · exact hclear
  · exact .refl

end Pieces

/-! ### Calls -/

/-- Every call on a TCP socket is a sequence of pieces. -/
theorem pieces_run {ws : WorkSpace} (hp : ws.cfg.protocol = .tcp) {k : Call}
    (hm : k.Allowed ws.cfg) {v : View} (hd : ∀ b, k = .ackDone b → v.sk.state = .established) :
    Pieces ws k v.sk v (k.run ws v) := by
  have hdel : Pieces ws k v.sk v (socketDelTimer v) := .single .unlink
  cases k with
  | input m =>
      rw [Call.run, l4Input, hp]
      cases hs : ws.cfg.server with
      | true => exact Pieces.serverInput hs m
      | false => exact Pieces.clientInput m
  | ackDone b => exact Pieces.ackDelayDone b rfl (hd b rfl)
  | ackFlush => exact Pieces.ackDelayFlushOne
  | retransmit =>
      rw [Call.run, hp]
      exact hdel.trans (Pieces.doRetransmit ws _ _)
  | keepalive =>
      rw [Call.run, hp]
      exact hdel.trans (Pieces.doKeepalive hm.1)
  | timeout => exact (hdel.trans (Pieces.count _)).tail .close
  | launch turns =>
      rw [Call.run, hp, socketClientOpen]
      by_cases hc : v.sk.state = .closed
      · rw [if_pos hc]
        have hopen : Pieces ws (.launch turns) v.sk v (socketClientOpened ws ws.tsc v) :=
          .single (.clientOpen hm ⟨turns, rfl⟩ hc)
        exact hopen.trans (Pieces.clientStart hm)
      · rw [if_neg hc]
        exact .refl
  | disableKeepalive => exact Pieces.touch rfl rfl rfl rfl id rfl

end Dperf
