import Dperf.Moves

/-!
The calls on a TCP socket with any `send_window`, taken apart into what they do to the numbers
that are sent, to `retrans` and to the timer of the socket.

* `Spends`: the calls after which `retrans` counts more than the retransmissions of what is
  outstanding.
* `Act`: one thing that a call does. `acts_run`: every call is a sequence of acts.
-/

namespace Dperf

/-! ### What `retrans` counts -/

/-- `tcp_do_retransmit` sends something again and counts it. -/
def Retransmits (sk : Socket) : Prop :=
  sk.sndNxt ≠ sk.sndUna ∧ sk.laddr ≠ 0 ∧ (sk.retrans + 1).val < retransmitNumMax

instance (sk : Socket) : Decidable (Retransmits sk) := inferInstanceAs (Decidable (_ ∧ _ ∧ _))

/-- The flags that `tcp_do_retransmit` sends again. -/
def againFlags (ws : WorkSpace) (sk : Socket) : UInt8 :=
  if ws.sendWindow ≠ 0 ∧ hasFlag sk.flags thPush then thPush ||| thAck else sk.flags

/-- A retransmission is counted, and nothing of what is outstanding is sent: no mbuf is found,
or the saved flags are those of a later acknowledgement. -/
def CountsUnsent (ws : WorkSpace) (v : View) : Prop :=
  Retransmits v.sk ∧ ¬ (ws.mbufAlloc v.allocs = true ∧ 0 < segLen ws (againFlags ws v.sk))

/-- The segment makes `tcp_check_sequence` call `tcp_do_retransmit`. -/
structure FastRetransmits (ws : WorkSpace) (m : Mbuf) (sk : Socket) : Prop where
  kind : dataFlags m
  window : ws.sendWindow = 0
  order : ¬ inOrder m.th sk
  crossed : ¬ simultaneousFin m.th (tcpDataGet m).2 sk
  live : sk.state ≠ .closed
  ack : tcpSeqLe m.th.ack sk.sndNxt = true
  due : sk.timerTsc + ws.tscPerSec < ws.tsc

/-- The segment makes `tcp_check_sequence` count a duplicate acknowledgement; with the third one
`retrans` starts again. -/
structure CountsDupAck (ws : WorkSpace) (m : Mbuf) (sk : Socket) : Prop where
  kind : dataFlags m
  window : ws.sendWindow ≠ 0
  order : ¬ inOrder m.th sk
  crossed : ¬ simultaneousFin m.th (tcpDataGet m).2 sk
  live : sk.state ≠ .closed
  ack : m.th.ack = sk.sndUna
  le : tcpSeqLe m.th.ack sk.sndNxt = true
  few : (sk.retrans + 1).val < 3

/-- The calls after which `retrans` counts more than the retransmissions of what is
outstanding. -/
inductive Spends (ws : WorkSpace) (v : View) : Call → Prop
  /-- A `SYN-ACK` acknowledges a `SYN` that was sent again, and `retrans` stays. -/
  | synAck {m : Mbuf} (hs : ws.cfg.server = false) (hf : m.th.flags = thSyn ||| thAck)
      (hst : v.sk.state = .synSent) (ha : m.th.ack = v.sk.sndNxt) (hr : v.sk.retrans ≠ 0) :
      Spends ws v (.input m)
  | dupAck {m : Mbuf} (h : CountsDupAck ws m v.sk) : Spends ws v (.input m)
  | unsent (h : CountsUnsent ws v) : Spends ws v .retransmit
  | unsentFast {m : Mbuf} (hm : FastRetransmits ws m v.sk) (h : CountsUnsent ws v) :
      Spends ws v (.input m)
  /-- A flood takes its `SYN` for acknowledged, and `retrans` stays. -/
  | flood (hf : ws.cfg.flood = true) (hd : workSpaceInDuration ws = true)
      (hv : v.sk.sndNxt ≠ v.sk.sndUna ∨ v.sk.state ≠ .established ∨ v.sk.keepalive = false)
      (hr : v.sk.retrans ≠ 0) : Spends ws v .keepalive

/-- Counters do not matter. -/
lemma Spends.of_count {ws : WorkSpace} {k : Call} {v : View} {f : NetStats → NetStats}
    (h : Spends ws (v.count f) k) : Spends ws v k := by
  cases h with
  | synAck hs hf hst ha hr => exact .synAck hs hf hst ha hr
  | dupAck h => exact .dupAck h
  | unsent h => exact .unsent h
  | unsentFast hm h => exact .unsentFast hm h
  | flood hf hd hv hr => exact .flood hf hd hv hr

/-! ### Acts -/

/-- Entries that neither open a connection nor send a segment. -/
def Obs.Idle : Obs → Prop
  | .opened .. | .sent .. => False
  | _ => True

/-- Nothing happens to the sending side but that a timer may be stopped. -/
structure Untouched (v v' : View) : Prop where
  live : v'.sk.state = .closed ↔ v.sk.state = .closed
  sndNxt : v'.sk.sndNxt = v.sk.sndNxt
  sndUna : v'.sk.sndUna = v.sk.sndUna
  retrans : v'.sk.retrans = v.sk.retrans
  timerTsc : v'.sk.timerTsc = v.sk.timerTsc
  keepalive : v'.sk.keepalive = true → v.sk.keepalive = true
  link : v'.link = v.link ∨ v'.link = .self
  trace : ∃ r, v'.trace = v.trace ++ r ∧ ∀ o ∈ r, o.Idle

/-- An acknowledgement of all or, with a send window, of a part of what is outstanding. -/
structure Acked (ws : WorkSpace) (v v' : View) : Prop where
  state : v'.sk.state = v.sk.state
  sndNxt : v'.sk.sndNxt = v.sk.sndNxt
  sndUna : v'.sk.sndUna = v.sk.sndNxt ∨ v.sk.state = .closed ∧ v'.sk.sndUna = v.sk.sndUna ∨
    ws.sendWindow ≠ 0 ∧ tcpSeqLe v'.sk.sndUna v.sk.sndNxt = true ∧
      tcpSeqGt v'.sk.sndUna v.sk.sndUna = true
  retrans : v'.sk.retrans = 0
  timerTsc : v'.sk.timerTsc = v.sk.timerTsc
  keepalive : v'.sk.keepalive = v.sk.keepalive
  link : v'.link = v.link ∨ v'.link = .self
  trace : v'.trace = v.trace

/-- With the third duplicate acknowledgement a segment is sent again, and `retrans` starts again. -/
structure Resends (ws : WorkSpace) (v v' : View) : Prop where
  live : v'.sk.state = v.sk.state
  third : ¬ (v.sk.retrans + 1).val < 3
  sndNxt : v'.sk.sndNxt = v.sk.sndNxt
  sndUna : v'.sk.sndUna = v.sk.sndUna
  retrans : v'.sk.retrans = 0
  trace : ∃ u : View, u.sk.sndUna = v.sk.sndUna ∧ u.trace = v.trace ∧
    v'.trace = (tcpReply ws (thPush ||| thAck) u).trace

/-- A connection is opened. -/
structure Starts (ws : WorkSpace) (v v' : View) : Prop where
  live : v'.sk.state ≠ .closed
  acked : v'.sk.sndNxt = v'.sk.sndUna
  retrans : v'.sk.retrans = 0
  timerTsc : v'.sk.timerTsc = ws.tsc ∨
    ws.cfg.server = true ∧ v'.sk.timerTsc = v.sk.timerTsc
  link : v'.link = v.link ∨ v'.link = .self
  trace : v'.trace = v.trace ++ [.opened v'.sk.sndNxt v'.sk.rcvNxt]

/-- One thing that a call of the kind `k` does to the sending side; `spends` holds where
`retrans` gets out of step with it. -/
inductive Act (ws : WorkSpace) (k : Call) (spends : Prop) : View → View → Prop
  | rest {v v'} (h : Untouched v v') : Act ws k spends v v'
  | ack {v v'} (h : Acked ws v v') : Act ws k spends v v'
  | starts {v v'} (h : Starts ws v v') : Act ws k spends v v'
  | close {v} : Act ws k spends v (socketClose v)
  | reply {f v} (ho : hasFlag f seqFlags = true → v.sk.state ≠ .closed)
      (hf : hasFlag f thSyn = false ∨ hasFlag f thFin = false) :
      Act ws k spends v (tcpReply ws f v)
  | retransmit {v} (ho : v.sk.state ≠ .closed ∨ k = .retransmit)
      (hs : CountsUnsent ws v → spends) : Act ws k spends v (tcpDoRetransmit ws v)
  | dupAck {v v'} (hw : ws.sendWindow ≠ 0) (hs : spends) : Act ws k spends v v'
  | resends {v v'} (hw : ws.sendWindow ≠ 0) (h : Resends ws v v') : Act ws k spends v v'
  | synAck {v} {seq ack : UInt32} (ho : v.sk.state ≠ .closed)
      (hs : v.sk.retrans ≠ 0 → spends) :
      Act ws k spends v
        ({ v with sk.rcvNxt := seq + 1, sk.sndUna := v.sk.sndNxt, sk.state := .established }.log
          (.synAck seq ack))
  | flood {v} (hc : ws.cfg.server = false) (hf : ws.cfg.flood = true)
      (hs : v.sk.retrans ≠ 0 → spends) :
      Act ws k spends v
        ((fun w : View => { w with sk.sndUna := w.sk.sndNxt }) (tcpReply ws thSyn v))
  | burst {v} {sndMax : UInt32} {m : ℕ} (hw : ws.sendWindow ≠ 0) :
      Act ws k spends v ((fun w : View => { w with sk.sndUna := v.sk.sndUna })
        (tcpReplyMoreLoop ws (v.sk.sndUna + ws.sendWindow) sndMax m v))
  | retransmitTimer {v} (hw : ws.sendWindow ≠ 0) :
      Act ws k spends v (socketStartRetransmitTimer ws.tsc v)
  | keepaliveTimer {v} {tsc : UInt64} (ht : tsc = ws.tsc ∨ tsc = v.sk.timerTsc) :
      Act ws k spends v (socketStartKeepaliveTimer ws tsc v)
  | timeoutTimer {v} (hs : ws.cfg.server = true) :
      Act ws k spends v (socketStartTimeoutTimer ws.tsc v)

/-- Acts one after the other. -/
abbrev Acts (ws : WorkSpace) (k : Call) (spends : Prop) : View → View → Prop :=
  Relation.ReflTransGen (Act ws k spends)

/-! ### Single functions -/

section Traversal

variable {ws : WorkSpace} {k : Call} {spends : Prop} {m : Mbuf} {v v' u : View}

/-- A change of counters and of fields that the sending side does not read. -/
lemma Acts.touch (hs : v'.sk.state = .closed ↔ v.sk.state = .closed)
    (hn : v'.sk.sndNxt = v.sk.sndNxt) (hu : v'.sk.sndUna = v.sk.sndUna)
    (hr : v'.sk.retrans = v.sk.retrans) (ht : v'.sk.timerTsc = v.sk.timerTsc)
    (hk : v'.sk.keepalive = true → v.sk.keepalive = true) (hl : v'.link = v.link)
    (htr : v'.trace = v.trace) : Acts ws k spends v v' :=
  .single (.rest ⟨hs, hn, hu, hr, ht, hk, .inl hl, [], by simp [htr], by simp⟩)

lemma Acts.count (f : NetStats → NetStats) : Acts ws k spends v (v.count f) :=
  .touch .rfl rfl rfl rfl rfl id rfl rfl

lemma Acts.log {o : Obs} (ho : o.Idle) : Acts ws k spends v (v.log o) :=
  .single (.rest ⟨.rfl, rfl, rfl, rfl, rfl, id, .inl rfl, [o], rfl, by simpa using ho⟩)

lemma Acts.delTimer : Acts ws k spends v (socketDelTimer v) :=
  .single (.rest ⟨.rfl, rfl, rfl, rfl, rfl, id, .inr rfl, [], by simp [socketDelTimer,
    socketQueueDel, socketNodeDel], by simp⟩)

/-- A change of the state of an open socket. -/
lemma Acts.move {s : SkState} (ho : v.sk.state ≠ .closed) (hs : s ≠ .closed) :
    Acts ws k spends v { v with sk.state := s } :=
  .touch (iff_of_false hs ho) rfl rfl rfl rfl id rfl rfl

/-- A reply of an open socket. -/
lemma Acts.reply {f : UInt8} (ho : v.sk.state ≠ .closed)
    (hf : hasFlag f thSyn = false ∨ hasFlag f thFin = false) :
    Acts ws k spends v (tcpReply ws f v) :=
  .single (.reply (fun _ => ho) hf)

/-- A bare acknowledgement or reset. -/
lemma Acts.bare {f : UInt8} (hf : hasFlag f seqFlags = false) :
    Acts ws k spends v (tcpReply ws f v) := by
  refine .single (.reply (fun h => absurd (hf.symm.trans h) (by simp)) (.inr ?_))
  rw [hasFlag_seqFlags] at hf
  simp only [Bool.or_eq_false_iff] at hf
  exact hf.2

lemma growWindow_eq (sk : Socket) :
    growWindow sk = { sk with sndWindow := (growWindow sk).sndWindow } := by
  rw [growWindow]
  split_ifs <;> rfl

/-- An acknowledgement of all that is outstanding. -/
lemma acked_inOrder {th : Tcphdr} (dataLen : UInt16) (hin : inOrder th v.sk) :
    Acked ws v (tcpAcceptInOrder ws th dataLen v) := by
  have hack : th.ack = v.sk.sndNxt := hin.1
  simp only [tcpAcceptInOrder, socketStopRetransmitTimer, socketDelTimer, socketQueueDel,
    socketNodeDel]
  split_ifs
  · exact ⟨rfl, rfl, .inl hack, rfl, rfl, rfl, .inr rfl, rfl⟩
  · exact ⟨rfl, rfl, .inl hack, rfl, rfl, rfl, .inl rfl, rfl⟩
  · exact ⟨rfl, rfl, .inl hack, rfl, rfl, rfl, .inl rfl, rfl⟩
  · rw [growWindow_eq]
    exact ⟨rfl, rfl, .inl hack, rfl, rfl, rfl, .inl rfl, rfl⟩

/-- What `tcp_check_sequence` does; what passes it is open. -/
lemma Acts.checkSequence (ws : WorkSpace) (k : Call) (v : View) (hf : dataFlags m)
    (hs : Spends ws v (.input m) → spends) :
    Acts ws k spends v (tcpCheckSequence ws m.th (tcpDataGet m).2 v).2 ∧
      ((tcpCheckSequence ws m.th (tcpDataGet m).2 v).1 = true →
        (tcpCheckSequence ws m.th (tcpDataGet m).2 v).2.sk.state ≠ .closed) := by
  rw [tcpCheckSequence]
  dsimp only
  by_cases hin : inOrder m.th v.sk
  · rw [if_pos hin]
    split_ifs with ho
    · have hacked : Acked ws v _ := acked_inOrder (tcpDataGet m).2 hin
      exact ⟨.single (.ack hacked), fun _ => hacked.state ▸ SkState.closed_lt.mp ho⟩
    · have hcl : v.sk.state = .closed := not_not.mp fun h => ho (SkState.closed_lt.mpr h)
      have hacked : Acked ws v { v with sk.retrans := 0 } :=
        ⟨rfl, rfl, .inr (.inl ⟨hcl, rfl⟩), rfl, rfl, rfl, .inl rfl, rfl⟩
      exact ⟨.single (.ack hacked), by simp⟩
  rw [if_neg hin]
  by_cases hsim : simultaneousFin m.th (tcpDataGet m).2 v.sk
  · rw [if_pos hsim]
    have hopen : v.sk.state ≠ .closed := by simp [hsim.1]
    exact ⟨.touch (iff_of_false (by simp) hopen) rfl rfl rfl rfl id rfl rfl, by simp⟩
  rw [if_neg hsim]
  by_cases hc : v.sk.state = .closed
  · rw [if_pos hc]
    exact ⟨.refl, by simp⟩
  rw [if_neg hc]
  split_ifs with hle hw hgt ha h3 hts hn hseq
  · -- new data is acknowledged
    rw [growWindow_eq]
    exact ⟨.single (.ack ⟨rfl, rfl, .inr (.inr ⟨hw, hle, hgt⟩), rfl, rfl, rfl, .inl rfl, rfl⟩),
      fun _ => hc⟩
  · exact ⟨.single (.dupAck hw (hs (.dupAck ⟨hf, hw, hin, hsim, hc, ha, hle, h3⟩))), by simp⟩
  · refine ⟨.single (.resends hw ⟨?_, h3, rfl, ?_, rfl, _, ?_, ?_, rfl⟩), by simp⟩
    · exact tcpReply_state ..
    · exact tcpReply_sndUna ..
    · rfl
    · rfl
  · exact ⟨.refl, by simp⟩
  · refine ⟨.single (.retransmit (.inl hc) fun hcount => hs (.unsentFast ?_ hcount)), by simp⟩
    exact ⟨hf, not_not.mp hw, hin, hsim, hc, hle, hts⟩
  · exact ⟨.refl, by simp⟩
  · exact absurd (hn ▸ tcpSeqLe_refl _) hle
  · exact ⟨.refl, by simp⟩
  · exact ⟨.refl, by simp⟩

/-- What may be answered with the flags `tx`: a segment that takes sequence numbers only while
the socket is open. -/
structure Answers (tx : UInt8) (v : View) : Prop where
  live : hasFlag tx seqFlags = true → v.sk.state ≠ .closed
  syn : hasFlag tx thSyn = false

lemma Acts.answer {tx : UInt8} (h : Answers tx v) : Acts ws k spends v (tcpReply ws tx v) :=
  .single (.reply h.live (.inl h.syn))

/-- `tcp_process_fin`, called with a bare acknowledgement unless `ESTABLISHED`. -/
lemma Acts.finFlags (rx : UInt8) {tx : UInt8} (ho : v.sk.state ≠ .closed)
    (htx : hasFlag tx seqFlags = false ∨ v.sk.state = .established)
    (hsyn : hasFlag tx thSyn = false) :
    Acts ws k spends v (tcpFinFlags rx tx v).2 ∧
      Answers (tcpFinFlags rx tx v).1 (tcpFinFlags rx tx v).2 := by
  have hs := tcpFinFlags_step rx tx v
  generalize tcpFinFlags rx tx v = r at hs ⊢
  have hbare : v.sk.state ≠ .established → hasFlag tx seqFlags = false := htx.resolve_right
  cases hs with
  | keep => exact ⟨.refl, fun _ => ho, hsyn⟩
  | passive => exact ⟨.move ho (by simp), by simp, (finFlags_or hsyn).2.2⟩
  | active => exact ⟨.move ho (by simp), by simp, (finFlags_or hsyn).2.2⟩
  | closing => exact ⟨.move ho (by simp), by simp, (finFlags_or hsyn).2.2⟩
  | finAcked => exact ⟨.move ho (by simp), by simp, hsyn⟩
  | finBoth hst =>
      have hne : v.sk.state ≠ .established := by
        rcases hst with hst | hst <;> simp [hst]
      refine ⟨.single .close, fun hseq => ?_, ?_⟩
      · rw [hasFlag_or, hbare hne] at hseq
        cases hseq
      · rw [hasFlag_or, hsyn]
        rfl
  | lastAck hst =>
      exact ⟨.single .close, fun hseq => absurd ((hbare (by simp [hst])).symm.trans hseq) (by simp),
        hsyn⟩

/-! ### The server -/

lemma Acts.serverAnswer (hs : ws.cfg.server = true) (rx : UInt8) {tx : UInt8}
    (ho : v.sk.state ≠ .closed)
    (htx : hasFlag tx seqFlags = false ∨ v.sk.state = .established)
    (hsyn : hasFlag tx thSyn = false) : Acts ws k spends v (tcpServerAnswer ws rx tx v) := by
  obtain ⟨hacts, hans⟩ : Acts ws k spends v (tcpFinFlags rx tx v).2 ∧
      Answers (tcpFinFlags rx tx v).1 (tcpFinFlags rx tx v).2 := Acts.finFlags rx ho htx hsyn
  rw [tcpServerAnswer]
  generalize tcpFinFlags rx tx v = r at hacts hans ⊢
  split_ifs
  · exact hacts.trans (Acts.answer hans)
  · exact hacts.tail (.timeoutTimer hs)
  · exact hacts

lemma Acts.replyMore (hs : ws.cfg.server = true) (hw : ws.sendWindow ≠ 0)
    (ho : v.sk.state ≠ .closed) : Acts ws k spends v (tcpReplyMore ws v) := by
  have hburst : Acts ws k spends v ((fun w : View => { w with sk.sndUna := v.sk.sndUna })
      (tcpReplyMoreLoop ws (v.sk.sndUna + ws.sendWindow) v.sk.sndMax v.sk.sndWindow.toNat v)) :=
    .single (.burst hw)
  have hstate := tcpReplyMoreLoop_state ws (v.sk.sndUna + ws.sendWindow) v.sk.sndMax
    v.sk.sndWindow.toNat v
  rw [tcpReplyMore]
  dsimp only at hburst ⊢
  generalize tcpReplyMoreLoop ws _ _ _ v = u at hburst hstate ⊢
  have hu : u.sk.state ≠ .closed := hstate.symm ▸ ho
  split_ifs
  · exact hburst.tail (.timeoutTimer hs)
  · have hfin : Acts ws k spends { u with sk.sndUna := v.sk.sndUna }
        { u with sk.sndUna := v.sk.sndUna, sk.state := .finWait1 } := Acts.move hu (by simp)
    exact (hburst.trans hfin).trans (Acts.reply (by simp) (.inl rfl))
  · exact hburst

lemma Acts.serverStartResponse (hs : ws.cfg.server = true) (hw : ws.sendWindow ≠ 0)
    (ho : v.sk.state ≠ .closed) : Acts ws k spends v (tcpServerStartResponse ws v) := by
  rw [tcpServerStartResponse]
  dsimp only
  generalize hu : ({ v with sk := socketInitHttpServer ws.payloadSize v.sk } : View).count _ = u
  have hinit : Acts ws k spends v u := by
    rw [← hu]
    exact .touch .rfl rfl rfl rfl rfl id rfl rfl
  have hopen : u.sk.state ≠ .closed := by
    rw [← hu]
    exact ho
  refine Relation.ReflTransGen.tail (hinit.trans ?_) (.retransmitTimer hw)
  split_ifs
  · exact Acts.replyMore hs hw hopen
  · exact (Acts.reply hopen (.inl rfl)).trans (Acts.touch .rfl rfl rfl rfl rfl id rfl rfl)

lemma SkState.establish_closed {s : SkState} (h : s ≠ .closed) : s.establish ≠ .closed := by
  rw [establish]
  split_ifs
  · simp
  · exact h

lemma Acts.serverAccepted (hs : ws.cfg.server = true) (th : Tcphdr) (data : List UInt8)
    (dataLen : UInt16) (ho : v.sk.state ≠ .closed) :
    Acts ws k spends v (tcpServerAccepted ws th data dataLen v) := by
  have hlog : Acts ws k spends v (v.log (.accepted th.seq th.ack (acceptedLen th dataLen))) :=
    Acts.log trivial
  have hopen := SkState.establish_closed ho
  have hacc : Acts ws k spends v { v.log (.accepted th.seq th.ack (acceptedLen th dataLen)) with
      sk.state := v.sk.state.establish } := hlog.trans (Acts.move ho hopen)
  have hreq : Acts ws k spends v ((({ v.log (.accepted th.seq th.ack (acceptedLen th dataLen)) with
      sk.state := v.sk.state.establish } : View).count (httpParseRequest data dataLen)).log
        (.request th.seq (data.take dataLen.toNat))) :=
    (hacc.trans (Acts.count _)).trans (Acts.log trivial)
  rw [tcpServerAccepted]
  dsimp only
  split_ifs with he hd hw hw
  · exact hreq.trans (Acts.serverStartResponse hs hw.1 hopen)
  · exact hreq.trans (Acts.serverAnswer hs _ hopen (.inr he) (responseFlags_seq _).2)
  · exact hacc.trans (Acts.replyMore hs hw.1 hopen)
  · exact hacc.trans (Acts.serverAnswer hs _ hopen (.inl rfl) rfl)
  · exact hacc.trans (Acts.serverAnswer hs _ hopen (.inl rfl) rfl)

lemma Acts.serverProcessData (hs : ws.cfg.server = true) (hf : dataFlags m)
    (hsp : Spends ws v (.input m) → spends) :
    Acts ws k spends v (tcpServerProcessData ws m v) := by
  obtain ⟨hacts, hpass⟩ := Acts.checkSequence ws k v hf hsp
  rw [tcpServerProcessData]
  generalize tcpCheckSequence ws m.th (tcpDataGet m).2 v = r at hacts hpass ⊢
  split_ifs with hr
  · exact hacts.trans (Acts.count _)
  · exact hacts.trans (Acts.serverAccepted hs _ _ _ (hpass (by simpa using hr)))

lemma starts_server (th : Tcphdr) (hs : ws.cfg.server = true) :
    Starts ws v (socketServerOpen th v) := by
  have hlive : (socketServerOpen th v).sk.state ≠ .closed := by simp [socketServerOpen_state]
  refine ⟨hlive, ?_, ?_, .inr ⟨hs, ?_⟩, .inr ?_, ?_⟩
  all_goals
    rw [socketServerOpen]
    dsimp only
    split_ifs <;> rfl

lemma Acts.serverProcessSyn (hs : ws.cfg.server = true) (th : Tcphdr) :
    Acts ws k spends v (tcpServerProcessSyn ws th v) := by
  have hstarts : ∀ u : View, u.trace = v.trace → u.link = v.link →
      u.sk.timerTsc = v.sk.timerTsc →
      Acts ws k spends v (tcpReply ws (thSyn ||| thAck) (socketServerOpen th u)) := by
    intro u htr hl ht
    have h : Starts ws u (socketServerOpen th u) := starts_server th hs
    have hv : Starts ws v (socketServerOpen th u) :=
      ⟨h.live, h.acked, h.retrans, ht ▸ h.timerTsc, hl ▸ h.link, htr ▸ h.trace⟩
    exact (Relation.ReflTransGen.single (.starts hv)).trans (Acts.reply h.live (.inr rfl))
  rw [tcpServerProcessSyn]
  dsimp only
  by_cases ht : v.sk.state = .timeWait
  · rw [if_pos ht, if_pos rfl]
    exact hstarts _ rfl rfl rfl
  · rw [if_neg ht]
    split_ifs with hc hr
    · exact hstarts _ rfl rfl rfl
    · exact (Acts.reply (by simp [hr]) (.inr rfl)).trans (Acts.count _)
    · exact .refl
    · exact Acts.count _

lemma Acts.processRst : Acts ws k spends v (tcpProcessRst v) := by
  rw [tcpProcessRst]
  split_ifs
  · exact .single .close
  · exact .refl

lemma Acts.serverInput (hs : ws.cfg.server = true) (hsp : Spends ws v (.input m) → spends) :
    Acts ws k spends v (tcpServerInput ws m v) := by
  refine (Acts.count (tcpFlagsRxCount m.th.flags)).trans ?_
  have hsp' : Spends ws (v.count (tcpFlagsRxCount m.th.flags)) (.input m) → spends :=
    fun h => hsp h.of_count
  rw [tcpServerInput]
  split_ifs with hf
  · exact Acts.serverProcessData hs hf hsp'
  · exact Acts.serverProcessSyn hs _
  · exact Acts.processRst
  · exact Acts.count _

/-! ### The client -/

lemma Acts.sendKeepaliveRequest (ho : v.sk.state ≠ .closed) :
    Acts ws k spends v (tcpSendKeepaliveRequest ws v) := by
  rw [tcpSendKeepaliveRequest]
  dsimp only
  have hnum : Acts ws k spends v
      { v with sk.keepaliveRequestNum := v.sk.keepaliveRequestNum + 1 } :=
    .touch .rfl rfl rfl rfl rfl id rfl rfl
  have hpush : Acts ws k spends v (tcpReply ws (thAck ||| thPush)
      { v with sk.keepaliveRequestNum := v.sk.keepaliveRequestNum + 1 }) :=
    hnum.trans (Acts.reply ho (.inl rfl))
  have hfin : Acts ws k spends v
      (tcpReply ws (thAck ||| thFin) { v with sk.state := .finWait1 }) :=
    (Acts.move ho (by simp)).trans (Acts.reply (by simp) (.inl rfl))
  split_ifs
  · exact hpush.trans (Acts.touch .rfl rfl rfl rfl rfl (by simp) rfl rfl)
  · exact hpush
  · exact hfin.trans (Acts.touch .rfl rfl rfl rfl rfl (by simp) rfl rfl)

/-- What an open client does with an accepted segment before `tcp_process_fin`: the socket
stays open, and a `FIN` is asked for only while it is `ESTABLISHED`. -/
structure Parsed (tx : UInt8) (u : View) : Prop where
  live : u.sk.state ≠ .closed
  flags : hasFlag tx seqFlags = false ∨ u.sk.state = .established
  syn : hasFlag tx thSyn = false

lemma Parsed.none (ho : u.sk.state ≠ .closed) : Parsed 0 u := ⟨ho, .inl rfl, rfl⟩

lemma Parsed.ack (ho : u.sk.state ≠ .closed) : Parsed thAck u := ⟨ho, .inl rfl, rfl⟩

lemma Parsed.fin (he : u.sk.state = .established) : Parsed (thAck ||| thFin) u :=
  ⟨by simp [he], .inr he, rfl⟩

lemma sendKeepaliveRequest_live (ho : v.sk.state ≠ .closed) :
    (tcpSendKeepaliveRequest ws v).sk.state ≠ .closed := by
  rw [tcpSendKeepaliveRequest]
  dsimp only
  split_ifs <;> simp [ho]

lemma Acts.response (ws : WorkSpace) (k : Call) (spends : Prop) (data : List UInt8)
    (dataLen : UInt16) (v : View) (he : v.sk.state = .established) :
    Acts ws k spends v (tcpClientResponse ws data dataLen v).2 ∧
      Parsed (tcpClientResponse ws data dataLen v).1 (tcpClientResponse ws data dataLen v).2 := by
  have ho : v.sk.state ≠ .closed := by simp [he]
  have hcount : Acts ws k spends v (v.count (httpParseResponse data dataLen)) := Acts.count _
  rw [tcpClientResponse]
  split_ifs
  · exact ⟨hcount, .fin he⟩
  · refine ⟨hcount.tail (.keepaliveTimer (.inr rfl)), .ack ?_⟩
    rw [socketStartKeepaliveTimer]
    split_ifs <;> exact ho
  · have hlive : (v.count (httpParseResponse data dataLen)).sk.state ≠ .closed := ho
    exact ⟨hcount.trans (Acts.sendKeepaliveRequest hlive),
      .ack (sendKeepaliveRequest_live hlive)⟩

/-- The parser touches the fields of `HTTP` only. -/
lemma Acts.parse (data : List UInt8) (dataLen : UInt16) :
    Acts ws k spends v (httpParseRun data dataLen v).2 ∧
      (httpParseRun data dataLen v).2.sk.state = v.sk.state := by
  obtain ⟨_, _, _, _, hk, hsk⟩ := httpParseRun_httpOnly data dataLen v
  obtain ⟨hl, ht, -⟩ := httpParseRun_rest data dataLen v
  refine ⟨Acts.touch ?_ ?_ ?_ ?_ ?_ ?_ hl ht, by rw [hsk]⟩
  all_goals simp only [hsk]
  exact hk

lemma Acts.httpClientData (ws : WorkSpace) (k : Call) (spends : Prop) (rx : UInt8)
    (data : List UInt8) (dataLen : UInt16) (v : View) (he : v.sk.state = .established) :
    Acts ws k spends v (httpClientProcessData ws rx data dataLen v).2.2 ∧
      Parsed (httpClientProcessData ws rx data dataLen v).1
        (httpClientProcessData ws rx data dataLen v).2.2 := by
  obtain ⟨hparse, hst⟩ : Acts ws k spends v (httpParseRun data dataLen v).2 ∧ _ :=
    Acts.parse data dataLen
  rw [httpClientProcessData]
  dsimp only
  generalize httpParseRun data dataLen v = r at hparse hst ⊢
  have he' : r.2.sk.state = .established := hst.trans he
  have ho : r.2.sk.state ≠ .closed := by simp [he']
  have htouch : ∀ w : View, w.sk.state = r.2.sk.state → w.sk.sndNxt = r.2.sk.sndNxt →
      w.sk.sndUna = r.2.sk.sndUna → w.sk.retrans = r.2.sk.retrans →
      w.sk.timerTsc = r.2.sk.timerTsc → (w.sk.keepalive = true → r.2.sk.keepalive = true) →
      w.trace = r.2.trace → w.link = r.2.link → Acts ws k spends v w :=
    fun w hs hn hu hr ht hk htr hl =>
      hparse.trans (Acts.touch (by rw [hs]) hn hu hr ht hk hl htr)
  have hinit : Acts ws k spends v { r.2 with sk := socketInitHttp r.2.sk } :=
    htouch _ rfl rfl rfl rfl rfl id rfl rfl
  split
  · split_ifs
    · exact ⟨htouch _ rfl rfl rfl rfl rfl id rfl rfl, .none ho⟩
    · exact ⟨hparse, .none ho⟩
    · exact ⟨htouch _ rfl rfl rfl rfl rfl id rfl rfl, .ack ho⟩
    · exact ⟨hparse, .ack ho⟩
  · split_ifs
    · exact ⟨hinit, .none ho⟩
    · refine ⟨hinit.tail (.keepaliveTimer (.inl rfl)), .none ?_⟩
      rw [socketStartKeepaliveTimer]
      split_ifs <;> exact ho
    · exact ⟨htouch _ rfl rfl rfl rfl rfl id rfl rfl, .fin he'⟩
  · exact ⟨htouch _ rfl rfl rfl rfl rfl (by simp [View.count]) rfl rfl, .fin he'⟩

lemma Acts.clientAnswer (rx : UInt8) {tx : UInt8} (h : Parsed tx v) :
    Acts ws k spends v (tcpClientAnswer ws rx tx v) := by
  obtain ⟨hacts, hans⟩ : Acts ws k spends v (tcpFinFlags rx tx v).2 ∧
      Answers (tcpFinFlags rx tx v).1 (tcpFinFlags rx tx v).2 :=
    Acts.finFlags rx h.live h.flags h.syn
  rw [tcpClientAnswer]
  generalize tcpFinFlags rx tx v = r at hacts hans ⊢
  split_ifs
  · exact hacts.trans (Acts.answer hans)
  · exact hacts
  · exact hacts

/-- The answer, or the reset of `fast_close`. -/
lemma Acts.clientDone (rx : UInt8) {tx : UInt8} (h : Parsed tx v) :
    Acts ws k spends v (if hasFlag tx thFin && ws.cfg.fastClose then tcpFastClose ws v
      else tcpClientAnswer ws rx tx v) := by
  split_ifs
  · have hrst : Acts ws k spends v (tcpReply ws (thRst ||| thAck) v) := Acts.bare rfl
    exact hrst.tail .close
  · exact Acts.clientAnswer rx h

lemma Acts.clientAccepted (th : Tcphdr) (data : List UInt8) (dataLen : UInt16)
    (ho : v.sk.state ≠ .closed) :
    Acts ws k spends v (tcpClientAccepted ws th data dataLen v).2 := by
  have hlog : Acts ws k spends v (v.log (.accepted th.seq th.ack (acceptedLen th dataLen))) :=
    Acts.log trivial
  rw [tcpClientAccepted]
  dsimp only
  by_cases he : v.sk.state = .established
  · rw [View.log_sk, if_pos he, apply_ite Prod.snd]
    by_cases hd : dataLen ≠ 0
    · rw [if_pos hd]
      by_cases hh : ws.cfg.http = true
      · rw [if_pos hh]
        have hdata := Acts.httpClientData ws k spends th.flags data dataLen
          (v.log (.accepted th.seq th.ack (acceptedLen th dataLen))) he
        exact hlog.trans (hdata.1.trans (Acts.clientDone _ hdata.2))
      · rw [if_neg hh]
        have hdata := Acts.response ws k spends data dataLen
          (v.log (.accepted th.seq th.ack (acceptedLen th dataLen))) he
        exact hlog.trans (hdata.1.trans (Acts.clientDone _ hdata.2))
    · rw [if_neg hd]
      exact hlog.trans (Acts.clientDone _ (.none ho))
  · rw [View.log_sk, if_neg he]
    exact hlog.trans (Acts.clientAnswer _ (.none ho))

lemma Acts.clientProcessData (hf : dataFlags m) (hsp : Spends ws v (.input m) → spends) :
    Acts ws k spends v (tcpClientProcessData ws m v).2 := by
  obtain ⟨hacts, hpass⟩ := Acts.checkSequence ws k v hf hsp
  rw [tcpClientProcessData]
  generalize tcpCheckSequence ws m.th (tcpDataGet m).2 v = r at hacts hpass ⊢
  split_ifs with hr
  · have hdrop : Acts ws k spends r.2 (r.2.count fun s => { s with tcpDrop := s.tcpDrop + 1 }) :=
      Acts.count _
    exact hacts.trans hdrop
  · exact hacts.trans (Acts.clientAccepted _ _ _ (hpass (by simpa using hr)))

lemma Acts.clientProcessSynAck (hs : ws.cfg.server = false) (hf : m.th.flags = thSyn ||| thAck)
    (hsp : Spends ws v (.input m) → spends) :
    Acts ws k spends v (tcpClientProcessSynAck ws m.th v) := by
  rw [tcpClientProcessSynAck]
  dsimp only
  split_ifs with hst ha he
  · exact Acts.count _
  · have hack : m.th.ack = v.sk.sndNxt := not_not.mp ha
    have hmark : Act ws k spends (v.count (netStatsRtt ws v.sk))
        ({ v.count (netStatsRtt ws v.sk) with
            sk.rcvNxt := m.th.seq + 1, sk.sndUna := v.sk.sndNxt, sk.state := .established }.log
          (.synAck m.th.seq m.th.ack)) :=
      .synAck (by simp [hst]) fun hr => hsp (.synAck hs hf hst hack hr)
    rw [← hack] at hmark
    exact ((Acts.count _).tail hmark).trans (Acts.reply (by simp) (.inl rfl))
  · have hcount : Acts ws k spends v
        (v.count fun s => { s with pktLost := s.pktLost + 1 }) := Acts.count _
    exact (hcount.trans (Acts.bare rfl)).trans (Acts.count _)
  · exact Acts.count _
  · exact Acts.count _

lemma Acts.clientInput (hs : ws.cfg.server = false) (hsp : Spends ws v (.input m) → spends) :
    Acts ws k spends v (tcpClientInput ws m v).2 := by
  refine (Acts.count (tcpFlagsRxCount m.th.flags)).trans ?_
  have hsp' : Spends ws (v.count (tcpFlagsRxCount m.th.flags)) (.input m) → spends :=
    fun h => hsp h.of_count
  rw [tcpClientInput]
  split_ifs with hf hsyn
  · exact Acts.clientProcessData hf hsp'
  · exact Acts.clientProcessSynAck hs hsyn hsp'
  · exact Acts.processRst
  · dsimp only
    exact Acts.count _

lemma Acts.doKeepalive (hc : ws.cfg.server = false) (hsp : Spends ws v .keepalive → spends) :
    Acts ws k spends v (tcpDoKeepalive ws v) := by
  rw [tcpDoKeepalive]
  split_ifs with hn hfl hd hst
  · have hgap : v.sk.sndNxt ≠ v.sk.sndUna ∨ v.sk.state ≠ .established ∨ v.sk.keepalive = false := hn
    have hsyn : Act ws k spends v
        ((fun w : View => { w with sk.sndUna := w.sk.sndNxt }) (tcpReply ws thSyn v)) :=
      .flood hc hfl fun hr => hsp (.flood hfl hd hgap hr)
    exact (Relation.ReflTransGen.single hsyn).tail (.keepaliveTimer (.inl rfl))
  · exact .single .close
  · exact (Acts.move (by simp [hst.2]) (by simp)).trans (Acts.reply (by simp) (.inl rfl))
  · exact .refl
  · rw [not_or, not_or] at hn
    exact Acts.sendKeepaliveRequest (by simp [not_not.mp hn.2.1])

lemma Acts.ackDelayDone (b : Bool) : Acts ws k spends v (tcpAckDelayDone ws b v) := by
  have hack : Acts ws k spends v { v with sk.httpAck := true } :=
    .touch .rfl rfl rfl rfl rfl id rfl rfl
  rw [tcpAckDelayDone]
  dsimp only
  split_ifs
  · exact hack.tail (.keepaliveTimer (.inl rfl))
  · exact hack

lemma Acts.ackDelayFlushOne : Acts ws k spends v (tcpAckDelayFlushOne ws v) := by
  have hack : Acts ws k spends v { v with sk.httpAck := false } :=
    .touch .rfl rfl rfl rfl rfl id rfl rfl
  rw [tcpAckDelayFlushOne]
  dsimp only
  split_ifs
  · exact hack.trans (Acts.bare rfl)
  · exact hack
  · exact .refl

lemma starts_client : Starts ws v (socketClientOpened ws ws.tsc v) := by
  refine ⟨?_, rfl, rfl, .inl rfl, .inl rfl, rfl⟩
  rw [socketClientOpened]
  simp [socketInitHttp]

lemma Acts.clientStart (hc : ws.cfg.server = false) (ho : v.sk.state ≠ .closed)
    (hr : v.sk.retrans = 0) :
    Acts ws k spends v (tcpClientStart ws v) := by
  have hsyn : Acts ws k spends v (tcpReply ws thSyn v) := Acts.reply ho (.inr rfl)
  rw [tcpClientStart]
  dsimp only
  split_ifs with hf
  · have hflood : Act ws k spends v
        ((fun w : View => { w with sk.sndUna := w.sk.sndNxt }) (tcpReply ws thSyn v)) :=
      .flood hc hf fun hne => absurd hr hne
    exact (Relation.ReflTransGen.single hflood).tail (.keepaliveTimer (.inl rfl))
  · exact hsyn.tail .close
  · exact hsyn

end Traversal

/-! ### Calls -/

/-- Every call on a TCP socket is a sequence of acts. -/
theorem acts_run {ws : WorkSpace} (hp : ws.cfg.protocol = .tcp) {k : Call}
    (hm : k.Allowed ws.cfg) (v : View) : Acts ws k (Spends ws v k) v (k.run ws v) := by
  cases k with
  | input m =>
      rw [Call.run, l4Input, hp]
      cases hs : ws.cfg.server with
      | true => exact Acts.serverInput hs id
      | false => exact Acts.clientInput hs id
  | ackDone b => exact Acts.ackDelayDone b
  | ackFlush => exact Acts.ackDelayFlushOne
  | retransmit =>
      rw [Call.run, hp]
      exact Acts.delTimer.tail (.retransmit (.inr rfl) fun h => .unsent h)
  | keepalive =>
      rw [Call.run, hp]
      have hsp : Spends ws (socketDelTimer v) .keepalive → Spends ws v .keepalive := by
        rintro (_ | _ | _ | _ | ⟨hf, hd, hv, hr⟩)
        exact .flood hf hd hv hr
      exact Acts.delTimer.trans (Acts.doKeepalive hm.1 hsp)
  | timeout => exact (Acts.delTimer.trans (Acts.count _)).tail .close
  | launch turns =>
      rw [Call.run, hp, socketClientOpen]
      by_cases hc : v.sk.state = .closed
      · rw [if_pos hc]
        have hstarts : Starts ws v (socketClientOpened ws ws.tsc v) := starts_client
        exact (Relation.ReflTransGen.single (.starts hstarts)).trans
          (Acts.clientStart hm hstarts.live hstarts.retrans)
      · rw [if_neg hc]
        exact .refl
  | disableKeepalive =>
      have hoff : (Call.disableKeepalive.run ws v).sk.keepalive = true → v.sk.keepalive = true :=
        fun h => by cases h
      exact Acts.touch .rfl rfl rfl rfl rfl hoff rfl rfl

end Dperf
