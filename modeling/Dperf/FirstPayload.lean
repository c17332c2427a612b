import Dperf.Lib.Traces
import Dperf.Turns

/-!
What a TCP server with a send window sends between the opening of a connection and the first
request on it.

* `Awaiting`: no request has come on the connection. `Withholds`: a segment that is sent then
  has no payload.
* `AnswersEarly`: the two ways in which a segment makes the server send one all the same: a
  third duplicate acknowledgement, and an acknowledgement while `snd_max` of the connection
  before is still ahead of `snd_nxt`.
* `Withheld`: the invariant of the calls (`Withheld.run`); `payload_after_request_iff`: the
  law of the runs.
-/

namespace Dperf

open Traces

variable {n : ℕ}

/-- A TCP server that sends responses in bursts. -/
structure BurstServer (ws : WorkSpace) : Prop where
  protocol : ws.cfg.protocol = .tcp
  server : ws.cfg.server = true
  window : ws.sendWindow ≠ 0

lemma BurstServer.at {ws : WorkSpace} (h : BurstServer ws) (c : Clock) : BurstServer (ws.at c) :=
  ⟨h.protocol, h.server, h.window⟩

/-! ### The law -/

/-- Where a connection stands after an entry: opened, or with a request. -/
def Obs.awaits : Obs → Option Bool
  | .opened .. => some true
  | .request .. => some false
  | _ => none

/-- The connection has been opened, and no request payload has been accepted on it. -/
def Awaiting (l : List Obs) : Prop := latest Obs.awaits l = some true

/-- Nothing with a payload is sent before the first request. -/
def Withholds (l : List Obs) (o : Obs) : Prop :=
  ∀ seg sndUna sndNxt fresh, o = .sent seg sndUna sndNxt fresh → Awaiting l → seg.data = []

/-! ### What breaks it -/

/-- The third duplicate acknowledgement. -/
def ThirdDupAck (th : Tcphdr) (dataLen : UInt16) (sk : Socket) : Prop :=
  ¬ inOrder th sk ∧ ¬ simultaneousFin th dataLen sk ∧ th.ack = sk.sndUna ∧
    tcpSeqLe th.ack sk.sndNxt = true ∧ ¬ (sk.retrans + 1).val < 3

/-- The segment acknowledges all that is outstanding, in turn, or a part of it. -/
def AcksSome (th : Tcphdr) (dataLen : UInt16) (sk : Socket) : Prop :=
  inOrder th sk ∨ ¬ inOrder th sk ∧ ¬ simultaneousFin th dataLen sk ∧
    tcpSeqLe th.ack sk.sndNxt = true ∧ tcpSeqGt th.ack sk.sndUna = true

/-- There is something left to send below `snd_max`, and room in the window. -/
def MoreToSend (ws : WorkSpace) (sndUna sndNxt sndMax : UInt32) : Bool :=
  tcpSeqLt sndNxt (sndUna + ws.sendWindow) && tcpSeqLt sndNxt sndMax

/-- The segment makes an open socket send a payload without a request: it is the third
duplicate acknowledgement, or an acknowledgement that finds more to send. -/
def AnswersEarly (ws : WorkSpace) (m : Mbuf) (sk : Socket) : Prop :=
  ThirdDupAck m.th (tcpDataGet m).2 sk ∨
    AcksSome m.th (tcpDataGet m).2 sk ∧ (tcpDataGet m).2 = 0 ∧ hasFlag m.th.flags thFin = false ∧
      sk.state ≤ .established ∧ MoreToSend ws m.th.ack sk.sndNxt sk.sndMax = true

/-! ### Calls -/

/-- On a socket with the trace `l`, nothing with a payload was sent too early, and a
retransmission has none either; `a` holds if no request has come yet. -/
structure Withheld (l : List Obs) (a : Prop) (v : View) : Prop where
  sent : Historic Withholds (l ++ v.trace)
  awaiting : Awaiting (l ++ v.trace) → a
  flags : a → hasFlag v.sk.flags thPush = false

namespace Withheld

variable {l : List Obs} {a : Prop} {ws : WorkSpace} {v v' : View}

/-- Nothing is sent, and the connection stands as before. -/
lemma append {r : List Obs} (h : Withheld l a v)
    (hr : ∀ o ∈ r, o.awaits = none ∧ ∀ seg una nxt fresh, o ≠ .sent seg una nxt fresh)
    (hf : v'.sk.flags = v.sk.flags) (ht : v'.trace = v.trace ++ r) : Withheld l a v' := by
  refine ⟨?_, ?_, by rw [hf]; exact h.flags⟩
  · rw [ht, ← List.append_assoc]
    exact h.sent.append fun o ho l₁ seg una nxt fresh heq =>
      absurd heq ((hr o ho).2 seg una nxt fresh)
  · rw [ht, ← List.append_assoc, Awaiting, latest_append_none fun o ho => (hr o ho).1]
    exact h.awaiting

lemma touch (h : Withheld l a v) (hf : v'.sk.flags = v.sk.flags) (ht : v'.trace = v.trace) :
    Withheld l a v' :=
  h.append (r := []) (by simp) hf (by simp [ht])

lemma count (h : Withheld l a v) (f : NetStats → NetStats) : Withheld l a (v.count f) :=
  h.touch rfl rfl

lemma socketClose (h : Withheld l a v) : Withheld l a (socketClose v) := by
  rw [Dperf.socketClose]
  split_ifs
  · exact h.append (r := [.closed v.stats.socketCurrent]) (by simp [Obs.awaits]) rfl rfl
  · exact h

lemma startRetransmitTimer (h : Withheld l a v) (tsc : UInt64) :
    Withheld l a (socketStartRetransmitTimer tsc v) := by
  rw [socketStartRetransmitTimer]
  split_ifs
  · exact h.touch rfl rfl
  · exact h

/-- Before a request only segments without `PUSH` are sent. -/
lemma of_reply {f : UInt8} (hs : Historic Withholds (l ++ v.trace))
    (ha : Awaiting (l ++ v.trace) → a) (hf : a → hasFlag f thPush = false) :
    Withheld l a (tcpReply ws f v) := by
  have htrace := tcpReply_trace ws f v
  have hflags : a → hasFlag (tcpReply ws f v).sk.flags thPush = false := by
    rw [tcpReply_sk]
    exact hf
  refine ⟨?_, ?_, hflags⟩
  · rw [htrace, ← List.append_assoc]
    split_ifs
    · refine historic_snoc.mpr ⟨hs, fun seg una nxt fresh heq hw => ?_⟩
      cases heq
      show payload ws f = []
      rw [payload, hf (ha hw)]
      simp
    · rwa [List.append_nil]
  · rw [htrace, ← List.append_assoc, Awaiting, latest_append_none]
    · exact ha
    · intro o ho
      split_ifs at ho
      · rw [List.mem_singleton.mp ho]
        rfl
      · cases ho

lemma reply (h : Withheld l a v) {f : UInt8} (hf : a → hasFlag f thPush = false) :
    Withheld l a (tcpReply ws f v) :=
  of_reply h.sent h.awaiting hf

/-- A retransmission repeats flags without `PUSH`. -/
lemma doRetransmit (h : Withheld l a v) : Withheld l a (tcpDoRetransmit ws v) := by
  have hs := tcpDoRetransmit_step ws v
  generalize tcpDoRetransmit ws v = r at hs ⊢
  have hnum : Withheld l a { v with sk.retrans := v.sk.retrans + 1 } := h.touch rfl rfl
  cases hs with
  | acked => exact h.touch rfl rfl
  | handedOver => exact h.socketClose
  | burst _ _ _ hp =>
      have hback : Withheld l a
          { v with sk.retrans := v.sk.retrans + 1, sk.sndNxt := v.sk.sndUna } := h.touch rfl rfl
      have hno : ¬ a := fun ha => by simp [h.flags ha] at hp
      refine startRetransmitTimer (count ?_ _) _
      exact (hback.reply fun ha => absurd ha hno).touch rfl rfl
  | again => exact (hnum.reply h.flags).count _
  | giveUp => exact (hnum.count _).socketClose

/-! ### Input -/

/-- What `tcp_check_sequence` does not let pass, but for a third duplicate
acknowledgement. -/
lemma dropped (h : Withheld l a v) {th : Tcphdr} {dataLen : UInt16}
    (hq : a → v.sk.state ≠ .closed → ¬ ThirdDupAck th dataLen v.sk)
    (hr : (tcpCheckSequence ws th dataLen v).1 = false) :
    Withheld l a (tcpCheckSequence ws th dataLen v).2 := by
  have hs := tcpCheckSequence_step ws th dataLen v
  generalize tcpCheckSequence ws th dataLen v = r at hr hs ⊢
  cases hs with
  | accept | simultaneous | newAck => cases hr
  | closedSocket => exact h.touch rfl rfl
  | drop => exact h
  | dupAck => exact h.touch rfl rfl
  | thirdDupAck hin ho _ hack h3 hf hle =>
      have hback : Withheld l a ({ v with
          sk.retrans := v.sk.retrans + 1
          sk.sndNxt := th.ack }.count fun s => { s with ackDup := s.ackDup + 1 }) :=
        h.touch rfl rfl
      have hno : a → hasFlag (thPush ||| thAck) thPush = false := fun ha =>
        absurd ⟨hin, hf, hack, hle, h3⟩ (hq ha ho)
      exact (hback.reply hno).touch rfl rfl
  | fastRetransmit => exact h.doRetransmit

/-- A socket after a segment has passed: it crosses a `FIN`, or it has acknowledged something
and is as before. -/
structure Passed (th : Tcphdr) (dataLen : UInt16) (v u : View) : Prop where
  trace : u.trace = v.trace
  flags : u.sk.flags = v.sk.flags
  live : v.sk.state ≠ .closed
  acks : u.sk.state = .closing ∨ AcksSome th dataLen v.sk ∧ u.sk.state = v.sk.state ∧
    u.sk.sndUna = th.ack ∧ u.sk.sndNxt = v.sk.sndNxt ∧ u.sk.sndMax = v.sk.sndMax ∧
    u.sk.sndWindow ≠ 0

lemma growWindow_ne (sk : Socket) : (growWindow sk).sndWindow ≠ 0 := by
  rw [growWindow]
  split_ifs with h
  · intro h0
    have h1 : (sk.sndWindow + 1).toNat = 0 := congrArg UInt8.toNat h0
    rw [UInt8.lt_iff_toNat_lt] at h
    rw [UInt8.toNat_add] at h1
    change sk.sndWindow.toNat < 16 at h
    change (sk.sndWindow.toNat + 1) % 256 = 0 at h1
    omega
  · intro h0
    rw [h0] at h
    exact h (by decide)

lemma growWindow_rest (sk : Socket) : (growWindow sk).sndUna = sk.sndUna ∧
    (growWindow sk).sndNxt = sk.sndNxt ∧ (growWindow sk).sndMax = sk.sndMax ∧
    (growWindow sk).flags = sk.flags := by
  rw [growWindow]
  split_ifs <;> exact ⟨rfl, rfl, rfl, rfl⟩

lemma passed (hw : ws.sendWindow ≠ 0) {th : Tcphdr} {dataLen : UInt16}
    (hr : (tcpCheckSequence ws th dataLen v).1 = true) :
    Passed th dataLen v (tcpCheckSequence ws th dataLen v).2 := by
  have hs := tcpCheckSequence_step ws th dataLen v
  generalize tcpCheckSequence ws th dataLen v = r at hr hs ⊢
  cases hs with
  | accept hin ho =>
      have hgrow : tcpAcceptInOrder ws th dataLen v = { v with
          sk := growWindow { v.sk with
            retrans := 0
            sndUna := th.ack
            rcvNxt := th.seq + (finLen th dataLen).toUInt32 } } := by
        rw [tcpAcceptInOrder]
        exact if_neg hw
      obtain ⟨hu, hn, hm, hf⟩ := growWindow_rest { v.sk with
        retrans := 0
        sndUna := th.ack
        rcvNxt := th.seq + (finLen th dataLen).toUInt32 }
      rw [hgrow]
      exact ⟨rfl, hf, ho, .inr ⟨.inl hin, growWindow_state _, hu, hn, hm, growWindow_ne _⟩⟩
  | simultaneous _ hf => exact ⟨rfl, rfl, by simp [hf.1], .inl rfl⟩
  | newAck hin hf ho _ hle hgt =>
      obtain ⟨hu, hn, hm, hfl⟩ := growWindow_rest { v.sk with sndUna := th.ack }
      refine ⟨rfl, hfl, ho, .inr ⟨.inr ⟨hin, hf, hle, hgt⟩, growWindow_state _, hu, hn, hm, ?_⟩⟩
      exact growWindow_ne { v.sk with sndUna := th.ack }
  | closedSocket | drop | dupAck | thirdDupAck | fastRetransmit => cases hr

lemma finFlags (h : Withheld l a v) (rx tx : UInt8) : Withheld l a (tcpFinFlags rx tx v).2 := by
  have hs := tcpFinFlags_step rx tx v
  generalize tcpFinFlags rx tx v = r at hs ⊢
  cases hs with
  | keep => exact h
  | passive | active | finAcked | closing => exact h.touch rfl rfl
  | finBoth | lastAck => exact h.socketClose

/-- `tcp_process_fin` adds no `PUSH`. -/
lemma finFlags_push (rx tx : UInt8) (v : View) :
    hasFlag (tcpFinFlags rx tx v).1 thPush = hasFlag tx thPush := by
  have hs := tcpFinFlags_step rx tx v
  generalize tcpFinFlags rx tx v = r at hs ⊢
  have hfin : hasFlag (thFin ||| thAck) thPush = false := rfl
  have hack : hasFlag thAck thPush = false := rfl
  cases hs with
  | keep | finAcked | lastAck => rfl
  | passive | active | closing => rw [hasFlag_or, hfin, Bool.or_false]
  | finBoth => rw [hasFlag_or, hack, Bool.or_false]

lemma serverAnswer (h : Withheld l a v) (rx : UInt8) {tx : UInt8}
    (hf : a → hasFlag tx thPush = false) : Withheld l a (tcpServerAnswer ws rx tx v) := by
  have hr := h.finFlags rx tx
  have hpush := finFlags_push rx tx v
  rw [tcpServerAnswer]
  generalize tcpFinFlags rx tx v = r at hr hpush ⊢
  split_ifs
  · exact hr.reply fun ha => by rw [hpush, hf ha]
  · exact hr.touch rfl rfl
  · exact hr

/-- The burst loop, after a request or with nothing more to send. -/
lemma replyMoreLoop {sndUna sndMax : UInt32} : ∀ (m : ℕ) {v : View}, Withheld l a v →
    (a → MoreToSend ws sndUna v.sk.sndNxt sndMax = false) →
    Withheld l a (tcpReplyMoreLoop ws (sndUna + ws.sendWindow) sndMax m v) := by
  intro m
  induction m with
  | zero => exact fun h _ => h
  | succ m ih =>
      intro v h hq
      rw [tcpReplyMoreLoop]
      split_ifs with hc
      · have hno : ¬ a := fun ha => absurd (hc.symm.trans (hq ha)) (by simp)
        have h₁ : Withheld l a { v with sk.sndUna := v.sk.sndNxt } := h.touch rfl rfl
        exact ih (h₁.reply fun ha => absurd ha hno) fun ha => absurd ha hno
      · exact h

lemma replyMore (h : Withheld l a v)
    (hq : a → MoreToSend ws v.sk.sndUna v.sk.sndNxt v.sk.sndMax = false) :
    Withheld l a (tcpReplyMore ws v) := by
  have h₁ : Withheld l a (tcpReplyMoreLoop ws (v.sk.sndUna + ws.sendWindow) v.sk.sndMax
      v.sk.sndWindow.toNat v) := replyMoreLoop _ h hq
  rw [tcpReplyMore]
  dsimp only
  generalize tcpReplyMoreLoop ws _ _ _ v = u at h₁ ⊢
  split_ifs
  · exact h₁.touch rfl rfl
  · have h₂ : Withheld l a { u with sk.sndUna := v.sk.sndUna, sk.state := .finWait1 } :=
      h₁.touch rfl rfl
    exact h₂.reply fun _ => rfl
  · exact h₁.touch rfl rfl

/-- After a request anything may be sent. -/
lemma serverStartResponse (h : Withheld l False v) :
    Withheld l False (tcpServerStartResponse ws v) := by
  have h₁ : Withheld l False ({ v with sk := socketInitHttpServer ws.payloadSize v.sk }.count
      fun s => { s with tcpRsp := s.tcpRsp + 1, http2xx := s.http2xx + 1 }) := h.touch rfl rfl
  rw [tcpServerStartResponse]
  dsimp only
  refine startRetransmitTimer ?_ _
  split_ifs
  · exact h₁.replyMore False.elim
  · exact (h₁.reply False.elim).touch rfl rfl

lemma request (h : Withheld l a v) (seq : UInt32) (data : List UInt8) :
    Withheld l False (v.log (.request seq data)) := by
  refine ⟨?_, ?_, False.elim⟩
  · rw [View.log_trace, ← List.append_assoc]
    refine historic_snoc.mpr ⟨h.sent, fun seg una nxt fresh heq => ?_⟩
    cases heq
  · have hval : (Obs.request seq data).awaits = some false := rfl
    rw [View.log_trace, ← List.append_assoc, Awaiting, latest_snoc_some hval]
    simp

/-- A segment that has passed and does not find more to send too early. -/
lemma serverAccepted {u : View} {th : Tcphdr} {dataLen : UInt16} (data : List UInt8)
    (h : Withheld l a v) (hu : Passed th dataLen v u)
    (hq : a → ¬ (AcksSome th dataLen v.sk ∧ dataLen = 0 ∧ hasFlag th.flags thFin = false ∧
      v.sk.state ≤ .established ∧ MoreToSend ws th.ack v.sk.sndNxt v.sk.sndMax = true)) :
    ∃ a', Withheld l a' (tcpServerAccepted ws th data dataLen u) := by
  have h₁ : Withheld l a { u.log (.accepted th.seq th.ack (acceptedLen th dataLen)) with
      sk.state := u.sk.state.establish } :=
    h.append (r := [.accepted th.seq th.ack (acceptedLen th dataLen)]) (by simp [Obs.awaits])
      hu.flags (by rw [View.log_trace, hu.trace])
  have h₂ := (h₁.count (httpParseRequest data dataLen)).request th.seq
    (data.take dataLen.toNat)
  rw [tcpServerAccepted]
  dsimp only
  split_ifs with he hd hf hf
  · exact ⟨_, h₂.serverStartResponse⟩
  · exact ⟨_, h₂.serverAnswer _ False.elim⟩
  · refine ⟨a, h₁.replyMore fun ha => ?_⟩
    rcases hu.acks with hcl | ⟨hacks, hst, huna, hnxt, hmax, -⟩
    · rw [View.log_sk, hcl] at he
      cases he
    · show MoreToSend ws u.sk.sndUna u.sk.sndNxt u.sk.sndMax = false
      rw [huna, hnxt, hmax]
      rw [View.log_sk, hst] at he
      have hle : v.sk.state ≤ .established := by
        revert he
        cases v.sk.state <;> decide
      by_contra hmore
      exact hq ha ⟨hacks, not_not.mp hd, hf.2, hle, (Bool.not_eq_false _).mp hmore⟩
  · exact ⟨a, h₁.serverAnswer _ fun _ => rfl⟩
  · exact ⟨a, h₁.serverAnswer _ fun _ => rfl⟩

lemma serverOpen (h : Withheld l a v) (th : Tcphdr) :
    Withheld l True (tcpReply ws (thSyn ||| thAck) (socketServerOpen th v)) := by
  have ht : (socketServerOpen th v).trace = v.trace ++ [.opened (v.sk.sndNxt + 1) (th.seq + 1)] := by
    rw [socketServerOpen]
    dsimp only
    split_ifs <;> rfl
  refine of_reply ?_ (fun _ => trivial) (fun _ => rfl)
  rw [ht, ← List.append_assoc]
  refine historic_snoc.mpr ⟨h.sent, fun seg una nxt fresh heq => ?_⟩
  cases heq

lemma serverProcessSyn (h : Withheld l a v) (th : Tcphdr) :
    ∃ a', Withheld l a' (tcpServerProcessSyn ws th v) := by
  have h₁ : Withheld l a
      (if v.sk.state = .timeWait then { v with sk.state := .closed } else v) := by
    split_ifs
    · exact h.touch rfl rfl
    · exact h
  rw [tcpServerProcessSyn]
  dsimp only
  generalize (if v.sk.state = .timeWait then { v with sk.state := .closed } else v) = u at h₁ ⊢
  split_ifs
  · exact ⟨_, h₁.serverOpen th⟩
  · exact ⟨a, (h₁.reply fun _ => rfl).count _⟩
  · exact ⟨a, h₁⟩
  · exact ⟨a, h₁.count _⟩

lemma rst (h : Withheld l a v) : Withheld l a (tcpProcessRst v) := by
  rw [tcpProcessRst]
  split_ifs
  · exact h.socketClose
  · exact h

lemma serverInput (hw : ws.sendWindow ≠ 0) (h : Withheld l a v) {m : Mbuf}
    (hq : hasFlag m.th.flags (thSyn ||| thRst) = false → hasFlag m.th.flags thAck = true →
      v.sk.state ≠ .closed → a → ¬ AnswersEarly ws m v.sk) :
    ∃ a', Withheld l a' (tcpServerInput ws m v) := by
  have h₁ : Withheld l a (v.count (tcpFlagsRxCount m.th.flags)) := h.count _
  rw [tcpServerInput]
  split_ifs with hd
  · rw [tcpServerProcessData]
    split_ifs with hr
    · exact ⟨a, (h₁.dropped (fun ha ho h3 => hq hd.1 hd.2 ho ha (.inl h3)) hr).count _⟩
    · have hp := passed hw ((Bool.not_eq_false _).mp hr)
      exact serverAccepted _ h₁ hp fun ha hb => hq hd.1 hd.2 hp.live ha (.inr hb)
  · exact h₁.serverProcessSyn _
  · exact ⟨a, h₁.rst⟩
  · exact ⟨a, h₁.count _⟩

/-- Every call but the one of a segment that is answered early withholds payloads. -/
theorem run (hb : BurstServer ws) (h : Withheld l a v) {k : Call} (hm : k.Allowed ws.cfg)
    (hq : ∀ m, k = .input m → hasFlag m.th.flags (thSyn ||| thRst) = false →
      hasFlag m.th.flags thAck = true → v.sk.state ≠ .closed → a → ¬ AnswersEarly ws m v.sk) :
    ∃ a', Withheld l a' (k.run ws v) := by
  have hdel : Withheld l a (socketDelTimer v) := h.touch rfl rfl
  obtain ⟨m, rfl⟩ | rfl | rfl := hm.of_server hb.server
  · rw [Call.run, l4Input, hb.protocol, hb.server]
    exact h.serverInput hb.window (hq m rfl)
  · rw [Call.run, hb.protocol]
    exact ⟨a, hdel.doRetransmit⟩
  · exact ⟨a, (hdel.count _).socketClose⟩

end Withheld

/-! ### What an early answer sends -/

section Early

variable {l : List Obs} {ws : WorkSpace} {v : View}

lemma replyMoreLoop_prefix (ws : WorkSpace) (wnd mx : UInt32) : ∀ (m : ℕ) (v : View),
    v.trace <+: (tcpReplyMoreLoop ws wnd mx m v).trace := by
  intro m
  induction m with
  | zero => exact fun v => List.prefix_rfl
  | succ m ih =>
      intro v
      rw [tcpReplyMoreLoop]
      split_ifs
      · refine List.IsPrefix.trans ?_ (ih _)
        rw [tcpReply_trace]
        exact List.prefix_append _ _
      · exact List.prefix_rfl

/-- A burst starts with a payload, if there is more to send. -/
lemma replyMore_sends (ha : ∀ k, ws.mbufAlloc k = true)
    (hm : MoreToSend ws v.sk.sndUna v.sk.sndNxt v.sk.sndMax = true) (hw : v.sk.sndWindow ≠ 0) :
    ∃ seg una nxt fresh, seg.data = ws.tcpData.bytes ∧
      v.trace ++ [.sent seg una nxt fresh] <+: (tcpReplyMore ws v).trace := by
  obtain ⟨m, hsw⟩ : ∃ m, v.sk.sndWindow.toNat = m + 1 :=
    Nat.exists_eq_succ_of_ne_zero fun h => hw (UInt8.toNat_inj.mp h)
  have hend : (tcpReplyMoreLoop ws (v.sk.sndUna + ws.sendWindow) v.sk.sndMax
      v.sk.sndWindow.toNat v).trace <+: (tcpReplyMore ws v).trace := by
    rw [tcpReplyMore]
    dsimp only
    split_ifs
    · exact List.prefix_rfl
    · rw [tcpReply_trace]
      exact List.prefix_append _ _
    · exact List.prefix_rfl
  rw [MoreToSend] at hm
  rw [hsw, tcpReplyMoreLoop, if_pos hm] at hend
  have hfirst := tcpReply_trace ws (thPush ||| thAck ||| thUrg) { v with sk.sndUna := v.sk.sndNxt }
  rw [if_pos (ha _)] at hfirst
  have hrest := replyMoreLoop_prefix ws (v.sk.sndUna + ws.sendWindow) v.sk.sndMax m
    (tcpReply ws (thPush ||| thAck ||| thUrg) { v with sk.sndUna := v.sk.sndNxt })
  rw [hfirst] at hrest
  exact ⟨_, _, _, _, rfl, hrest.trans hend⟩

/-- The third duplicate acknowledgement sends the payload at `snd_una` once more. -/
lemma thirdDupAck_sends (hw : ws.sendWindow ≠ 0) (ha : ∀ k, ws.mbufAlloc k = true) {th : Tcphdr}
    {dataLen : UInt16} (ho : v.sk.state ≠ .closed) (h : ThirdDupAck th dataLen v.sk) :
    (tcpCheckSequence ws th dataLen v).1 = false ∧
      ∃ seg una nxt fresh, seg.data = ws.tcpData.bytes ∧
        (tcpCheckSequence ws th dataLen v).2.trace = v.trace ++ [.sent seg una nxt fresh] := by
  obtain ⟨hin, hf, hdup, hle, h3⟩ := h
  have hgt : ¬ tcpSeqGt th.ack v.sk.sndUna = true := by
    rw [hdup]
    simp [tcpSeqGt]
  rw [tcpCheckSequence, if_neg hin, if_neg hf, if_neg ho, if_pos hle, if_pos hw,
    if_neg hgt, if_pos hdup]
  dsimp only
  rw [View.count_sk, if_neg h3]
  have hreply := tcpReply_trace ws (thPush ||| thAck)
    ({ v with sk.retrans := v.sk.retrans + 1, sk.sndNxt := th.ack }.count fun s =>
      { s with ackDup := s.ackDup + 1 })
  rw [if_pos (ha _)] at hreply
  exact ⟨rfl, _, _, _, _, rfl, hreply⟩

/-- A segment that is answered early is answered with a payload. -/
lemma early_sends (hb : BurstServer ws) (ha : ∀ k, ws.mbufAlloc k = true) {m : Mbuf}
    (hsyn : hasFlag m.th.flags (thSyn ||| thRst) = false) (hack : hasFlag m.th.flags thAck = true)
    (ho : v.sk.state ≠ .closed) (he : AnswersEarly ws m v.sk) :
    ∃ r seg una nxt fresh, (∀ o ∈ r, o.awaits = none) ∧ seg.data = ws.tcpData.bytes ∧
      v.trace ++ r ++ [.sent seg una nxt fresh] <+: (tcpServerInput ws m v).trace := by
  rw [tcpServerInput, if_pos ⟨hsyn, hack⟩, tcpServerProcessData]
  generalize hv : v.count (tcpFlagsRxCount m.th.flags) = v' at *
  have hsk : v'.sk = v.sk := by rw [← hv, View.count_sk]
  have htrace : v'.trace = v.trace := by rw [← hv, View.count_trace]
  rw [← htrace]
  rw [← hsk] at ho he
  rcases he with hthird | ⟨hacks, hlen, hfin, hst, hmore⟩
  · -- the payload at `snd_una`, once more
    obtain ⟨hfalse, seg, una, nxt, fresh, hdata, ht⟩ :=
      thirdDupAck_sends hb.window ha ho hthird
    rw [if_pos hfalse]
    refine ⟨[], seg, una, nxt, fresh, by simp, hdata, ?_⟩
    rw [View.count_trace, ht, List.append_nil]
  · -- the burst after an acknowledgement
    have hpass : (tcpCheckSequence ws m.th (tcpDataGet m).2 v').1 = true ∧
        (tcpCheckSequence ws m.th (tcpDataGet m).2 v').2.sk.state = v'.sk.state := by
      rcases hacks with hin | ⟨hin, hf, hle, hgt⟩
      · rw [tcpCheckSequence_inOrder hin ho]
        exact ⟨rfl, tcpAcceptInOrder_state _ _ _ _⟩
      · rw [tcpCheckSequence, if_neg hin, if_neg hf, if_neg ho, if_pos hle, if_pos hb.window,
          if_pos hgt]
        exact ⟨rfl, growWindow_state _⟩
    obtain ⟨hut, -, -, hacks'⟩ := Withheld.passed hb.window hpass.1
    have hus := hpass.2
    rw [hpass.1, if_neg (by simp)]
    generalize (tcpCheckSequence ws m.th (tcpDataGet m).2 v').2 = u at hut hacks' hus ⊢
    have hcl : u.sk.state ≠ .closing := by
      intro hcl
      rw [← hus, hcl] at hst
      exact absurd hst (by decide)
    obtain ⟨-, -, huna, hunxt, humax, huw⟩ := hacks'.resolve_left hcl
    have hest : u.sk.state.establish = .established := by
      rw [← hus] at ho hst
      revert ho hst
      cases u.sk.state <;> decide
    -- what is left to send goes out after the segment is accepted
    have hmore' : MoreToSend ws u.sk.sndUna u.sk.sndNxt u.sk.sndMax = true := by
      rw [huna, hunxt, humax]
      exact hmore
    obtain ⟨seg, una, nxt, fresh, hdata, hpre⟩ := replyMore_sends
      (v := { u.log (.accepted m.th.seq m.th.ack (acceptedLen m.th (tcpDataGet m).2)) with
        sk.state := u.sk.state.establish }) ha hmore' huw
    refine ⟨[.accepted m.th.seq m.th.ack (acceptedLen m.th (tcpDataGet m).2)], seg, una, nxt, fresh,
      by simp [Obs.awaits], hdata, ?_⟩
    rw [← hut, tcpServerAccepted]
    dsimp only
    rw [View.log_sk, if_pos hest, if_neg (not_not.mpr hlen), if_pos ⟨hb.window, hfin⟩]
    exact hpre

end Early

/-! ### Runs -/

/-- `Withheld` for a slot. -/
def WithheldSlot (s : Slot) : Prop :=
  Historic Withholds s.obs ∧ (Awaiting s.obs → hasFlag s.sk.flags thPush = false)

/-- The step gives an open socket without a request a segment that it answers early. -/
def AnswersUnasked (st : SocketTable n) (ws : WorkSpace) (e : Event) (w : Worker n) : Prop :=
  ∃ m i, e = .recv .tcp m ∧ socketLookup st ws w.pool m = some i ∧
    hasFlag m.th.flags (thSyn ||| thRst) = false ∧ hasFlag m.th.flags thAck = true ∧
    (w.pool i).state ≠ .closed ∧ Awaiting (w.obs i) ∧ AnswersEarly ws m (w.pool i)

/-- A call keeps it of its slot. -/
lemma withheldSlot_run {ws : WorkSpace} (hb : BurstServer ws) {w : Worker n} {i : Fin n}
    {k : Call} (hm : k.Allowed ws.cfg)
    (hq : ∀ m, k = .input m → hasFlag m.th.flags (thSyn ||| thRst) = false →
      hasFlag m.th.flags thAck = true → (w.pool i).state ≠ .closed → Awaiting (w.obs i) →
      ¬ AnswersEarly ws m (w.pool i))
    (h : WithheldSlot (w.slot i)) : WithheldSlot ((w.slot i).after (k.run ws (w.view i))) := by
  have hview : Withheld (w.slot i).obs (Awaiting (w.slot i).obs) (w.view i) := by
    refine ⟨?_, ?_, h.2⟩
    · rw [Worker.view, List.append_nil]
      exact h.1
    · rw [Worker.view, List.append_nil]
      exact id
  obtain ⟨a', hcall⟩ := hview.run hb hm hq
  exact ⟨hcall.sent, fun hw => hcall.flags (hcall.awaiting hw)⟩

/-- **No payload before a request.** In runs in which no segment is answered early, nothing
with a payload is sent on a connection before its first request is accepted, however the
connections before it ended. Every segment that is answered early breaks this. -/
theorem payload_after_request_iff {st : SocketTable n} {ws : WorkSpace} (hb : BurstServer ws) :
    (∀ w, Reach st ws (fun ws e w => ¬ AnswersUnasked st ws e w) w →
      ∀ i, Historic Withholds (w.obs i)) ∧
    ((∀ k, ws.mbufAlloc k = true) → ws.tcpData.bytes ≠ [] → ∀ w w' c e, Reach st ws anyStep w →
      step st (ws.at c) e w = some w' → AnswersUnasked st (ws.at c) e w →
      ∃ i, ¬ Historic Withholds (w'.obs i)) := by
  constructor
  · intro w h i
    have hrun : ∀ i, WithheldSlot (w.slot i) := by
      refine slots_of_reach ?_ ?_ h
      · exact fun sk _ => ⟨historic_nil, fun ha => by cases ha⟩
      · intro c e w₀ hG i k w hperm hw
        have hbc := hb.at c
        refine withheldSlot_run hbc hperm.mode ?_ hw
        intro m hk hsyn hack ho ha he
        obtain ⟨rfl, hev, hi⟩ := hperm.input m hk
        rw [hbc.protocol] at hev
        exact hG ⟨m, i, hev, hi, hsyn, hack, ho, ha, he⟩
    exact (hrun i).1
  · rintro ha hbytes w w' c e - hstep ⟨m, i, rfl, hi, hsyn, hack, ho, hwait, hearly⟩
    have hbc := hb.at c
    rw [step_serverInput hbc.protocol hbc.server hi] at hstep
    cases hstep
    refine ⟨i, fun hist => ?_⟩
    obtain ⟨r, seg, una, nxt, fresh, hr, hdata, q, hq⟩ :=
      early_sends (v := w.view i) hbc ha hsyn hack ho hearly
    rw [Worker.on, Worker.obs_put_self, ← hq] at hist
    have hsplit : w.obs i ++ ((w.view i).trace ++ r ++ [.sent seg una nxt fresh] ++ q) =
        (w.obs i ++ r ++ [.sent seg una nxt fresh]) ++ q := by
      simp [Worker.view]
    rw [hsplit] at hist
    have hlast := (historic_snoc.mp hist.of_append).2 seg una nxt fresh rfl
    rw [Awaiting, latest_append_none hr] at hlast
    exact hbytes (hdata.symm.trans (hlast hwait))

/-- The answer to a `SYN` has no payload. -/
theorem payload_after_request_syn :
    ∃ w, Reach .single .window (fun ws e w => ¬ AnswersUnasked SocketTable.single ws e w) w ∧
      (w.pool 0).state = .synReceived ∧ Historic Withholds (w.obs 0) := by
  have hG : ∀ c e, (c, e) ∈ serverHandshake.take 1 → ∀ w,
      ¬ AnswersUnasked SocketTable.single (WorkSpace.window.at c) e w := by
    rintro c e he w ⟨m, i, rfl, -, hsyn, -⟩
    simp only [serverHandshake, List.take_succ_cons, List.take_zero, List.mem_singleton,
      Prod.mk.injEq, Event.recv.injEq, true_and] at he
    rw [he.2] at hsyn
    exact absurd hsyn (by decide)
  obtain ⟨w, hw, hp⟩ := reach_runEvents SocketTable.single _
    (fun ws e w => ¬ AnswersUnasked SocketTable.single ws e w) (Worker.single_initial .window)
    (serverHandshake.take 1) (p := fun w => (w.pool 0).state == .synReceived) hG (by decide)
  have hb : BurstServer .window := ⟨rfl, rfl, by decide⟩
  exact ⟨w, hw, beq_iff_eq.mp hp, (payload_after_request_iff hb).1 w hw 0⟩

/-- A connection that is reset in the middle of a response, and a new one on the same socket:
its handshake is answered with payloads. -/
theorem payload_before_request :
    ∃ w, Reach .single .window anyStep w ∧ ¬ Historic Withholds (w.obs 0) := by
  obtain ⟨w, hw, hp⟩ := reach_runEvents SocketTable.single _ anyStep
    (Worker.single_initial .window)
    [(.single 1, .recv .tcp (.single true thSyn 100 0 [])),
      (.single 1, .recv .tcp (.single true thAck 101 2 [])),
      (.single 1, .recv .tcp (.single true (thPush ||| thAck) 101 2 [71, 69, 84])),
      (.single 1, .recv .tcp (.single true thRst 104 0 [])),
      (.single 2, .recv .tcp (.single true thSyn 200 0 [])),
      (.single 2, .recv .tcp (.single true thAck 201 7 []))]
    (p := fun w => latest Obs.awaits ((w.obs 0).take 10) == some true &&
      ((w.obs 0).drop 10).head? ==
        some (.sent ⟨2, 1, 80, 1, thAck, 7, 201, [71, 69, 84]⟩ 7 10 3))
    (fun _ _ _ _ => trivial) (by decide)
  simp only [Bool.and_eq_true, beq_iff_eq, List.head?_eq_some_iff] at hp
  obtain ⟨hwait, q, hq⟩ := hp
  refine ⟨w, hw, fun hist => ?_⟩
  have hsplit := (List.take_append_drop 10 (w.obs 0)).symm
  rw [hq] at hsplit
  exact absurd (hist _ _ _ hsplit _ _ _ _ rfl hwait) (by simp)

end Dperf
