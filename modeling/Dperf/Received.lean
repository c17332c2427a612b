import Dperf.Lib.Sequence
import Dperf.Lib.Traces
import Dperf.Steady

/-!
What a TCP socket accepts from its peer, for every setting of the send window.

* `Misreceived`: the two ways in which `tcp_check_sequence` lets a segment pass without taking
  it in turn: a payload and `FIN` that overflow the 16 bits of the length, and, with a send
  window, an acknowledgement of a part of what is outstanding.
* `Received`: what has been accepted on a socket so far came in turn, and `rcv_nxt` is where
  it ends. Every call keeps it (`Received.run`) but for a misreceived segment.
* `received_inTurn_iff`: the law of one segment, and what it comes to in runs.
-/

namespace Dperf

open Traces

variable {n : ℕ}

/-! ### One segment -/

/-- A segment that is let pass starts at `rcv_nxt`, and takes `rcv_nxt` to its end. -/
def TakenInTurn (ws : WorkSpace) (th : Tcphdr) (dataLen : UInt16) (v : View) : Prop :=
  (tcpCheckSequence ws th dataLen v).1 = true →
    th.seq = v.sk.rcvNxt ∧
      (tcpCheckSequence ws th dataLen v).2.sk.rcvNxt =
        v.sk.rcvNxt + UInt32.ofNat (acceptedLen th dataLen)

/-- The length of payload and `FIN` does not fit in 16 bits, or, with a send window, the
segment acknowledges a part of what is outstanding and is not a bare acknowledgement in
turn. -/
def Misreceived (ws : WorkSpace) (th : Tcphdr) (dataLen : UInt16) (sk : Socket) : Prop :=
  inOrder th sk ∧ acceptedLen th dataLen = 2 ^ 16 ∨
    ws.sendWindow ≠ 0 ∧ ¬ inOrder th sk ∧ ¬ simultaneousFin th dataLen sk ∧
      tcpSeqLe th.ack sk.sndNxt = true ∧ tcpSeqGt th.ack sk.sndUna = true ∧
      ¬ (th.seq = sk.rcvNxt ∧ acceptedLen th dataLen = 0)

section Segment

variable {ws : WorkSpace} {th : Tcphdr} {dataLen : UInt16} {v : View}

lemma acceptedLen_le (th : Tcphdr) (dataLen : UInt16) : acceptedLen th dataLen ≤ 2 ^ 16 := by
  have := dataLen.toNat_lt
  rw [acceptedLen]
  split_ifs <;> omega

/-- The length that `tcp_check_sequence` computes. -/
lemma toNat_finLen (th : Tcphdr) (dataLen : UInt16) :
    (finLen th dataLen).toNat = acceptedLen th dataLen % 2 ^ 16 := by
  have hlt := dataLen.toNat_lt
  rw [finLen, acceptedLen]
  split_ifs
  · rw [UInt16.toNat_add]
    rfl
  · rw [Nat.add_zero, Nat.mod_eq_of_lt hlt]

lemma finLen_eq_iff (th : Tcphdr) (dataLen : UInt16) :
    (finLen th dataLen).toUInt32 = UInt32.ofNat (acceptedLen th dataLen) ↔
      acceptedLen th dataLen ≠ 2 ^ 16 := by
  have hle := acceptedLen_le th dataLen
  have hlt : acceptedLen th dataLen < UInt32.size := lt_of_le_of_lt hle (by decide)
  rw [← UInt32.toNat_inj, UInt16.toNat_toUInt32, toNat_finLen, UInt32.toNat_ofNat_of_lt' hlt]
  omega

lemma tcpAcceptInOrder_rcvNxt (ws : WorkSpace) (th : Tcphdr) (dataLen : UInt16) (v : View) :
    (tcpAcceptInOrder ws th dataLen v).sk.rcvNxt = th.seq + (finLen th dataLen).toUInt32 := by
  simp only [tcpAcceptInOrder, socketStopRetransmitTimer, socketDelTimer, socketQueueDel,
    socketNodeDel, growWindow]
  split_ifs <;> rfl

lemma growWindow_rcvNxt (sk : Socket) : (growWindow sk).rcvNxt = sk.rcvNxt := by
  rw [growWindow]
  split_ifs <;> rfl

/-- A number of sequence numbers that moves nothing is none. -/
lemma add_ofNat_self {a : UInt32} {k : ℕ} (hk : k < 2 ^ 32) : a = a + UInt32.ofNat k ↔ k = 0 := by
  constructor
  · intro h
    have h0 : UInt32.ofNat k = 0 := by grind
    rw [← UInt32.toNat_inj, UInt32.toNat_ofNat_of_lt' hk] at h0
    exact h0
  · rintro rfl
    simp

/-- With a send window, a segment that acknowledges a part of what is outstanding passes,
wherever it starts. -/
lemma tcpCheckSequence_newAck (hin : ¬ inOrder th v.sk) (hf : ¬ simultaneousFin th dataLen v.sk)
    (ho : v.sk.state ≠ .closed) (hw : ws.sendWindow ≠ 0)
    (hle : tcpSeqLe th.ack v.sk.sndNxt = true) (hgt : tcpSeqGt th.ack v.sk.sndUna = true) :
    tcpCheckSequence ws th dataLen v =
      (true, { v with
        sk := { growWindow { v.sk with sndUna := th.ack } with retrans := 0 } }) := by
  rw [tcpCheckSequence, if_neg hin, if_neg hf, if_neg ho, if_pos hle, if_pos hw, if_pos hgt]

/-- A segment is taken in turn exactly if it is not misreceived. -/
lemma takenInTurn_iff (ho : v.sk.state ≠ .closed) :
    TakenInTurn ws th dataLen v ↔ ¬ Misreceived ws th dataLen v.sk := by
  have hle := acceptedLen_le th dataLen
  constructor
  · rintro h (⟨hin, hlen⟩ | ⟨hw, hin, hf, hack, hgt, hbare⟩)
    · -- the length has wrapped around
      rw [TakenInTurn, tcpCheckSequence_inOrder hin ho] at h
      have hnext := (h rfl).2
      rw [tcpAcceptInOrder_rcvNxt, hin.2, UInt32.add_right_inj, finLen_eq_iff] at hnext
      exact hnext hlen
    · -- `rcv_nxt` has not moved
      rw [TakenInTurn, tcpCheckSequence_newAck hin hf ho hw hack hgt] at h
      obtain ⟨hseq, hnext⟩ := h rfl
      have hstay : v.sk.rcvNxt = v.sk.rcvNxt + UInt32.ofNat (acceptedLen th dataLen) :=
        (growWindow_rcvNxt { v.sk with sndUna := th.ack }).symm.trans hnext
      exact hbare ⟨hseq, (add_ofNat_self (by omega)).mp hstay⟩
  · intro h hpass
    have hs := tcpCheckSequence_step ws th dataLen v
    generalize tcpCheckSequence ws th dataLen v = r at hpass hs ⊢
    cases hs with
    | accept hin =>
        refine ⟨hin.2, ?_⟩
        rw [tcpAcceptInOrder_rcvNxt, hin.2, UInt32.add_right_inj, finLen_eq_iff]
        exact fun hlen => h (.inl ⟨hin, hlen⟩)
    | simultaneous _ hf =>
        obtain ⟨-, -, hone, -, hseq⟩ := hf
        have hlen : acceptedLen th dataLen = 1 := by
          have h1 := toNat_finLen th dataLen
          rw [hone] at h1
          change 1 = _ at h1
          omega
        refine ⟨hseq, ?_⟩
        show th.seq + 1 = _
        rw [hlen, hseq]
        rfl
    | newAck hin hf _ hw hack hgt =>
        have hbare : th.seq = v.sk.rcvNxt ∧ acceptedLen th dataLen = 0 := by
          by_contra hb
          exact h (.inr ⟨hw, hin, hf, hack, hgt, hb⟩)
        refine ⟨hbare.1, ?_⟩
        rw [hbare.2]
        exact (growWindow_rcvNxt _).trans (by simp)
    | closedSocket | drop | dupAck | thirdDupAck | fastRetransmit => cases hpass

end Segment

/-! ### What has been accepted -/

/-- The sequence number that the peer goes on with after an entry: after the opening of a
server, after the `SYN-ACK` that a client waited for, after an accepted segment. -/
def Obs.peerNext : Obs → Option UInt32
  | .opened _ rcvNxt => some rcvNxt
  | .synAck seq _ => some (seq + 1)
  | .accepted seq _ len => some (seq + UInt32.ofNat len)
  | _ => none

/-- An accepted segment starts where the last one ended, and a payload is passed on right
after it was accepted. -/
def InTurn (l : List Obs) (o : Obs) : Prop :=
  (∀ seq ack len, o = .accepted seq ack len → latest Obs.peerNext l = some seq) ∧
    ∀ seq data, o = .request seq data →
      ∃ l' ack len, l = l' ++ [.accepted seq ack len] ∧ 0 < len

/-- An entry of another kind. -/
lemma InTurn.of_ne {l : List Obs} {o : Obs} (ha : ∀ seq ack len, o ≠ .accepted seq ack len)
    (hr : ∀ seq data, o ≠ .request seq data) : InTurn l o :=
  ⟨fun seq ack len h => absurd h (ha seq ack len), fun seq data h => absurd h (hr seq data)⟩

/-- What was accepted on a socket with the trace `l` came in turn, up to `rcv_nxt`. -/
structure Received (l : List Obs) (v : View) : Prop where
  turn : Historic InTurn (l ++ v.trace)
  next : v.sk.state ≠ .closed → latest Obs.peerNext (l ++ v.trace) = some v.sk.rcvNxt

/-- An entry that is about the peer. -/
def Obs.inbound (o : Obs) : Prop := o.peerNext ≠ none ∨ ∃ seq data, o = .request seq data

namespace Received

variable {l : List Obs} {ws : WorkSpace} {v v' : View}

/-! ### Changes -/

/-- Entries that are not about the peer. -/
lemma append {r : List Obs} (h : Received l v) (hr : ∀ o ∈ r, ¬ o.inbound)
    (hs : v'.sk.state ≠ .closed → v.sk.state ≠ .closed) (hn : v'.sk.rcvNxt = v.sk.rcvNxt)
    (ht : v'.trace = v.trace ++ r) : Received l v' := by
  have hnone : ∀ o ∈ r, o.peerNext = none := fun o ho =>
    not_not.mp fun hne => hr o ho (.inl hne)
  constructor
  · rw [ht, ← List.append_assoc]
    refine h.turn.append fun o ho l₁ => .of_ne (fun seq ack len heq => ?_) fun seq data heq => ?_
    · have hno := hnone o ho
      rw [heq] at hno
      cases hno
    · exact absurd (.inr ⟨seq, data, heq⟩) (hr o ho)
  · intro ho
    rw [ht, ← List.append_assoc, latest_append_none hnone, hn]
    exact h.next (hs ho)

lemma touch (h : Received l v) (hs : v'.sk.state ≠ .closed → v.sk.state ≠ .closed)
    (hn : v'.sk.rcvNxt = v.sk.rcvNxt) (ht : v'.trace = v.trace) : Received l v' :=
  h.append (r := []) (by simp) hs hn (by simp [ht])

lemma count (h : Received l v) (f : NetStats → NetStats) : Received l (v.count f) :=
  h.touch id rfl rfl

lemma log {o : Obs} (h : Received l v) (ho : ¬ o.inbound) : Received l (v.log o) :=
  h.append (by simpa using ho) id rfl rfl

/-- An entry that says where the peer goes on. -/
lemma restart {o : Obs} (h : Received l v) (ho : o.peerNext = some v'.sk.rcvNxt)
    (hturn : InTurn (l ++ v.trace) o) (ht : v'.trace = v.trace ++ [o]) : Received l v' := by
  constructor
  · rw [ht, ← List.append_assoc]
    exact historic_snoc.mpr ⟨h.turn, hturn⟩
  · intro _
    rw [ht, ← List.append_assoc]
    exact latest_snoc_some ho

lemma socketClose (h : Received l v) : Received l (socketClose v) := by
  rw [Dperf.socketClose]
  split_ifs with ho
  · exact (h.log (o := .closed v.stats.socketCurrent) (by simp [Obs.inbound, Obs.peerNext])).touch
      (fun hc => absurd rfl hc) rfl rfl
  · exact h

lemma reply (h : Received l v) (f : UInt8) : Received l (tcpReply ws f v) := by
  refine h.append ?_ (by simp) (by rw [tcpReply_sk]) (tcpReply_trace ws f v)
  intro o ho
  split_ifs at ho
  · rw [List.mem_singleton.mp ho]
    simp [Obs.inbound, Obs.peerNext]
  · cases ho

lemma steady (ws : WorkSpace) (l : List Obs) : Steady ws (Received l) where
  touch h _ hs hn ht := h.touch (fun ho => hs ▸ ho) hn ht
  move h ho _ _ := h.touch (fun _ => ho) rfl rfl
  reply f h := h.reply f
  close h := h.socketClose

/-! ### Input -/

/-- `tcp_check_sequence` lets nothing pass on a closed socket, and logs nothing where it lets
pass. -/
lemma passed {th : Tcphdr} {dataLen : UInt16} (hr : (tcpCheckSequence ws th dataLen v).1 = true) :
    v.sk.state ≠ .closed ∧ (tcpCheckSequence ws th dataLen v).2.sk.state ≠ .closed ∧
      (tcpCheckSequence ws th dataLen v).2.trace = v.trace := by
  have hs := tcpCheckSequence_step ws th dataLen v
  generalize tcpCheckSequence ws th dataLen v = r at hr hs ⊢
  cases hs with
  | accept _ ho =>
      exact ⟨ho, by rwa [tcpAcceptInOrder_state], (tcpAcceptInOrder_rest ..).2⟩
  | simultaneous _ hf => exact ⟨by simp [hf.1], by simp, rfl⟩
  | newAck _ _ ho => exact ⟨ho, by rwa [growWindow_state], rfl⟩
  | closedSocket | drop | dupAck | thirdDupAck | fastRetransmit => cases hr

/-- A segment that is not misreceived comes in turn. -/
lemma accepted (h : Received l v) {th : Tcphdr} {dataLen : UInt16}
    (hr : (tcpCheckSequence ws th dataLen v).1 = true)
    (hok : ¬ Misreceived ws th dataLen v.sk) :
    Received l ((tcpCheckSequence ws th dataLen v).2.log
      (.accepted th.seq th.ack (acceptedLen th dataLen))) := by
  obtain ⟨ho, -, htrace⟩ := passed hr
  obtain ⟨hseq, hnext⟩ := (takenInTurn_iff ho).mpr hok hr
  refine h.restart ?_ ⟨?_, ?_⟩ (by rw [View.log_trace, htrace])
  · rw [View.log_sk, hnext, Obs.peerNext, hseq]
  · intro seq ack len heq
    cases heq
    rw [h.next ho, hseq]
  · intro seq data heq
    cases heq

lemma serverOpen (h : Received l v) (th : Tcphdr) : Received l (socketServerOpen th v) := by
  refine h.restart (o := .opened (v.sk.sndNxt + 1) (th.seq + 1)) ?_ (.of_ne (by simp) (by simp)) ?_
  · rw [socketServerOpen]
    dsimp only
    split_ifs <;> rfl
  · rw [socketServerOpen]
    dsimp only
    split_ifs <;> rfl

lemma serverProcessSyn (h : Received l v) (th : Tcphdr) :
    Received l (tcpServerProcessSyn ws th v) := by
  have h₁ : Received l (if v.sk.state = .timeWait then { v with sk.state := .closed } else v) := by
    split_ifs
    · exact h.touch (fun hc => absurd rfl hc) rfl rfl
    · exact h
  rw [tcpServerProcessSyn]
  dsimp only
  generalize (if v.sk.state = .timeWait then { v with sk.state := .closed } else v) = u at h₁ ⊢
  split_ifs
  · exact (h₁.serverOpen th).reply _
  · exact (h₁.reply _).count _
  · exact h₁
  · exact h₁.count _

/-- The payload of an accepted segment is passed on. -/
lemma request {seq ack : UInt32} {len : ℕ} (h : Received l v)
    (ht : ∃ t, v.trace = t ++ [.accepted seq ack len]) (hlen : 0 < len) (data : List UInt8) :
    Received l (v.log (.request seq data)) := by
  constructor
  · rw [View.log_trace, ← List.append_assoc]
    refine historic_snoc.mpr ⟨h.turn, ⟨?_, ?_⟩⟩
    · intro seq' ack' len' heq
      cases heq
    · intro seq' data' heq
      cases heq
      obtain ⟨t, ht⟩ := ht
      exact ⟨l ++ t, ack, len, by rw [ht, List.append_assoc], hlen⟩
  · intro ho
    rw [View.log_trace, ← List.append_assoc, latest_snoc_none rfl]
    exact h.next ho

/-- The segment is not misreceived, where it is one for an open socket that goes to
`tcp_check_sequence`. -/
def Fair (ws : WorkSpace) (m : Mbuf) (sk : Socket) : Prop :=
  hasFlag m.th.flags (thSyn ||| thRst) = false → hasFlag m.th.flags thAck = true →
    sk.state ≠ .closed → ¬ Misreceived ws m.th (tcpDataGet m).2 sk

lemma serverInput (h : Received l v) {m : Mbuf} (hok : Fair ws m v.sk) :
    Received l (tcpServerInput ws m v) := by
  have h₁ : Received l (v.count (tcpFlagsRxCount m.th.flags)) := h.count _
  rw [tcpServerInput]
  split_ifs with hd
  · rw [tcpServerProcessData]
    split_ifs with hr
    · exact ((steady ws l).dropped h₁ hr).count _
    · rw [Bool.not_eq_false] at hr
      obtain ⟨ho, ho', -⟩ := passed hr
      refine (steady ws l).serverAccepted (h₁.accepted hr (hok hd.1 hd.2 ho)) ho'
        fun hu hlen htrace => hu.request htrace ?_ _
      have hpos : (tcpDataGet m).2.toNat ≠ 0 := fun h0 => hlen (UInt16.toNat_inj.mp h0)
      rw [acceptedLen]
      omega
  · exact h₁.serverProcessSyn _
  · exact (steady ws l).rst h₁
  · exact h₁.count _

lemma synAck (h : Received l v) (th : Tcphdr) : Received l ({ v with
    sk.rcvNxt := th.seq + 1
    sk.sndUna := th.ack
    sk.state := .established }.log (.synAck th.seq th.ack)) := by
  exact h.restart (o := .synAck th.seq th.ack) rfl (.of_ne (by simp) (by simp)) rfl

lemma clientInput (h : Received l v) {m : Mbuf} (hok : Fair ws m v.sk) :
    Received l (tcpClientInput ws m v).2 := by
  have h₁ : Received l (v.count (tcpFlagsRxCount m.th.flags)) := h.count _
  rw [tcpClientInput]
  split_ifs with hd
  · rw [tcpClientProcessData]
    split_ifs with hr
    · dsimp only
      exact ((steady ws l).dropped h₁ hr).count _
    · rw [Bool.not_eq_false] at hr
      obtain ⟨ho, -, -⟩ := passed hr
      exact (steady ws l).clientAccepted _ (h₁.accepted hr (hok hd.1 hd.2 ho))
  · exact (steady ws l).clientProcessSynAck h₁ fun hu _ => hu.synAck m.th
  · exact (steady ws l).rst h₁
  · dsimp only
    exact h₁.count _

lemma clientOpened (h : Received l v) (tsc : UInt64) :
    Received l (socketClientOpened ws tsc v) := by
  exact h.restart (o := .opened (v.sk.sndNxt + 1) 0) rfl (.of_ne (by simp) (by simp)) rfl

/-! ### Calls -/

/-- Every call but the one of a misreceived segment keeps what has been received in turn. -/
theorem run (hp : ws.cfg.protocol = .tcp) (h : Received l v) {k : Call}
    (hok : ∀ m, k = .input m → Fair ws m v.sk) : Received l (k.run ws v) := by
  have hdel : Received l (socketDelTimer v) := h.touch id rfl rfl
  cases k with
  | input m =>
      rw [Call.run, l4Input, hp]
      cases ws.cfg.server with
      | true => exact h.serverInput (hok m rfl)
      | false => exact h.clientInput (hok m rfl)
  | ackDone b => exact (steady ws l).ackDelayDone h b
  | ackFlush => exact (steady ws l).ackDelayFlushOne h
  | retransmit =>
      rw [Call.run, hp]
      exact (steady ws l).doRetransmit hdel
  | keepalive =>
      rw [Call.run, hp]
      exact (steady ws l).doKeepalive hdel
  | timeout => exact (hdel.count _).socketClose
  | launch turns =>
      rw [Call.run, socketClientOpen, hp]
      by_cases hc : v.sk.state = .closed
      · rw [if_pos hc]
        exact (steady ws l).clientStart (h.clientOpened _)
      · rw [if_neg hc]
        exact h
  | disableKeepalive => exact h.touch id rfl rfl

end Received

/-! ### Runs -/

/-- The entries from which on the bytes of the peer are counted: the opening of a server, and
the `SYN-ACK` that a client waited for. -/
def Obs.start : Obs → Option UInt32
  | .opened _ rcvNxt => some rcvNxt
  | .synAck seq _ => some (seq + 1)
  | _ => none

/-- The sequence numbers of the segments accepted in a trace. -/
def acceptedBytes (l : List Obs) : ℕ :=
  (l.map fun
    | .accepted _ _ len => len
    | _ => 0).sum

/-- Each byte of the peer is accepted at most once: an accepted segment of a connection
starts where the segments accepted on it before end. A request is an accepted segment of its
own. -/
structure OnceInTurn (l : List Obs) : Prop where
  tiled : ∀ l₁ o p seq ack len q b, l = l₁ ++ o :: p ++ .accepted seq ack len :: q →
    o.start = some b → (∀ o' ∈ p, o'.start = none) → seq = Sequence.seqAt b (acceptedBytes p)
  request : ∀ l₁ seq data l₂, l = l₁ ++ .request seq data :: l₂ →
    ∃ l' ack len, l₁ = l' ++ [.accepted seq ack len] ∧ 0 < len

/-- On one connection, the peer goes on after all that was accepted. -/
lemma latest_start {l₁ : List Obs} {o : Obs} {b : UInt32} (ho : o.start = some b) :
    ∀ {p : List Obs}, Historic InTurn (l₁ ++ o :: p) → (∀ o' ∈ p, o'.start = none) →
      latest Obs.peerNext (l₁ ++ o :: p) = some (Sequence.seqAt b (acceptedBytes p)) := by
  intro p
  induction p using List.reverseRecOn with
  | nil =>
      intro _ _
      refine latest_snoc_some ?_
      rw [acceptedBytes, List.map_nil, List.sum_nil, Sequence.seqAt_zero, ← ho]
      cases o with
      | opened | synAck => rfl
      | closed | sent | datagram | accepted | request => cases ho
  | append_singleton p a ih =>
      intro h hp
      have hsplit : l₁ ++ o :: (p ++ [a]) = (l₁ ++ o :: p) ++ [a] := by simp
      rw [hsplit] at h ⊢
      obtain ⟨hold, hnew⟩ := historic_snoc.mp h
      have hprev := ih hold fun o' ho' => hp o' (List.mem_append_left _ ho')
      have ha := hp a (by simp)
      rw [acceptedBytes, List.map_append, List.sum_append]
      cases a with
      | opened | synAck => cases ha
      | closed | sent | datagram | request => rwa [latest_snoc_none rfl]
      | accepted seq ack len =>
          -- it starts where the others end
          have hseq := hnew.1 seq ack len rfl
          rw [hprev] at hseq
          have hval : (Obs.accepted seq ack len).peerNext = some (seq + UInt32.ofNat len) := rfl
          rw [latest_snoc_some hval, ← Option.some.inj hseq]
          exact congrArg some (Sequence.seqAt_add b _ len).symm

lemma onceInTurn {l : List Obs} (h : Historic InTurn l) : OnceInTurn l := by
  constructor
  · intro l₁ o p seq ack len q b hl ho hp
    have hnext := (h (l₁ ++ o :: p) _ q hl).1 seq ack len rfl
    rw [hl] at h
    rw [latest_start ho h.of_append hp] at hnext
    exact (Option.some.inj hnext).symm
  · intro l₁ seq data l₂ hl
    exact (h l₁ _ l₂ hl).2 seq data rfl

/-- `Received` for a slot. -/
def ReceivedSlot (s : Slot) : Prop := Received s.obs { sk := s.sk }

lemma receivedSlot_iff (s : Slot) : ReceivedSlot s ↔ Historic InTurn s.obs ∧
    (s.sk.state ≠ .closed → latest Obs.peerNext s.obs = some s.sk.rcvNxt) := by
  rw [ReceivedSlot]
  constructor
  · rintro ⟨hturn, hnext⟩
    rw [List.append_nil] at hturn hnext
    exact ⟨hturn, hnext⟩
  · rintro ⟨hturn, hnext⟩
    refine ⟨?_, ?_⟩ <;> rwa [List.append_nil]

/-- A call keeps it of its slot. -/
lemma receivedSlot_run {ws : WorkSpace} (hp : ws.cfg.protocol = .tcp) {w : Worker n} {i : Fin n}
    {k : Call} (hok : ∀ m, k = .input m → Received.Fair ws m (w.pool i))
    (h : ReceivedSlot (w.slot i)) : ReceivedSlot ((w.slot i).after (k.run ws (w.view i))) := by
  have hview : Received (w.slot i).obs (w.view i) := h.touch id rfl rfl
  have hcall := hview.run hp hok
  exact (receivedSlot_iff _).mpr ⟨hcall.turn, hcall.next⟩

/-- The step gives a misreceived segment to an open socket. -/
def Misreceives (st : SocketTable n) (ws : WorkSpace) (e : Event) (w : Worker n) : Prop :=
  ∃ m i, e = .recv .tcp m ∧ socketLookup st ws w.pool m = some i ∧
    hasFlag m.th.flags (thSyn ||| thRst) = false ∧ hasFlag m.th.flags thAck = true ∧
    (w.pool i).state ≠ .closed ∧ Misreceived ws m.th (tcpDataGet m).2 (w.pool i)

/-- **Acceptance in turn.** A segment for an open socket passes `tcp_check_sequence` only in
turn, and takes `rcv_nxt` to its end, exactly if it is not misreceived. In runs without
misreceived segments each byte of the peer is accepted at most once, and no request is passed
on again. -/
theorem received_inTurn_iff {st : SocketTable n} {ws : WorkSpace} (hp : ws.cfg.protocol = .tcp) :
    (∀ th dataLen v, v.sk.state ≠ .closed →
      (TakenInTurn ws th dataLen v ↔ ¬ Misreceived ws th dataLen v.sk)) ∧
    ∀ w, Reach st ws (fun ws e w => ¬ Misreceives st ws e w) w → ∀ i, OnceInTurn (w.obs i) := by
  refine ⟨fun th dataLen v ho => takenInTurn_iff ho, fun w h i => ?_⟩
  have hrun : ∀ i, ReceivedSlot (w.slot i) := by
    refine slots_of_reach ?_ ?_ h
    · intro sk hnew
      exact (receivedSlot_iff _).mpr ⟨historic_nil, fun ho => absurd hnew.closed.1 ho⟩
    · intro c e w₀ hG i k w hperm hw
      have hpc : (ws.at c).cfg.protocol = .tcp := hp
      refine receivedSlot_run hpc ?_ hw
      intro m hk hsyn hack ho hmis
      obtain ⟨rfl, he, hi⟩ := hperm.input m hk
      rw [hpc] at he
      exact hG ⟨m, i, he, hi, hsyn, hack, ho, hmis⟩
  exact onceInTurn ((receivedSlot_iff _).mp (hrun i)).1

/-- The handshake of a client and its first request. -/
def serverRequest : List (Clock × Event) :=
  serverHandshake ++ [(.single 1, .recv .tcp (.single true (thPush ||| thAck) 101 2 [71, 69, 84]))]

/-- A request that a server without a send window accepts is accepted once. -/
theorem received_inTurn_request :
    ∃ w, Reach .single (.single (.singleServer true))
        (fun ws e w => ¬ Misreceives SocketTable.single ws e w) w ∧
      .request 101 [71, 69, 84] ∈ w.obs 0 ∧ OnceInTurn (w.obs 0) := by
  have hG : ∀ c e, (c, e) ∈ serverRequest → ∀ w,
      ¬ Misreceives SocketTable.single ((WorkSpace.single (.singleServer true)).at c) e w := by
    rintro c e he w ⟨m, i, rfl, -, -, -, -, ⟨-, hlen⟩ | ⟨hw, -⟩⟩
    · have hsmall : ∀ m, (c, Event.recv .tcp m) ∈ serverRequest →
          acceptedLen m.th (tcpDataGet m).2 ≠ 2 ^ 16 := by
        intro m hm
        simp only [serverRequest, serverHandshake, List.cons_append, List.nil_append,
          List.mem_cons, Prod.mk.injEq, Event.recv.injEq, true_and, List.not_mem_nil,
          or_false] at hm
        rcases hm with ⟨-, rfl⟩ | ⟨-, rfl⟩ | ⟨-, rfl⟩ <;> decide
      exact hsmall m he hlen
    · exact hw rfl
  obtain ⟨w, hw, hp⟩ := reach_runEvents SocketTable.single _
    (fun ws e w => ¬ Misreceives SocketTable.single ws e w)
    (Worker.single_initial (.single (.singleServer true))) serverRequest
    (p := fun w => decide (.request 101 [71, 69, 84] ∈ w.obs 0)) hG (by decide)
  have hpr : (WorkSpace.single (.singleServer true)).cfg.protocol = .tcp := rfl
  exact ⟨w, hw, by simpa using hp, (received_inTurn_iff hpr).2 w hw 0⟩

/-- The request of a client is accepted and answered. When it comes again, with an
acknowledgement of the first byte of the answer, a server with a send window accepts it a
second time, away from `rcv_nxt`. -/
theorem request_accepted_again :
    (∃ w, Reach .single .window anyStep w ∧ (w.pool 0).state = .established ∧
      ¬ TakenInTurn .window (Mbuf.single true (thPush ||| thAck) 101 3 [71, 69, 84]).th 3
        (w.view 0)) ∧
    ∃ w, Reach .single .window anyStep w ∧ ¬ OnceInTurn (w.obs 0) := by
  constructor
  · obtain ⟨w, hw, hp⟩ := reach_runEvents SocketTable.single _ anyStep
      (Worker.single_initial .window) serverRequest
      (p := fun w => (w.pool 0).state == .established && (w.pool 0).rcvNxt == 104 &&
        (tcpCheckSequence .window (Mbuf.single true (thPush ||| thAck) 101 3 [71, 69, 84]).th 3
          (w.view 0)).1) (fun _ _ _ _ => trivial) (by decide)
    simp only [Bool.and_eq_true, beq_iff_eq] at hp
    refine ⟨w, hw, hp.1.1, fun h => ?_⟩
    have hseq : (101 : UInt32) = 104 := (h hp.2).1.trans hp.1.2
    exact absurd hseq (by decide)
  · obtain ⟨w, hw, hp⟩ := reach_runEvents SocketTable.single _ anyStep
      (Worker.single_initial .window)
      (serverRequest ++
        [(.single 1, .recv .tcp (.single true (thPush ||| thAck) 101 3 [71, 69, 84]))])
      (p := fun w => decide ((w.obs 0).take 7 =
        [.opened 1 101, .sent ⟨2, 1, 80, 1, thSyn ||| thAck, 1, 101, []⟩ 1 2 1,
          .accepted 101 2 0, .accepted 101 2 3, .request 101 [71, 69, 84],
          .sent ⟨2, 1, 80, 1, thPush ||| thAck, 2, 104, [71, 69, 84]⟩ 2 5 3,
          .accepted 101 3 3])) (fun _ _ _ _ => trivial) (by decide)
    refine ⟨w, hw, fun h => ?_⟩
    have hobs := (List.take_append_drop 7 (w.obs 0)).symm
    rw [of_decide_eq_true hp] at hobs
    -- three sequence numbers are accepted before the second time
    have hseq := h.tiled [] _ [_, _, _, _, _] 101 3 3 _ 101 hobs rfl (by simp [Obs.start])
    exact absurd hseq (by decide)

end Dperf
