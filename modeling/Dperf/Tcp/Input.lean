import Dperf.HttpParse
import Dperf.Tcp.Reply

/-!
The receiving side of `tcp.c` that client and server share: `tcp_check_sequence`,
`tcp_process_fin`, `tcp_process_rst`.

* `tcpCheckSequence`: the acceptance test, with its branches in the order of the source;
  `inOrder` and `simultaneousFin` name the tests of its first two.
* `FinStep`: all that `tcpFinFlags` can do (`tcpFinFlags_step`).
* `CheckStep`: all that `tcpCheckSequence` can do, a constructor for each branch that is
  ever taken (`tcpCheckSequence_step`).
-/

namespace Dperf

/-! ### Sequence numbers -/

/-- `tcp_seq_lt`: the difference taken as a signed `int`. -/
def tcpSeqLt (seq0 seq1 : UInt32) : Bool := decide ((seq0 - seq1).toInt32 < 0)

/-- `tcp_seq_le`. -/
def tcpSeqLe (seq0 seq1 : UInt32) : Bool := decide ((seq0 - seq1).toInt32 ≤ 0)

/-- `tcp_seq_gt`. -/
def tcpSeqGt (seq0 seq1 : UInt32) : Bool := decide (0 < (seq0 - seq1).toInt32)

/-- `tcp_data_get`: the payload and its length, computed from the header fields in
16 bits. -/
def tcpDataGet (m : Mbuf) : List UInt8 × UInt16 :=
  if m.version = 4 then (m.data, m.totLen - (20 + m.th.off.toUInt16 * 4))
  else (m.data, m.ip6Plen - m.th.off.toUInt16 * 4)

/-- The test of the first branch of `tcp_check_sequence`: the segment acknowledges all
that was sent and starts where the last one ended. -/
def inOrder (th : Tcphdr) (sk : Socket) : Prop := th.ack = sk.sndNxt ∧ th.seq = sk.rcvNxt

instance (th : Tcphdr) (sk : Socket) : Decidable (inOrder th sk) :=
  inferInstanceAs (Decidable (_ ∧ _))

/-- `data_len` inside `tcp_check_sequence`, where `FIN` counts. -/
def finLen (th : Tcphdr) (dataLen : UInt16) : UInt16 :=
  if hasFlag th.flags thFin then dataLen + 1 else dataLen

/-- The sequence numbers of a received segment. -/
def acceptedLen (th : Tcphdr) (dataLen : UInt16) : ℕ :=
  dataLen.toNat + if hasFlag th.flags thFin then 1 else 0

/-- The test of the `CLOSING` branch of `tcp_check_sequence`: a bare `FIN` of a peer that
has not seen ours. -/
def simultaneousFin (th : Tcphdr) (dataLen : UInt16) (sk : Socket) : Prop :=
  sk.state = .finWait1 ∧ hasFlag th.flags thFin = true ∧ finLen th dataLen = 1 ∧
    th.ack = sk.sndUna ∧ th.seq = sk.rcvNxt

instance (th : Tcphdr) (dataLen : UInt16) (sk : Socket) :
    Decidable (simultaneousFin th dataLen sk) :=
  inferInstanceAs (Decidable (_ ∧ _ ∧ _ ∧ _ ∧ _))

/-- `snd_window` after an acknowledgement, when responses are sent in bursts. -/
def growWindow (sk : Socket) : Socket :=
  if sk.sndWindow < sendWindowMax then { sk with sndWindow := sk.sndWindow + 1 } else sk

/-- The first branch of `tcp_check_sequence`, on an open socket. -/
def tcpAcceptInOrder (ws : WorkSpace) (th : Tcphdr) (dataLen : UInt16) (v : View) : View :=
  let sndLast := v.sk.sndUna
  -- skip syn
  let v := { v with sk.retrans := 0
                    sk.sndUna := th.ack
                    sk.rcvNxt := th.seq + (finLen th dataLen).toUInt32 }
  if ws.sendWindow = 0 then
    if sndLast ≠ th.ack then socketStopRetransmitTimer v else v
  else { v with sk := growWindow v.sk }

/-- `tcp_check_sequence`. -/
def tcpCheckSequence (ws : WorkSpace) (th : Tcphdr) (dataLen : UInt16) (v : View) : Bool × View :=
  if inOrder th v.sk then
    if .closed < v.sk.state then (true, tcpAcceptInOrder ws th dataLen v)
    else (false, { v with sk.retrans := 0 })
  -- CLOSING
  else if simultaneousFin th dataLen v.sk then
    (true, { v with sk.rcvNxt := th.seq + 1, sk.state := .closing })
  -- stale packet
  else if v.sk.state = .closed then (false, v)
  -- my data packet lost
  else if tcpSeqLe th.ack v.sk.sndNxt then
    if ws.sendWindow ≠ 0 then
      -- new data is acked
      if tcpSeqGt th.ack v.sk.sndUna then
        let v := { v with sk.sndUna := th.ack }
        let v := { v with sk := growWindow v.sk }
        (true, { v with sk.retrans := 0 })
      else if th.ack = v.sk.sndUna then
        let v := { v with sk.retrans := v.sk.retrans + 1 }
        let v := v.count fun s => { s with ackDup := s.ackDup + 1 }
        -- 3 ACK means packets loss
        if v.sk.retrans.val < 3 then (false, v)
        else
          let sndNxt := v.sk.sndNxt
          let v := { v with sk.sndNxt := th.ack }
          let v := tcpReply ws (thPush ||| thAck) v
          (false, { v with sk.sndNxt := sndNxt, sk.retrans := 0, sk.sndWindow := 1 })
      -- stale ack
      else (false, v)
    -- fast retransmit: if the last transmission time is more than 1 second
    else if v.sk.timerTsc + ws.tscPerSec < ws.tsc then (false, tcpDoRetransmit ws v)
    else (false, v)
  else if th.ack = v.sk.sndNxt then
    -- lost ack
    if tcpSeqLe th.seq v.sk.rcvNxt then
      (false, (tcpReply ws thAck v).count fun s => { s with ackRt := s.ackRt + 1 })
    else (false, v)
  else (false, v)

/-- `tcp_process_fin`: the flags to answer with. -/
def tcpProcessFin (rxFlags txFlags : UInt8) (v : View) : UInt8 × View :=
  match v.sk.state with
  | .established =>
      if hasFlag rxFlags thFin then
        (txFlags ||| (thFin ||| thAck), { v with sk.state := .lastAck })
      else if hasFlag txFlags thFin then
        (txFlags ||| (thFin ||| thAck), { v with sk.state := .finWait1 })
      else (txFlags, v)
  | .finWait1 =>
      -- enter TIME WAIT
      if hasFlag rxFlags thFin then (txFlags ||| thAck, socketClose v)
      -- wait FIN
      else (txFlags, { v with sk.state := .finWait2 })
  -- in order to prevent the loss of fin, we make up a FIN, which has no cost
  | .closing => (txFlags ||| (thFin ||| thAck), { v with sk.state := .lastAck })
  | .lastAck => (txFlags, socketClose v)
  | .finWait2 =>
      -- FIN is here
      if hasFlag rxFlags thFin then (txFlags ||| thAck, socketClose v) else (txFlags, v)
  | _ => (txFlags, v)

/-- Where data ends: `tcp_process_fin` is called after `ESTABLISHED`, or if one of the two
segments carries `FIN`. -/
def tcpFinFlags (rxFlags txFlags : UInt8) (v : View) : UInt8 × View :=
  if .established < v.sk.state ∨ hasFlag (rxFlags ||| txFlags) thFin then
    tcpProcessFin rxFlags txFlags v
  else (txFlags, v)

/-- `tcp_process_rst`. -/
def tcpProcessRst (v : View) : View := if v.sk.state ≠ .closed then socketClose v else v

/-! ### The branches of `tcp_process_fin` -/

/-- All that `tcpFinFlags` can do: leave the socket alone, start or go on with closing, or
close. -/
inductive FinStep (rxFlags txFlags : UInt8) (v : View) : UInt8 × View → Prop
  | keep (h1 : v.sk.state ≠ .finWait1) (h2 : v.sk.state ≠ .closing) (h3 : v.sk.state ≠ .lastAck)
      (he : v.sk.state = .established →
        hasFlag rxFlags thFin = false ∧ hasFlag txFlags thFin = false) :
      FinStep rxFlags txFlags v (txFlags, v)
  | passive (hs : v.sk.state = .established) (hf : hasFlag rxFlags thFin = true) :
      FinStep rxFlags txFlags v
        (txFlags ||| (thFin ||| thAck), { v with sk.state := .lastAck })
  | active (hs : v.sk.state = .established) (hf : hasFlag rxFlags thFin = false)
      (ht : hasFlag txFlags thFin = true) :
      FinStep rxFlags txFlags v
        (txFlags ||| (thFin ||| thAck), { v with sk.state := .finWait1 })
  | finAcked (hs : v.sk.state = .finWait1) (hf : hasFlag rxFlags thFin = false) :
      FinStep rxFlags txFlags v (txFlags, { v with sk.state := .finWait2 })
  | finBoth (hs : v.sk.state = .finWait1 ∨ v.sk.state = .finWait2)
      (hf : hasFlag rxFlags thFin = true) :
      FinStep rxFlags txFlags v (txFlags ||| thAck, socketClose v)
  | closing (hs : v.sk.state = .closing) :
      FinStep rxFlags txFlags v
        (txFlags ||| (thFin ||| thAck), { v with sk.state := .lastAck })
  | lastAck (hs : v.sk.state = .lastAck) :
      FinStep rxFlags txFlags v (txFlags, socketClose v)

theorem tcpFinFlags_step (rx tx : UInt8) (v : View) : FinStep rx tx v (tcpFinFlags rx tx v) := by
  have hlt : ∀ s : SkState, .established < s → v.sk.state = s →
      tcpFinFlags rx tx v = tcpProcessFin rx tx v := by
    intro s hs he
    rw [tcpFinFlags, if_pos (.inl (he ▸ hs))]
  cases hst : v.sk.state with
  | established =>
      by_cases hf : hasFlag (rx ||| tx) thFin = true
      · rw [tcpFinFlags, if_pos (.inr hf), tcpProcessFin, hst]
        dsimp only
        split_ifs with hr ht
        · exact .passive hst hr
        · exact .active hst (Bool.eq_false_iff.mpr hr) ht
        · rw [hasFlag_or] at hf
          simp [hr, ht] at hf
      · have hlt' : ¬ SkState.established < v.sk.state := by
          rw [hst]
          decide
        rw [tcpFinFlags, if_neg (by simp [hlt', hf])]
        rw [hasFlag_or, Bool.or_eq_true, not_or] at hf
        exact .keep (by simp [hst]) (by simp [hst]) (by simp [hst])
          fun _ => ⟨Bool.eq_false_iff.mpr hf.1, Bool.eq_false_iff.mpr hf.2⟩
  | finWait1 =>
      rw [hlt .finWait1 (by decide) hst, tcpProcessFin, hst]
      dsimp only
      split_ifs with hr
      · exact .finBoth (.inl hst) hr
      · exact .finAcked hst (Bool.eq_false_iff.mpr hr)
  | finWait2 =>
      rw [hlt .finWait2 (by decide) hst, tcpProcessFin, hst]
      dsimp only
      split_ifs with hr
      · exact .finBoth (.inr hst) hr
      · exact .keep (by simp [hst]) (by simp [hst]) (by simp [hst]) (by simp [hst])
  | closing =>
      rw [hlt .closing (by decide) hst, tcpProcessFin, hst]
      exact .closing hst
  | lastAck =>
      rw [hlt .lastAck (by decide) hst, tcpProcessFin, hst]
      exact .lastAck hst
  | closed | listen | synSent | synReceived | closeWait | timeWait =>
      have hk : tcpFinFlags rx tx v = (tx, v) := by
        rw [tcpFinFlags, tcpProcessFin, hst]
        split_ifs <;> rfl
      rw [hk]
      exact .keep (by simp [hst]) (by simp [hst]) (by simp [hst]) (by simp [hst])

/-! ### The branches of `tcp_check_sequence` -/

lemma SkState.closed_lt {s : SkState} : .closed < s ↔ s ≠ .closed := by
  cases s <;> decide

lemma tcpSeqLe_refl (a : UInt32) : tcpSeqLe a a = true := by
  simp [tcpSeqLe]

lemma growWindow_state (sk : Socket) : (growWindow sk).state = sk.state := by
  rw [growWindow]
  split_ifs <;> rfl

lemma tcpAcceptInOrder_state (ws : WorkSpace) (th : Tcphdr) (dataLen : UInt16) (v : View) :
    (tcpAcceptInOrder ws th dataLen v).sk.state = v.sk.state := by
  simp only [tcpAcceptInOrder, socketStopRetransmitTimer, socketDelTimer, socketQueueDel,
    socketNodeDel]
  split_ifs <;> first | rfl | exact growWindow_state _

/-- An accepted segment leaves nothing outstanding. -/
lemma tcpAcceptInOrder_acked {ws : WorkSpace} {th : Tcphdr} {dataLen : UInt16} {v : View}
    (h : inOrder th v.sk) :
    (tcpAcceptInOrder ws th dataLen v).sk.sndNxt = (tcpAcceptInOrder ws th dataLen v).sk.sndUna := by
  have ha : v.sk.sndNxt = th.ack := h.1.symm
  simp only [tcpAcceptInOrder, socketStopRetransmitTimer, socketDelTimer, socketQueueDel,
    socketNodeDel, growWindow]
  split_ifs <;> exact ha

/-- All that `tcp_check_sequence` can do. The branch `ack == snd_nxt` below
`tcp_seq_le(ack, snd_nxt)` is never reached. -/
inductive CheckStep (ws : WorkSpace) (th : Tcphdr) (dataLen : UInt16) (v : View) :
    Bool × View → Prop
  | accept (hin : inOrder th v.sk) (ho : v.sk.state ≠ .closed) :
      CheckStep ws th dataLen v (true, tcpAcceptInOrder ws th dataLen v)
  | closedSocket (hin : inOrder th v.sk) (hc : v.sk.state = .closed) :
      CheckStep ws th dataLen v (false, { v with sk.retrans := 0 })
  | simultaneous (hin : ¬ inOrder th v.sk) (hf : simultaneousFin th dataLen v.sk) :
      CheckStep ws th dataLen v
        (true, { v with sk.rcvNxt := th.seq + 1, sk.state := .closing })
  | drop (hin : ¬ inOrder th v.sk) (hf : ¬ simultaneousFin th dataLen v.sk) :
      CheckStep ws th dataLen v (false, v)
  | newAck (hin : ¬ inOrder th v.sk) (hf : ¬ simultaneousFin th dataLen v.sk)
      (ho : v.sk.state ≠ .closed) (hw : ws.sendWindow ≠ 0)
      (hle : tcpSeqLe th.ack v.sk.sndNxt = true) (hgt : tcpSeqGt th.ack v.sk.sndUna = true) :
      CheckStep ws th dataLen v
        (true, { v with sk := { growWindow { v.sk with sndUna := th.ack } with retrans := 0 } })
  | dupAck (hin : ¬ inOrder th v.sk) (ho : v.sk.state ≠ .closed) (hw : ws.sendWindow ≠ 0)
      (ha : th.ack = v.sk.sndUna) :
      CheckStep ws th dataLen v
        (false, { v with sk.retrans := v.sk.retrans + 1 }.count fun s =>
          { s with ackDup := s.ackDup + 1 })
  | thirdDupAck (hin : ¬ inOrder th v.sk) (ho : v.sk.state ≠ .closed) (hw : ws.sendWindow ≠ 0)
      (ha : th.ack = v.sk.sndUna) (h3 : ¬ (v.sk.retrans + 1).val < 3)
      (hf : ¬ simultaneousFin th dataLen v.sk) (hle : tcpSeqLe th.ack v.sk.sndNxt = true) :
      CheckStep ws th dataLen v
        (false, (fun w : View => { w with sk.sndNxt := v.sk.sndNxt, sk.retrans := 0, sk.sndWindow := 1 })
          (tcpReply ws (thPush ||| thAck)
            ({ v with sk.retrans := v.sk.retrans + 1, sk.sndNxt := th.ack }.count fun s =>
              { s with ackDup := s.ackDup + 1 })))
  | fastRetransmit (hin : ¬ inOrder th v.sk) (hf : ¬ simultaneousFin th dataLen v.sk)
      (ho : v.sk.state ≠ .closed) (hw : ws.sendWindow = 0) :
      CheckStep ws th dataLen v (false, tcpDoRetransmit ws v)

theorem tcpCheckSequence_step (ws : WorkSpace) (th : Tcphdr) (dataLen : UInt16) (v : View) :
    CheckStep ws th dataLen v (tcpCheckSequence ws th dataLen v) := by
  rw [tcpCheckSequence]
  dsimp only
  by_cases hin : inOrder th v.sk
  · rw [if_pos hin]
    split_ifs with ho
    · exact .accept hin (SkState.closed_lt.mp ho)
    · exact .closedSocket hin (not_not.mp fun h => ho (SkState.closed_lt.mpr h))
  rw [if_neg hin]
  by_cases hf : simultaneousFin th dataLen v.sk
  · rw [if_pos hf]
    exact .simultaneous hin hf
  rw [if_neg hf]
  by_cases hc : v.sk.state = .closed
  · rw [if_pos hc]
    exact .drop hin hf
  rw [if_neg hc]
  split_ifs with hle hw hgt ha h3 hts hn hs
  · exact .newAck hin hf hc hw hle hgt
  · exact .dupAck hin hc hw ha
  · exact .thirdDupAck hin hc hw ha h3 hf hle
  · exact .drop hin hf
  · exact .fastRetransmit hin hf hc (not_not.mp hw)
  · exact .drop hin hf
  · exact absurd (hn ▸ tcpSeqLe_refl _) hle
  · exact .drop hin hf
  · exact .drop hin hf

lemma tcpCheckSequence_inOrder {ws : WorkSpace} {th : Tcphdr} {dataLen : UInt16} {v : View}
    (hin : inOrder th v.sk) (ho : v.sk.state ≠ .closed) :
    tcpCheckSequence ws th dataLen v = (true, tcpAcceptInOrder ws th dataLen v) := by
  rw [tcpCheckSequence, if_pos hin, if_pos (SkState.closed_lt.mpr ho)]

lemma tcpCheckSequence_simultaneous {ws : WorkSpace} {th : Tcphdr} {dataLen : UInt16} {v : View}
    (hin : ¬ inOrder th v.sk) (hs : simultaneousFin th dataLen v.sk) :
    tcpCheckSequence ws th dataLen v =
      (true, { v with sk.rcvNxt := th.seq + 1, sk.state := .closing }) := by
  rw [tcpCheckSequence, if_neg hin, if_pos hs]

/-- `tcp_check_sequence` lets nothing pass on a closed socket, and leaves it closed. -/
lemma tcpCheckSequence_closed (ws : WorkSpace) {v : View} (h : v.sk.state = .closed)
    (th : Tcphdr) (dataLen : UInt16) :
    (tcpCheckSequence ws th dataLen v).1 = false ∧
      (tcpCheckSequence ws th dataLen v).2.sk.state = .closed := by
  have hs := tcpCheckSequence_step ws th dataLen v
  generalize tcpCheckSequence ws th dataLen v = r at hs ⊢
  cases hs with
  | closedSocket | drop => exact ⟨rfl, h⟩
  | simultaneous _ hf => exact absurd (h.symm.trans hf.1) (by simp)
  | accept _ ho => exact absurd h ho
  | newAck _ _ ho => exact absurd h ho
  | dupAck _ ho => exact absurd h ho
  | thirdDupAck _ ho => exact absurd h ho
  | fastRetransmit _ _ ho => exact absurd h ho

lemma tcpProcessRst_closed (v : View) : (tcpProcessRst v).sk.state = .closed := by
  rw [tcpProcessRst]
  split_ifs with h
  · exact socketClose_closed v
  · exact not_not.mp h

/-- What passes `tcp_check_sequence` is open. -/
lemma tcpCheckSequence_live {ws : WorkSpace} {th : Tcphdr} {dataLen : UInt16} {v : View}
    (h : (tcpCheckSequence ws th dataLen v).1 = true) :
    (tcpCheckSequence ws th dataLen v).2.sk.state ≠ .closed := by
  have hs := tcpCheckSequence_step ws th dataLen v
  generalize tcpCheckSequence ws th dataLen v = r at h hs ⊢
  cases hs with
  | accept hin ho => rwa [tcpAcceptInOrder_state]
  | simultaneous => simp
  | newAck _ _ ho => rwa [growWindow_state]
  | closedSocket | drop | dupAck | thirdDupAck | fastRetransmit => cases h

end Dperf
