import Dperf.SocketTimer

/-!
The sending side of `tcp.c`: `tcp_new_packet`, `tcp_reply` and `tcp_do_retransmit`.

* `sndSeq`, `payload`, `wireFlags`: what `tcp_new_packet` derives from the flags it is
  called with.
* `tcpReply`: one lemma for each field it writes (`tcpReply_sndNxt`, `tcpReply_link`, …),
  so that no caller has to look inside; a field without one is unchanged.
* `segLen`: the sequence numbers that a segment built from some flags occupies; what
  `snd_nxt` advances by when nothing is outstanding (`replyFresh_toNat`).
* `RetransmitStep`: all that `tcpDoRetransmit` can do (`tcpDoRetransmit_step`).
-/

namespace Dperf

/-! ### Counters -/

/-- `tcp_flags_tx_count`. -/
def tcpFlagsTxCount (f : UInt8) (s : NetStats) : NetStats :=
  let s := if hasFlag f thSyn then { s with synTx := s.synTx + 1 } else s
  let s := if hasFlag f thFin then { s with finTx := s.finTx + 1 } else s
  if hasFlag f thRst then { s with rstTx := s.rstTx + 1 } else s

/-- `tcp_flags_rx_count`. -/
def tcpFlagsRxCount (f : UInt8) (s : NetStats) : NetStats :=
  let s := if hasFlag f thSyn then { s with synRx := s.synRx + 1 } else s
  let s := if hasFlag f thFin then { s with finRx := s.finRx + 1 } else s
  if hasFlag f thRst then { s with rstRx := s.rstRx + 1 } else s

/-- The counters that `tcp_reply` bumps for a payload: a request of the client, a response
of the server. -/
def tcpPushCount (ws : WorkSpace) (s : NetStats) : NetStats :=
  if ws.cfg.server = false then
    let s := { s with tcpReq := s.tcpReq + 1 }
    match ws.cfg.httpMethod with
    | .get => { s with httpGet := s.httpGet + 1 }
    | .post => { s with httpPost := s.httpPost + 1 }
  else if ws.sendWindow = 0 then
    { s with tcpRsp := s.tcpRsp + 1, http2xx := s.http2xx + 1 }
  else s

/-! ### Building a segment -/

/-- The payload of a segment: the templates `tcp_opt` and `tcp` have none. -/
def payload (ws : WorkSpace) (f : UInt8) : List UInt8 :=
  if hasFlag f thSyn then [] else if hasFlag f thPush then ws.tcpData.bytes else []

/-- The flags put on the wire: a payload sent with `TH_URG` carries neither `TH_URG` nor
`TH_PUSH`. -/
def wireFlags (f : UInt8) : UInt8 :=
  if hasFlag f thSyn then f
  else if hasFlag f thPush && hasFlag f thUrg then f &&& ~~~(thUrg ||| thPush) else f

/-- `snd_seq`, a `uint16_t`: the sequence numbers a segment with these flags takes. -/
def sndSeq (ws : WorkSpace) (f : UInt8) : UInt16 :=
  let s : UInt16 :=
    if hasFlag f thSyn then 0 else if hasFlag f thPush then ws.tcpData.dataLen else 0
  if hasFlag (wireFlags f) (thFin ||| thSyn) then s + 1 else s

/-- `mbuf_cache_alloc`. -/
def mbufCacheAlloc (ws : WorkSpace) (v : View) : Bool × View :=
  (ws.mbufAlloc v.allocs, { v with allocs := v.allocs + 1 })

/-- `tcp_new_packet`: the segment always starts at `snd_una`, and `snd_nxt` advances only
when nothing is outstanding. The third component is the advance. -/
def tcpNewPacket (ws : WorkSpace) (tcpFlags : UInt8) (v : View) : Option (Segment × ℕ) × View :=
  let a := mbufCacheAlloc ws v
  let v := a.2
  if a.1 = false then (none, v)
  else
    let fresh : UInt32 :=
      if v.sk.sndNxt = v.sk.sndUna then (sndSeq ws tcpFlags).toUInt32 else 0
    let v := { v with sk.sndNxt := v.sk.sndNxt + fresh }
    (some ({ saddr := v.sk.laddr
             daddr := v.sk.faddr
             sport := v.sk.lport
             dport := v.sk.fport
             flags := wireFlags tcpFlags
             seq := v.sk.sndUna
             ack := v.sk.rcvNxt
             data := payload ws tcpFlags }, fresh.toNat), v)

/-- `work_space_tx_send_tcp`. -/
def workSpaceTxSendTcp (m : Segment) (fresh : ℕ) (v : View) : View :=
  (v.count fun s => { s with tcpTx := s.tcpTx + 1 }).log (.sent m v.sk.sndUna v.sk.sndNxt fresh)

/-- The first half of `tcp_reply`: the flags are kept for a retransmission, counted, and
the segment is built and handed over if an mbuf is found. -/
def tcpReplyTx (ws : WorkSpace) (tcpFlags : UInt8) (v : View) : View :=
  let v := { v with sk.flags := tcpFlags }
  let v := v.count (tcpFlagsTxCount tcpFlags)
  let v := if hasFlag tcpFlags thPush then v.count (tcpPushCount ws) else v
  let p := tcpNewPacket ws tcpFlags v
  match p.1 with
  | some m => workSpaceTxSendTcp m.1 m.2 p.2
  | none => p.2

/-- The second half of `tcp_reply`: the timer of an open socket. -/
def tcpReplyTimer (ws : WorkSpace) (tcpFlags : UInt8) (nowTsc : UInt64) (v : View) : View :=
  if v.sk.state ≠ .closed then
    if hasFlag tcpFlags (thPush ||| thSyn ||| thFin) then
      -- for accurate PPS
      let nowTsc :=
        if !ws.cfg.server && v.sk.keepalive then
          socketAccurateTimerTsc ws.cfg.keepaliveRequestInterval v.sk nowTsc
        else nowTsc
      if ws.sendWindow = 0 then socketStartRetransmitTimer nowTsc v else v
    else if ws.cfg.server ∧ ws.sendWindow = 0 then socketStartTimeoutTimer nowTsc v
    else v
  else v

/-- `tcp_reply`. -/
def tcpReply (ws : WorkSpace) (tcpFlags : UInt8) (v : View) : View :=
  tcpReplyTimer ws tcpFlags ws.tsc (tcpReplyTx ws tcpFlags v)

/-- The counter that `tcp_do_retransmit` bumps for a segment sent again. -/
def retransmitCount (f : UInt8) (s : NetStats) : NetStats :=
  if hasFlag f thSyn then { s with synRt := s.synRt + 1 }
  else if hasFlag f thPush then { s with pushRt := s.pushRt + 1 }
  else if hasFlag f thFin then { s with finRt := s.finRt + 1 }
  else { s with ackRt := s.ackRt + 1 }

/-- `tcp_do_retransmit`. -/
def tcpDoRetransmit (ws : WorkSpace) (v : View) : View :=
  if v.sk.sndNxt = v.sk.sndUna then { v with sk.retrans := 0 }
  -- rss auto: this socket is closed by another worker
  else if v.sk.laddr = 0 then socketClose v
  else
    let v := { v with sk.retrans := v.sk.retrans + 1 }
    if v.sk.retrans.val < retransmitNumMax then
      let flags := v.sk.flags
      if ws.sendWindow ≠ 0 ∧ v.sk.sndNxt ≠ v.sk.sndUna ∧ hasFlag flags thPush then
        let sndNxt := v.sk.sndNxt
        let v := { v with sk.sndNxt := v.sk.sndUna }
        let v := tcpReply ws (thPush ||| thAck) v
        let v := { v with sk.sndNxt := sndNxt, sk.sndWindow := 1 }
        let v := v.count fun s => { s with pushRt := s.pushRt + 1 }
        socketStartRetransmitTimer ws.tsc v
      else
        let v := tcpReply ws flags v
        v.count (retransmitCount flags)
    else socketClose (v.count netStatsSocketError)

/-! ### What `tcp_reply` does, field by field -/

/-- The advance of `snd_nxt` in one `tcp_reply`. -/
def replyFresh (ws : WorkSpace) (f : UInt8) (v : View) : UInt32 :=
  if ws.mbufAlloc v.allocs ∧ v.sk.sndNxt = v.sk.sndUna then (sndSeq ws f).toUInt32 else 0

/-- The time that `tcp_reply` starts a timer with. -/
def replyTsc (ws : WorkSpace) (f : UInt8) (sk : Socket) : UInt64 :=
  if hasFlag f (thPush ||| thSyn ||| thFin) ∧ ws.cfg.server = false ∧ sk.keepalive = true then
    socketAccurateTimerTsc ws.cfg.keepaliveRequestInterval sk ws.tsc
  else ws.tsc

/-- The queue that `tcp_reply` moves its socket to, if any. -/
def replyTimer (ws : WorkSpace) (f : UInt8) (v : View) : Option TimerKind :=
  if v.sk.state = .closed ∨ ws.sendWindow ≠ 0 then none
  else if hasFlag f (thPush ||| thSyn ||| thFin) then
    if v.sk.sndNxt + replyFresh ws f v ≠ v.sk.sndUna then some .retransmit else none
  else if ws.cfg.server then some .timeout else none

/-- The segment that `tcp_reply` sends. -/
def replySegment (ws : WorkSpace) (f : UInt8) (sk : Socket) : Segment :=
  { saddr := sk.laddr, daddr := sk.faddr, sport := sk.lport, dport := sk.fport
    flags := wireFlags f, seq := sk.sndUna, ack := sk.rcvNxt, data := payload ws f }

lemma tcpFlagsTxCount_sockets (f : UInt8) (s : NetStats) :
    (tcpFlagsTxCount f s).sockets = s.sockets := by
  unfold tcpFlagsTxCount
  dsimp only
  split_ifs <;> rfl

lemma tcpFlagsRxCount_sockets (f : UInt8) (s : NetStats) :
    (tcpFlagsRxCount f s).sockets = s.sockets := by
  unfold tcpFlagsRxCount
  dsimp only
  split_ifs <;> rfl

lemma retransmitCount_sockets (f : UInt8) (s : NetStats) :
    (retransmitCount f s).sockets = s.sockets := by
  rw [retransmitCount]
  split_ifs <;> rfl

lemma tcpPushCount_sockets (ws : WorkSpace) (s : NetStats) :
    (tcpPushCount ws s).sockets = s.sockets := by
  unfold tcpPushCount
  dsimp only
  split_ifs
  · cases ws.cfg.httpMethod <;> rfl
  · rfl
  · rfl

lemma tcpReplyTx_sk (ws : WorkSpace) (f : UInt8) (v : View) :
    (tcpReplyTx ws f v).sk =
      { v.sk with flags := f, sndNxt := v.sk.sndNxt + replyFresh ws f v } := by
  unfold tcpReplyTx tcpNewPacket mbufCacheAlloc replyFresh
  by_cases ha : ws.mbufAlloc v.allocs = true <;> by_cases hp : hasFlag f thPush = true <;>
    by_cases hn : v.sk.sndNxt = v.sk.sndUna <;> simp [ha, hp, hn, workSpaceTxSendTcp]

lemma tcpReplyTx_link (ws : WorkSpace) (f : UInt8) (v : View) :
    (tcpReplyTx ws f v).link = v.link := by
  unfold tcpReplyTx tcpNewPacket mbufCacheAlloc
  by_cases ha : ws.mbufAlloc v.allocs = true <;> by_cases hp : hasFlag f thPush = true <;>
    simp [ha, hp, workSpaceTxSendTcp]

lemma tcpReplyTx_allocs (ws : WorkSpace) (f : UInt8) (v : View) :
    (tcpReplyTx ws f v).allocs = v.allocs + 1 := by
  unfold tcpReplyTx tcpNewPacket mbufCacheAlloc
  by_cases ha : ws.mbufAlloc v.allocs = true <;> by_cases hp : hasFlag f thPush = true <;>
    simp [ha, hp, workSpaceTxSendTcp]

lemma tcpReplyTx_trace (ws : WorkSpace) (f : UInt8) (v : View) :
    (tcpReplyTx ws f v).trace = v.trace ++
      if ws.mbufAlloc v.allocs then
        [.sent (replySegment ws f v.sk) v.sk.sndUna (v.sk.sndNxt + replyFresh ws f v)
          (replyFresh ws f v).toNat]
      else [] := by
  unfold tcpReplyTx tcpNewPacket mbufCacheAlloc replyFresh
  by_cases ha : ws.mbufAlloc v.allocs = true <;> by_cases hp : hasFlag f thPush = true <;>
    by_cases hn : v.sk.sndNxt = v.sk.sndUna <;>
    simp [ha, hp, hn, workSpaceTxSendTcp, replySegment]

lemma tcpNewPacket_stats (ws : WorkSpace) (f : UInt8) (v : View) :
    (tcpNewPacket ws f v).2.stats = v.stats := by
  unfold tcpNewPacket mbufCacheAlloc
  dsimp only
  split_ifs <;> rfl

lemma tcpReplyTx_sockets (ws : WorkSpace) (f : UInt8) (v : View) :
    (tcpReplyTx ws f v).stats.sockets = v.stats.sockets := by
  -- handing a packet over counts it, and touches no socket counter
  have hsend : ∀ p : Option (Segment × ℕ) × View,
      (match p.1 with
        | some m => workSpaceTxSendTcp m.1 m.2 p.2
        | none => p.2).stats.sockets = p.2.stats.sockets := by
    rintro ⟨m, w⟩
    cases m <;> rfl
  refine (hsend _).trans ?_
  rw [tcpNewPacket_stats]
  split_ifs
  · exact (tcpPushCount_sockets ws _).trans (tcpFlagsTxCount_sockets f _)
  · exact tcpFlagsTxCount_sockets f _

/-- The timer half of `tcp_reply` in one line: the socket is queued with the time
`replyTsc`, or left alone. -/
lemma tcpReplyTimer_eq (ws : WorkSpace) (f : UInt8) (v : View) :
    tcpReplyTimer ws f ws.tsc (tcpReplyTx ws f v) =
      match replyTimer ws f v with
      | some q => socketAddTimer q (replyTsc ws f v.sk) (tcpReplyTx ws f v)
      | none => tcpReplyTx ws f v := by
  have hsk := tcpReplyTx_sk ws f v
  unfold tcpReplyTimer replyTimer replyTsc socketStartRetransmitTimer socketStartTimeoutTimer
    socketStartRetransmitTimerForce
  rw [hsk]
  by_cases h1 : v.sk.state = .closed
  · simp [h1]
  by_cases h2 : ws.sendWindow = 0
  · by_cases h3 : hasFlag f (thPush ||| thSyn ||| thFin) = true
    · by_cases h4 : v.sk.sndNxt + replyFresh ws f v = v.sk.sndUna
      · simp [h1, h2, h3, h4]
      · by_cases h5 : ws.cfg.server = true <;> by_cases h6 : v.sk.keepalive = true <;>
          simp [h1, h2, h3, h4, h5, h6, socketAccurateTimerTsc]
    · by_cases h5 : ws.cfg.server = true <;> simp [h1, h2, h3, h5]
  · by_cases h3 : hasFlag f (thPush ||| thSyn ||| thFin) = true <;> simp [h1, h2, h3]

lemma tcpReply_sk (ws : WorkSpace) (f : UInt8) (v : View) :
    (tcpReply ws f v).sk =
      { v.sk with
        flags := f
        sndNxt := v.sk.sndNxt + replyFresh ws f v
        timerTsc := if replyTimer ws f v = none then v.sk.timerTsc else replyTsc ws f v.sk } := by
  rw [tcpReply, tcpReplyTimer_eq]
  cases replyTimer ws f v <;>
    simp [socketAddTimer, socketQueuePush, socketQueueDel, socketNodeDel, tcpReplyTx_sk]

lemma tcpReply_link (ws : WorkSpace) (f : UInt8) (v : View) :
    (tcpReply ws f v).link =
      match replyTimer ws f v with
      | some q => .tail q
      | none => v.link := by
  rw [tcpReply, tcpReplyTimer_eq]
  cases replyTimer ws f v <;> simp [socketAddTimer, socketQueuePush, tcpReplyTx_link]

lemma tcpReply_trace (ws : WorkSpace) (f : UInt8) (v : View) :
    (tcpReply ws f v).trace = v.trace ++
      if ws.mbufAlloc v.allocs then
        [.sent (replySegment ws f v.sk) v.sk.sndUna (v.sk.sndNxt + replyFresh ws f v)
          (replyFresh ws f v).toNat]
      else [] := by
  rw [tcpReply, tcpReplyTimer_eq]
  cases replyTimer ws f v <;>
    simp [socketAddTimer, socketQueuePush, socketQueueDel, socketNodeDel, tcpReplyTx_trace]

@[simp] lemma tcpReply_allocs (ws : WorkSpace) (f : UInt8) (v : View) :
    (tcpReply ws f v).allocs = v.allocs + 1 := by
  rw [tcpReply, tcpReplyTimer_eq]
  cases replyTimer ws f v <;>
    simp [socketAddTimer, socketQueuePush, socketQueueDel, socketNodeDel, tcpReplyTx_allocs]

@[simp] lemma tcpReply_sockets (ws : WorkSpace) (f : UInt8) (v : View) :
    (tcpReply ws f v).stats.sockets = v.stats.sockets := by
  rw [tcpReply, tcpReplyTimer_eq]
  cases replyTimer ws f v <;>
    simp [socketAddTimer, socketQueuePush, socketQueueDel, socketNodeDel, tcpReplyTx_sockets]

section Fields

variable (ws : WorkSpace) (f : UInt8) (v : View)

@[simp] lemma tcpReply_flags : (tcpReply ws f v).sk.flags = f := by rw [tcpReply_sk]
@[simp] lemma tcpReply_state : (tcpReply ws f v).sk.state = v.sk.state := by rw [tcpReply_sk]
@[simp] lemma tcpReply_sndUna : (tcpReply ws f v).sk.sndUna = v.sk.sndUna := by rw [tcpReply_sk]
@[simp] lemma tcpReply_rcvNxt : (tcpReply ws f v).sk.rcvNxt = v.sk.rcvNxt := by rw [tcpReply_sk]
@[simp] lemma tcpReply_keepalive : (tcpReply ws f v).sk.keepalive = v.sk.keepalive := by
  rw [tcpReply_sk]
@[simp] lemma tcpReply_laddr : (tcpReply ws f v).sk.laddr = v.sk.laddr := by rw [tcpReply_sk]
@[simp] lemma tcpReply_faddr : (tcpReply ws f v).sk.faddr = v.sk.faddr := by rw [tcpReply_sk]
@[simp] lemma tcpReply_sndMax : (tcpReply ws f v).sk.sndMax = v.sk.sndMax := by rw [tcpReply_sk]
@[simp] lemma tcpReply_sndWindow : (tcpReply ws f v).sk.sndWindow = v.sk.sndWindow := by
  rw [tcpReply_sk]
@[simp] lemma tcpReply_sndNxt : (tcpReply ws f v).sk.sndNxt = v.sk.sndNxt + replyFresh ws f v := by
  rw [tcpReply_sk]

end Fields

/-! ### Sequence numbers of a segment -/

/-- The flags of a segment that takes sequence numbers, if its template has a payload. -/
abbrev seqFlags : UInt8 := thPush ||| thSyn ||| thFin

lemma wireFlags_of {m : UInt8} (h : ~~~(thUrg ||| thPush) &&& m = m) (f : UInt8) :
    hasFlag (wireFlags f) m = hasFlag f m := by
  rw [wireFlags]
  split_ifs
  · rfl
  · rw [hasFlag, hasFlag, UInt8.and_assoc, h]
  · rfl

lemma wireFlags_syn (f : UInt8) : hasFlag (wireFlags f) thSyn = hasFlag f thSyn :=
  wireFlags_of (by decide) f

lemma wireFlags_fin (f : UInt8) : hasFlag (wireFlags f) thFin = hasFlag f thFin :=
  wireFlags_of (by decide) f

/-- The sequence numbers that a segment with these flags occupies. -/
def segLen (ws : WorkSpace) (f : UInt8) : ℕ :=
  (payload ws f).length + (if hasFlag f thSyn then 1 else 0) + (if hasFlag f thFin then 1 else 0)

lemma replySegment_seqLen (ws : WorkSpace) (f : UInt8) (sk : Socket) :
    (replySegment ws f sk).seqLen = segLen ws f := by
  simp [Segment.seqLen, replySegment, wireFlags_syn, wireFlags_fin, segLen]

lemma payload_length_le (ws : WorkSpace) (f : UInt8) : (payload ws f).length ≤ 10240 := by
  have h := ws.tcpData.fits
  rw [mbufDataSize] at h
  rw [payload]
  split_ifs
  · simp
  · omega
  · simp

lemma segLen_le (ws : WorkSpace) (f : UInt8) : segLen ws f ≤ 10242 := by
  have h := payload_length_le ws f
  rw [segLen]
  split_ifs <;> omega

/-- `snd_seq` is the length of the segment; no caller asks for `SYN` and `FIN` together. -/
lemma sndSeq_toNat (ws : WorkSpace) {f : UInt8}
    (h : hasFlag f thSyn = false ∨ hasFlag f thFin = false) :
    (sndSeq ws f).toNat = segLen ws f := by
  have hle := payload_length_le ws f
  have hd := ws.tcpData.toNat_dataLen
  have hmask : hasFlag (wireFlags f) (thFin ||| thSyn) = (hasFlag f thFin || hasFlag f thSyn) := by
    rw [hasFlag_mask_or, wireFlags_syn, wireFlags_fin]
  rw [sndSeq, segLen, hmask]
  rw [payload] at hle ⊢
  cases hs : hasFlag f thSyn with
  | true =>
      have hf : hasFlag f thFin = false := h.resolve_left (by simp [hs])
      simp [hf]
  | false =>
      simp only [hs] at hle
      cases hp : hasFlag f thPush with
      | false => cases hasFlag f thFin <;> simp
      | true =>
          simp only [hp, if_true, Bool.false_eq_true, if_false] at hle
          cases hasFlag f thFin with
          | false => simp [hd]
          | true =>
              simp [UInt16.toNat_add, hd]
              omega

lemma hasFlag_seqFlags (f : UInt8) :
    hasFlag f seqFlags = (hasFlag f thPush || hasFlag f thSyn || hasFlag f thFin) := by
  rw [seqFlags, hasFlag_mask_or, hasFlag_mask_or]

lemma segLen_pos {ws : WorkSpace} {f : UInt8} (ht : ws.tcpData.bytes ≠ [])
    (hf : hasFlag f seqFlags = true) : 0 < segLen ws f := by
  have hb : 0 < ws.tcpData.bytes.length := List.length_pos_iff.mpr ht
  rw [hasFlag_seqFlags] at hf
  rw [segLen, payload]
  split_ifs <;> simp_all

/-- A bare acknowledgement or reset occupies nothing. -/
lemma segLen_bare {ws : WorkSpace} {f : UInt8} (hf : hasFlag f seqFlags = false) :
    segLen ws f = 0 := by
  rw [hasFlag_seqFlags] at hf
  simp only [Bool.or_eq_false_iff] at hf
  simp [segLen, payload, hf]

/-- The advance of `snd_nxt` when nothing is outstanding and an mbuf is found. -/
lemma replyFresh_toNat {ws : WorkSpace} {f : UInt8} {v : View}
    (h : hasFlag f thSyn = false ∨ hasFlag f thFin = false)
    (ha : ws.mbufAlloc v.allocs = true) (hn : v.sk.sndNxt = v.sk.sndUna) :
    (replyFresh ws f v).toNat = segLen ws f := by
  rw [replyFresh, if_pos ⟨ha, hn⟩, UInt16.toNat_toUInt32, sndSeq_toNat ws h]

lemma replyFresh_outstanding {ws : WorkSpace} {f : UInt8} {v : View}
    (hn : v.sk.sndNxt ≠ v.sk.sndUna) : replyFresh ws f v = 0 := by
  simp [replyFresh, hn]

lemma still_outstanding {ws : WorkSpace} {f : UInt8} {v : View}
    (hn : v.sk.sndNxt ≠ v.sk.sndUna) : v.sk.sndNxt + replyFresh ws f v ≠ v.sk.sndUna := by
  rw [replyFresh_outstanding hn]
  simpa using hn

lemma replyFresh_bare {ws : WorkSpace} {f : UInt8} {v : View} (hf : hasFlag f seqFlags = false) :
    replyFresh ws f v = 0 := by
  have h : hasFlag f thSyn = false ∨ hasFlag f thFin = false := by
    rw [hasFlag_seqFlags] at hf
    simp only [Bool.or_eq_false_iff] at hf
    exact .inr hf.2
  rw [replyFresh]
  split_ifs
  · rw [← UInt32.toNat_inj, UInt16.toNat_toUInt32, sndSeq_toNat ws h, segLen_bare hf]
    rfl
  · rfl

/-- After a segment that takes sequence numbers something is outstanding. -/
lemma reply_outstanding {ws : WorkSpace} {f : UInt8} {v : View} (ht : ws.tcpData.bytes ≠ [])
    (ha : ws.mbufAlloc v.allocs = true) (hf : hasFlag f seqFlags = true)
    (h : hasFlag f thSyn = false ∨ hasFlag f thFin = false) :
    v.sk.sndNxt + replyFresh ws f v ≠ v.sk.sndUna := by
  by_cases hn : v.sk.sndNxt = v.sk.sndUna
  · intro heq
    have h0 : replyFresh ws f v = 0 := by
      rw [hn] at heq
      grind
    have hpos := segLen_pos ht hf
    rw [← replyFresh_toNat h ha hn, h0] at hpos
    simp at hpos
  · exact still_outstanding hn

/-! ### The branches of `tcp_do_retransmit` -/

/-- All that `tcp_do_retransmit` can do. -/
inductive RetransmitStep (ws : WorkSpace) (v : View) : View → Prop
  | acked (hn : v.sk.sndNxt = v.sk.sndUna) : RetransmitStep ws v { v with sk.retrans := 0 }
  | handedOver (hn : v.sk.sndNxt ≠ v.sk.sndUna) (hl : v.sk.laddr = 0) :
      RetransmitStep ws v (socketClose v)
  | burst (hn : v.sk.sndNxt ≠ v.sk.sndUna) (hl : v.sk.laddr ≠ 0) (hw : ws.sendWindow ≠ 0)
      (hp : hasFlag v.sk.flags thPush = true) :
      RetransmitStep ws v (socketStartRetransmitTimer ws.tsc
        ((fun w : View => { w with sk.sndNxt := v.sk.sndNxt, sk.sndWindow := 1 }.count fun s =>
            { s with pushRt := s.pushRt + 1 })
          (tcpReply ws (thPush ||| thAck)
            { v with sk.retrans := v.sk.retrans + 1, sk.sndNxt := v.sk.sndUna })))
  | again (hn : v.sk.sndNxt ≠ v.sk.sndUna) (hl : v.sk.laddr ≠ 0)
      (hw : ws.sendWindow = 0 ∨ hasFlag v.sk.flags thPush = false) :
      RetransmitStep ws v ((tcpReply ws v.sk.flags { v with sk.retrans := v.sk.retrans + 1 }).count
        (retransmitCount v.sk.flags))
  | giveUp (hn : v.sk.sndNxt ≠ v.sk.sndUna) (hl : v.sk.laddr ≠ 0) :
      RetransmitStep ws v
        (socketClose ({ v with sk.retrans := v.sk.retrans + 1 }.count netStatsSocketError))

theorem tcpDoRetransmit_step (ws : WorkSpace) (v : View) :
    RetransmitStep ws v (tcpDoRetransmit ws v) := by
  rw [tcpDoRetransmit]
  dsimp only
  split_ifs with hn hl hr hb
  · exact .acked hn
  · exact .handedOver hn hl
  · exact .burst hn hl hb.1 hb.2.2
  · refine .again hn hl ?_
    by_cases hw : ws.sendWindow = 0
    · exact .inl hw
    · exact .inr (Bool.eq_false_iff.mpr fun hp => hb ⟨hw, hn, hp⟩)
  · exact .giveUp hn hl

lemma tcpDoRetransmit_closed (ws : WorkSpace) {v : View} (h : v.sk.state = .closed) :
    (tcpDoRetransmit ws v).sk.state = .closed := by
  have hs := tcpDoRetransmit_step ws v
  generalize tcpDoRetransmit ws v = r at hs ⊢
  cases hs with
  | acked => exact h
  | handedOver => exact socketClose_closed _
  | burst =>
      rw [socketStartRetransmitTimer]
      split_ifs <;> exact (tcpReply_state ..).trans h
  | again => exact (tcpReply_state ..).trans h
  | giveUp => exact socketClose_closed _

end Dperf
