import Dperf.FirstPayload
import Dperf.Lib.Sequence

/-!
The large responses of a TCP server: what `tcp_reply` and `tcp_reply_more` send for a request.

* `Response`: the bursts of one response, with the payload bytes sent so far.
* `Response.left`: what has been sent and what is left below `snd_max` add up.
* `response_of_reach`: in every reachable state a connection with a request is in a response.
-/

namespace Dperf

open Traces

variable {n : ℕ}

/-! ### Bursts -/

/-- The payload that an entry sends for the first time. -/
def Obs.newData : Obs → ℕ
  | .sent seg _ _ fresh => if fresh = 0 then 0 else seg.data.length
  | _ => 0

/-- The payload bytes of a trace, without repetitions. -/
def sentBytes (l : List Obs) : ℕ := (l.map Obs.newData).sum

lemma sentBytes_append (l r : List Obs) : sentBytes (l ++ r) = sentBytes l + sentBytes r := by
  rw [sentBytes, List.map_append, List.sum_append]
  rfl

/-- The socket of a server in a response, with the payload bytes that `tcp_reply` and
`tcp_reply_more` have sent for it: a request starts it, acknowledgements let it go on, and in
between anything happens that does not touch `snd_nxt` and `snd_max`. -/
inductive Response (ws : WorkSpace) : Socket → ℕ → Prop
  | start {v : View} (c : Clock) (hs : v.sk.state = .established) :
      Response ws (tcpServerStartResponse (ws.at c) v).sk
        (sentBytes (tcpServerStartResponse (ws.at c) v).trace - sentBytes v.trace)
  | more {v : View} {b : ℕ} (c : Clock) (h : Response ws v.sk b) (hs : v.sk.state = .established) :
      Response ws (tcpReplyMore (ws.at c) v).sk
        (b + (sentBytes (tcpReplyMore (ws.at c) v).trace - sentBytes v.trace))
  | other {sk sk' : Socket} {b : ℕ} (h : Response ws sk b) (hn : sk'.sndNxt = sk.sndNxt)
      (hm : sk'.sndMax = sk.sndMax) (hs : sk'.state = sk.state) : Response ws sk' b

/-- What is left of the response. -/
def leftOf (sk : Socket) : ℕ := (sk.sndMax - sk.sndNxt).toNat

section Bursts

variable (ws : WorkSpace)

/-- A segment of the burst leaves as much less as it carries. -/
lemma reply_left {f : UInt8} {v : View} (hf : payload ws f = ws.tcpData.bytes)
    (hseq : hasFlag f thSyn = false ∧ hasFlag f thFin = false) (hd : ws.tcpData.bytes ≠ [])
    (hle : ws.tcpData.bytes.length ≤ leftOf v.sk) :
    sentBytes (tcpReply ws f v).trace + leftOf (tcpReply ws f v).sk =
        sentBytes v.trace + leftOf v.sk ∧
      (leftOf (tcpReply ws f v).sk = leftOf v.sk ∨
        leftOf (tcpReply ws f v).sk = leftOf v.sk - ws.tcpData.bytes.length) := by
  have htrace := tcpReply_trace ws f v
  have hpos : 0 < ws.tcpData.bytes.length := List.length_pos_iff.mpr hd
  have hlen : segLen ws f = ws.tcpData.bytes.length := by
    rw [segLen, hf, hseq.1, hseq.2]
    simp
  have hnew : (replyFresh ws f v).toNat = 0 ∧
      sentBytes (tcpReply ws f v).trace = sentBytes v.trace ∨
      (replyFresh ws f v).toNat = ws.tcpData.bytes.length ∧
        sentBytes (tcpReply ws f v).trace = sentBytes v.trace + ws.tcpData.bytes.length := by
    rw [htrace, sentBytes_append]
    by_cases ha : ws.mbufAlloc v.allocs = true
    · rw [if_pos ha]
      have hone : sentBytes [.sent (replySegment ws f v.sk) v.sk.sndUna
          (v.sk.sndNxt + replyFresh ws f v) (replyFresh ws f v).toNat] =
          if (replyFresh ws f v).toNat = 0 then 0 else ws.tcpData.bytes.length := by
        rw [sentBytes, List.map_singleton, List.sum_singleton, Obs.newData, replySegment, hf]
      rw [hone]
      by_cases hn : v.sk.sndNxt = v.sk.sndUna
      · have hfresh := replyFresh_toNat (.inl hseq.1) ha hn
        rw [hlen] at hfresh
        rw [hfresh, if_neg hpos.ne']
        exact .inr ⟨rfl, rfl⟩
      · rw [replyFresh_outstanding hn]
        exact .inl ⟨rfl, by simp⟩
    · have hzero : replyFresh ws f v = 0 := if_neg fun h => ha h.1
      rw [if_neg ha, hzero]
      exact .inl ⟨rfl, by simp [sentBytes]⟩
  have hleft : leftOf (tcpReply ws f v).sk = leftOf v.sk - (replyFresh ws f v).toNat ∧
      (replyFresh ws f v).toNat ≤ leftOf v.sk := by
    have hbound : (replyFresh ws f v).toNat ≤ leftOf v.sk := by omega
    refine ⟨?_, hbound⟩
    rw [leftOf, tcpReply_sndMax, tcpReply_sndNxt]
    have hsub : v.sk.sndMax - (v.sk.sndNxt + replyFresh ws f v) =
        v.sk.sndMax - v.sk.sndNxt - replyFresh ws f v := by grind
    rw [hsub, UInt32.toNat_sub_of_le _ _ (UInt32.le_iff_toNat_le.mpr hbound)]
    rfl
  omega

/-- Where the loop stops at `snd_max`, nothing is left. -/
lemma leftOf_of_not_lt {sk : Socket} (h : leftOf sk < 2 ^ 31)
    (hlt : tcpSeqLt sk.sndNxt sk.sndMax = false) : leftOf sk = 0 := by
  have hdiff : sk.sndNxt - sk.sndMax = 0 - UInt32.ofNat (leftOf sk) := by
    rw [leftOf, UInt32.ofNat_toNat]
    grind
  rw [tcpSeqLt, decide_eq_false_iff_not, hdiff, Int32.lt_iff_toInt_lt,
    Sequence.toInt_neg_ofNat h, Int32.toInt_zero] at hlt
  omega

/-- The burst loop. -/
lemma replyMoreLoop_left (hd : ws.tcpData.bytes ≠ []) (wnd mx : UInt32) : ∀ (m : ℕ) (v : View),
    v.sk.sndMax = mx → ws.tcpData.bytes.length ∣ leftOf v.sk →
    sentBytes (tcpReplyMoreLoop ws wnd mx m v).trace + leftOf (tcpReplyMoreLoop ws wnd mx m v).sk =
        sentBytes v.trace + leftOf v.sk ∧
      ws.tcpData.bytes.length ∣ leftOf (tcpReplyMoreLoop ws wnd mx m v).sk ∧
      leftOf (tcpReplyMoreLoop ws wnd mx m v).sk ≤ leftOf v.sk := by
  intro m
  induction m with
  | zero => exact fun v _ hdvd => ⟨rfl, hdvd, le_rfl⟩
  | succ m ih =>
      intro v hmx hdvd
      rw [tcpReplyMoreLoop]
      split_ifs with hc
      · obtain ⟨-, hlt⟩ := Bool.and_eq_true_iff.mp hc
        have hpos : 0 < leftOf v.sk := by
          rw [Nat.pos_iff_ne_zero]
          intro h0
          rw [leftOf, hmx] at h0
          have hz : mx - v.sk.sndNxt = 0 := UInt32.toNat_inj.mp h0
          have heq : v.sk.sndNxt - mx = 0 := by grind
          rw [tcpSeqLt, heq] at hlt
          exact absurd hlt (by decide)
        have hle := Nat.le_of_dvd hpos hdvd
        have hstep := reply_left ws (f := thPush ||| thAck ||| thUrg)
          (v := { v with sk.sndUna := v.sk.sndNxt }) rfl ⟨rfl, rfl⟩ hd hle
        have hmx' := (tcpReply_sndMax ws (thPush ||| thAck ||| thUrg)
          { v with sk.sndUna := v.sk.sndNxt }).trans hmx
        generalize tcpReply ws (thPush ||| thAck ||| thUrg) { v with sk.sndUna := v.sk.sndNxt } = u
          at hstep hmx' ⊢
        have hleft : leftOf ({ v with sk.sndUna := v.sk.sndNxt } : View).sk = leftOf v.sk := rfl
        rw [hleft] at hstep
        obtain ⟨hsum, hor⟩ := hstep
        have hdvd' : ws.tcpData.bytes.length ∣ leftOf u.sk := by
          rcases hor with h | h
          · rwa [h]
          · rw [h]
            exact Nat.dvd_sub hdvd dvd_rfl
        obtain ⟨hsum', hdvd'', hle'⟩ := ih u hmx' hdvd'
        exact ⟨hsum'.trans hsum, hdvd'', by omega⟩
      · exact ⟨rfl, hdvd, le_rfl⟩

/-- `tcp_reply_more`, unless it closes. -/
lemma replyMore_left (hd : ws.tcpData.bytes ≠ []) {v : View}
    (hdvd : ws.tcpData.bytes.length ∣ leftOf v.sk)
    (hs : (tcpReplyMore ws v).sk.state = .established) :
    sentBytes (tcpReplyMore ws v).trace + leftOf (tcpReplyMore ws v).sk =
        sentBytes v.trace + leftOf v.sk ∧
      ws.tcpData.bytes.length ∣ leftOf (tcpReplyMore ws v).sk ∧
      leftOf (tcpReplyMore ws v).sk ≤ leftOf v.sk := by
  have hloop := replyMoreLoop_left ws hd (v.sk.sndUna + ws.sendWindow) v.sk.sndMax
    v.sk.sndWindow.toNat v rfl hdvd
  rw [tcpReplyMore] at hs ⊢
  dsimp only at hs ⊢
  generalize tcpReplyMoreLoop ws _ _ _ v = u at hs hloop ⊢
  split_ifs at hs ⊢
  · exact hloop
  · rw [tcpReply_state] at hs
    cases hs
  · exact hloop

lemma startRetransmitTimer_rest (tsc : UInt64) (v : View) :
    (socketStartRetransmitTimer tsc v).trace = v.trace ∧
      leftOf (socketStartRetransmitTimer tsc v).sk = leftOf v.sk ∧
      (socketStartRetransmitTimer tsc v).sk.state = v.sk.state := by
  rw [socketStartRetransmitTimer]
  split_ifs <;> exact ⟨rfl, rfl, rfl⟩

/-- A new response. -/
lemma startResponse_left (hd : ws.tcpData.bytes ≠ []) {v : View}
    (hdvd : ws.tcpData.bytes.length ∣ ws.payloadSize.toNat) (hpos : 0 < ws.payloadSize.toNat)
    (hs : (tcpServerStartResponse ws v).sk.state = .established) :
    sentBytes (tcpServerStartResponse ws v).trace + leftOf (tcpServerStartResponse ws v).sk =
        sentBytes v.trace + ws.payloadSize.toNat ∧
      ws.tcpData.bytes.length ∣ leftOf (tcpServerStartResponse ws v).sk ∧
      leftOf (tcpServerStartResponse ws v).sk ≤ ws.payloadSize.toNat := by
  have harm := startRetransmitTimer_rest ws.tsc
  rw [tcpServerStartResponse] at hs ⊢
  dsimp only at hs ⊢
  generalize hv : ({ v with sk := socketInitHttpServer ws.payloadSize v.sk } : View).count _ = v₀
    at hs ⊢
  have hleft : leftOf v₀.sk = ws.payloadSize.toNat := by
    rw [← hv]
    show (v.sk.sndNxt + ws.payloadSize - v.sk.sndNxt).toNat = _
    congr 1
    grind
  have htrace : v₀.trace = v.trace := by rw [← hv]; rfl
  rw [(harm _).2.2] at hs
  rw [(harm _).1, (harm _).2.1, ← hleft, ← htrace]
  rw [← hleft] at hdvd hpos
  split_ifs at hs ⊢
  · exact replyMore_left ws hd hdvd hs
  · obtain ⟨hsum, hor⟩ := reply_left ws (f := thPush ||| thAck) (v := v₀) rfl ⟨rfl, rfl⟩ hd
      (Nat.le_of_dvd hpos hdvd)
    refine ⟨hsum, ?_, ?_⟩
    · show _ ∣ leftOf (tcpReply ws (thPush ||| thAck) v₀).sk
      rcases hor with h | h
      · rwa [h]
      · rw [h]
        exact Nat.dvd_sub hdvd dvd_rfl
    · show leftOf (tcpReply ws (thPush ||| thAck) v₀).sk ≤ _
      omega

end Bursts

/-- What has been sent of a response is a number of whole segments, and what is left adds up
with it. -/
theorem Response.left {ws : WorkSpace} (hd : ws.tcpData.bytes ≠ [])
    (hdvd : ws.tcpData.bytes.length ∣ ws.payloadSize.toNat) (hpos : 0 < ws.payloadSize.toNat)
    {sk : Socket} {b : ℕ} (h : Response ws sk b) (hs : sk.state = .established) :
    b + leftOf sk = ws.payloadSize.toNat ∧ ws.tcpData.bytes.length ∣ leftOf sk := by
  induction h with
  | @start v c _ =>
      obtain ⟨hsum, hdvd', hle⟩ := startResponse_left (ws.at c) hd hdvd hpos hs
      change _ = _ + ws.payloadSize.toNat at hsum
      change _ ≤ ws.payloadSize.toNat at hle
      exact ⟨by omega, hdvd'⟩
  | @more v b c _ hv ih =>
      obtain ⟨hb, hl⟩ := ih hv
      obtain ⟨hsum, hdvd', hle⟩ := replyMore_left (ws.at c) hd hl hs
      exact ⟨by omega, hdvd'⟩
  | @other sk sk' b _ hn hm hst ih =>
      obtain ⟨hb, hl⟩ := ih (hst.symm.trans hs)
      have hleft : leftOf sk' = leftOf sk := by rw [leftOf, leftOf, hn, hm]
      rw [hleft]
      exact ⟨hb, hl⟩

/-! ### Calls -/

/-- On a socket with the trace `l`: a connection is opened before it is established, and once a
request has come it is in a response. -/
structure InResponse (ws : WorkSpace) (l : List Obs) (v : View) : Prop where
  opening : v.sk.state ≠ .closed → v.sk.state < .established → Awaiting (l ++ v.trace)
  answering : v.sk.state = .established → Awaiting (l ++ v.trace) ∨ ∃ b, Response ws v.sk b

namespace InResponse

variable {ws : WorkSpace} {c : Clock} {l : List Obs} {v v' : View}

/-- Nothing that the response rests on has changed. -/
lemma append {r : List Obs} (h : InResponse ws l v) (hr : ∀ o ∈ r, o.awaits = none)
    (hn : v'.sk.sndNxt = v.sk.sndNxt) (hm : v'.sk.sndMax = v.sk.sndMax)
    (hs : v'.sk.state = v.sk.state) (ht : v'.trace = v.trace ++ r) : InResponse ws l v' := by
  have hwait : Awaiting (l ++ v'.trace) ↔ Awaiting (l ++ v.trace) := by
    rw [ht, ← List.append_assoc, Awaiting, latest_append_none hr, Awaiting]
  refine ⟨fun hc hlt => hwait.mpr (h.opening (hs ▸ hc) (hs ▸ hlt)), fun he => ?_⟩
  rcases h.answering (hs.symm.trans he) with ha | ⟨b, hb⟩
  · exact .inl (hwait.mpr ha)
  · exact .inr ⟨b, hb.other hn hm hs⟩

lemma touch (h : InResponse ws l v) (hn : v'.sk.sndNxt = v.sk.sndNxt)
    (hm : v'.sk.sndMax = v.sk.sndMax) (hs : v'.sk.state = v.sk.state)
    (ht : v'.trace = v.trace) : InResponse ws l v' :=
  h.append (r := []) (by simp) hn hm hs (by simp [ht])

lemma count (h : InResponse ws l v) (f : NetStats → NetStats) : InResponse ws l (v.count f) :=
  h.touch rfl rfl rfl rfl

/-- Nothing is asked of a connection that ends. -/
lemma of_late (h : .established < v.sk.state ∨ v.sk.state = .closed) : InResponse ws l v := by
  rcases h with h | h
  · have hne : v.sk.state ≠ .established ∧ ¬ v.sk.state < .established := by
      revert h
      cases v.sk.state <;> decide
    exact ⟨fun _ hlt => absurd hlt hne.2, fun he => absurd he hne.1⟩
  · exact ⟨fun hc => absurd h hc, fun he => by rw [h] at he; cases he⟩

lemma socketClose (ws : WorkSpace) (l : List Obs) (v : View) :
    InResponse ws l (Dperf.socketClose v) :=
  of_late (.inr (socketClose_closed v))

/-- What a reply adds to the trace. -/
lemma awaits_reply (ws : WorkSpace) (f : UInt8) (v : View) :
    ∃ r, (tcpReply ws f v).trace = v.trace ++ r ∧
    ∀ o ∈ r, o.awaits = none := by
  refine ⟨_, tcpReply_trace ws f v, fun o ho => ?_⟩
  split_ifs at ho
  · rw [List.mem_singleton.mp ho]
    rfl
  · cases ho

/-- What another thing than a response sends leaves `snd_nxt` alone. -/
lemma reply (h : InResponse ws l v) {f : UInt8} {u : View} (ht : u.trace = v.trace)
    (hn : v'.sk.sndNxt = v.sk.sndNxt) (hm : v'.sk.sndMax = v.sk.sndMax)
    (hs : v'.sk.state = v.sk.state) (htrace : v'.trace = (tcpReply (ws.at c) f u).trace) :
    InResponse ws l v' := by
  obtain ⟨r, hr, hnone⟩ := awaits_reply (ws.at c) f u
  exact h.append hnone hn hm hs (by rw [htrace, hr, ht])

lemma doRetransmit (h : InResponse ws l v) : InResponse ws l (tcpDoRetransmit (ws.at c) v) := by
  have hs := tcpDoRetransmit_step (ws.at c) v
  generalize tcpDoRetransmit (ws.at c) v = r at hs ⊢
  cases hs with
  | acked => exact h.touch rfl rfl rfl rfl
  | handedOver => exact socketClose ..
  | burst hn hl hw hp =>
      have hback : InResponse ws l
          ((fun w : View => { w with sk.sndNxt := v.sk.sndNxt, sk.sndWindow := 1 }.count fun s =>
              { s with pushRt := s.pushRt + 1 })
            (tcpReply (ws.at c) (thPush ||| thAck)
              { v with sk.retrans := v.sk.retrans + 1, sk.sndNxt := v.sk.sndUna })) :=
        h.reply (u := { v with sk.retrans := v.sk.retrans + 1, sk.sndNxt := v.sk.sndUna })
          rfl rfl (tcpReply_sndMax ..) (tcpReply_state ..) rfl
      rw [socketStartRetransmitTimer]
      split_ifs
      · exact hback.touch rfl rfl rfl rfl
      · exact hback
  | again hn =>
      refine h.reply (c := c) (f := v.sk.flags) (u := { v with sk.retrans := v.sk.retrans + 1 })
        rfl ?_ (tcpReply_sndMax ..) (tcpReply_state ..) rfl
      have hzero : replyFresh (ws.at c) v.sk.flags { v with sk.retrans := v.sk.retrans + 1 } = 0 :=
        replyFresh_outstanding hn
      have hnxt := tcpReply_sndNxt (ws.at c) v.sk.flags { v with sk.retrans := v.sk.retrans + 1 }
      rw [hzero] at hnxt
      exact hnxt.trans (UInt32.add_zero _)
  | giveUp => exact socketClose ..

/-- What `tcp_check_sequence` drops. -/
lemma dropped (h : InResponse ws l v) {th : Tcphdr} {dataLen : UInt16}
    (hr : (tcpCheckSequence (ws.at c) th dataLen v).1 = false) :
    InResponse ws l (tcpCheckSequence (ws.at c) th dataLen v).2 := by
  have hs := tcpCheckSequence_step (ws.at c) th dataLen v
  generalize tcpCheckSequence (ws.at c) th dataLen v = r at hr hs ⊢
  cases hs with
  | accept | simultaneous | newAck => cases hr
  | closedSocket => exact h.touch rfl rfl rfl rfl
  | drop => exact h
  | dupAck => exact h.touch rfl rfl rfl rfl
  | thirdDupAck =>
      generalize hu : View.count _ _ = u
      have htrace : u.trace = v.trace := by rw [← hu]; rfl
      have hmax : u.sk.sndMax = v.sk.sndMax := by rw [← hu]; rfl
      have hst : u.sk.state = v.sk.state := by rw [← hu]; rfl
      exact h.reply (u := u) htrace rfl ((tcpReply_sndMax ..).trans hmax)
        ((tcpReply_state ..).trans hst) rfl
  | fastRetransmit => exact h.doRetransmit

/-- What `tcp_check_sequence` lets pass, unless it crosses a `FIN`. -/
lemma passed (h : InResponse ws l v) (hw : ws.sendWindow ≠ 0) {th : Tcphdr} {dataLen : UInt16}
    (hr : (tcpCheckSequence (ws.at c) th dataLen v).1 = true) :
    InResponse ws l (tcpCheckSequence (ws.at c) th dataLen v).2 := by
  have hp : Withheld.Passed th dataLen v (tcpCheckSequence (ws.at c) th dataLen v).2 :=
    Withheld.passed (show (ws.at c).sendWindow ≠ 0 from hw) hr
  rcases hp.acks with hcl | ⟨-, hst, -, hnxt, hmax, -⟩
  · exact of_late (.inl (hcl ▸ by decide))
  · exact h.touch hnxt hmax hst hp.trace

/-- The flags of `tcp_process_fin` answer a connection that is not established any more. -/
lemma serverAnswer (rx tx : UInt8) (hs : .established < v.sk.state ∨
    v.sk.state = .established ∧ hasFlag rx thFin = true) :
    InResponse ws l (tcpServerAnswer (ws.at c) rx tx v) := by
  have hfin := tcpFinFlags_step rx tx v
  have hlate : .established < (tcpFinFlags rx tx v).2.sk.state ∨
      (tcpFinFlags rx tx v).2.sk.state = .closed := by
    generalize tcpFinFlags rx tx v = r at hfin ⊢
    cases hfin with
    | keep _ _ _ he =>
        refine hs.imp_right fun hest => ?_
        rw [(he hest.1).1] at hest
        cases hest.2
    | passive | closing => exact .inl (show SkState.established < .lastAck by decide)
    | active => exact .inl (show SkState.established < .finWait1 by decide)
    | finAcked => exact .inl (show SkState.established < .finWait2 by decide)
    | finBoth | lastAck => exact .inr (socketClose_closed v)
  rw [tcpServerAnswer]
  generalize tcpFinFlags rx tx v = r at hlate ⊢
  split_ifs
  · exact of_late (by rwa [tcpReply_state])
  · exact of_late hlate
  · exact of_late hlate

lemma awaits_trans {r₁ r₂ : List Obs} {t t₁ t₂ : List Obs} (h₁ : t₁ = t ++ r₁) (h₂ : t₂ = t₁ ++ r₂)
    (hr₁ : ∀ o ∈ r₁, o.awaits = none) (hr₂ : ∀ o ∈ r₂, o.awaits = none) :
    ∃ r, t₂ = t ++ r ∧ ∀ o ∈ r, o.awaits = none :=
  ⟨r₁ ++ r₂, by rw [h₂, h₁, List.append_assoc],
    fun o ho => (List.mem_append.mp ho).elim (hr₁ o) (hr₂ o)⟩

/-- A burst only sends. -/
lemma awaits_replyMore (ws : WorkSpace) (v : View) : ∃ r, (tcpReplyMore ws v).trace = v.trace ++ r ∧
    ∀ o ∈ r, o.awaits = none := by
  have hloop : ∀ (wnd mx : UInt32) (m : ℕ) (v : View), ∃ r,
      (tcpReplyMoreLoop ws wnd mx m v).trace = v.trace ++ r ∧ ∀ o ∈ r, o.awaits = none := by
    intro wnd mx m
    induction m with
    | zero => exact fun v => ⟨[], (List.append_nil _).symm, by simp⟩
    | succ m ih =>
        intro v
        rw [tcpReplyMoreLoop]
        split_ifs
        · obtain ⟨r₁, hr₁, hnone₁⟩ := awaits_reply ws (thPush ||| thAck ||| thUrg)
            { v with sk.sndUna := v.sk.sndNxt }
          obtain ⟨r₂, hr₂, hnone₂⟩ := ih (tcpReply ws (thPush ||| thAck ||| thUrg)
            { v with sk.sndUna := v.sk.sndNxt })
          exact awaits_trans hr₁ hr₂ hnone₁ hnone₂
        · exact ⟨[], (List.append_nil _).symm, by simp⟩
  obtain ⟨r₁, hr₁, hnone₁⟩ := hloop (v.sk.sndUna + ws.sendWindow) v.sk.sndMax v.sk.sndWindow.toNat v
  rw [tcpReplyMore]
  dsimp only
  generalize tcpReplyMoreLoop ws _ _ _ v = u at hr₁ ⊢
  split_ifs
  · exact ⟨r₁, hr₁, hnone₁⟩
  · obtain ⟨r₂, hr₂, hnone₂⟩ := awaits_reply ws (thFin ||| thAck)
      { u with sk.sndUna := v.sk.sndUna, sk.state := .finWait1 }
    exact awaits_trans hr₁ hr₂ hnone₁ hnone₂
  · exact ⟨r₁, hr₁, hnone₁⟩

/-- A burst leaves the state, or closes. -/
lemma replyMore_state (ws : WorkSpace) (v : View) : (tcpReplyMore ws v).sk.state = v.sk.state ∨
    (tcpReplyMore ws v).sk.state = .finWait1 := by
  have hloop := tcpReplyMoreLoop_state ws (v.sk.sndUna + ws.sendWindow) v.sk.sndMax
    v.sk.sndWindow.toNat v
  rw [tcpReplyMore]
  dsimp only
  generalize tcpReplyMoreLoop ws _ _ _ v = u at hloop ⊢
  split_ifs
  · exact .inl hloop
  · exact .inr (tcpReply_state ..)
  · exact .inl hloop

/-- A burst goes on, or closes. -/
lemma replyMore (h : InResponse ws l v) (hs : v.sk.state = .established) :
    InResponse ws l (tcpReplyMore (ws.at c) v) := by
  obtain ⟨r, hr, hnone⟩ := awaits_replyMore (ws.at c) v
  rcases replyMore_state (ws.at c) v with he | he
  · refine ⟨fun _ hlt => ?_, fun _ => ?_⟩
    · rw [he, hs] at hlt
      exact absurd hlt (by decide)
    · rcases h.answering hs with ha | ⟨b, hb⟩
      · refine .inl ?_
        rw [hr, ← List.append_assoc, Awaiting, latest_append_none hnone]
        exact ha
      · exact .inr ⟨_, hb.more c hs⟩
  · exact of_late (.inl (he ▸ by decide))

/-- A request starts a response. -/
lemma startResponse (hs : v.sk.state = .established) :
    InResponse ws l (tcpServerStartResponse (ws.at c) v) := by
  refine ⟨fun _ hlt => ?_, fun _ => .inr ⟨_, .start c hs⟩⟩
  have hstate : (tcpServerStartResponse (ws.at c) v).sk.state = .established ∨
      (tcpServerStartResponse (ws.at c) v).sk.state = .finWait1 := by
    rw [tcpServerStartResponse]
    dsimp only
    rw [(startRetransmitTimer_rest _ _).2.2]
    split_ifs
    · exact (replyMore_state _ _).imp_left fun h => h.trans hs
    · exact .inl ((tcpReply_state ..).trans hs)
  rcases hstate with he | he <;> rw [he] at hlt <;> exact absurd hlt (by decide)

/-- A segment that has passed. -/
lemma serverAccepted (h : InResponse ws l v) (hw : ws.sendWindow ≠ 0) (th : Tcphdr)
    (data : List UInt8) (dataLen : UInt16) (hc : v.sk.state ≠ .closed) :
    InResponse ws l (tcpServerAccepted (ws.at c) th data dataLen v) := by
  rw [tcpServerAccepted]
  dsimp only
  rw [WorkSpace.at_sendWindow, View.log_sk]
  by_cases he : v.sk.state.establish = .established
  · rw [if_pos he]
    -- the connection is opened, or it is established already
    have hlog : InResponse ws l { v.log (.accepted th.seq th.ack (acceptedLen th dataLen)) with
        sk.state := v.sk.state.establish } := by
      refine ⟨fun _ hlt => ?_, fun _ => ?_⟩
      · rw [he] at hlt
        exact absurd (show SkState.established < SkState.established from hlt) (by decide)
      · show Awaiting (l ++ (v.trace ++ _)) ∨ _
        rw [← List.append_assoc, Awaiting, latest_snoc_none rfl]
        by_cases hlt : v.sk.state < .established
        · exact .inl (h.opening hc hlt)
        · have hst : v.sk.state = .established := by
            rwa [SkState.establish, if_neg hlt] at he
          rcases h.answering hst with ha | ⟨b, hb⟩
          · exact .inl ha
          · exact .inr ⟨b, hb.other rfl rfl (he.trans hst.symm)⟩
    split_ifs with hd hf hf
    · exact startResponse he
    · refine serverAnswer _ _ (.inr ⟨he, ?_⟩)
      simpa [hw] using hf
    · exact hlog.replyMore he
    · refine serverAnswer _ _ (.inr ⟨he, ?_⟩)
      simpa [hw] using hf
  · rw [if_neg he]
    refine serverAnswer _ _ (.inl ?_)
    revert he
    show ¬ v.sk.state.establish = .established → SkState.established < v.sk.state.establish
    cases v.sk.state <;> decide

lemma serverProcessSyn (h : InResponse ws l v) (th : Tcphdr) :
    InResponse ws l (tcpServerProcessSyn (ws.at c) th v) := by
  have h₁ : InResponse ws l
      (if v.sk.state = .timeWait then { v with sk.state := .closed } else v) := by
    split_ifs
    · exact of_late (.inr rfl)
    · exact h
  rw [tcpServerProcessSyn]
  dsimp only
  generalize (if v.sk.state = .timeWait then { v with sk.state := .closed } else v) = u at h₁ ⊢
  split_ifs with hc hs
  · -- the new connection awaits its request
    have ht : (socketServerOpen th u).trace =
        u.trace ++ [.opened (u.sk.sndNxt + 1) (th.seq + 1)] := by
      rw [socketServerOpen]
      dsimp only
      split_ifs <;> rfl
    obtain ⟨r, hr, hnone⟩ := awaits_reply (ws.at c) (thSyn ||| thAck) (socketServerOpen th u)
    refine ⟨fun _ _ => ?_, fun he => ?_⟩
    · have hval : (Obs.opened (u.sk.sndNxt + 1) (th.seq + 1)).awaits = some true := rfl
      rw [hr, ht, ← List.append_assoc, ← List.append_assoc, Awaiting, latest_append_none hnone,
        latest_snoc_some hval]
    · rw [tcpReply_state, socketServerOpen_state] at he
      cases he
  · obtain ⟨r, hr, hnone⟩ := awaits_reply (ws.at c) (thSyn ||| thAck) u
    refine ⟨fun hcl hlt => ?_, fun he => ?_⟩
    · rw [View.count_trace, hr, ← List.append_assoc, Awaiting, latest_append_none hnone]
      refine h₁.opening hc ?_
      rw [hs]
      decide
    · rw [View.count_sk, tcpReply_state, hs] at he
      cases he
  · exact h₁
  · exact h₁.count _

lemma serverInput (h : InResponse ws l v) (hw : ws.sendWindow ≠ 0) (m : Mbuf) :
    InResponse ws l (tcpServerInput (ws.at c) m v) := by
  have h₁ : InResponse ws l (v.count (tcpFlagsRxCount m.th.flags)) := h.count _
  rw [tcpServerInput]
  split_ifs
  · rw [tcpServerProcessData]
    split_ifs with hr
    · exact (h₁.dropped hr).count _
    · rw [Bool.not_eq_false] at hr
      have hp := Withheld.passed (show (ws.at c).sendWindow ≠ 0 from hw) hr
      refine (h₁.passed hw hr).serverAccepted hw _ _ _ ?_
      rcases hp.acks with hcl | ⟨-, hst, -⟩
      · rw [hcl]
        decide
      · rw [hst]
        exact hp.live
  · exact h₁.serverProcessSyn _
  · exact of_late (.inr (tcpProcessRst_closed _))
  · exact h₁.count _

/-- Every call keeps a connection with a request in its response. -/
theorem run (hb : BurstServer ws) (h : InResponse ws l v) {k : Call} (hm : k.Allowed ws.cfg) :
    InResponse ws l (k.run (ws.at c) v) := by
  have hdel : InResponse ws l (socketDelTimer v) := h.touch rfl rfl rfl rfl
  obtain ⟨m, rfl⟩ | rfl | rfl := hm.of_server hb.server
  · rw [Call.run, l4Input, WorkSpace.at_cfg, hb.protocol, hb.server]
    exact h.serverInput hb.window m
  · rw [Call.run, WorkSpace.at_cfg, hb.protocol]
    exact hdel.doRetransmit
  · exact socketClose ..

end InResponse

/-! ### Runs -/

/-- `InResponse` for a slot. -/
def InResponseSlot (ws : WorkSpace) (s : Slot) : Prop :=
  (s.sk.state ≠ .closed → s.sk.state < .established → Awaiting s.obs) ∧
    (s.sk.state = .established → Awaiting s.obs ∨ ∃ b, Response ws s.sk b)

/-- In every reachable state an established connection is in the response to its request, or has
none yet. -/
theorem response_of_reach {st : SocketTable n} {ws : WorkSpace} (hb : BurstServer ws)
    {w : Worker n} (h : Reach st ws anyStep w) {i : Fin n} (he : (w.pool i).state = .established)
    (hreq : ¬ Awaiting (w.obs i)) : ∃ b, Response ws (w.pool i) b := by
  have hrun : ∀ i, InResponseSlot ws (w.slot i) := by
    refine slots_of_reach (fun sk hsk => ?_) ?_ h
    · have hc := hsk.closed.1
      exact ⟨fun hne => absurd hc hne, fun he => by cases hc.symm.trans he⟩
    · intro c e w₀ _ i k w hperm hw
      have hview : InResponse ws (w.slot i).obs (w.view i) := by
        refine ⟨?_, ?_⟩
        · rw [Worker.view, List.append_nil]
          exact hw.1
        · rw [Worker.view, List.append_nil]
          exact hw.2
      have hcall := hview.run (c := c) hb hperm.mode
      exact ⟨hcall.opening, hcall.answering⟩
  exact ((hrun i).2 he).resolve_left hreq

end Dperf
