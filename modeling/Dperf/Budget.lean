import Dperf.Acts
import Dperf.CallRuns
import Dperf.Lib.Sequence

/-!
What `retrans` counts: the retransmissions after which `tcp_do_retransmit` gives a socket up.

* `Sendings`: what a trace says about the sequence numbers, namely the first one that has not
  been sent yet, and how often a segment has been sent again from each.
* `Paid`: `retrans` is at most the number of times that a segment has been sent again from
  `snd_una`. Every act keeps it (`Paid.act`) but those that `Spends` names.
* `budget_of_sparing`: in runs without these a socket is given up only after its outstanding
  segment has been sent again as often as `RETRANSMIT_NUM_MAX` allows.
-/

namespace Dperf

open Sequence

variable {n : ℕ}

/-! ### What has been sent again -/

/-- The first sequence number that has not been sent, and for each number how often a segment
that starts there has been sent again since it was first sent. -/
structure Sendings where
  edge : UInt32 := 0
  again : UInt32 → ℕ := fun _ => 0

/-- A segment of `len` sequence numbers is sent for the first time. -/
def Sendings.sendNew (s : Sendings) (len : ℕ) : Sendings where
  edge := s.edge + UInt32.ofNat len
  again y := if (y - s.edge).toNat < len then 0 else s.again y

/-- The segment that starts at `seq` is sent again. -/
def Sendings.sendAgain (s : Sendings) (seq : UInt32) : Sendings where
  edge := s.edge
  again := Function.update s.again seq (s.again seq + 1)

@[simp] lemma Sendings.sendAgain_edge (s : Sendings) (seq : UInt32) :
    (s.sendAgain seq).edge = s.edge := rfl

@[simp] lemma Sendings.sendAgain_self (s : Sendings) (seq : UInt32) :
    (s.sendAgain seq).again seq = s.again seq + 1 := Function.update_self ..

/-- A segment at the edge is sent for the first time, any other one again. -/
def Sendings.next (s : Sendings) : Obs → Sendings
  | .opened sndNxt _ => { edge := sndNxt }
  | .sent seg _ _ _ =>
      if seg.seqLen = 0 then s
      else if seg.seq = s.edge then s.sendNew seg.seqLen
      else s.sendAgain seg.seq
  | _ => s

/-- What a trace says. -/
def sendings (l : List Obs) : Sendings := l.foldl Sendings.next {}

/-- `tcp_do_retransmit` gives an open socket up. -/
structure GivesUp (sk : Socket) : Prop where
  live : sk.state ≠ .closed
  outstanding : sk.sndNxt ≠ sk.sndUna
  own : sk.laddr ≠ 0
  spent : ¬ (sk.retrans + 1).val < retransmitNumMax

/-- That is where it closes a socket of this worker. -/
lemma givesUp_iff {ws : WorkSpace} {v : View} (ho : v.sk.state ≠ .closed) (hl : v.sk.laddr ≠ 0) :
    (tcpDoRetransmit ws v).sk.state = .closed ↔ GivesUp v.sk := by
  rw [tcpDoRetransmit]
  dsimp only
  split_ifs with hn hr hb
  · exact iff_of_false ho fun h => h.outstanding hn
  · refine iff_of_false ?_ fun h => h.spent hr
    rw [socketStartRetransmitTimer]
    split_ifs <;> exact ((tcpReply_state ..).trans_ne ho)
  · exact iff_of_false ((tcpReply_state ..).trans_ne ho) fun h => h.spent hr
  · exact iff_of_true (socketClose_closed _) ⟨ho, hn, hl, hr⟩

section Trace

variable {l r : List Obs} {o : Obs}

lemma sendings_snoc (l : List Obs) (o : Obs) : sendings (l ++ [o]) = (sendings l).next o := by
  rw [sendings, List.foldl_append]
  rfl

lemma sendings_idle (hr : ∀ o ∈ r, o.Idle) : sendings (l ++ r) = sendings l := by
  induction r using List.reverseRecOn with
  | nil => rw [List.append_nil]
  | append_singleton r o ih =>
      have hidle := hr o (by simp)
      rw [← List.append_assoc, sendings_snoc, ih fun b hb => hr b (List.mem_append_left _ hb)]
      cases o with
      | sent | opened => exact hidle.elim
      | _ => rfl

/-- What a reply adds: nothing without an mbuf or with flags that take no sequence numbers. -/
lemma sendings_reply (ws : WorkSpace) (f : UInt8) (v : View) (l : List Obs) :
    sendings (l ++ (tcpReply ws f v).trace) =
      if ws.mbufAlloc v.allocs = true ∧ 0 < segLen ws f then
        if v.sk.sndUna = (sendings (l ++ v.trace)).edge then
          (sendings (l ++ v.trace)).sendNew (segLen ws f)
        else (sendings (l ++ v.trace)).sendAgain v.sk.sndUna
      else sendings (l ++ v.trace) := by
  rw [tcpReply_trace, ← List.append_assoc]
  by_cases ha : ws.mbufAlloc v.allocs = true
  · rw [if_pos ha, sendings_snoc, Sendings.next, replySegment_seqLen]
    by_cases hlen : segLen ws f = 0
    · have hnone : ¬ (ws.mbufAlloc v.allocs = true ∧ 0 < segLen ws f) := fun h => by omega
      rw [if_pos hlen, if_neg hnone]
    · have hsent : ws.mbufAlloc v.allocs = true ∧ 0 < segLen ws f :=
        ⟨ha, Nat.pos_iff_ne_zero.mpr hlen⟩
      rw [if_neg hlen, if_pos hsent]
      rfl
  · have hnone : ¬ (ws.mbufAlloc v.allocs = true ∧ 0 < segLen ws f) := fun h => ha h.1
    rw [if_neg ha, if_neg hnone, List.append_nil]

/-- The advance of `snd_nxt` is what is sent for the first time. -/
lemma ofNat_fresh {ws : WorkSpace} {f : UInt8} {v : View} (hn : v.sk.sndNxt = v.sk.sndUna)
    (hf : hasFlag f thSyn = false ∨ hasFlag f thFin = false) :
    replyFresh ws f v = if ws.mbufAlloc v.allocs = true ∧ 0 < segLen ws f then
      UInt32.ofNat (segLen ws f) else 0 := by
  by_cases ha : ws.mbufAlloc v.allocs = true
  · have hlen := replyFresh_toNat hf ha hn
    have hback : UInt32.ofNat (replyFresh ws f v).toNat = replyFresh ws f v := UInt32.ofNat_toNat
    rw [← hback, hlen]
    split_ifs with hc
    · rfl
    · have hzero : segLen ws f = 0 := by
        by_contra hne
        exact hc ⟨ha, Nat.pos_iff_ne_zero.mpr hne⟩
      rw [hzero]
      rfl
  · rw [if_neg fun h => ha h.1]
    exact if_neg fun h => ha h.1

end Trace

/-! ### Acts -/

/-- On an open socket with the trace `l`, `retrans` counts at most what has been sent again from
`snd_una`, and nothing where nothing is outstanding. -/
structure Paid (sk : Socket) (l : List Obs) : Prop where
  edge : (sendings l).edge = sk.sndNxt
  span : (sk.sndNxt - sk.sndUna).toNat < 2 ^ 31
  acked : sk.sndNxt = sk.sndUna → sk.retrans = 0
  count : sk.sndNxt ≠ sk.sndUna → sk.retrans.val ≤ (sendings l).again sk.sndUna

namespace Paid

variable {ws : WorkSpace} {k : Call} {spends : Prop} {l : List Obs} {sk sk' : Socket} {v v' : View}

lemma congr {l' : List Obs} (h : Paid sk l) (hn : sk'.sndNxt = sk.sndNxt)
    (hu : sk'.sndUna = sk.sndUna) (hr : sk'.retrans = sk.retrans)
    (hl : sendings l' = sendings l) : Paid sk' l' := by
  refine ⟨?_, ?_, ?_, ?_⟩
  · rw [hl, hn]
    exact h.edge
  · rw [hn, hu]
    exact h.span
  · rw [hn, hu, hr]
    exact h.acked
  · rw [hn, hu, hr, hl]
    exact h.count

/-- Nothing is outstanding, and nothing is counted. -/
lemma of_acked (hedge : (sendings l).edge = sk.sndNxt) (hn : sk.sndNxt = sk.sndUna)
    (hr : sk.retrans = 0) : Paid sk l := by
  refine ⟨hedge, ?_, fun _ => hr, fun hne => absurd hn hne⟩
  have hzero : sk.sndNxt - sk.sndUna = 0 := by
    rw [hn]
    grind
  rw [hzero]
  decide

/-- A count that is started again. -/
lemma of_zero (h : Paid sk l) (hn : sk'.sndNxt = sk.sndNxt)
    (hspan : (sk'.sndNxt - sk'.sndUna).toNat < 2 ^ 31) (hr : sk'.retrans = 0) : Paid sk' l :=
  ⟨h.edge.trans hn.symm, hspan, fun _ => hr, fun _ => by rw [hr]; exact Nat.zero_le _⟩

lemma succ_le (r : Fin 8) : (r + 1).val ≤ r.val + 1 := by
  rw [Fin.val_add]
  exact Nat.mod_le _ _

lemma reply (h : Paid v.sk (l ++ v.trace)) {f : UInt8}
    (hf : v.sk.sndNxt = v.sk.sndUna → hasFlag f thSyn = false ∨ hasFlag f thFin = false) :
    Paid (tcpReply ws f v).sk (l ++ (tcpReply ws f v).trace) := by
  have hsend := sendings_reply ws f v l
  have hr : (tcpReply ws f v).sk.retrans = v.sk.retrans := by rw [tcpReply_sk]
  have hn := tcpReply_sndNxt ws f v
  have hu := tcpReply_sndUna ws f v
  by_cases hacked : v.sk.sndNxt = v.sk.sndUna
  · -- sent for the first time, or not at all
    have hzero := h.acked hacked
    have hedge := h.edge
    have hfresh : replyFresh ws f v = _ := ofNat_fresh hacked (hf hacked)
    refine ⟨?_, ?_, fun _ => hr.trans hzero, fun _ => ?_⟩
    · rw [if_pos (hacked.symm.trans hedge.symm)] at hsend
      rw [hsend, hn, hfresh]
      split_ifs
      · show (sendings (l ++ v.trace)).edge + _ = _
        rw [hedge]
      · rw [hedge, UInt32.add_zero]
    · have hsub : v.sk.sndNxt + replyFresh ws f v - v.sk.sndUna = replyFresh ws f v := by
        rw [hacked]
        grind
      have hle := segLen_le ws f
      rw [hn, hu, hsub, hfresh]
      split_ifs
      · rw [UInt32.toNat_ofNat_of_lt' (lt_of_le_of_lt hle (by decide))]
        omega
      · decide
    · rw [hr, hzero]
      exact Nat.zero_le _
  · -- sent again
    have hfresh : replyFresh ws f v = 0 := replyFresh_outstanding hacked
    have hsame : (tcpReply ws f v).sk.sndNxt = v.sk.sndNxt := by
      rw [hn, hfresh, UInt32.add_zero]
    have hedge : v.sk.sndUna ≠ (sendings (l ++ v.trace)).edge := fun he =>
      hacked (h.edge.symm.trans he.symm)
    rw [if_neg hedge] at hsend
    refine ⟨?_, ?_, fun he => absurd (hsame.symm.trans (he.trans hu)) hacked, fun _ => ?_⟩
    · rw [hsend, hsame]
      split_ifs <;> exact h.edge
    · rw [hsame, hu]
      exact h.span
    · have hcount := h.count hacked
      rw [hsend, hr, hu]
      split_ifs
      · rw [Sendings.sendAgain_self]
        omega
      · exact hcount

/-- What is outstanding is sent again, and counted. -/
lemma again (h : Paid v.sk (l ++ v.trace)) (hn : v.sk.sndNxt ≠ v.sk.sndUna) {f : UInt8}
    {u : View} (ha : ws.mbufAlloc v.allocs = true) (hlen : 0 < segLen ws f)
    (hu : u.sk.sndUna = v.sk.sndUna) (hal : u.allocs = v.allocs) (ht : u.trace = v.trace)
    (hn' : sk'.sndNxt = v.sk.sndNxt) (hu' : sk'.sndUna = v.sk.sndUna)
    (hr' : sk'.retrans = v.sk.retrans + 1) : Paid sk' (l ++ (tcpReply ws f u).trace) := by
  have hsend := sendings_reply ws f u l
  have hedge : u.sk.sndUna ≠ (sendings (l ++ u.trace)).edge := by
    rw [hu, ht, h.edge]
    exact hn.symm
  rw [hal, if_pos ⟨ha, hlen⟩, if_neg hedge, hu, ht] at hsend
  refine ⟨?_, ?_, fun he => absurd (hn'.symm.trans (he.trans hu')) hn, fun _ => ?_⟩
  · rw [hsend, hn', Sendings.sendAgain_edge, h.edge]
  · rw [hn', hu']
    exact h.span
  · have hcount := h.count hn
    have hsucc := succ_le v.sk.retrans
    rw [hsend, hr', hu', Sendings.sendAgain_self]
    omega

/-- What is outstanding is sent again, and the count is started again. -/
lemma resends (h : Paid v.sk (l ++ v.trace)) (hv : Resends ws v v') :
    Paid v'.sk (l ++ v'.trace) := by
  obtain ⟨u, huna, hutr, htr⟩ := hv.trace
  -- two acknowledgements are counted only of something outstanding
  have hn : v.sk.sndNxt ≠ v.sk.sndUna := by
    intro hacked
    refine hv.third ?_
    rw [h.acked hacked]
    decide
  have hedge : u.sk.sndUna ≠ (sendings (l ++ u.trace)).edge := by
    rw [huna, hutr, h.edge]
    exact hn.symm
  have hsend := sendings_reply ws (thPush ||| thAck) u l
  rw [if_neg hedge, hutr] at hsend
  refine ⟨?_, ?_, fun _ => hv.retrans, fun _ => ?_⟩
  · rw [htr, hsend, hv.sndNxt]
    split_ifs <;> exact h.edge
  · rw [hv.sndNxt, hv.sndUna]
    exact h.span
  · rw [hv.retrans]
    exact Nat.zero_le _

lemma startRetransmitTimer (h : Paid v.sk (l ++ v.trace)) (tsc : UInt64) :
    Paid (socketStartRetransmitTimer tsc v).sk
      (l ++ (socketStartRetransmitTimer tsc v).trace) := by
  rw [socketStartRetransmitTimer]
  split_ifs
  · exact h.congr rfl rfl rfl rfl
  · exact h

/-- A retransmission that is sent. -/
lemma doRetransmit (h : Paid v.sk (l ++ v.trace)) (hs : ¬ CountsUnsent ws v)
    (ho : (tcpDoRetransmit ws v).sk.state ≠ .closed) :
    Paid (tcpDoRetransmit ws v).sk (l ++ (tcpDoRetransmit ws v).trace) := by
  rw [tcpDoRetransmit] at ho ⊢
  dsimp only at ho ⊢
  split_ifs at ho ⊢ with hn hl hr hb
  · exact of_acked h.edge hn rfl
  · exact absurd (socketClose_closed v) ho
  · -- a burst starts again from `snd_una`
    have hsent : ws.mbufAlloc v.allocs = true ∧ 0 < segLen ws (thPush ||| thAck) := by
      have hflags : againFlags ws v.sk = thPush ||| thAck := if_pos ⟨hb.1, hb.2.2⟩
      rw [← hflags]
      exact not_not.mp fun hno => hs ⟨⟨hn, hl, hr⟩, hno⟩
    have hagain : Paid { v.sk with retrans := v.sk.retrans + 1 } (l ++ (tcpReply ws
        (thPush ||| thAck) { v with
          sk.retrans := v.sk.retrans + 1, sk.sndNxt := v.sk.sndUna }).trace) :=
      h.again hn hsent.1 hsent.2 rfl rfl rfl rfl rfl rfl
    have hsk := tcpReply_sk ws (thPush ||| thAck)
      { v with sk.retrans := v.sk.retrans + 1, sk.sndNxt := v.sk.sndUna }
    generalize tcpReply ws (thPush ||| thAck) _ = u at hagain hsk ho ⊢
    have huna : u.sk.sndUna = v.sk.sndUna := by rw [hsk]
    have hret : u.sk.retrans = v.sk.retrans + 1 := by rw [hsk]
    have hback : Paid ({ u with sk.sndNxt := v.sk.sndNxt, sk.sndWindow := 1 }.count fun s =>
        { s with pushRt := s.pushRt + 1 }).sk (l ++ u.trace) :=
      hagain.congr rfl huna hret rfl
    exact hback.startRetransmitTimer _
  · have hsent : ws.mbufAlloc v.allocs = true ∧ 0 < segLen ws v.sk.flags := by
      have hflags : againFlags ws v.sk = v.sk.flags := if_neg fun hc => hb ⟨hc.1, hn, hc.2⟩
      rw [← hflags]
      exact not_not.mp fun hno => hs ⟨⟨hn, hl, hr⟩, hno⟩
    refine h.again hn hsent.1 hsent.2 rfl rfl rfl ?_ (tcpReply_sndUna ..) ?_
    · show (tcpReply ws _ _).sk.sndNxt = _
      have hfresh : replyFresh ws v.sk.flags { v with sk.retrans := v.sk.retrans + 1 } = 0 :=
        replyFresh_outstanding hn
      rw [tcpReply_sndNxt, hfresh, UInt32.add_zero]
    · show (tcpReply ws _ _).sk.retrans = _
      rw [tcpReply_sk]
  · exact absurd (socketClose_closed _) ho

/-- A new segment after what is outstanding. -/
lemma more {l' : List Obs} (h : Paid sk l) {len : ℕ} (hlen : 0 < len) (hle : len ≤ 10242)
    (hwin : (sk.sndNxt - sk.sndUna).toNat < 2 ^ 30)
    (hl : sendings l' = (sendings l).sendNew len) (hn : sk'.sndNxt = sk.sndNxt + UInt32.ofNat len)
    (hu : sk'.sndUna = sk.sndUna) (hr : sk'.retrans = sk.retrans) : Paid sk' l' := by
  have hlen' : (UInt32.ofNat len).toNat = len :=
    UInt32.toNat_ofNat_of_lt' (lt_of_le_of_lt hle (by decide))
  have hsum : (sk'.sndNxt - sk'.sndUna).toNat = (sk.sndNxt - sk.sndUna).toNat + len := by
    have hdiff : sk'.sndNxt - sk'.sndUna = sk.sndNxt - sk.sndUna + UInt32.ofNat len := by
      rw [hn, hu]
      grind
    rw [hdiff, UInt32.toNat_add, hlen', Nat.mod_eq_of_lt (by omega)]
  refine ⟨?_, by omega, fun he => ?_, fun _ => ?_⟩
  · rw [hl, hn, ← h.edge]
    rfl
  · have hzero : sk'.sndNxt - sk'.sndUna = 0 := by
      rw [he]
      grind
    rw [hzero, UInt32.toNat_zero] at hsum
    omega
  · rw [hr, hl, hu]
    by_cases hacked : sk.sndNxt = sk.sndUna
    · rw [h.acked hacked]
      exact Nat.zero_le _
    · -- the new numbers end before `snd_una` comes again
      have hfar : ¬ (sk.sndUna - (sendings l).edge).toNat < len := by
        have hne : sk.sndNxt.toNat ≠ sk.sndUna.toNat := fun he => hacked (UInt32.toNat_inj.mp he)
        rw [UInt32.toNat_sub] at hwin
        rw [h.edge, UInt32.toNat_sub]
        have h₁ := sk.sndNxt.toNat_lt
        have h₂ := sk.sndUna.toNat_lt
        omega
      calc sk.retrans.val ≤ (sendings l).again sk.sndUna := h.count hacked
        _ = ((sendings l).sendNew len).again sk.sndUna := (if_neg hfar).symm

/-- A burst sends new segments, as far as the window from the first of them goes. -/
lemma burst (hw : ws.sendWindow.toNat < 2 ^ 30) {una sndMax : UInt32} : ∀ (m : ℕ) {v : View},
    Paid { v.sk with sndUna := una } (l ++ v.trace) →
      Paid { (tcpReplyMoreLoop ws (una + ws.sendWindow) sndMax m v).sk with sndUna := una }
        (l ++ (tcpReplyMoreLoop ws (una + ws.sendWindow) sndMax m v).trace) := by
  intro m
  induction m with
  | zero => exact fun h => h
  | succ m ih =>
      intro v h
      rw [tcpReplyMoreLoop]
      split_ifs with hc
      · refine ih ?_
        have hwin : (v.sk.sndNxt - una).toNat < ws.sendWindow.toNat :=
          sub_lt_of_neg (decide_eq_true_eq.mp (Bool.and_eq_true_iff.mp hc).1) h.span (by omega)
        have hedge : v.sk.sndNxt = (sendings (l ++ v.trace)).edge := h.edge.symm
        have hsend := sendings_reply ws (thPush ||| thAck ||| thUrg)
          { v with sk.sndUna := v.sk.sndNxt } l
        have hnxt := tcpReply_sndNxt ws (thPush ||| thAck ||| thUrg)
          { v with sk.sndUna := v.sk.sndNxt }
        have hret : (tcpReply ws (thPush ||| thAck ||| thUrg)
            { v with sk.sndUna := v.sk.sndNxt }).sk.retrans = v.sk.retrans := by rw [tcpReply_sk]
        rw [if_pos hedge] at hsend
        rw [ofNat_fresh rfl (.inl rfl)] at hnxt
        by_cases hs : ws.mbufAlloc v.allocs = true ∧ 0 < segLen ws (thPush ||| thAck ||| thUrg)
        · rw [if_pos hs] at hsend hnxt
          exact h.more hs.2 (segLen_le _ _) (lt_trans hwin hw) hsend hnxt rfl hret
        · rw [if_neg hs] at hsend hnxt
          exact h.congr (hnxt.trans (UInt32.add_zero _)) rfl hret hsend
      · exact h

lemma ack (h : Paid v.sk (l ++ v.trace)) (ho : v.sk.state ≠ .closed) (hv : Acked ws v v') :
    Paid v'.sk (l ++ v'.trace) := by
  rw [hv.trace]
  rcases hv.sndUna with hall | ⟨hc, -⟩ | ⟨-, hle, hgt⟩
  · exact of_acked (h.edge.trans hv.sndNxt.symm) (hv.sndNxt.trans hall.symm) hv.retrans
  · exact absurd hc ho
  · refine h.of_zero hv.sndNxt ?_ hv.retrans
    rw [hv.sndNxt]
    have hparts := sub_add_sub_of_between (decide_eq_true_eq.mp hle) (decide_eq_true_eq.mp hgt)
      h.span
    have hspan := h.span
    omega

lemma starts (hv : Starts ws v v') : Paid v'.sk (l ++ v'.trace) := by
  refine of_acked ?_ hv.acked hv.retrans
  rw [hv.trace, ← List.append_assoc, sendings_snoc]
  rfl

/-- Every act keeps it, but for those that `Spends` names. -/
theorem act (hw : ws.sendWindow.toNat < 2 ^ 30) (hs : ¬ spends)
    (h : v.sk.state ≠ .closed → Paid v.sk (l ++ v.trace)) (hv : Act ws k spends v v')
    (ho : v'.sk.state ≠ .closed) : Paid v'.sk (l ++ v'.trace) := by
  cases hv with
  | rest hu =>
      obtain ⟨r, htr, hr⟩ := hu.trace
      refine (h fun hc => ho (hu.live.mpr hc)).congr hu.sndNxt hu.sndUna hu.retrans ?_
      rw [htr, ← List.append_assoc, sendings_idle hr]
  | ack hu =>
      have hopen : v.sk.state ≠ .closed := hu.state ▸ ho
      exact (h hopen).ack hopen hu
  | starts hu => exact starts hu
  | close => exact absurd (socketClose_closed v) ho
  | reply _ hf => exact (h (tcpReply_state ws _ v ▸ ho)).reply fun _ => hf
  | retransmit _ hcount =>
      refine (h fun hc => ho (tcpDoRetransmit_closed ws hc)).doRetransmit (fun hno => ?_) ho
      exact hs (hcount hno)
  | dupAck _ hsp => exact absurd hsp hs
  | resends _ hu =>
      have hopen : v.sk.state ≠ .closed := hu.live ▸ ho
      exact (h hopen).resends hu
  | @synAck _ seq ack hopen hsp =>
      have hzero : v.sk.retrans = 0 := not_not.mp fun hr => hs (hsp hr)
      refine of_acked ?_ rfl hzero
      rw [View.log_trace, ← List.append_assoc, sendings_snoc]
      exact (h hopen).edge
  | flood _ _ hsp =>
      have hzero : v.sk.retrans = 0 := not_not.mp fun hr => hs (hsp hr)
      have hsent : Paid (tcpReply ws thSyn v).sk (l ++ (tcpReply ws thSyn v).trace) :=
        (h (tcpReply_state ws thSyn v ▸ ho)).reply fun _ => .inr rfl
      refine of_acked hsent.edge rfl ?_
      show (tcpReply ws thSyn v).sk.retrans = 0
      rw [tcpReply_sk]
      exact hzero
  | @burst _ sndMax m _ =>
      have hstate := tcpReplyMoreLoop_state ws (v.sk.sndUna + ws.sendWindow) sndMax m v
      exact burst hw m (h (hstate ▸ ho))
  | retransmitTimer =>
      refine (h ?_).startRetransmitTimer _
      rw [socketStartRetransmitTimer] at ho
      split_ifs at ho <;> exact ho
  | keepaliveTimer =>
      rw [socketStartKeepaliveTimer] at ho ⊢
      split_ifs at ho ⊢
      · exact (h ho).congr rfl rfl rfl rfl
      · exact h ho
  | timeoutTimer => exact (h ho).congr rfl rfl rfl rfl

theorem acts (hw : ws.sendWindow.toNat < 2 ^ 30) (hs : ¬ spends)
    (h : v.sk.state ≠ .closed → Paid v.sk (l ++ v.trace)) (hv : Acts ws k spends v v') :
    v'.sk.state ≠ .closed → Paid v'.sk (l ++ v'.trace) := by
  induction hv with
  | refl => exact h
  | tail _ hact ih => exact act hw hs ih hact

end Paid

/-! ### Runs -/

/-- A client at the time `second`, after it has sent its `SYN` at the first second and again
at each one after it. -/
def synAgain : ℕ → Worker 1
  | 0 => (Worker.single (.single .single)).on 0
      ((Call.launch 0).run ((WorkSpace.single .single).at (.single 1)))
  | m + 1 => (synAgain m).on 0
      (Call.retransmit.run ((WorkSpace.single .single).at (.single (m.toUInt64 + 2))))

end Dperf
