import Dperf.TimerDates

/-!
The time between the segments of a TCP socket with `send_window == 0` and their retransmission
by the timer.

* `Elapsed`: where `socket_timer_run` finds a socket due and `tcp_do_retransmit` sends again,
  `retransmit_timeout` has passed since the last segment with `SYN`, `PUSH` or `FIN`.
* `Realigns`: a client sends such a segment, and asks `socket_accurate_timer_tsc`, which dates it
  back; by what the call finds (`Call.dating`).
* `elapsed_of_aligned`: the law holds in runs without such a segment.
-/

namespace Dperf

variable {n : ℕ}

/-! ### The law -/

/-- The timeout that `socket_timer_run` gets for the retransmit queue. -/
def retransmitTimer (cfg : Config) : UInt64 :=
  if cfg.server then cfg.retransmitTimeout + cfg.retransmitTimeout / 10 else cfg.retransmitTimeout

/-- The loop of `socket_timer_run` finds the socket `i` at the head of the retransmit queue, and
due. -/
structure TimerFinds (ws : WorkSpace) (w : Worker n) (i : Fin n) : Prop where
  head : ∃ l, w.timers.list .retransmit = i :: l
  due : (w.pool i).timerTsc + retransmitTimer ws.cfg ≤ ws.tsc

/-- Where the timer sends something again, `retransmit_timeout` has passed since the socket last
sent a segment with `SYN`, `PUSH` or `FIN`. -/
def Elapsed (ws : WorkSpace) (s : Timed n) : Prop :=
  ∀ i c, Later ws s.tsc c → TimerFinds (ws.at c) s.worker i → Retransmits (s.worker.pool i) →
    ∀ t, s.last i = some t → t.toNat + ws.cfg.retransmitTimeout.toNat ≤ c.tsc.toNat

/-- The call will hand over a segment with `SYN`, `PUSH` or `FIN` of a client, and arm the
retransmit timer with what `socket_accurate_timer_tsc` makes of the time, which is not the time
itself. -/
structure Realigns (ws : WorkSpace) (k : Call) (v : View) : Prop where
  client : ws.cfg.server = false
  dated : ∃ t, (k.dating ws v).timer = some (.retransmit, t) ∧ t ≠ ws.tsc
  sent : (k.dating ws v).sent = true

instance (ws : WorkSpace) (k : Call) (v : View) : Decidable (Realigns ws k v) :=
  decidable_of_iff (ws.cfg.server = false ∧
      (k.dating ws v).timer.any (fun d => decide (d.1 = .retransmit ∧ d.2 ≠ ws.tsc)) = true ∧
      (k.dating ws v).sent = true)
    ⟨fun ⟨hclient, hdated, hsent⟩ => by
      obtain ⟨⟨_, t⟩, hd, ht⟩ := (Option.any_eq_true _ _).mp hdated
      obtain ⟨rfl, hne⟩ := of_decide_eq_true ht
      exact ⟨hclient, ⟨t, hd, hne⟩, hsent⟩,
    fun ⟨hclient, ⟨t, hd, hne⟩, hsent⟩ =>
      ⟨hclient, (Option.any_eq_true _ _).mpr ⟨_, hd, decide_eq_true ⟨rfl, hne⟩⟩, hsent⟩⟩

/-- A call that dates nothing back. -/
def Aligned : CallGuard := fun ws k v => ¬ Realigns ws k v

instance (ws : WorkSpace) (k : Call) (v : View) : Decidable (Aligned ws k v) :=
  inferInstanceAs (Decidable (¬ _))

/-- What the timer has sent again is not sent again by it at the same time. -/
def SentOnce (ws : WorkSpace) (s : Timed n) : Prop :=
  ∀ i c s', Later ws s.tsc c → TimerFinds (ws.at c) s.worker i → Retransmits (s.worker.pool i) →
    Aligned (ws.at c) .retransmit (s.worker.view i) →
    (Call.retransmit.run (ws.at c) (s.worker.view i)).trace.any Obs.transmits = true →
    TimedSteps ws Aligned (s.call ws c i .retransmit) s' → s'.tsc = c.tsc →
    TimerFinds (ws.at c) s'.worker i → ¬ Retransmits (s'.worker.pool i)

/-- The loop calls its handler on the sockets that it finds, one after the other. -/
lemma socketTimerRun_finds {ws : WorkSpace} (hp : ws.cfg.protocol = .tcp) {fuel : ℕ}
    {w w' : Worker n} {i : Fin n} {l : List (Fin n)} :
    socketTimerRun ws .retransmit (retransmitTimer ws.cfg) (tcpDoRetransmit ws) (fuel + 1) w =
        some (i :: l, w') ↔
      TimerFinds ws w i ∧
        socketTimerRun ws .retransmit (retransmitTimer ws.cfg) (tcpDoRetransmit ws) fuel
          (w.on i (Call.retransmit.run ws)) = some (l, w') := by
  have hcall : ∀ i, (w.on i fun v => tcpDoRetransmit ws (socketDelTimer v)) =
      w.on i (Call.retransmit.run ws) := by
    intro i
    rw [Worker.on, Worker.on, Call.run, hp]
  rw [socketTimerRun]
  cases hlist : w.timers.list .retransmit with
  | nil =>
      refine iff_of_false (by simp) ?_
      rintro ⟨⟨⟨l', hl'⟩, -⟩, -⟩
      rw [hlist] at hl'
      cases hl'
  | cons j l' =>
      dsimp only
      rw [hcall j]
      constructor
      · intro h
        split_ifs at h with hdue
        · obtain ⟨r, hr, heq⟩ := Option.map_eq_some_iff.mp h
          cases heq
          exact ⟨⟨⟨l', hlist⟩, hdue⟩, hr⟩
        · cases h
      · rintro ⟨⟨⟨l'', hl''⟩, hdue⟩, hr⟩
        rw [hlist] at hl''
        cases hl''
        rw [if_pos hdue, hr]
        rfl

/-! ### Dates -/

section Dates

variable {interval now : UInt64} {sk sk' : Socket}

lemma accurate_congr (h : sk'.timerTsc = sk.timerTsc) :
    socketAccurateTimerTsc interval sk' now = socketAccurateTimerTsc interval sk now := by
  simp only [socketAccurateTimerTsc, h]

/-- A time is dated back, but not before the last one. -/
lemma accurate_between (ht : sk.timerTsc ≤ now)
    (hroom : now.toNat + 3 * interval.toNat < 2 ^ 64) :
    sk.timerTsc ≤ socketAccurateTimerTsc interval sk now ∧
      socketAccurateTimerTsc interval sk now ≤ now := by
  rw [UInt64.le_iff_toNat_le] at ht
  have h₁ : (sk.timerTsc + interval).toNat = sk.timerTsc.toNat + interval.toNat := by
    rw [UInt64.toNat_add, Nat.mod_eq_of_lt (by omega)]
  have h₂ : (sk.timerTsc + 2 * interval).toNat = sk.timerTsc.toNat + 2 * interval.toNat := by
    rw [UInt64.toNat_add, UInt64.toNat_mul]
    show (_ + 2 * _ % 2 ^ 64) % 2 ^ 64 = _
    omega
  have h₃ : (sk.timerTsc + 3 * interval).toNat = sk.timerTsc.toNat + 3 * interval.toNat := by
    rw [UInt64.toNat_add, UInt64.toNat_mul]
    show (_ + 3 * _ % 2 ^ 64) % 2 ^ 64 = _
    omega
  rw [socketAccurateTimerTsc]
  simp only [UInt64.le_iff_toNat_le, UInt64.lt_iff_toNat_lt, h₁, h₂, h₃]
  split_ifs with ha hb hc hd
  · exact ⟨le_rfl, ht⟩
  · omega
  · omega
  · have hsub := UInt64.toNat_sub_of_le now interval
      (UInt64.le_iff_toNat_le.mpr (Nat.le_of_lt hd))
    omega
  · omega

/-- A timer that is started is dated to the time itself. -/
lemma accurate_now (ht : sk.timerTsc = now) (hroom : now.toNat + 3 * interval.toNat < 2 ^ 64) :
    socketAccurateTimerTsc interval sk now = now := by
  have hle : now ≤ now + interval := by
    rw [UInt64.le_iff_toNat_le, UInt64.toNat_add, Nat.mod_eq_of_lt (by omega)]
    omega
  rw [socketAccurateTimerTsc, ht, if_pos hle]

end Dates

/-! ### Acts -/

/-- Something is outstanding on an open socket. -/
def Awaits (sk : Socket) : Prop := sk.sndNxt ≠ sk.sndUna ∧ sk.state ≠ .closed

/-- A socket that was in the queue `p` and had last sent at `last` before the call: a client
with keepalive whose time is not dated back if `a` holds, and the timer of what is outstanding
is not dated before the last segment if the segments of this call are under `a`. -/
structure Timely (ws : WorkSpace) (a : Prop) (p : Option TimerKind) (last : Option UInt64)
    (v : View) : Prop where
  aligned : a → ws.cfg.server = false → v.sk.keepalive = true →
    socketAccurateTimerTsc ws.cfg.keepaliveRequestInterval v.sk ws.tsc = ws.tsc
  past : v.sk.timerTsc ≤ ws.tsc
  queued : v.link.after p = some .retransmit → v.sk.state ≠ .closed
  armed : (v.trace.any Obs.transmits = true → a) → Awaits v.sk →
    ∀ t, lastSent ws.tsc last v.trace = some t → t ≤ v.sk.timerTsc

namespace Timely

variable {ws : WorkSpace} {a : Prop} {p : Option TimerKind} {last : Option UInt64}
  {k : Call} {spends : Prop} {v v' : View}

/-- The timer is left alone. -/
lemma frame (h : Timely ws a p last v) (ht : v'.sk.timerTsc = v.sk.timerTsc)
    (hk : v'.sk.keepalive = true → v.sk.keepalive = true)
    (hq : v'.link.after p = some .retransmit → v'.sk.state ≠ .closed)
    (hn : Awaits v'.sk → Awaits v.sk)
    (htr : v'.trace.any Obs.transmits = v.trace.any Obs.transmits) : Timely ws a p last v' := by
  have hlast : lastSent ws.tsc last v'.trace = lastSent ws.tsc last v.trace := by
    rw [lastSent, lastSent, htr]
  refine ⟨fun ha hs hkeep => ?_, ht.symm ▸ h.past, hq, fun ha hne => ?_⟩
  · rw [accurate_congr ht]
    exact h.aligned ha hs (hk hkeep)
  · rw [hlast, ht]
    exact h.armed (htr ▸ ha) (hn hne)

/-- A queue that is left alone, or left. -/
lemma queued_of_link (h : Timely ws a p last v) (hl : v'.link = v.link ∨ v'.link = .self)
    (hs : v'.sk.state = .closed → v.sk.state = .closed)
    (hq : v'.link.after p = some .retransmit) : v'.sk.state ≠ .closed := by
  rcases hl with hl | hl
  · exact fun hc => h.queued (hl ▸ hq) (hs hc)
  · rw [hl] at hq
    cases hq

lemma untouched (h : Timely ws a p last v) (hu : Untouched v v') : Timely ws a p last v' := by
  obtain ⟨r, htr, hr⟩ := hu.trace
  refine h.frame hu.timerTsc hu.keepalive (h.queued_of_link hu.link hu.live.mp) ?_ ?_
  · rw [Awaits, hu.sndNxt, hu.sndUna]
    exact And.imp_right (mt hu.live.mpr)
  · rw [htr, any_idle hr]

lemma acked (h : Timely ws a p last v) (hw : ws.sendWindow = 0) (hu : Acked ws v v') :
    Timely ws a p last v' := by
  refine h.frame hu.timerTsc (fun hk => hu.keepalive ▸ hk)
    (h.queued_of_link hu.link fun hc => hu.state ▸ hc) (fun hne => ?_) (by rw [hu.trace])
  rcases hu.sndUna with hall | ⟨hc, -⟩ | ⟨hpart, -⟩
  · exact absurd (hu.sndNxt.trans hall.symm) hne.1
  · exact absurd (hu.state.trans hc) hne.2
  · exact absurd hw hpart

lemma starts (hpast : v.sk.timerTsc ≤ ws.tsc)
    (hroom : ws.tsc.toNat + 3 * ws.cfg.keepaliveRequestInterval.toNat < 2 ^ 64)
    (hu : Starts ws v v') : Timely ws a p last v' := by
  refine ⟨fun _ hs _ => ?_, ?_, fun _ => hu.live, fun _ hne => absurd hu.acked hne.1⟩
  · rcases hu.timerTsc with ht | ⟨hserver, -⟩
    · exact accurate_now ht hroom
    · exact absurd (hserver.symm.trans hs) (by simp)
  · rcases hu.timerTsc with ht | ⟨-, ht⟩
    · exact ht.symm ▸ UInt64.le_refl _
    · exact ht.symm ▸ hpast

lemma close (h : Timely ws a p last v) : Timely ws a p last (socketClose v) := by
  rw [socketClose]
  split_ifs
  · have hself : (socketNodeDel { v.log (.closed v.stats.socketCurrent) with
        sk.state := .closed }).link.after p = none := rfl
    refine h.frame rfl id (fun hq => ?_) (fun hne => absurd rfl hne.2) ?_
    · exact absurd (hself.symm.trans hq) (by simp)
    · exact any_idle (r := [.closed v.stats.socketCurrent]) (by simp [Obs.Idle]) v.trace
  · exact h

/-- What takes sequence numbers is seen as such. -/
lemma transmits_of_segLen {f : UInt8} {una nxt : UInt32} {fresh : ℕ} (h : 0 < segLen ws f) :
    (Obs.sent (replySegment ws f v.sk) una nxt fresh).transmits = true := by
  rw [Obs.transmits, replySegment, ← seqFlags, hasFlag_seqFlags, wireFlags_syn, wireFlags_fin]
  rw [segLen] at h
  by_contra hno
  rw [Bool.or_eq_true, not_or, Bool.or_eq_true, not_or, Bool.or_eq_true, not_or] at hno
  obtain ⟨⟨⟨-, hsyn⟩, hfin⟩, hdata⟩ := hno
  have hnil : payload ws f = [] := by simpa using hdata
  rw [hnil, if_neg hsyn, if_neg hfin] at h
  exact absurd h (lt_irrefl 0)

/-- A reply that takes new sequence numbers is sent. -/
lemma any_of_fresh {f : UInt8} (hf : hasFlag f thSyn = false ∨ hasFlag f thFin = false)
    (h : replyFresh ws f v ≠ 0) : (tcpReply ws f v).trace.any Obs.transmits = true := by
  have hcond : ws.mbufAlloc v.allocs = true ∧ v.sk.sndNxt = v.sk.sndUna := by
    by_contra hno
    exact h (if_neg hno)
  have hlen : 0 < segLen ws f := by
    rw [← replyFresh_toNat hf hcond.1 hcond.2, Nat.pos_iff_ne_zero]
    exact fun h0 => h (UInt32.toNat_inj.mp h0)
  rw [tcpReply_trace, if_pos hcond.1, List.any_append, List.any_cons, transmits_of_segLen hlen]
  simp

/-- Where a reply sends nothing, what is outstanding was so before. -/
lemma awaits_of_idle {f : UInt8}
    (hf : v.sk.sndNxt = v.sk.sndUna → hasFlag f thSyn = false ∨ hasFlag f thFin = false)
    (hnone : (tcpReply ws f v).trace.any Obs.transmits = false)
    (hne : Awaits (tcpReply ws f v).sk) : Awaits v.sk := by
  refine ⟨fun hn => ?_, (tcpReply_state ..).symm ▸ hne.2⟩
  have hfresh : replyFresh ws f v = 0 := by
    by_contra hfresh
    rw [any_of_fresh (hf hn) hfresh] at hnone
    cases hnone
  have hout := hne.1
  rw [tcpReply_sndNxt, tcpReply_sndUna, hfresh, UInt32.add_zero] at hout
  exact hout hn

/-- A reply of an open socket that starts no timer leaves nothing outstanding. -/
lemma not_awaits_reply {f : UInt8} (hw : ws.sendWindow = 0) (hseq : hasFlag f seqFlags = true)
    (ho : v.sk.state ≠ .closed) (ht : replyTimer ws f v = none) :
    ¬ Awaits (tcpReply ws f v).sk := by
  intro hne
  have hout := hne.1
  rw [tcpReply_sndNxt, tcpReply_sndUna] at hout
  rw [replyTimer, if_neg (by simp [ho, hw]), if_pos hseq, if_pos hout] at ht
  cases ht

/-- The timer of a reply is not dated before the last one, and to the time itself where nothing
is dated back. -/
lemma stamp (h : Timely ws a p last v)
    (hroom : ws.tsc.toNat + 3 * ws.cfg.keepaliveRequestInterval.toNat < 2 ^ 64) (f : UInt8) :
    v.sk.timerTsc ≤ replyTsc ws f v.sk ∧ replyTsc ws f v.sk ≤ ws.tsc ∧
      (a → replyTsc ws f v.sk = ws.tsc) := by
  rw [replyTsc]
  split_ifs with hc
  · obtain ⟨hle, hle'⟩ := accurate_between h.past hroom
    exact ⟨hle, hle', fun ha => h.aligned ha hc.2.1 hc.2.2⟩
  · exact ⟨h.past, UInt64.le_refl _, fun _ => rfl⟩

lemma lastSent_le (hlast : ∀ t, last = some t → t ≤ ws.tsc) {l : List Obs} {t : UInt64}
    (ht : lastSent ws.tsc last l = some t) : t ≤ ws.tsc := by
  rw [lastSent] at ht
  split_ifs at ht
  · cases ht
    exact UInt64.le_refl _
  · exact hlast t ht

lemma reply (h : Timely ws a p last v) (hw : ws.sendWindow = 0)
    (hroom : ws.tsc.toNat + 3 * ws.cfg.keepaliveRequestInterval.toNat < 2 ^ 64)
    (hlast : ∀ t, last = some t → t ≤ ws.tsc) {f : UInt8}
    (ho : hasFlag f seqFlags = true → v.sk.state ≠ .closed)
    (hf : v.sk.sndNxt = v.sk.sndUna → hasFlag f thSyn = false ∨ hasFlag f thFin = false) :
    Timely ws a p last (tcpReply ws f v) := by
  obtain ⟨hle, hle', hnow⟩ := h.stamp hroom f
  have hmono : (tcpReply ws f v).trace.any Obs.transmits = false →
      v.trace.any Obs.transmits = false := by
    intro hnone
    rw [tcpReply_trace, List.any_append, Bool.or_eq_false_iff] at hnone
    exact hnone.1
  have hsk := tcpReply_sk ws f v
  have hlink := tcpReply_link ws f v
  cases ht : replyTimer ws f v with
  | none =>
      rw [ht] at hlink
      rw [ht, if_pos rfl] at hsk
      have htsc : (tcpReply ws f v).sk.timerTsc = v.sk.timerTsc := by rw [hsk]
      have hqueued : (tcpReply ws f v).link.after p = some .retransmit →
          (tcpReply ws f v).sk.state ≠ .closed := by
        rw [hlink, tcpReply_state]
        exact h.queued
      cases hseq : hasFlag f seqFlags with
      | true =>
          have hacked := not_awaits_reply hw hseq (ho hseq) ht
          refine ⟨fun ha hs hk => ?_, htsc.symm ▸ h.past, hqueued, fun _ hne => absurd hne hacked⟩
          rw [accurate_congr htsc]
          exact h.aligned ha hs (by simpa using hk)
      | false =>
          refine h.frame htsc (by simp) hqueued ?_ ?_
          · rw [Awaits, tcpReply_sndNxt, tcpReply_sndUna, tcpReply_state, replyFresh_bare hseq,
              UInt32.add_zero]
            exact id
          · cases hany : (tcpReply ws f v).trace.any Obs.transmits with
            | true =>
                rw [any_reply hany hseq]
            | false => exact (hmono hany).symm
  | some q =>
      rw [ht] at hlink
      rw [ht, if_neg (by simp)] at hsk
      have hstamp : (tcpReply ws f v).sk.timerTsc = replyTsc ws f v.sk := by rw [hsk]
      refine ⟨fun ha _ _ => accurate_now (hstamp.trans (hnow ha)) hroom, hstamp.symm ▸ hle',
        fun _ hc => ?_, fun ha hne t hsent => ?_⟩
      · rw [tcpReply_state] at hc
        rw [replyTimer, if_pos (.inl hc)] at ht
        cases ht
      · rw [hstamp]
        cases hany : (tcpReply ws f v).trace.any Obs.transmits with
        | true =>
            rw [hnow (ha hany)]
            exact lastSent_le hlast hsent
        | false =>
            have hne' := awaits_of_idle hf hany hne
            have hold := hmono hany
            have hsame : lastSent ws.tsc last (tcpReply ws f v).trace =
                lastSent ws.tsc last v.trace := by
              rw [lastSent, lastSent, hany, hold]
            exact UInt64.le_trans (h.armed (by simp [hold]) hne' t (hsame ▸ hsent)) hle

lemma doRetransmit (h : Timely ws a p last v) (hw : ws.sendWindow = 0)
    (hroom : ws.tsc.toNat + 3 * ws.cfg.keepaliveRequestInterval.toNat < 2 ^ 64)
    (hlast : ∀ t, last = some t → t ≤ ws.tsc) (ho : v.sk.state ≠ .closed) :
    Timely ws a p last (tcpDoRetransmit ws v) := by
  have hs := tcpDoRetransmit_step ws v
  generalize tcpDoRetransmit ws v = r at hs ⊢
  have hnum : Timely ws a p last { v with sk.retrans := v.sk.retrans + 1 } :=
    h.frame rfl id h.queued id rfl
  cases hs with
  | acked => exact h.frame rfl id h.queued id rfl
  | handedOver => exact h.close
  | burst _ _ hne => exact absurd hw hne
  | again hn =>
      have hagain : Timely ws a p last
          (tcpReply ws v.sk.flags { v with sk.retrans := v.sk.retrans + 1 }) :=
        hnum.reply hw hroom hlast (fun _ => ho) fun hacked => absurd hacked hn
      exact hagain.frame rfl id hagain.queued id rfl
  | giveUp =>
      have hcount : Timely ws a p last
          ({ v with sk.retrans := v.sk.retrans + 1 }.count netStatsSocketError) :=
        hnum.frame rfl id h.queued id rfl
      exact hcount.close

lemma keepaliveTimer (h : Timely ws a p last v)
    (hroom : ws.tsc.toNat + 3 * ws.cfg.keepaliveRequestInterval.toNat < 2 ^ 64)
    {tsc : UInt64} (ht : tsc = ws.tsc ∨ tsc = v.sk.timerTsc) :
    Timely ws a p last (socketStartKeepaliveTimer ws tsc v) := by
  rw [socketStartKeepaliveTimer]
  split_ifs with hc
  · rw [Bool.and_eq_true, decide_eq_true_eq] at hc
    refine ⟨fun ha hs hk => ?_, ?_, fun hq => (by cases hq), fun _ hne => absurd hc.2 hne.1⟩
    · rcases ht with rfl | rfl
      · exact accurate_now (h.aligned ha hs hc.1) hroom
      · -- the time of the last segment is kept
        have hkeep : socketAccurateTimerTsc ws.cfg.keepaliveRequestInterval v.sk v.sk.timerTsc =
            v.sk.timerTsc := by
          refine accurate_now rfl ?_
          have hpast := UInt64.le_iff_toNat_le.mp h.past
          omega
        have hsame : (socketAddTimer .keepalive (socketAccurateTimerTsc
            ws.cfg.keepaliveRequestInterval v.sk v.sk.timerTsc) v).sk.timerTsc = v.sk.timerTsc :=
          hkeep
        rw [accurate_congr hsame]
        exact h.aligned ha hs hc.1
    · rcases ht with rfl | rfl
      · exact (accurate_between h.past hroom).2
      · have hpast := UInt64.le_iff_toNat_le.mp h.past
        exact UInt64.le_trans (accurate_between (UInt64.le_refl _) (by omega)).2 h.past
  · exact h

lemma timeoutTimer (hs : ws.cfg.server = true)
    (hlast : ∀ t, last = some t → t ≤ ws.tsc) :
    Timely ws a p last (socketStartTimeoutTimer ws.tsc v) :=
  ⟨fun _ hc => absurd (hs.symm.trans hc) (by simp), UInt64.le_refl _, fun hq => (by cases hq),
    fun _ _ _ hsent => lastSent_le hlast hsent⟩

/-- Every act keeps it. -/
theorem act (h : Timely ws a p last v) (hp : Plain ws)
    (hroom : ws.tsc.toNat + 3 * ws.cfg.keepaliveRequestInterval.toNat < 2 ^ 64)
    (hlast : ∀ t, last = some t → t ≤ ws.tsc) (hk : k ≠ .retransmit)
    (hv : Act ws k spends v v') : Timely ws a p last v' := by
  cases hv with
  | rest hu => exact h.untouched hu
  | ack hu => exact h.acked hp.window hu
  | starts hu => exact starts h.past hroom hu
  | close => exact h.close
  | reply ho hf => exact h.reply hp.window hroom hlast ho fun _ => hf
  | retransmit ho => exact h.doRetransmit hp.window hroom hlast (ho.resolve_right hk)
  | dupAck hw => exact absurd hp.window hw
  | resends hw => exact absurd hp.window hw
  | burst hw => exact absurd hp.window hw
  | retransmitTimer hw => exact absurd hp.window hw
  | @synAck _ seq ack ho =>
      have hquiet : ∀ u : View, u.trace = v.trace ++ [.synAck seq ack] →
          u.trace.any Obs.transmits = v.trace.any Obs.transmits := by
        intro u hu
        rw [hu]
        exact any_idle (r := [.synAck seq ack]) (by simp [Obs.Idle]) v.trace
      exact h.frame rfl id (fun _ => by simp) (fun hne => absurd rfl hne.1) (hquiet _ rfl)
  | flood hc hf => exact absurd hf (by simp [hp.flood hc])
  | keepaliveTimer ht => exact h.keepaliveTimer hroom ht
  | timeoutTimer hs => exact timeoutTimer hs hlast

theorem acts (h : Timely ws a p last v) (hp : Plain ws)
    (hroom : ws.tsc.toNat + 3 * ws.cfg.keepaliveRequestInterval.toNat < 2 ^ 64)
    (hlast : ∀ t, last = some t → t ≤ ws.tsc) (hk : k ≠ .retransmit)
    (hv : Acts ws k spends v v') : Timely ws a p last v' := by
  induction hv with
  | refl => exact h
  | tail _ hact ih => exact ih.act hp hroom hlast hk hact

end Timely

/-! ### Calls -/

/-- A socket in the queue `p` that last sent at `last`, when it is `tsc`: the timer of what is
outstanding is not dated before that. -/
structure OnTime (tsc : UInt64) (p : Option TimerKind) (last : Option UInt64) (sk : Socket) :
    Prop where
  past : sk.timerTsc ≤ tsc
  sent : ∀ t, last = some t → t ≤ tsc
  queued : p = some .retransmit → sk.state ≠ .closed
  armed : Awaits sk → ∀ t, last = some t → t ≤ sk.timerTsc

namespace OnTime

variable {ws : WorkSpace} {p : Option TimerKind} {last : Option UInt64} {tsc : UInt64} {k : Call}
  {sk : Socket} {v : View}

lemma later (h : OnTime tsc p last sk) (hle : tsc ≤ ws.tsc) : OnTime ws.tsc p last sk :=
  ⟨UInt64.le_trans h.past hle, fun t ht => UInt64.le_trans (h.sent t ht) hle, h.queued, h.armed⟩

/-- What a call finds, and leaves. -/
lemma timely {a : Prop} (h : OnTime ws.tsc p last v.sk) (hp : Plain ws)
    (hroom : ws.tsc.toNat + 3 * ws.cfg.keepaliveRequestInterval.toNat < 2 ^ 64)
    (hl : v.link = .kept) (ht : v.trace = []) (hm : k.Allowed ws.cfg)
    (hq : k = .retransmit → p = some .retransmit)
    (ha : a → ws.cfg.server = false → v.sk.keepalive = true →
      socketAccurateTimerTsc ws.cfg.keepaliveRequestInterval v.sk ws.tsc = ws.tsc) :
    Timely ws a p last (k.run ws v) := by
  have hv : Timely ws a p last v := by
    refine ⟨ha, h.past, fun hq => h.queued ?_, fun _ hne t hsent => h.armed hne t ?_⟩
    · rwa [hl] at hq
    · rwa [ht] at hsent
  by_cases hk : k = .retransmit
  · subst hk
    have hdel : Timely ws a p last (socketDelTimer v) :=
      hv.frame rfl id (fun h' => by cases h') id rfl
    rw [Call.run, hp.protocol]
    exact hdel.doRetransmit hp.window hroom h.sent (h.queued (hq rfl))
  · exact hv.acts hp hroom h.sent hk (acts_run hp.protocol hm v)

/-- A call that dates nothing back. -/
theorem call (h : OnTime ws.tsc p last v.sk) (hp : Plain ws)
    (hroom : ws.tsc.toNat + 3 * ws.cfg.keepaliveRequestInterval.toNat < 2 ^ 64)
    (hl : v.link = .kept) (ht : v.trace = []) (hm : k.Allowed ws.cfg)
    (hq : k = .retransmit → p = some .retransmit) (hG : ¬ Realigns ws k v) :
    OnTime ws.tsc ((k.run ws v).link.after p) (lastSent ws.tsc last (k.run ws v).trace)
      (k.run ws v).sk := by
  by_cases ha : (k.run ws v).trace.any Obs.transmits = true →
      ws.cfg.server = false → v.sk.keepalive = true →
        socketAccurateTimerTsc ws.cfg.keepaliveRequestInterval v.sk ws.tsc = ws.tsc
  · -- nothing is sent, or the time of the socket is in its slot whenever it is asked
    have hrun := h.timely hp hroom hl ht hm hq id
    exact ⟨hrun.past, fun _ hlast => Timely.lastSent_le h.sent hlast, hrun.queued, hrun.armed ha⟩
  · -- a client sends, and what is outstanding is dated as the call asks
    rw [Classical.not_imp, Classical.not_imp] at ha
    obtain ⟨hsent, hs, -⟩ := ha
    have htold : Told (k.dating ws v) (k.run ws v) := told_run hp hs k hl ht
    have hrun := h.timely hp hroom hl ht hm hq False.elim
    refine ⟨hrun.past, fun _ hlast => Timely.lastSent_le h.sent hlast, hrun.queued,
      fun hne t hlast => ?_⟩
    have hlink := htold.armed hsent hne.1 hne.2
    have hnow : (k.run ws v).sk.timerTsc = ws.tsc := by
      by_contra hback
      exact hG ⟨hs, ⟨_, (htold.timer _ _).mpr ⟨hlink, rfl⟩, hback⟩, htold.sent hsent⟩
    rw [hnow]
    exact Timely.lastSent_le h.sent hlast

end OnTime

/-! ### Runs -/

section Run

variable {ws : WorkSpace} {s s' : Timed n} {i : Fin n}

/-- All sockets of a worker. -/
def AllOnTime (s : Timed n) : Prop :=
  ∀ i, OnTime s.tsc (s.worker.timers.place i) (s.last i) (s.worker.pool i)

lemma allOnTime_step (hp : Plain ws) (h : AllOnTime s) (hs : TimedStep ws Aligned s s') :
    AllOnTime s' := by
  intro j
  cases hs with
  | @call c inp i k _ hc hk hG =>
      have hroom := hc.room
      have hplace : (s.call ws c i k).worker.timers.place j =
          if j = i then (k.run (ws.at c) (s.worker.view i)).link.after (s.worker.timers.place i)
          else s.worker.timers.place j := by
        split_ifs with hj
        · subst hj
          exact place_relink_self _
        · exact place_relink_ne hj _
      have hpool : (s.call ws c i k).worker.pool j =
          if j = i then (k.run (ws.at c) (s.worker.view i)).sk else s.worker.pool j :=
        Function.update_apply ..
      have hlast : (s.call ws c i k).last j =
          if j = i then lastSent c.tsc (s.last i) (k.run (ws.at c) (s.worker.view i)).trace
          else s.last j := Function.update_apply ..
      have hj : OnTime (ws.at c).tsc _ _ _ := (h j).later hc.le
      rw [hplace, hpool, hlast]
      split_ifs with heq
      · subst heq
        refine OnTime.call (v := s.worker.view j) hj (hp.at c) ?_ rfl rfl hk.mode (fun hr => ?_) hG
        · show c.tsc.toNat + 3 * ws.cfg.keepaliveRequestInterval.toNat < 2 ^ 64
          omega
        · subst hr
          exact Queues.place_eq_some.mpr (hk.timer _ rfl)
      · exact hj
  | quiet hq =>
      dsimp only
      rw [hq.timers, hq.pool]
      exact h j

lemma allOnTime_steps (hp : Plain ws) (h : AllOnTime s) (hs : TimedSteps ws Aligned s s') :
    AllOnTime s' := by
  induction hs with
  | refl => exact h
  | tail _ hstep ih => exact allOnTime_step hp ih hstep

lemma allOnTime_init (h : Initial ws s.worker) (hlast : s.last = fun _ => none) : AllOnTime s := by
  intro i
  obtain ⟨_, _, _, _, seed, -, hsk⟩ := h.pool i
  have htsc : (s.worker.pool i).timerTsc = 0 := by
    rw [hsk, socketInit]
    dsimp only
    split_ifs <;> rfl
  refine ⟨?_, ?_, ?_, ?_⟩
  · rw [htsc, UInt64.le_iff_toNat_le]
    exact Nat.zero_le _
  · simp [hlast]
  · rw [h.timers, Queues.place_empty]
    simp
  · simp [hlast]

/-- The time that passes before a timer. -/
lemma OnTime.elapsed {p : Option TimerKind} {last : Option UInt64} {sk : Socket} {tsc : UInt64}
    {c : Clock} (h : OnTime tsc p last sk) (hc : Later ws tsc c)
    (hdue : sk.timerTsc + retransmitTimer ws.cfg ≤ c.tsc) (hn : Awaits sk)
    {t : UInt64} (ht : last = some t) :
    t.toNat + ws.cfg.retransmitTimeout.toNat ≤ c.tsc.toNat := by
  have hroom := hc.room
  have hpast := UInt64.le_iff_toNat_le.mp (UInt64.le_trans h.past hc.le)
  have harmed := UInt64.le_iff_toNat_le.mp (h.armed hn t ht)
  have htimer : ws.cfg.retransmitTimeout.toNat ≤ (retransmitTimer ws.cfg).toNat ∧
      (retransmitTimer ws.cfg).toNat ≤
        ws.cfg.retransmitTimeout.toNat + ws.cfg.retransmitTimeout.toNat / 10 := by
    rw [retransmitTimer]
    split_ifs
    · have htenth : (ws.cfg.retransmitTimeout / 10).toNat = ws.cfg.retransmitTimeout.toNat / 10 :=
        UInt64.toNat_div ..
      rw [UInt64.toNat_add, htenth, Nat.mod_eq_of_lt (by omega)]
      omega
    · omega
  rw [UInt64.le_iff_toNat_le, UInt64.toNat_add, Nat.mod_eq_of_lt (by omega)] at hdue
  omega

end Run

/-- **Time to retransmit.** In runs on a clock with room for its sums, in which no client with
keepalive dates a segment back, the timer sends nothing again before `retransmit_timeout` has
passed since the last segment with `SYN`, `PUSH` or `FIN`, and so nothing twice at one time. -/
theorem elapsed_of_aligned {ws : WorkSpace} (hp : Plain ws) {s : Timed n}
    (h : TimedReach ws Aligned s) :
    Elapsed ws s ∧ (0 < ws.cfg.retransmitTimeout.toNat → SentOnce ws s) := by
  obtain ⟨s₀, ⟨h₀, hlast₀⟩, hsteps⟩ := h
  have hs := allOnTime_steps hp (allOnTime_init h₀ hlast₀) hsteps
  have hopen : ∀ {s : Timed n} {c : Clock} {i : Fin n}, AllOnTime s →
      TimerFinds (ws.at c) s.worker i → Retransmits (s.worker.pool i) →
        Awaits (s.worker.pool i) := by
    intro s c i hs hf hr
    obtain ⟨l, hl⟩ := hf.head
    exact ⟨hr.1, (hs i).queued (Queues.place_eq_some.mpr (by simp [hl]))⟩
  refine ⟨fun i c hc hf hr t ht => (hs i).elapsed hc hf.due (hopen hs hf hr) ht, ?_⟩
  intro hpos i c s' hc hf hr hG hsent hs' htsc hf' hr'
  have hcall : TimedStep ws Aligned s (s.call ws c i .retransmit) := by
    have hp : Permit (ws.at c) ⟨fun _ _ _ => True, True⟩ i .retransmit s.worker := by
      refine ⟨trivial, by simp, fun q hq => ?_, by simp⟩
      cases hq
      obtain ⟨l, hl⟩ := hf.head
      rw [hl]
      exact List.mem_cons_self
    exact .call hc hp hG
  have hnow : (s.call ws c i .retransmit).last i = some c.tsc :=
    (Function.update_self ..).trans (if_pos hsent)
  obtain ⟨-, t, ht, hle⟩ := last_of_timedSteps hs' (UInt64.le_refl c.tsc)
    ⟨_, hnow, UInt64.le_refl _⟩
  have hc' : Later ws s'.tsc c := ⟨htsc ▸ UInt64.le_refl _, hc.room⟩
  have hafter := allOnTime_steps hp (allOnTime_step hp hs hcall) hs'
  have hpast := (hafter i).elapsed hc' hf'.due (hopen hafter hf' hr') ht
  have hle' := UInt64.le_iff_toNat_le.mp hle
  omega

/-- A client that keeps its connections for a minute and sends again after two seconds. -/
def Config.minute : Config :=
  { Config.single with keepaliveRequestInterval := 60000, retransmitTimeout := 2000 }

/-- A worker at the start of its loop, with nothing sent. -/
def Timed.single (ws : WorkSpace) : Timed 1 := ⟨Worker.single ws, 0, fun _ => none⟩

/-- The client of the socket `i` has sent its `SYN`, and its request at once when the `SYN-ACK`
came. -/
def Timed.requested (i : Fin 1) : Timed 1 :=
  ((Timed.single (.single .minute)).call (.single .minute) ⟨1000, 1, false⟩ i (.launch 1)).call
    (.single .minute) ⟨1000, 1, false⟩ i (.input (.single false (thSyn ||| thAck) 100 2 []))

/-- The `SYN-ACK` comes in the turn of the loop that sent the `SYN`: the date of the request is
that of the `SYN`, which is the time itself, and it is sent again two seconds later. -/
theorem elapsed_request :
    ((Timed.requested 0).last 0 = some 1000 ∧ Retransmits ((Timed.requested 0).worker.pool 0) ∧
        TimerFinds ((WorkSpace.single .minute).at ⟨3000, 3, false⟩) (Timed.requested 0).worker 0) ∧
      Elapsed (.single .minute) (Timed.requested 0) ∧
      SentOnce (.single .minute) (Timed.requested 0) := by
  have hopen : Permit ((WorkSpace.single .minute).at ⟨1000, 1, false⟩)
      ⟨fun _ _ _ => True, True⟩ 0 (.launch 1) (Timed.single (.single .minute)).worker :=
    ⟨rfl, by simp, by simp [Call.queue], fun _ _ => trivial⟩
  have hlaunch : TimedStep (.single .minute) Aligned (Timed.single (.single .minute))
      ((Timed.single (.single .minute)).call (.single .minute) ⟨1000, 1, false⟩ 0 (.launch 1)) :=
    .call ⟨by decide, by decide⟩ hopen (by decide)
  have hinput : Permit ((WorkSpace.single .minute).at ⟨1000, 1, false⟩)
      ⟨fun _ _ _ => True, True⟩ 0 (.input (.single false (thSyn ||| thAck) 100 2 []))
      ((Timed.single (.single .minute)).call (.single .minute) ⟨1000, 1, false⟩ 0
        (.launch 1)).worker :=
    ⟨trivial, fun _ _ => trivial, by simp [Call.queue], by simp⟩
  have hsynAck : TimedStep (.single .minute) Aligned
      ((Timed.single (.single .minute)).call (.single .minute) ⟨1000, 1, false⟩ 0 (.launch 1))
      (Timed.requested 0) :=
    .call ⟨by decide, by decide⟩ hinput (by decide)
  have hplain : Plain (.single .minute) := ⟨rfl, rfl, fun _ => rfl⟩
  have hlaw := elapsed_of_aligned hplain
    ⟨_, ⟨Worker.single_initial _, rfl⟩, (Relation.ReflTransGen.single hlaunch).tail hsynAck⟩
  exact ⟨⟨by decide, by decide, ⟨[], by decide⟩, by decide⟩, hlaw.1, hlaw.2 (by decide)⟩

/-- A request sent half a second after the `SYN` is dated back to it: a second and a half later
the timer sends it again, three times at once, and gives the connection up. -/
theorem not_elapsed_minute :
    ∃ s : Timed 1, TimedReach (.single .minute) anyCall s ∧ ¬ Elapsed (.single .minute) s ∧
      (socketTimerRun ((WorkSpace.single .minute).at ⟨3000, 3, false⟩) .retransmit
        (retransmitTimer .minute) (tcpDoRetransmit ((WorkSpace.single .minute).at ⟨3000, 3, false⟩))
        5 s.worker).map Prod.fst = some [0, 0, 0, 0] := by
  have hrun : (runEvents .single (.single .minute) [(⟨1000, 1, false⟩, .launch 1),
      (⟨1500, 1, false⟩, .recv .tcp (.single false (thSyn ||| thAck) 100 2 []))]
      (Worker.single (.single .minute))).any (fun w => ((w.obs 0).drop 2).any Obs.transmits &&
        decide (Retransmits (w.pool 0)) && w.timers.list .retransmit == [0] &&
        (w.pool 0).timerTsc == 1000 &&
        (socketTimerRun ((WorkSpace.single .minute).at ⟨3000, 3, false⟩) .retransmit
          (retransmitTimer .minute)
          (tcpDoRetransmit ((WorkSpace.single .minute).at ⟨3000, 3, false⟩)) 5 w).map Prod.fst ==
            some [0, 0, 0, 0]) = true := by decide
  have hlaunch : (step .single ((WorkSpace.single .minute).at ⟨1000, 1, false⟩) (.launch 1)
      (Worker.single (.single .minute))).any (fun w => (w.obs 0).length == 2) = true := by decide
  obtain ⟨w, hw, hp⟩ := (Option.any_eq_true _ _).mp hrun
  obtain ⟨w₁, hw₁, hw⟩ := Option.bind_eq_some_iff.mp hw
  obtain ⟨w₂, hw₂, hw⟩ := Option.bind_eq_some_iff.mp hw
  cases hw
  simp only [Bool.and_eq_true, decide_eq_true_eq, beq_iff_eq] at hp
  obtain ⟨⟨⟨⟨hany, hr⟩, hlist⟩, htsc⟩, htimer⟩ := hp
  have hlen : (w₁.obs 0).length = 2 := by
    rw [hw₁] at hlaunch
    simpa using hlaunch
  have hc₁ : Later (.single .minute) 0 ⟨1000, 1, false⟩ := ⟨by decide, by decide⟩
  obtain ⟨s₁, hsteps₁, rfl, hc₁', -⟩ :=
    timedSteps_of_step (s := Timed.single (.single .minute)) hw₁ hc₁
  have hc₂ : Later (.single .minute) s₁.tsc ⟨1500, 1, false⟩ :=
    ⟨UInt64.le_trans hc₁'.le (by decide), by decide⟩
  obtain ⟨s₂, hsteps₂, rfl, hc₂', hobs⟩ := timedSteps_of_step hw₂ hc₂
  obtain ⟨r, hobs₀, hlast⟩ := hobs 0
  rw [hobs₀, List.drop_left' hlen] at hany
  refine ⟨s₂, ⟨_, ⟨Worker.single_initial _, rfl⟩, hsteps₁.trans hsteps₂⟩, fun h => ?_, htimer⟩
  have hdue : (s₂.worker.pool 0).timerTsc + retransmitTimer .minute ≤ 3000 := by
    rw [htsc]
    decide
  have hlate := h 0 ⟨3000, 3, false⟩ ⟨UInt64.le_trans hc₂'.le (by decide), by decide⟩
    ⟨⟨[], hlist⟩, hdue⟩ hr 1500 (hlast.trans (if_pos hany))
  exact absurd hlate (by decide)

end Dperf
