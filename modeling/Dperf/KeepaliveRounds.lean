import Dperf.Batches
import Dperf.Lib.Rounds

/-!
Whether `socket_timer_run` ends on the keepalive queue.

* `timerStation`, `socketTimerRun_eq`: the loop as one that serves a queue.
* `socketAccurateTimerTsc_due`: the time that `socket_accurate_timer_tsc` yields is due at once
  unless the timer is late by some time strictly between one and two or two and three intervals.
* `Rearms`: which sockets a handler links into the keepalive queue again.
* `keepalive_once_iff`: the loop ends with every socket handled once at most if and only if a socket
  in the queue is not due, or the first one that goes back gets a time that is not due.
-/

namespace Dperf

open Rounds

variable {n : ℕ}

/-! ### The loop -/

/-- A timer queue, and a call of the handler on a socket of it. -/
def timerStation (ws : WorkSpace) (q : TimerKind) (timeout : UInt64) (handler : View → View) :
    Station (Worker n) (Fin n) where
  queue w := w.timers.list q
  due w i := (w.pool i).timerTsc + timeout ≤ ws.tsc
  decidableDue _ _ := inferInstance
  serve i w := w.on i fun v => handler (socketDelTimer v)

lemma socketTimerRun_eq (ws : WorkSpace) (q : TimerKind) (timeout : UInt64)
    (handler : View → View) (fuel : ℕ) (w : Worker n) :
    socketTimerRun ws q timeout handler fuel w =
      (timerStation ws q timeout handler).run fuel w := by
  induction fuel generalizing w with
  | zero => rfl
  | succ fuel ih =>
      rw [socketTimerRun]
      cases hq : w.timers.list q with
      | nil => exact (Station.run_nil hq fuel).symm
      | cons i l =>
          by_cases hd : (w.pool i).timerTsc + timeout ≤ ws.tsc
          · dsimp only
            rw [if_pos hd, Station.run_due hq hd, ih]
            rfl
          · dsimp only
            rw [if_neg hd]
            exact (Station.run_rest hq hd fuel).symm

/-- `socket_timer_run` on the keepalive queue ends, and calls the handler once at most for every
socket. -/
def RunsOnce (ws : WorkSpace) (handler : View → View) (w : Worker n) : Prop :=
  ∃ fuel l w', socketTimerRun ws .keepalive ws.cfg.keepaliveRequestInterval handler fuel w =
    some (l, w') ∧ l.Nodup

/-! ### The time of a timer that is started again -/

/-- The timer is not due, or late by some time strictly between one and two or two and three
intervals; the last case is that of sums that leave their 64 bits. -/
def Resets (interval t now : UInt64) : Prop :=
  now < t + interval ∨ t + interval < now ∧
    (now < t + 2 * interval ∨ t + 2 * interval < now ∧
      (now < t + 3 * interval ∨ t + 3 * interval < now ∧ now ≤ interval ∧ now < now + interval))

instance (interval t now : UInt64) : Decidable (Resets interval t now) :=
  inferInstanceAs (Decidable (_ ∨ _))

/-- What `socket_accurate_timer_tsc` yields is due unless the timer resets. -/
lemma socketAccurateTimerTsc_due (interval : UInt64) (sk : Socket) (now : UInt64) :
    socketAccurateTimerTsc interval sk now + interval ≤ now ↔
      ¬ Resets interval sk.timerTsc now := by
  rw [socketAccurateTimerTsc, Resets]
  generalize sk.timerTsc = t
  have htwo : t + interval + interval = t + 2 * interval := by grind
  have hthree : t + 2 * interval + interval = t + 3 * interval := by grind
  split_ifs with h₁ h₂ h₃ h₄
  · grind
  · grind
  · grind
  · grind
  · grind

/-- Where the sums stay in their 64 bits, the time that a late timer gets is due again if it is late
by one, two or three intervals, or by more than three. -/
lemma resets_iff {interval t now : UInt64} (hi : 0 < interval)
    (hlt : t.toNat + 3 * interval.toNat < 2 ^ 64) (hdue : t + interval ≤ now) :
    Resets interval t now ↔
      (t.toNat + interval.toNat < now.toNat ∧ now.toNat < t.toNat + 2 * interval.toNat) ∨
      (t.toNat + 2 * interval.toNat < now.toNat ∧ now.toNat < t.toNat + 3 * interval.toNat) := by
  have h₁ : (t + interval).toNat = t.toNat + interval.toNat := by
    rw [UInt64.toNat_add, Nat.mod_eq_of_lt (by omega)]
  have h₂ : (t + 2 * interval).toNat = t.toNat + 2 * interval.toNat := by
    rw [UInt64.toNat_add, UInt64.toNat_mul]
    change (t.toNat + 2 * interval.toNat % 2 ^ 64) % 2 ^ 64 = _
    omega
  have h₃ : (t + 3 * interval).toNat = t.toNat + 3 * interval.toNat := by
    rw [UInt64.toNat_add, UInt64.toNat_mul]
    change (t.toNat + 3 * interval.toNat % 2 ^ 64) % 2 ^ 64 = _
    omega
  rw [UInt64.lt_iff_toNat_lt] at hi
  rw [UInt64.le_iff_toNat_le, h₁] at hdue
  rw [Resets, UInt64.lt_iff_toNat_lt, UInt64.lt_iff_toNat_lt, UInt64.lt_iff_toNat_lt,
    UInt64.lt_iff_toNat_lt, UInt64.lt_iff_toNat_lt, UInt64.lt_iff_toNat_lt,
    UInt64.le_iff_toNat_le, h₁, h₂, h₃]
  change 0 < interval.toNat at hi
  omega

/-- To start a timer twice changes nothing, as long as the sums stay in their 64 bits. -/
lemma resets_accurate_iff {interval : UInt64} {sk : Socket} (now : UInt64) (hi : 0 < interval)
    (hlt : sk.timerTsc.toNat + 3 * interval.toNat < 2 ^ 64) :
    Resets interval (socketAccurateTimerTsc interval sk now) now ↔
      Resets interval sk.timerTsc now := by
  constructor
  · intro hagain
    by_contra hnot
    have hdue := (socketAccurateTimerTsc_due interval sk now).mpr hnot
    -- a time that is due at once is due exactly now
    have hnow : socketAccurateTimerTsc interval sk now + interval = now := by
      have h₃ : (sk.timerTsc + 3 * interval).toNat = sk.timerTsc.toNat + 3 * interval.toNat := by
        rw [UInt64.toNat_add, UInt64.toNat_mul]
        change (sk.timerTsc.toNat + 3 * interval.toNat % 2 ^ 64) % 2 ^ 64 = _
        omega
      rw [socketAccurateTimerTsc] at hdue ⊢
      split_ifs at hdue ⊢ with h₁ h₂ h₃' h₄
      · exact UInt64.le_antisymm hdue h₁
      · have htwo : sk.timerTsc + interval + interval = sk.timerTsc + 2 * interval := by grind
        exact UInt64.le_antisymm hdue (htwo ▸ h₂)
      · have hthree : sk.timerTsc + 2 * interval + interval = sk.timerTsc + 3 * interval := by grind
        exact UInt64.le_antisymm hdue (hthree ▸ h₃')
      · exact UInt64.sub_add_cancel now interval
      · rw [UInt64.not_le, UInt64.lt_iff_toNat_lt, h₃] at h₃'
        rw [UInt64.not_lt, UInt64.le_iff_toNat_le] at h₄
        rw [UInt64.lt_iff_toNat_lt] at hi
        change 0 < interval.toNat at hi
        omega
    rw [Resets, hnow] at hagain
    rcases hagain with hlt | ⟨hlt, -⟩
    · exact UInt64.lt_irrefl _ hlt
    · exact UInt64.lt_irrefl _ hlt
  · intro hresets
    by_contra hnot
    refine hnot (.inl (UInt64.not_le.mp ?_))
    exact mt (socketAccurateTimerTsc_due interval sk now).mp (not_not_intro hresets)

/-! ### What the handlers leave -/

section Handlers

variable {ws : WorkSpace}

/-- Which sockets a handler links into the keepalive queue again, and what of their time it passes
to the last `socket_accurate_timer_tsc`, by the number of mbufs asked for before. -/
structure Rearms (ws : WorkSpace) (handler : View → View) (back : Socket → Bool)
    (tsc : ℕ → Socket → UInt64) : Prop where
  queued : ∀ v, back v.sk = true → (handler (socketDelTimer v)).link = .tail .keepalive
  left : ∀ v, back v.sk = false → (handler (socketDelTimer v)).link ≠ .kept ∧
    (handler (socketDelTimer v)).link ≠ .tail .keepalive
  due : ∀ v, back v.sk = true →
    ((handler (socketDelTimer v)).sk.timerTsc + ws.cfg.keepaliveRequestInterval ≤ ws.tsc ↔
      ¬ Resets ws.cfg.keepaliveRequestInterval (tsc v.allocs v.sk) ws.tsc)

/-- A timer that is started. -/
lemma startKeepaliveTimer_on (ws : WorkSpace) (nowTsc : UInt64) {v : View} (hk : v.sk.keepalive = true)
    (hn : v.sk.sndNxt = v.sk.sndUna) :
    (socketStartKeepaliveTimer ws nowTsc v).link = .tail .keepalive ∧
      (socketStartKeepaliveTimer ws nowTsc v).sk.timerTsc =
        socketAccurateTimerTsc ws.cfg.keepaliveRequestInterval v.sk nowTsc := by
  rw [socketStartKeepaliveTimer, hk, decide_eq_true hn]
  exact ⟨rfl, rfl⟩

/-- A timer that is not. -/
lemma startKeepaliveTimer_off {nowTsc : UInt64} {v : View}
    (h : ¬ (v.sk.keepalive = true ∧ v.sk.sndNxt = v.sk.sndUna)) :
    socketStartKeepaliveTimer ws nowTsc v = v := by
  rw [socketStartKeepaliveTimer, if_neg]
  rwa [Bool.and_eq_true, decide_eq_true_eq]

/-- The sockets that `udp_socket_keepalive_timer_handler` links again. -/
def udpRearms (sk : Socket) : Bool :=
  decide (sk.laddr ≠ 0) && (sk.keepalive && decide (sk.sndNxt = sk.sndUna))

/-- Requests leave what the timer is started by. -/
structure Requested (v u : View) : Prop where
  link : u.link = v.link
  keepalive : u.sk.keepalive = v.sk.keepalive
  sndNxt : u.sk.sndNxt = v.sk.sndNxt
  sndUna : u.sk.sndUna = v.sk.sndUna
  timerTsc : u.sk.timerTsc = v.sk.timerTsc

lemma udpRepeatRequest_requested (ws : WorkSpace) (m : ℕ) : ∀ {v u : View}, Requested v u →
    Requested v (udpRepeat (udpSendRequest ws) m u) := by
  induction m with
  | zero => exact fun h => h
  | succ m ih =>
      intro v u h
      refine ih ?_
      rw [udpSendRequest]
      constructor
      · rw [udpSend_link]
        exact h.link
      · rw [udpSend_sk]
        exact h.keepalive
      · rw [udpSend_sk]
        exact h.sndNxt
      · rw [udpSend_sk]
        exact h.sndUna
      · rw [udpSend_sk]
        exact h.timerTsc

/-- What `udp_socket_keepalive_timer_handler` does with a socket that no other worker has
closed. -/
lemma udpKeepalive_requested (hd : workSpaceInDuration ws = true)
    (hi : ws.cfg.keepaliveRequestInterval ≠ 0) {v : View} (hl : v.sk.laddr ≠ 0) :
    ∃ u, Requested v u ∧
      udpSocketKeepaliveTimerHandler ws v = socketStartKeepaliveTimer ws ws.tsc u := by
  have hsame : Requested v
      (if ws.cfg.flood = false ∧ v.sk.state = .synSent then
        v.count fun s => { s with udpRt := s.udpRt + 1 }
      else v) := by
    split_ifs
    · exact ⟨rfl, rfl, rfl, rfl, rfl⟩
    · exact ⟨rfl, rfl, rfl, rfl, rfl⟩
  refine ⟨_, udpRepeatRequest_requested ws (pipelineTurns ws.cfg.pipeline.toNat) hsame, ?_⟩
  rw [udpSocketKeepaliveTimerHandler, if_pos hd, if_neg hl]
  exact if_pos hi

lemma udpKeepalive_rearms (hd : workSpaceInDuration ws = true)
    (hi : ws.cfg.keepaliveRequestInterval ≠ 0) :
    Rearms ws (udpSocketKeepaliveTimerHandler ws) udpRearms fun _ sk => sk.timerTsc := by
  have hstarted : ∀ v : View, udpRearms v.sk = true →
      (udpSocketKeepaliveTimerHandler ws (socketDelTimer v)).link = .tail .keepalive ∧
      ∃ sk : Socket, sk.timerTsc = v.sk.timerTsc ∧
        (udpSocketKeepaliveTimerHandler ws (socketDelTimer v)).sk.timerTsc =
          socketAccurateTimerTsc ws.cfg.keepaliveRequestInterval sk ws.tsc := by
    intro v h
    rw [udpRearms, Bool.and_eq_true, Bool.and_eq_true, decide_eq_true_eq, decide_eq_true_eq] at h
    obtain ⟨u, hu, heq⟩ := udpKeepalive_requested hd hi (v := socketDelTimer v) h.1
    have hon := startKeepaliveTimer_on ws ws.tsc (hu.keepalive.trans h.2.1)
      (hu.sndNxt.trans (h.2.2.trans hu.sndUna.symm))
    rw [heq]
    exact ⟨hon.1, u.sk, hu.timerTsc, hon.2⟩
  refine ⟨fun v h => (hstarted v h).1, fun v h => ?_, fun v h => ?_⟩
  · have hself : (udpSocketKeepaliveTimerHandler ws (socketDelTimer v)).link = .self := by
      by_cases hl : (socketDelTimer v).sk.laddr = 0
      · rw [udpSocketKeepaliveTimerHandler, if_pos hd, if_pos hl]
        exact socketClose_link _ rfl
      · obtain ⟨u, hu, heq⟩ := udpKeepalive_requested hd hi hl
        have hoff : ¬ (v.sk.keepalive = true ∧ v.sk.sndNxt = v.sk.sndUna) := by
          rintro ⟨hk, hn⟩
          rw [udpRearms, hk, decide_eq_true hn, decide_eq_true (show v.sk.laddr ≠ 0 from hl)] at h
          cases h
        rw [heq, startKeepaliveTimer_off, hu.link]
        · rfl
        · rw [hu.keepalive, hu.sndNxt, hu.sndUna]
          exact hoff
    rw [hself]
    exact ⟨by decide, by decide⟩
  · obtain ⟨-, sk, htsc, heq⟩ := hstarted v h
    rw [heq, ← htsc]
    exact socketAccurateTimerTsc_due _ sk _

/-- The sockets that `tcp_do_keepalive` links again in flood mode. -/
def floodRearms (sk : Socket) : Bool :=
  sk.keepalive && !(decide (sk.sndNxt = sk.sndUna) && decide (sk.state = .established))

/-- The time of a socket whose `SYN` `tcp_reply` has sent; `tcp_reply` starts a timer itself if the
`SYN` is outstanding then. -/
def floodTsc (ws : WorkSpace) (allocs : ℕ) (sk : Socket) : UInt64 :=
  if replyTimer ws thSyn { sk := sk, allocs := allocs } = none then sk.timerTsc
  else replyTsc ws thSyn sk

/-- In flood mode the time passed on settles what the time of the socket does. -/
lemma resets_floodTsc_iff (hs : ws.cfg.server = false) {sk : Socket} (hk : sk.keepalive = true)
    (hi : 0 < ws.cfg.keepaliveRequestInterval)
    (hlt : sk.timerTsc.toNat + 3 * ws.cfg.keepaliveRequestInterval.toNat < 2 ^ 64) (allocs : ℕ) :
    Resets ws.cfg.keepaliveRequestInterval (floodTsc ws allocs sk) ws.tsc ↔
      Resets ws.cfg.keepaliveRequestInterval sk.timerTsc ws.tsc := by
  have hreply : replyTsc ws thSyn sk =
      socketAccurateTimerTsc ws.cfg.keepaliveRequestInterval sk ws.tsc := by
    rw [replyTsc, if_pos ⟨by decide, hs, hk⟩]
  rw [floodTsc, hreply]
  split_ifs
  · rfl
  · exact resets_accurate_iff ws.tsc hi hlt

/-- `tcp_reply` links its socket anywhere but into the keepalive queue. -/
lemma tcpReply_link_ne (ws : WorkSpace) (f : UInt8) {v : View} (h : v.link = .self) :
    (tcpReply ws f v).link ≠ .kept ∧ (tcpReply ws f v).link ≠ .tail .keepalive := by
  rw [tcpReply_link, replyTimer, h]
  split_ifs <;> exact ⟨by decide, by decide⟩

/-- What `tcp_do_keepalive` does in flood mode with a socket that has no connection. -/
lemma tcpDoKeepalive_flood (hd : workSpaceInDuration ws = true) (hf : ws.cfg.flood = true) {v : View}
    (h : v.sk.sndNxt ≠ v.sk.sndUna ∨ v.sk.state ≠ .established ∨ v.sk.keepalive = false) :
    ∃ u : View, tcpDoKeepalive ws v = socketStartKeepaliveTimer ws ws.tsc u ∧
      u.link = (tcpReply ws thSyn v).link ∧ u.sk.keepalive = v.sk.keepalive ∧
      u.sk.sndNxt = u.sk.sndUna ∧ u.sk.timerTsc = floodTsc ws v.allocs v.sk := by
  refine ⟨{ tcpReply ws thSyn v with
    sk := { (tcpReply ws thSyn v).sk with sndUna := (tcpReply ws thSyn v).sk.sndNxt } }, ?_, rfl,
    tcpReply_keepalive ws thSyn v, rfl, ?_⟩
  · rw [tcpDoKeepalive, if_pos h, if_pos hf, if_pos hd]
  · change (tcpReply ws thSyn v).sk.timerTsc = _
    rw [tcpReply_sk]
    rfl

/-- What it does with a socket that has one: a request is sent. -/
lemma tcpDoKeepalive_request (hd : workSpaceInDuration ws = true) (hs : ws.cfg.server = false)
    {v : View}
    (h : ¬ (v.sk.sndNxt ≠ v.sk.sndUna ∨ v.sk.state ≠ .established ∨ v.sk.keepalive = false)) :
    ∃ u : View, u.link = v.link ∧ u.allocs = v.allocs ∧
      (tcpDoKeepalive ws v).link = (tcpReply ws (thAck ||| thPush) u).link ∧
      (tcpDoKeepalive ws v).allocs = u.allocs + 1 := by
  refine ⟨{ v with sk.keepaliveRequestNum := v.sk.keepaliveRequestNum + 1 }, rfl, rfl, ?_⟩
  rw [tcpDoKeepalive, if_neg h, if_pos hs, tcpSendKeepaliveRequest, if_pos hd]
  dsimp only
  split_ifs
  · exact ⟨rfl, tcpReply_allocs ..⟩
  · exact ⟨rfl, tcpReply_allocs ..⟩

lemma tcpKeepalive_rearms (hd : workSpaceInDuration ws = true) (hf : ws.cfg.flood = true)
    (hs : ws.cfg.server = false) : Rearms ws (tcpDoKeepalive ws) floodRearms (floodTsc ws) := by
  have hflood : ∀ v : View, floodRearms v.sk = true →
      ∃ u : View, tcpDoKeepalive ws (socketDelTimer v) = socketStartKeepaliveTimer ws ws.tsc u ∧
        u.sk.keepalive = true ∧ u.sk.sndNxt = u.sk.sndUna ∧
        u.sk.timerTsc = floodTsc ws v.allocs v.sk := by
    intro v h
    rw [floodRearms, Bool.and_eq_true, Bool.not_eq_true', Bool.and_eq_false_iff,
      decide_eq_false_iff_not, decide_eq_false_iff_not] at h
    obtain ⟨u, heq, -, hk, hn, htsc⟩ := tcpDoKeepalive_flood hd hf (v := socketDelTimer v)
      (h.2.imp_right .inl)
    exact ⟨u, heq, hk.trans h.1, hn, htsc⟩
  refine ⟨fun v h => ?_, fun v h => ?_, fun v h => ?_⟩
  · obtain ⟨u, heq, hk, hn, -⟩ := hflood v h
    rw [heq]
    exact (startKeepaliveTimer_on ws ws.tsc hk hn).1
  · by_cases hcond : v.sk.sndNxt ≠ v.sk.sndUna ∨ v.sk.state ≠ .established ∨
        v.sk.keepalive = false
    · obtain ⟨u, heq, hlink, hk, hn, -⟩ := tcpDoKeepalive_flood hd hf (v := socketDelTimer v) hcond
      have hoff : ¬ (u.sk.keepalive = true ∧ u.sk.sndNxt = u.sk.sndUna) := by
        rintro ⟨hkeep, -⟩
        rw [hk] at hkeep
        change v.sk.keepalive = true at hkeep
        rw [floodRearms, hkeep, Bool.true_and, Bool.not_eq_false', Bool.and_eq_true,
          decide_eq_true_eq, decide_eq_true_eq] at h
        rcases hcond with hne | hne | hfalse
        · exact hne h.1
        · exact hne h.2
        · rw [hkeep] at hfalse
          cases hfalse
      rw [heq, startKeepaliveTimer_off hoff, hlink]
      exact tcpReply_link_ne ws thSyn rfl
    · obtain ⟨u, hu, -, hlink, -⟩ := tcpDoKeepalive_request hd hs (v := socketDelTimer v) hcond
      rw [hlink]
      exact tcpReply_link_ne ws _ hu
  · obtain ⟨u, heq, hk, hn, htsc⟩ := hflood v h
    rw [heq, (startKeepaliveTimer_on ws ws.tsc hk hn).2, ← htsc]
    exact socketAccurateTimerTsc_due _ u.sk _

/-- Every socket takes one mbuf. -/
lemma tcpKeepalive_allocs (hd : workSpaceInDuration ws = true) (hf : ws.cfg.flood = true)
    (hs : ws.cfg.server = false) (v : View) : (tcpDoKeepalive ws v).allocs = v.allocs + 1 := by
  by_cases hcond : v.sk.sndNxt ≠ v.sk.sndUna ∨ v.sk.state ≠ .established ∨ v.sk.keepalive = false
  · rw [tcpDoKeepalive, if_pos hcond, if_pos hf, if_pos hd]
    dsimp only
    rw [socketStartKeepaliveTimer]
    split_ifs
    · exact tcpReply_allocs ws thSyn v
    · exact tcpReply_allocs ws thSyn v
  · obtain ⟨u, -, hu, -, hallocs⟩ := tcpDoKeepalive_request hd hs hcond
    rw [hallocs, hu]

end Handlers

/-! ### Rounds -/

section Rounds

variable {ws : WorkSpace} {handler : View → View} {back : Socket → Bool}
  {tsc : ℕ → Socket → UInt64} {w : Worker n}

/-- The keepalive queue of a worker, as the loop serves it. -/
abbrev keepaliveStation (ws : WorkSpace) (handler : View → View) : Station (Worker n) (Fin n) :=
  timerStation ws .keepalive ws.cfg.keepaliveRequestInterval handler

/-- The call of the handler on a socket leaves the others as they are. -/
lemma serve_pool_ne {i j : Fin n} (h : j ≠ i) :
    ((keepaliveStation ws handler).serve i w).pool j = w.pool j :=
  Function.update_of_ne h _ _

lemma Rearms.lawful (h : Rearms ws handler back tsc) :
    (keepaliveStation ws handler).Lawful fun (w : Worker n) i => back (w.pool i) where
  queue_back {w i l} hq hback := by
    have hlink := h.queued (w.view i) hback
    change (Timers.relink i _ w.timers).list .keepalive = _
    rw [hlink, Timers.relink, Queues.list_enqueue_self]
    change w.timers.list .keepalive = _ at hq
    rw [hq, List.erase_cons_head]
  queue_out {w i l} hq hback := by
    obtain ⟨hkept, htail⟩ := h.left (w.view i) hback
    change w.timers.list .keepalive = _ at hq
    have herase : (w.timers.list .keepalive).erase i = l := by rw [hq, List.erase_cons_head]
    change (Timers.relink i (handler (socketDelTimer (w.view i))).link w.timers).list .keepalive = _
    generalize (handler (socketDelTimer (w.view i))).link = link at hkept htail ⊢
    cases link with
    | kept => exact absurd rfl hkept
    | self => exact herase
    | tail q =>
        rw [Timers.relink, Queues.list_enqueue_ne, herase]
        rintro rfl
        exact htail rfl
  due_other hne := by
    rw [keepaliveStation, timerStation]
    dsimp only
    rw [Worker.on, Worker.put]
    dsimp only
    rw [Function.update_of_ne hne]
  back_other hne := congrArg back (serve_pool_ne hne)

/-- A pass leaves alone the sockets that it does not come to. -/
lemma pass_pool (ws : WorkSpace) (handler : View → View) (w : Worker n) {i : Fin n}
    {l : List (Fin n)} (h : i ∉ l) :
    ((keepaliveStation ws handler).pass l w).pool i = w.pool i := by
  induction l generalizing w with
  | nil => rfl
  | cons j l ih =>
      rw [List.mem_cons, not_or] at h
      rw [Station.pass_cons, ih _ h.2, serve_pool_ne h.1]

/-- A pass whose handler takes one mbuf for every socket. -/
lemma pass_allocs (h : ∀ v, (handler v).allocs = v.allocs + 1) (l : List (Fin n)) :
    ((keepaliveStation ws handler).pass l w).allocs = w.allocs + l.length := by
  induction l generalizing w with
  | nil => rfl
  | cons j l ih =>
      rw [Station.pass_cons, ih, List.length_cons]
      change (handler _).allocs + l.length = _
      rw [h, Nat.add_assoc, Nat.add_comm 1]
      rfl

/-- Some socket is not due, or the first that goes back gets a time that is not due. -/
def Settles (ws : WorkSpace) (back : Socket → Bool) (tsc : ℕ → Socket → UInt64) (w : Worker n) :
    Prop :=
  (∃ i ∈ w.timers.list .keepalive,
    ¬ (w.pool i).timerTsc + ws.cfg.keepaliveRequestInterval ≤ ws.tsc) ∨
  ∀ l i l', w.timers.list .keepalive = l ++ i :: l' → (∀ j ∈ l, back (w.pool j) = false) →
    back (w.pool i) = true →
      Resets ws.cfg.keepaliveRequestInterval (tsc (w.allocs + l.length) (w.pool i)) ws.tsc

/-- The loop with a handler whose times do not depend on the mbufs, or that takes one for every
socket. -/
lemma Rearms.runsOnce_iff (h : Rearms ws handler back tsc)
    (hallocs : (∀ k k' sk, tsc k sk = tsc k' sk) ∨ ∀ v, (handler v).allocs = v.allocs + 1) :
    RunsOnce ws handler w ↔ Settles ws back tsc w := by
  have honce : RunsOnce ws handler w ↔ (keepaliveStation ws handler).Once w :=
    exists_congr fun fuel => by rw [socketTimerRun_eq]
  -- the time that a socket gets which the pass comes to after the sockets `l`
  have hagain : ∀ {l : List (Fin n)} {i : Fin n} {l' : List (Fin n)},
      w.timers.list .keepalive = l ++ i :: l' → back (w.pool i) = true →
      ((keepaliveStation ws handler).due ((keepaliveStation ws handler).serve i
        ((keepaliveStation ws handler).pass l w)) i ↔
          ¬ Resets ws.cfg.keepaliveRequestInterval (tsc (w.allocs + l.length) (w.pool i))
            ws.tsc) := by
    intro l i l' hq hi
    have hnodup := w.timers.nodup .keepalive
    rw [hq] at hnodup
    have hil : i ∉ l := fun hmem =>
      (List.nodup_append.mp hnodup).2.2 i hmem i List.mem_cons_self rfl
    have hpool := pass_pool ws handler w hil
    generalize hw : (keepaliveStation ws handler).pass l w = w₁ at hpool ⊢
    have htsc : tsc w₁.allocs (w.pool i) = tsc (w.allocs + l.length) (w.pool i) := by
      rcases hallocs with hconst | hone
      · exact hconst _ _ _
      · rw [← hw, pass_allocs hone]
    have hdue := h.due (w₁.view i) (by rw [Worker.view, hpool]; exact hi)
    rw [Worker.view] at hdue
    dsimp only at hdue
    rw [hpool, htsc] at hdue
    rw [← hdue]
    change (Function.update w₁.pool i _ i).timerTsc + _ ≤ _ ↔ _
    rw [Function.update_self, Worker.view, hpool]
  rw [honce, h.lawful.once_iff (w.timers.nodup .keepalive), Settles]
  refine or_congr Iff.rfl ⟨fun hfirst l i l' hq hl hi => ?_, fun hfirst l i l' hq hl hi => ?_⟩
  · exact not_not.mp (mt (hagain hq hi).mpr (hfirst l i l' hq hl hi))
  · exact mt (hagain hq hi).mp (not_not_intro (hfirst l i l' hq hl hi))

/-- A queue of one socket. -/
lemma settles_singleton_iff {i : Fin n} (hq : w.timers.list .keepalive = [i])
    (hback : back (w.pool i) = true)
    (hdue : (w.pool i).timerTsc + ws.cfg.keepaliveRequestInterval ≤ ws.tsc) :
    Settles ws back tsc w ↔
      Resets ws.cfg.keepaliveRequestInterval (tsc w.allocs (w.pool i)) ws.tsc := by
  rw [Settles, hq, or_iff_right]
  · constructor
    · intro hfirst
      exact hfirst [] i [] rfl (fun _ hj => absurd hj List.not_mem_nil) hback
    · intro hresets l j l' hlist _ _
      cases l with
      | nil =>
          obtain ⟨rfl, -⟩ := List.cons.inj hlist
          exact hresets
      | cons a l => simp at hlist
  · rintro ⟨j, hj, hnot⟩
    rw [List.mem_singleton.mp hj] at hnot
    exact hnot hdue

end Rounds

/-- The loop with `udp_socket_keepalive_timer_handler`, and with `tcp_do_keepalive` in flood mode. -/
theorem keepalive_once_iff {ws : WorkSpace} (hd : workSpaceInDuration ws = true)
    (hi : ws.cfg.keepaliveRequestInterval ≠ 0) (w : Worker n) :
    (RunsOnce ws (udpSocketKeepaliveTimerHandler ws) w ↔
      Settles ws udpRearms (fun _ sk => sk.timerTsc) w) ∧
    (ws.cfg.flood = true → ws.cfg.server = false →
      (RunsOnce ws (tcpDoKeepalive ws) w ↔ Settles ws floodRearms (floodTsc ws) w)) :=
  ⟨(udpKeepalive_rearms hd hi).runsOnce_iff (.inl fun _ _ _ => rfl), fun hf hs =>
    (tcpKeepalive_rearms hd hf hs).runsOnce_iff (.inr (tcpKeepalive_allocs hd hf hs))⟩

/-- A client in flood mode that sends a request every hundred ticks. -/
def Config.floodClient (p : Protocol) : Config :=
  { Config.single with protocol := p, flood := true, keepaliveRequestInterval := 100 }

/-- Its work space at a time in the first second. -/
def WorkSpace.floodAt (p : Protocol) (tsc : UInt64) : WorkSpace :=
  (WorkSpace.single (.floodClient p)).at ⟨tsc, 1, false⟩

/-- Its worker after a launch at the time 1000. -/
lemma floodClient_launched (p : Protocol) :
    ∃ w, step .single (.floodAt p 1000) (.launch 1) (Worker.single (.single (.floodClient p))) =
      some w ∧ w.timers.list .keepalive = [0] ∧ udpRearms (w.pool 0) = true ∧
        floodRearms (w.pool 0) = true ∧ (w.pool 0).keepalive = true ∧
          (w.pool 0).timerTsc = 1000 := by
  have hstep : (step .single (.floodAt p 1000) (.launch 1)
      (Worker.single (.single (.floodClient p)))).any (fun w =>
        decide (w.timers.list .keepalive = [0] ∧ udpRearms (w.pool 0) = true ∧
          floodRearms (w.pool 0) = true ∧ (w.pool 0).keepalive = true ∧
            (w.pool 0).timerTsc = 1000)) = true := by
    cases p
    · decide
    · decide
  obtain ⟨w, hw, hgood⟩ := (Option.any_eq_true _ _).mp hstep
  exact ⟨w, hw, of_decide_eq_true hgood⟩

/-- Whether the loop ends for it at a later time. -/
lemma floodClient_settles_iff {now : UInt64} {w : Worker 1} (hq : w.timers.list .keepalive = [0])
    (hudp : udpRearms (w.pool 0) = true) (htcp : floodRearms (w.pool 0) = true)
    (hk : (w.pool 0).keepalive = true) (htsc : (w.pool 0).timerTsc = 1000) (hdue : 1100 ≤ now) :
    (Settles (.floodAt .udp now) udpRearms (fun _ sk => sk.timerTsc) w ↔ Resets 100 1000 now) ∧
      (Settles (.floodAt .tcp now) floodRearms (floodTsc (.floodAt .tcp now)) w ↔
        Resets 100 1000 now) := by
  have hpos : (0 : UInt64) < 100 := by decide
  have hlt : UInt64.toNat 1000 + 3 * UInt64.toNat 100 < 2 ^ 64 := by decide
  constructor
  · rw [settles_singleton_iff hq hudp (by rw [htsc]; exact hdue), htsc]
    rfl
  · rw [settles_singleton_iff hq htcp (by rw [htsc]; exact hdue),
      resets_floodTsc_iff rfl hk hpos (by rw [htsc]; exact hlt), htsc]
    rfl

/-- A client that is late by one interval and a half. -/
theorem keepalive_once_late :
    (∃ w, step .single (.floodAt .udp 1000) (.launch 1)
        (Worker.single (.single (.floodClient .udp))) = some w ∧
      RunsOnce (.floodAt .udp 1150) (udpSocketKeepaliveTimerHandler (.floodAt .udp 1150)) w) ∧
    ∃ w, step .single (.floodAt .tcp 1000) (.launch 1)
        (Worker.single (.single (.floodClient .tcp))) = some w ∧
      RunsOnce (.floodAt .tcp 1150) (tcpDoKeepalive (.floodAt .tcp 1150)) w := by
  constructor
  · obtain ⟨w, hw, hq, hudp, htcp, hk, htsc⟩ := floodClient_launched .udp
    refine ⟨w, hw, ((keepalive_once_iff (by decide) (by decide) w).1).mpr ?_⟩
    rw [(floodClient_settles_iff hq hudp htcp hk htsc (by decide)).1]
    decide
  · obtain ⟨w, hw, hq, hudp, htcp, hk, htsc⟩ := floodClient_launched .tcp
    refine ⟨w, hw, ((keepalive_once_iff (by decide) (by decide) w).2 rfl rfl).mpr ?_⟩
    rw [(floodClient_settles_iff hq hudp htcp hk htsc (by decide)).2]
    decide

/-- A client that is late by more than three intervals. -/
theorem keepalive_never_ends :
    (∃ w, step .single (.floodAt .udp 1000) (.launch 1)
        (Worker.single (.single (.floodClient .udp))) = some w ∧
      workSpaceInDuration (.floodAt .udp 1301) = true ∧
      ¬ RunsOnce (.floodAt .udp 1301) (udpSocketKeepaliveTimerHandler (.floodAt .udp 1301)) w) ∧
    ∃ w, step .single (.floodAt .tcp 1000) (.launch 1)
        (Worker.single (.single (.floodClient .tcp))) = some w ∧
      workSpaceInDuration (.floodAt .tcp 1301) = true ∧
      ¬ RunsOnce (.floodAt .tcp 1301) (tcpDoKeepalive (.floodAt .tcp 1301)) w := by
  constructor
  · obtain ⟨w, hw, hq, hudp, htcp, hk, htsc⟩ := floodClient_launched .udp
    refine ⟨w, hw, by decide, ?_⟩
    rw [(udpKeepalive_rearms (by decide) (by decide)).runsOnce_iff (.inl fun _ _ _ => rfl),
      (floodClient_settles_iff hq hudp htcp hk htsc (by decide)).1]
    decide
  · obtain ⟨w, hw, hq, hudp, htcp, hk, htsc⟩ := floodClient_launched .tcp
    refine ⟨w, hw, by decide, ?_⟩
    rw [(tcpKeepalive_rearms (by decide) rfl rfl).runsOnce_iff
        (.inr (tcpKeepalive_allocs (by decide) rfl rfl)),
      (floodClient_settles_iff hq hudp htcp hk htsc (by decide)).2]
    decide

end Dperf
