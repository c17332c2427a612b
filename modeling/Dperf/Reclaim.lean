import Dperf.Elapsed
import Dperf.Expiry
import Dperf.ServerTimers

/-!
What becomes of the connections of a TCP server whose peers fall silent: the loop goes on with
its two timers alone, and every socket comes back to `SK_CLOSED`.

* `Idle`: the timers of a loop that reads nothing. The retransmit timer is at most `g` late.
* `Waiting`: what is left to a socket. A retransmission takes one of its `RETRANSMIT_NUM_MAX`
  waits (`Waiting.retransmitted`), and the timeout closes it.
* `socketTimerRun_rule`: a loop of `socket_timer_run` whose handler leaves nothing due returns, and
  keeps what its calls keep.
* `server_reclaims`: the bound on the time.
-/

namespace Dperf

variable {n : ℕ}

/-! ### A loop that reads nothing -/

/-- The timeout of `socket_timeout_timer_expire`. -/
def timeoutTimer (cfg : Config) : UInt64 :=
  cfg.retransmitTimeout * retransmitNumMax.toUInt64 + cfg.keepaliveRequestInterval

/-- Each time, the timer of the ticks is at most `g` late. -/
def Polled (g : ℕ) : ℕ → List (Clock × Event) → Prop
  | _, [] => True
  | last, (c, .socketTimer _) :: l => c.tsc.toNat ≤ last + g ∧ Polled g c.tsc.toNat l
  | last, _ :: l => Polled g last l

/-- The timers of a loop that reads nothing, from the time `t` on, with the last tick at `last`. A
loop over `n` sockets is left after `n` calls. -/
structure Idle (n : ℕ) (cfg : Config) (g last : ℕ) (t : UInt64) (l : List (Clock × Event)) :
    Prop where
  timers : ∀ e ∈ l, e.2 = .socketTimer (n + 1) ∨ e.2 = .timeoutTimer (n + 1)
  sorted : (t :: l.map fun e => e.1.tsc).Pairwise (· ≤ ·)
  polled : Polled g last l
  room : ∀ e ∈ l, e.1.tsc.toNat + (retransmitTimer cfg).toNat < 2 ^ 64 ∧
    e.1.tsc.toNat + (timeoutTimer cfg).toNat < 2 ^ 64

section Idle

variable {cfg : Config} {g last : ℕ} {t : UInt64} {c : Clock} {e : Event}
  {l : List (Clock × Event)}

lemma Idle.le (h : Idle n cfg g last t ((c, e) :: l)) : t ≤ c.tsc := by
  have hsorted := h.sorted
  rw [List.map_cons, List.pairwise_cons] at hsorted
  exact hsorted.1 _ List.mem_cons_self

/-- The rest, after the first timer. -/
lemma Idle.tail {last' : ℕ} (h : Idle n cfg g last t ((c, e) :: l)) (hpoll : Polled g last' l) :
    Idle n cfg g last' c.tsc l := by
  have hsorted := h.sorted
  rw [List.map_cons, List.pairwise_cons] at hsorted
  exact ⟨fun e he => h.timers e (List.mem_cons_of_mem _ he), hsorted.2, hpoll,
    fun e he => h.room e (List.mem_cons_of_mem _ he)⟩

end Idle

/-! ### The loop of a timer -/

section Loop

variable {ws : WorkSpace} {q : TimerKind} {timeout : UInt64} {handler : View → View}

/-- The sockets that are due. -/
def dueSet (q : TimerKind) (timeout now : UInt64) (w : Worker n) : Finset (Fin n) :=
  Finset.univ.filter fun i =>
    i ∈ w.timers.list q ∧ (w.pool i).timerTsc.toNat + timeout.toNat ≤ now.toNat

lemma mem_dueSet {now : UInt64} {w : Worker n} {i : Fin n} :
    i ∈ dueSet q timeout now w ↔ LeftDue q timeout now w i := by
  rw [dueSet, Finset.mem_filter]
  exact ⟨fun h => ⟨h.2.1, h.2.2⟩, fun h => ⟨Finset.mem_univ i, h.mem, h.due⟩⟩

lemma leftDue_put_ne {now : UInt64} {w : Worker n} {i j : Fin n} (h : j ≠ i) (v : View) :
    LeftDue q timeout now (w.put i v) j ↔ LeftDue q timeout now w j := by
  have hmem : j ∈ (w.put i v).timers.list q ↔ j ∈ w.timers.list q := mem_relink_ne h v.link
  constructor
  · rintro ⟨hm, hd⟩
    rw [Worker.pool_put_ne _ h] at hd
    exact ⟨hmem.mp hm, hd⟩
  · rintro ⟨hm, hd⟩
    refine ⟨hmem.mpr hm, ?_⟩
    rw [Worker.pool_put_ne _ h]
    exact hd

/-- A socket that is no longer due. -/
lemma card_dueSet_lt {now : UInt64} {w : Worker n} {i : Fin n} {v : View}
    (h : LeftDue q timeout now w i) (h' : ¬ LeftDue q timeout now (w.put i v) i) :
    (dueSet q timeout now (w.put i v)).card < (dueSet q timeout now w).card := by
  refine Finset.card_lt_card (Finset.ssubset_iff_of_subset ?_ |>.mpr ⟨i, mem_dueSet.mpr h,
    fun hi => h' (mem_dueSet.mp hi)⟩)
  intro j hj
  have hji : j ≠ i := by
    rintro rfl
    exact h' (mem_dueSet.mp hj)
  exact mem_dueSet.mpr ((leftDue_put_ne hji v).mp (mem_dueSet.mp hj))

/-- A loop whose calls keep `P`, and leave their socket not due, returns. -/
theorem socketTimerRun_rule (ws : WorkSpace) (q : TimerKind) (timeout : UInt64)
    (handler : View → View) (P : Worker n → Prop)
    (hroom : ∀ w i, P w → i ∈ w.timers.list q →
      (w.pool i).timerTsc.toNat + timeout.toNat < 2 ^ 64)
    (hcall : ∀ w i, P w → LeftDue q timeout ws.tsc w i →
      P (w.on i fun v => handler (socketDelTimer v)) ∧
        ¬ LeftDue q timeout ws.tsc (w.on i fun v => handler (socketDelTimer v)) i) :
    ∀ (fuel : ℕ) (w : Worker n), P w → (dueSet q timeout ws.tsc w).card < fuel →
      ∃ r, socketTimerRun ws q timeout handler fuel w = some r ∧ P r.2 := by
  intro fuel
  induction fuel with
  | zero => exact fun w _ h => absurd h (Nat.not_lt_zero _)
  | succ fuel ih =>
      intro w hw hcard
      rw [socketTimerRun]
      cases hlist : w.timers.list q with
      | nil => exact ⟨_, rfl, hw⟩
      | cons i l =>
          have hmem : i ∈ w.timers.list q := by
            rw [hlist]
            exact List.mem_cons_self
          dsimp only
          split_ifs with hle
          · -- the head is due
            have hdue : LeftDue q timeout ws.tsc w i := by
              refine ⟨hmem, ?_⟩
              rw [UInt64.le_iff_toNat_le, UInt64.toNat_add, Nat.mod_eq_of_lt (hroom w i hw hmem)]
                at hle
              exact hle
            obtain ⟨hw', hdone⟩ := hcall w i hw hdue
            have hlt := card_dueSet_lt hdue hdone
            have hfuel : (dueSet q timeout ws.tsc
                (w.on i fun v => handler (socketDelTimer v))).card < fuel :=
              hlt.trans_le (Nat.lt_succ_iff.mp hcard)
            obtain ⟨r, hr, hP⟩ := ih _ hw' hfuel
            exact ⟨(i :: r.1, r.2), by rw [hr]; rfl, hP⟩
          · exact ⟨_, rfl, hw⟩

lemma card_dueSet_le (q : TimerKind) (timeout now : UInt64) (w : Worker n) :
    (dueSet q timeout now w).card < n + 1 := by
  have h := Finset.card_le_univ (dueSet q timeout now w)
  rw [Fintype.card_fin] at h
  omega

end Loop

/-! ### What is left to a socket -/

/-- What is left to a socket of a server: each wait for the retransmit timer takes at most
`retransmitTimer + g`, counted from `last`, and they end by `B`; in the timeout queue nothing is
new since `t₀`, and nothing is left once it has been emptied. -/
structure Waiting (cfg : Config) (g B t₀ last : ℕ) (emptied : Prop) (sk : Socket)
    (p : Option TimerKind) : Prop where
  armed : Armed sk p
  low : sk.state ≠ .closed → sk.retrans.val < retransmitNumMax
  retransmit : p = some .retransmit →
    max (sk.timerTsc.toNat + (retransmitTimer cfg).toNat) last + g +
      (retransmitNumMax - 1 - sk.retrans.val) * ((retransmitTimer cfg).toNat + g) ≤ B
  timeout : p = some .timeout → ¬ emptied ∧ sk.timerTsc.toNat ≤ t₀

section Waits

variable {ws : WorkSpace} {g B t₀ last : ℕ} {emptied : Prop} {v : View}

/-- A closed socket waits for nothing. -/
lemma waiting_of_closed {sk : Socket} (hc : sk.state = .closed) :
    Waiting ws.cfg g B t₀ last emptied sk none :=
  ⟨⟨fun _ => rfl, fun ho => absurd hc ho, fun ho => absurd hc ho⟩, fun ho => absurd hc ho,
    fun h => (by cases h), fun h => (by cases h)⟩

/-- A segment that is sent again starts the retransmit timer. -/
lemma reply_again (hs : SmallServer ws) {f : UInt8} (ho : v.sk.state ≠ .closed)
    (hn : v.sk.sndNxt ≠ v.sk.sndUna) (hf : hasFlag f seqFlags = true) :
    (tcpReply ws f v).sk.timerTsc = ws.tsc ∧ (tcpReply ws f v).sk.retrans = v.sk.retrans ∧
      (tcpReply ws f v).link = .tail .retransmit := by
  have hout : v.sk.sndNxt + 0 ≠ v.sk.sndUna := by
    rw [UInt32.add_zero]
    exact hn
  have htimer : replyTimer ws f v = some .retransmit := by
    rw [replyTimer, if_neg (not_or.mpr ⟨ho, not_not.mpr hs.window⟩), replyFresh_outstanding hn]
    exact (if_pos hf).trans (if_pos hout)
  have htsc : replyTsc ws f v.sk = ws.tsc := by
    rw [replyTsc, if_neg]
    rintro ⟨-, hclient, -⟩
    exact absurd (hs.server.symm.trans hclient) Bool.noConfusion
  have hne : replyTimer ws f v ≠ none := by
    rw [htimer]
    exact Option.some_ne_none _
  refine ⟨?_, by rw [tcpReply_sk], by rw [tcpReply_link, htimer]⟩
  rw [tcpReply_sk, ← htsc]
  exact if_neg hne

/-- A wait that is over is one of the `RETRANSMIT_NUM_MAX`: the socket is closed, or it waits again
from now on. -/
lemma Waiting.retransmitted (hs : SmallServer ws)
    (h : Waiting ws.cfg g B t₀ last emptied v.sk (some .retransmit))
    (hlast : last ≤ ws.tsc.toNat) (hgap : ws.tsc.toNat ≤ last + g) :
    Waiting ws.cfg g B t₀ last emptied (tcpDoRetransmit ws (socketDelTimer v)).sk
        ((tcpDoRetransmit ws (socketDelTimer v)).link.after (some .retransmit)) ∧
      ((tcpDoRetransmit ws (socketDelTimer v)).link.after (some .retransmit) = some .retransmit →
        (tcpDoRetransmit ws (socketDelTimer v)).sk.timerTsc = ws.tsc) := by
  have ho : v.sk.state ≠ .closed := fun hc => by
    have hnone := h.armed.closed hc
    cases hnone
  have hn : v.sk.sndNxt ≠ v.sk.sndUna := fun he => by
    have htimeout := h.armed.timeout ho he
    cases htimeout
  have hf := (h.armed.retransmit ho hn).2
  have hA : ArmedAt (some .retransmit) (tcpDoRetransmit ws (socketDelTimer v)) :=
    armed_doRetransmit hs ho hn hf
  have hclosed : ∀ u : View, ArmedAt (some .retransmit) u → u.sk.state = .closed →
      Waiting ws.cfg g B t₀ last emptied u.sk (u.link.after (some .retransmit)) ∧
        (u.link.after (some .retransmit) = some .retransmit → u.sk.timerTsc = ws.tsc) := by
    intro u hu hc
    have hnone : u.link.after (some .retransmit) = none := hu.closed hc
    rw [hnone]
    exact ⟨waiting_of_closed hc, fun h => by cases h⟩
  rw [tcpDoRetransmit] at hA ⊢
  dsimp only at hA ⊢
  split_ifs at hA ⊢ with hacked hl hr hb
  · exact absurd hacked hn
  · exact hclosed _ hA (socketClose_closed _)
  · exact absurd hs.window hb.1
  · -- sent again
    let u : View := { socketDelTimer v with sk.retrans := (socketDelTimer v).sk.retrans + 1 }
    have hu : u.sk.retrans.val = v.sk.retrans.val + 1 := by
      have hlow := h.low ho
      rw [retransmitNumMax] at hlow
      change (v.sk.retrans.val + 1) % 8 = _
      exact Nat.mod_eq_of_lt (by omega)
    obtain ⟨htsc, hretrans, hlink⟩ := reply_again hs (v := u) ho hn hf
    have hwait := h.retransmit rfl
    refine ⟨⟨hA, fun _ => ?_, fun _ => ?_, fun htimeout => ?_⟩, fun _ => htsc⟩
    · exact hretrans ▸ hr
    · change max ((tcpReply ws v.sk.flags u).sk.timerTsc.toNat + _) last + g +
        (retransmitNumMax - 1 - (tcpReply ws v.sk.flags u).sk.retrans.val) * _ ≤ B
      have hlt : v.sk.retrans.val + 1 < 4 := hu ▸ hr
      rw [htsc, hretrans, hu, retransmitNumMax]
      rw [retransmitNumMax] at hwait
      obtain ⟨k, hk⟩ := Nat.exists_eq_add_of_lt hlt
      have h₁ : 4 - 1 - v.sk.retrans.val = k + 1 := by omega
      have h₂ : 4 - 1 - (v.sk.retrans.val + 1) = k := by omega
      rw [h₁, Nat.succ_mul] at hwait
      rw [h₂, max_eq_left (hlast.trans (Nat.le_add_right _ _))]
      omega
    · have hplace : (tcpReply ws v.sk.flags u).link.after (some .retransmit) = some .timeout :=
        htimeout
      rw [hlink] at hplace
      cases hplace
  · exact hclosed _ hA (socketClose_closed _)

/-- A socket in the timeout queue that is due is closed. -/
lemma waiting_timeout (v : View) :
    Waiting ws.cfg g B t₀ last emptied (socketTimeoutHandler (socketDelTimer v)).sk
      ((socketTimeoutHandler (socketDelTimer v)).link.after (some .timeout)) := by
  have hc : (socketTimeoutHandler (socketDelTimer v)).sk.state = .closed := socketClose_closed _
  have hA : ArmedAt (some .timeout) (socketTimeoutHandler (socketDelTimer v)) :=
    armed_close fun _ => rfl
  have hnone : (socketTimeoutHandler (socketDelTimer v)).link.after (some .timeout) = none :=
    hA.closed hc
  rw [hnone]
  exact waiting_of_closed hc

end Waits

/-! ### The worker -/

/-- A worker of the server whose sockets wait. -/
structure Draining (cfg : Config) (g B t₀ last : ℕ) (emptied : Prop) (s : Clocked n) : Prop where
  queues : ServerQueues s
  waiting : ∀ i, Waiting cfg g B t₀ last emptied (s.worker.pool i) (s.worker.timers.place i)

section Drain

variable {ws : WorkSpace} {c : Clock} {g B t₀ last : ℕ} {emptied : Prop} {s : Clocked n}

lemma SmallServer.plain (hs : SmallServer ws) : Plain ws :=
  ⟨hs.protocol, hs.window, fun h => absurd (hs.server.symm.trans h) Bool.noConfusion⟩

/-- The retransmit timer and the timeout timer may call their handlers. -/
lemma timer_permit {q : TimerKind} {k : Call} {i : Fin n} {w : Worker n} (hk : k.queue = some q)
    (hq : q ≠ .keepalive) (hi : i ∈ w.timers.list q) :
    LoopPermit ws ⟨fun _ _ _ => False, False⟩ i k w := by
  refine ⟨⟨?_, fun m h => ?_, fun r hr => ?_, fun t h => ?_⟩, fun b h => ?_⟩
  · cases k with
    | retransmit => trivial
    | timeout => trivial
    | keepalive => exact absurd (Option.some.inj hk).symm hq
    | disableKeepalive => exact absurd (Option.some.inj hk).symm hq
    | input | ackDone | ackFlush | launch => cases hk
  · subst h
    cases hk
  · rw [hk] at hr
    exact Option.some.inj hr ▸ hi
  · subst h
    cases hk
  · subst h
    cases hk

/-- A call of one of the timers. -/
lemma Draining.call (hs : SmallServer ws) (h : Draining ws.cfg g B t₀ last emptied s)
    (hc : s.tsc ≤ c.tsc) {q : TimerKind} {k : Call} {i : Fin n} (hk : k.queue = some q)
    (hq : q ≠ .keepalive) (hi : i ∈ s.worker.timers.list q)
    (hw : Waiting ws.cfg g B t₀ last emptied (k.run (ws.at c) (s.worker.view i)).sk
      ((k.run (ws.at c) (s.worker.view i)).link.after (some q))) :
    Draining ws.cfg g B t₀ last emptied ⟨s.worker.on i (k.run (ws.at c)), c.tsc⟩ := by
  have hplace : s.worker.timers.place i = some q := Queues.place_eq_some.mpr hi
  have hstep : ClockStep ws anyQueueCall s ⟨s.worker.on i (k.run (ws.at c)), c.tsc⟩ :=
    .call hc (timer_permit hk hq hi) trivial
  refine ⟨h.queues.step hs.plain hs.server hstep, fun j => ?_⟩
  rcases eq_or_ne j i with rfl | hji
  · have hlater : (s.worker.on j (k.run (ws.at c))).timers.place j =
        (k.run (ws.at c) (s.worker.view j)).link.after (some q) :=
      (place_relink_self _).trans (by rw [hplace])
    rw [hlater, Worker.on, Worker.pool_put_self]
    exact hw
  · have hlater : (s.worker.on i (k.run (ws.at c))).timers.place j = s.worker.timers.place j :=
      place_relink_ne hji _
    rw [hlater, Worker.on, Worker.pool_put_ne _ hji]
    exact h.waiting j

/-- The time goes on. -/
lemma Draining.later (h : Draining ws.cfg g B t₀ last emptied s) {t : UInt64} (ht : s.tsc ≤ t) :
    Draining ws.cfg g B t₀ last emptied ⟨s.worker, t⟩ :=
  ⟨⟨h.queues.closed, fun q hq i hi => UInt64.le_trans (h.queues.past q hq i hi) ht,
    h.queues.sorted⟩, h.waiting⟩

/-- The dates do not overflow. -/
lemma Draining.room (h : Draining ws.cfg g B t₀ last emptied s) {q : TimerKind}
    (hq : q ≠ .keepalive) {timeout : UInt64} (hroom : s.tsc.toNat + timeout.toNat < 2 ^ 64)
    {i : Fin n} (hi : i ∈ s.worker.timers.list q) :
    (s.worker.pool i).timerTsc.toNat + timeout.toNat < 2 ^ 64 :=
  (Nat.add_le_add_right (UInt64.le_iff_toNat_le.mp (h.queues.past q hq i hi)) _).trans_lt hroom

/-- A call of the retransmit timer on a socket that is due. -/
lemma Draining.retransmitCall (hs : SmallServer ws) (h : Draining ws.cfg g B t₀ last emptied s)
    (hc : s.tsc ≤ c.tsc) (hlast : last ≤ c.tsc.toNat) (hgap : c.tsc.toNat ≤ last + g)
    (hpos : 0 < (retransmitTimer ws.cfg).toNat) {i : Fin n}
    (hi : i ∈ s.worker.timers.list .retransmit) :
    Draining ws.cfg g B t₀ last emptied
        ⟨s.worker.on i fun v => tcpDoRetransmit (ws.at c) (socketDelTimer v), c.tsc⟩ ∧
      ¬ LeftDue .retransmit (retransmitTimer ws.cfg) c.tsc
        (s.worker.on i fun v => tcpDoRetransmit (ws.at c) (socketDelTimer v)) i := by
  have hrun : Call.retransmit.run (ws.at c) =
      fun v => tcpDoRetransmit (ws.at c) (socketDelTimer v) := by
    funext v
    rw [Call.run, WorkSpace.at_cfg, hs.protocol]
  have hplace : s.worker.timers.place i = some .retransmit := Queues.place_eq_some.mpr hi
  have hwait := h.waiting i
  rw [hplace] at hwait
  obtain ⟨hafter, hnow⟩ := Waiting.retransmitted (v := s.worker.view i) (hs.at c) hwait hlast hgap
  have hcall := h.call hs hc (k := .retransmit) rfl (by decide) hi (by rw [hrun]; exact hafter)
  rw [hrun] at hcall
  refine ⟨hcall, fun hagain => ?_⟩
  -- a socket that waits again has the time itself
  have hlater := Queues.place_eq_some.mpr hagain.mem
  rw [Worker.on] at hlater
  have hlink := (place_relink_self _).symm.trans hlater
  rw [hplace] at hlink
  have hdate := hagain.due
  rw [Worker.on, Worker.pool_put_self, hnow hlink] at hdate
  change c.tsc.toNat + _ ≤ _ at hdate
  omega

/-- One run of the retransmit timer. -/
lemma Draining.socketTimer (hs : SmallServer ws) (h : Draining ws.cfg g B t₀ last emptied s)
    (hc : s.tsc ≤ c.tsc) (hlast : last ≤ c.tsc.toNat) (hgap : c.tsc.toNat ≤ last + g)
    (hpos : 0 < (retransmitTimer ws.cfg).toNat)
    (hroom : c.tsc.toNat + (retransmitTimer ws.cfg).toNat < 2 ^ 64) (st : SocketTable n) :
    ∃ w', step st (ws.at c) (.socketTimer (n + 1)) s.worker = some w' ∧
      Draining ws.cfg g B t₀ c.tsc.toNat emptied ⟨w', c.tsc⟩ := by
  obtain ⟨⟨l, w'⟩, hloop, h'⟩ := socketTimerRun_rule (ws.at c) .retransmit (retransmitTimer ws.cfg)
    (tcpDoRetransmit (ws.at c)) (fun w => Draining ws.cfg g B t₀ last emptied ⟨w, c.tsc⟩)
    (fun w i hw hi => hw.room (by decide) hroom hi)
    (fun w i hw hdue => hw.retransmitCall hs (UInt64.le_refl _) hlast hgap hpos hdue.mem)
    (n + 1) s.worker (h.later hc) (card_dueSet_le _ _ _ _)
  refine ⟨w', ?_, h'.queues, fun i => ?_⟩
  · have htimer : retransmitTimer ws.cfg =
        ws.cfg.retransmitTimeout + ws.cfg.retransmitTimeout / 10 := if_pos hs.server
    rw [htimer] at hloop
    rw [step, socketTimerProcess]
    simp only [WorkSpace.at_cfg, hs.protocol, hs.server]
    rw [hloop]
    rfl
  · -- what is left in the queue is not due
    have hwait := h'.waiting i
    refine ⟨hwait.armed, hwait.low, fun hp => ?_, hwait.timeout⟩
    have hnot := not_leftDue_of_along hloop
      ((h'.queues.sorted .retransmit (by decide)).imp fun hle => .inl hle) i
    have hlate : c.tsc.toNat < (w'.pool i).timerTsc.toNat + (retransmitTimer ws.cfg).toNat :=
      Nat.lt_of_not_le fun hle => hnot ⟨Queues.place_eq_some.mp hp, hle⟩
    have hold := hwait.retransmit hp
    rw [max_eq_left hlate.le]
    exact le_trans (Nat.add_le_add_right (Nat.add_le_add_right (le_max_left _ _) _) _) hold

/-- A call of the timeout timer. -/
lemma Draining.timeoutCall (hs : SmallServer ws) (h : Draining ws.cfg g B t₀ last emptied s)
    (hc : s.tsc ≤ c.tsc) {i : Fin n} (hi : i ∈ s.worker.timers.list .timeout) {timeout : UInt64} :
    Draining ws.cfg g B t₀ last emptied
        ⟨s.worker.on i fun v => socketTimeoutHandler (socketDelTimer v), c.tsc⟩ ∧
      ¬ LeftDue .timeout timeout c.tsc
        (s.worker.on i fun v => socketTimeoutHandler (socketDelTimer v)) i := by
  have hplace : s.worker.timers.place i = some .timeout := Queues.place_eq_some.mpr hi
  refine ⟨h.call hs hc (k := .timeout) rfl (by decide) hi (waiting_timeout _), fun hagain => ?_⟩
  have hlater := Queues.place_eq_some.mpr hagain.mem
  rw [Worker.on] at hlater
  have hlink := (place_relink_self _).symm.trans hlater
  have harmed : ArmedAt (s.worker.timers.place i)
      (socketTimeoutHandler (socketDelTimer (s.worker.view i))) := armed_close fun _ => rfl
  have hnone : (socketTimeoutHandler (socketDelTimer (s.worker.view i))).link.after
      (s.worker.timers.place i) = none := harmed.closed (socketClose_closed _)
  rw [hnone] at hlink
  cases hlink

/-- One run of the timeout timer: it empties its queue if it comes late enough. -/
lemma Draining.timeoutTimer (hs : SmallServer ws) (h : Draining ws.cfg g B t₀ last emptied s)
    (hc : s.tsc ≤ c.tsc) (hroom : c.tsc.toNat + (timeoutTimer ws.cfg).toNat < 2 ^ 64)
    (st : SocketTable n) :
    ∃ w', step st (ws.at c) (.timeoutTimer (n + 1)) s.worker = some w' ∧
      Draining ws.cfg g B t₀ last
        (emptied ∨ t₀ + (Dperf.timeoutTimer ws.cfg).toNat ≤ c.tsc.toNat) ⟨w', c.tsc⟩ := by
  obtain ⟨⟨l, w'⟩, hloop, h'⟩ := socketTimerRun_rule (ws.at c) .timeout
    (Dperf.timeoutTimer ws.cfg) socketTimeoutHandler
    (fun w => Draining ws.cfg g B t₀ last emptied ⟨w, c.tsc⟩)
    (fun w i hw hi => hw.room (by decide) hroom hi)
    (fun w i hw hdue => hw.timeoutCall hs (UInt64.le_refl _) hdue.mem)
    (n + 1) s.worker (h.later hc) (card_dueSet_le _ _ _ _)
  refine ⟨w', ?_, h'.queues, fun i => ?_⟩
  · rw [Dperf.timeoutTimer] at hloop
    rw [step, socketTimeoutTimerExpire]
    simp only [WorkSpace.at_cfg]
    rw [hloop]
    rfl
  · have hwait := h'.waiting i
    refine ⟨hwait.armed, hwait.low, hwait.retransmit, fun hp => ?_⟩
    obtain ⟨hmore, hold⟩ := hwait.timeout hp
    have hnot := not_leftDue_of_along hloop
      ((h'.queues.sorted .timeout (by decide)).imp fun hle => .inl hle) i
    refine ⟨not_or.mpr ⟨hmore, fun hlate => hnot ⟨Queues.place_eq_some.mp hp, ?_⟩⟩, hold⟩
    exact (Nat.add_le_add_right hold _).trans hlate

end Drain

/-! ### Every run -/

/-- What every call of the loop preserves of a slot holds in the runs on a clock. -/
theorem slots_of_clockReach {ws : WorkSpace} {G : QueueGuard n} {P : Slot → Prop}
    (hinit : ∀ sk, SocketNew ws sk → P ⟨sk, none, []⟩)
    (hcall : ∀ (c : Clock) (inp : Grants n) i k (w : Worker n), LoopPermit (ws.at c) inp i k w →
      P (w.slot i) → P ((w.slot i).after (k.run (ws.at c) (w.view i))))
    {s : Clocked n} (h : ClockReach ws G s) : ∀ i, P (s.worker.slot i) := by
  refine of_clockReach (P := fun s => ∀ i, P (s.worker.slot i)) (fun s hs i => ?_)
    (fun s s' hstep ih => ?_) h
  · rw [hs.slot]
    exact hinit _ (hs.pool i)
  · cases hstep with
    | @call c inp i k _ _ hp _ =>
        intro j
        rcases eq_or_ne j i with rfl | hji
        · rw [Worker.on, Worker.slot_put_self]
          exact hcall c inp j k _ hp (ih j)
        · rw [Worker.on, Worker.slot_put_ne _ hji]
          exact ih j
    | quiet _ hq =>
        intro j
        rw [hq.slot]
        exact ih j

section Retrans

variable {ws : WorkSpace} {k : Call} {spends : Prop} {v v' : View}

/-- An open socket has not used up its retransmissions. -/
def RetransLow (sk : Socket) : Prop := sk.state ≠ .closed → sk.retrans.val < retransmitNumMax

lemma retransLow_act (hp : Plain ws) (h : RetransLow v.sk) (hv : Act ws k spends v v') :
    RetransLow v'.sk := by
  intro ho
  have hzero : (0 : Fin 8).val < retransmitNumMax := by decide
  cases hv with
  | rest hu =>
      rw [hu.retrans]
      exact h fun hc => ho (hu.live.mpr hc)
  | ack hu =>
      rw [hu.retrans]
      exact hzero
  | starts hu =>
      rw [hu.retrans]
      exact hzero
  | close => exact absurd (socketClose_closed v) ho
  | @reply f =>
      have hr : (tcpReply ws f v).sk.retrans = v.sk.retrans := by rw [tcpReply_sk]
      rw [hr]
      exact h fun hc => ho ((tcpReply_state ws f v).trans hc)
  | retransmit =>
      rw [tcpDoRetransmit] at ho ⊢
      dsimp only at ho ⊢
      split_ifs at ho ⊢ with hn hl hr hb
      · exact hzero
      · exact absurd (socketClose_closed _) ho
      · exact absurd hp.window hb.1
      · have hsame : (tcpReply ws v.sk.flags { v with sk.retrans := v.sk.retrans + 1 }).sk.retrans =
            v.sk.retrans + 1 := by rw [tcpReply_sk]
        exact (congrArg Fin.val hsame).trans_lt hr
      · exact absurd (socketClose_closed _) ho
  | dupAck hw => exact absurd hp.window hw
  | resends hw => exact absurd hp.window hw
  | synAck hopen => exact h hopen
  | flood hc hf => exact absurd ((hp.flood hc).symm.trans hf) Bool.noConfusion
  | burst hw => exact absurd hp.window hw
  | retransmitTimer hw => exact absurd hp.window hw
  | keepaliveTimer =>
      rw [socketStartKeepaliveTimer] at ho ⊢
      split_ifs at ho ⊢
      · exact h ho
      · exact h ho
  | timeoutTimer => exact h ho

lemma retransLow_acts (hp : Plain ws) (h : RetransLow v.sk) (hv : Acts ws k spends v v') :
    RetransLow v'.sk := by
  induction hv with
  | refl => exact h
  | tail _ hact ih => exact retransLow_act hp ih hact

end Retrans

/-- The sockets of a server, wherever its peers fall silent. -/
lemma draining_of_clockReach {ws : WorkSpace} (hs : SmallServer ws) {s : Clocked n}
    (h : ClockReach ws anyQueueCall s) (g : ℕ) :
    Draining ws.cfg g (s.tsc.toNat + retransmitNumMax * ((retransmitTimer ws.cfg).toNat + g))
      s.tsc.toNat s.tsc.toNat False s := by
  have hqueues := serverQueues hs.plain hs.server h
  have harmed : ∀ i, Armed (s.worker.slot i).sk (s.worker.slot i).place := by
    refine slots_of_clockReach (P := fun s => Armed s.sk s.place) (fun sk hnew => ?_)
      (fun c inp i k w hp hw => ?_) h
    · have hc := hnew.closed.1
      exact ⟨fun _ => rfl, fun ho => absurd hc ho, fun ho => absurd hc ho⟩
    · refine armed_run (hs.at c) hp.mode rfl hw fun q hq => ?_
      exact Queues.place_eq_some.mpr (hp.timer q hq)
  have hlow : ∀ i, RetransLow (s.worker.slot i).sk :=
    slots_of_clockReach (P := fun s => RetransLow s.sk)
      (fun sk hnew ho => absurd hnew.closed.1 ho)
      (fun c inp i k w hp hw => retransLow_acts (hs.plain.at c) (v := w.view i) hw
        (acts_run (hs.plain.at c).protocol hp.mode (w.view i))) h
  refine ⟨hqueues, fun i => ⟨harmed i, hlow i, fun hp => ?_, fun hp => ⟨id, ?_⟩⟩⟩
  · have hpast := UInt64.le_iff_toNat_le.mp
      (hqueues.past .retransmit (by decide) i (Queues.place_eq_some.mp hp))
    have hmax : max ((s.worker.pool i).timerTsc.toNat + (retransmitTimer ws.cfg).toNat)
        s.tsc.toNat ≤ s.tsc.toNat + (retransmitTimer ws.cfg).toNat := by omega
    have hleft : (retransmitNumMax - 1 - (s.worker.pool i).retrans.val) *
        ((retransmitTimer ws.cfg).toNat + g) ≤ 3 * ((retransmitTimer ws.cfg).toNat + g) :=
      Nat.mul_le_mul_right _ (Nat.sub_le _ _)
    rw [retransmitNumMax]
    rw [retransmitNumMax] at hleft
    omega
  · exact UInt64.le_iff_toNat_le.mp
      (hqueues.past .timeout (by decide) i (Queues.place_eq_some.mp hp))

/-- A loop that reads nothing returns from all its timers, and its sockets wait on. -/
lemma Draining.idle {ws : WorkSpace} (hs : SmallServer ws)
    (hpos : 0 < (retransmitTimer ws.cfg).toNat) {g B t₀ : ℕ} (st : SocketTable n) :
    ∀ {l : List (Clock × Event)} {s : Clocked n} {last : ℕ} {emptied : Prop},
      Draining ws.cfg g B t₀ last emptied s → Idle n ws.cfg g last s.tsc l →
      last ≤ s.tsc.toNat →
      ∃ w' t last' emptied', runEvents st ws l s.worker = some w' ∧
        Draining ws.cfg g B t₀ last' emptied' ⟨w', t⟩ ∧ last ≤ last' ∧ (emptied → emptied') ∧
        ∀ c, ((c, .socketTimer (n + 1)) ∈ l → c.tsc.toNat ≤ last') ∧
          ((c, .timeoutTimer (n + 1)) ∈ l → t₀ + (Dperf.timeoutTimer ws.cfg).toNat ≤ c.tsc.toNat →
            emptied') := by
  intro l
  induction l with
  | nil =>
      intro s last emptied h _ _
      exact ⟨s.worker, s.tsc, last, emptied, rfl, h, le_refl _, id, fun c =>
        ⟨fun hc => absurd hc List.not_mem_nil, fun hc => absurd hc List.not_mem_nil⟩⟩
  | cons e l ih =>
      obtain ⟨c, e⟩ := e
      intro s last emptied h hi hlast
      have hc : s.tsc ≤ c.tsc := hi.le
      have hlast' : last ≤ c.tsc.toNat := hlast.trans (UInt64.le_iff_toNat_le.mp hc)
      have hroom := hi.room _ List.mem_cons_self
      rcases hi.timers _ List.mem_cons_self with he | he
      · obtain rfl : e = .socketTimer (n + 1) := he
        obtain ⟨hgap, hpoll⟩ := hi.polled
        obtain ⟨w₁, hstep, h₁⟩ := h.socketTimer hs hc hlast' hgap hpos hroom.1 st
        obtain ⟨w', t, last', emptied', hrun, hd, hle, hem, hall⟩ :=
          ih h₁ (hi.tail hpoll) (le_refl _)
        refine ⟨w', t, last', emptied', ?_, hd, hlast'.trans hle, hem, fun c' =>
          ⟨fun hc' => ?_, fun hc' => ?_⟩⟩
        · rw [runEvents, hstep]
          exact hrun
        · rcases List.mem_cons.mp hc' with heq | hc'
          · obtain rfl : c' = c := congrArg Prod.fst heq
            exact hle
          · exact (hall c').1 hc'
        · rcases List.mem_cons.mp hc' with heq | hc'
          · cases congrArg Prod.snd heq
          · exact (hall c').2 hc'
      · obtain rfl : e = .timeoutTimer (n + 1) := he
        obtain ⟨w₁, hstep, h₁⟩ := h.timeoutTimer hs hc hroom.2 st
        obtain ⟨w', t, last', emptied', hrun, hd, hle, hem, hall⟩ :=
          ih h₁ (hi.tail hi.polled) hlast'
        refine ⟨w', t, last', emptied', ?_, hd, hle, fun h => hem (.inl h), fun c' =>
          ⟨fun hc' => ?_, fun hc' => ?_⟩⟩
        · rw [runEvents, hstep]
          exact hrun
        · rcases List.mem_cons.mp hc' with heq | hc'
          · cases congrArg Prod.snd heq
          · exact (hall c').1 hc'
        · rcases List.mem_cons.mp hc' with heq | hc'
          · obtain rfl : c' = c := congrArg Prod.fst heq
            exact fun hlate => hem (.inr hlate)
          · exact (hall c').2 hc'

/-- **Nothing is left behind**: wherever the peers of a server fall silent, its loop returns from
every timer, and after `RETRANSMIT_NUM_MAX` waits for the retransmit timer and one for the timeout
timer every socket is closed and in no queue. -/
theorem server_reclaims {ws : WorkSpace} (hs : SmallServer ws)
    (hpos : 0 < (retransmitTimer ws.cfg).toNat) {s : Clocked n} (h : ClockReach ws anyQueueCall s)
    (st : SocketTable n) {g : ℕ} {l : List (Clock × Event)}
    (hi : Idle n ws.cfg g s.tsc.toNat s.tsc l)
    (htick : ∃ c, (c, .socketTimer (n + 1)) ∈ l ∧
      s.tsc.toNat + retransmitNumMax * ((retransmitTimer ws.cfg).toNat + g) < c.tsc.toNat)
    (hsecond : ∃ c, (c, .timeoutTimer (n + 1)) ∈ l ∧
      s.tsc.toNat + (timeoutTimer ws.cfg).toNat ≤ c.tsc.toNat) :
    ∃ w', runEvents st ws l s.worker = some w' ∧
      ∀ i, (w'.pool i).state = .closed ∧ ∀ q, i ∉ w'.timers.list q := by
  obtain ⟨w', t, last', emptied', hrun, hd, -, -, hall⟩ :=
    (draining_of_clockReach hs h g).idle hs hpos st hi (le_refl _)
  obtain ⟨c, hc, hlate⟩ := htick
  obtain ⟨c', hc', hlate'⟩ := hsecond
  have hlast := (hall c).1 hc
  have hempty := (hall c').2 hc' hlate'
  refine ⟨w', hrun, fun i => ?_⟩
  have hwait := hd.waiting i
  have hclosed : (w'.pool i).state = .closed := by
    by_contra ho
    by_cases hn : (w'.pool i).sndNxt = (w'.pool i).sndUna
    · exact (hwait.timeout (hwait.armed.timeout ho hn)).1 hempty
    · have hbound := hwait.retransmit (hwait.armed.retransmit ho hn).1
      change max _ last' + g + _ ≤ _ at hbound
      have hmax := le_max_right
        ((w'.pool i).timerTsc.toNat + (retransmitTimer ws.cfg).toNat) last'
      omega
  exact ⟨hclosed, Queues.place_eq_none.mp (hwait.armed.closed hclosed)⟩

/-- The timers of a loop that looks every five seconds. -/
def silence : List (Clock × Event) :=
  [(.single 6, .socketTimer 2), (.single 11, .socketTimer 2), (.single 16, .socketTimer 2),
    (.single 21, .socketTimer 2), (.single 26, .socketTimer 2), (.single 26, .timeoutTimer 2)]

lemma silence_idle : Idle 1 (.singleServer true) 5000 1000 1000 silence where
  timers := by
    rw [silence]
    simp only [List.forall_mem_cons, true_or, or_true, List.not_mem_nil, false_imp_iff,
      implies_true, and_self]
  sorted := by decide
  polled := ⟨by decide, by decide, by decide, by decide, by decide, trivial⟩
  room := by decide

/-- A server whose client has sent a `SYN` and no more. -/
theorem server_reclaims_syn : ∃ (s : Clocked 1) (w' : Worker 1),
    (s.worker.pool 0).state = .synReceived ∧
    runEvents .single (.single (.singleServer true)) silence s.worker = some w' ∧
      ∀ i, (w'.pool i).state = .closed ∧ ∀ q, i ∉ w'.timers.list q := by
  have hstep : (step .single ((WorkSpace.single (.singleServer true)).at (.single 1))
      (.recv .tcp (.single true thSyn 100 0 [])) (Worker.single (.single (.singleServer true)))).any
      (fun w => (w.pool 0).state == .synReceived) = true := by decide
  obtain ⟨w, hw, hst⟩ := (Option.any_eq_true _ _).mp hstep
  have hreach : ClockReach (WorkSpace.single (.singleServer true)) anyQueueCall
      ⟨w, (Clock.single 1).tsc⟩ :=
    ⟨⟨Worker.single _, 0⟩, Worker.single_initial _, clockSteps_of_step hw (by decide)⟩
  have hsmall : SmallServer (.single (.singleServer true)) :=
    ⟨rfl, rfl, rfl, by decide, fun _ => rfl⟩
  have htick : (Clock.single 1).tsc.toNat + retransmitNumMax *
      ((retransmitTimer (.singleServer true)).toNat + 5000) < (Clock.single 26).tsc.toNat := by
    decide
  have hsecond : (Clock.single 1).tsc.toNat + (timeoutTimer (.singleServer true)).toNat ≤
      (Clock.single 26).tsc.toNat := by decide
  obtain ⟨w', hrun, hall⟩ := server_reclaims hsmall (by decide) hreach .single silence_idle
    ⟨.single 26, by rw [silence]; simp, htick⟩ ⟨.single 26, by rw [silence]; simp, hsecond⟩
  exact ⟨⟨w, (Clock.single 1).tsc⟩, w', beq_iff_eq.mp hst, hrun, hall⟩

end Dperf
