import Dperf.Lib.Products
import Dperf.SocketCount

/-!
The targets `cps` and `cc` of a client, and the connections that its workers hold.

* `clientAssignTask`, `clientInit`: the share of a worker, from `client.c`. The shares of a
  target add up to it (`sum_share`).
* `turns_openCount_le`: only a launch opens sockets, as many as
  `work_space_client_launch_num` says at most (`clientLaunch_openCount`).
* `Capped`: a worker with a share of `cc` stays below it. A share of zero is no limit at
  all, which is what `connections_le_iff` comes to.
-/

namespace Dperf

/-! ### Shares -/

/-- The targets of an accepted client configuration: `config_parse_cps` and
`config_parse_cc` yield numbers of type `int`, `config_check_target` sets a missing `cps`,
and `config_check_keepalive` has `cc` require `keepalive`. -/
structure ClientPlan where
  cfg : Config
  cpuNum : ℕ
  cps : UInt64
  cc : UInt64
  wait : UInt64
  client : cfg.server = false
  keepalive : cfg.keepalive = true
  cpuNum_pos : 0 < cpuNum
  cpuNum_le : cpuNum ≤ 64
  cps_pos : 0 < cps.toNat
  cps_lt : cps.toNat < 2 ^ 31
  cc_pos : 0 < cc.toNat
  cc_lt : cc.toNat < 2 ^ 31

/-- `client_assign_task`. The quotient is computed in `double` and truncated: for targets
below `2^31` this is the integer quotient. -/
def clientAssignTask (cpuNum id target : UInt64) : UInt64 :=
  -- low target. Some CPUs idle. Some CPUs have only 1 task
  if target ≤ cpuNum then
    if id < target then 1 else 0
  else
    let val := target / cpuNum
    if id = 0 then target - val * (cpuNum - 1) else val

/-- The loop of `client_init` over the launch numbers from `DEFAULT_LAUNCH_MAX` down to
`DEFAULT_LAUNCH_MIN`, and `DEFAULT_LAUNCH`. -/
def defaultLaunchNum (cps : UInt64) : UInt32 :=
  let num := [10, 9, 8, 7, 6, 5, 4].foldl
    (fun num (l : UInt32) => if cps % l.toUInt64 = 0 then l else num) 0
  if num = 0 then 4 else num

/-- `client_init`: what the worker `id` launches, and `cfg->launch_num`, which it sets. -/
def clientInit (p : ClientPlan) (id tscPerSec rdtsc : UInt64) (launchNum : UInt32) :
    ClientLaunch × UInt32 :=
  let cps := clientAssignTask p.cpuNum.toUInt64 id p.cps
  let cc := clientAssignTask p.cpuNum.toUInt64 id p.cc
  -- this is an idle CPU
  if cps = 0 then ({}, launchNum)
  else
    let launchNum := if launchNum = 0 then defaultLaunchNum cps else launchNum
    let num := if cps ≤ launchNum.toUInt64 then cps.toUInt32 else launchNum
    let interval :=
      if cps ≤ launchNum.toUInt64 then tscPerSec else tscPerSec / (cps / launchNum.toUInt64)
    ({ cc := cc
       launchNum := num
       launchInterval := interval
       launchIntervalDefault := interval
       launchNext := rdtsc + tscPerSec * p.wait }, launchNum)

/-- The share of the worker `id` of a target. -/
def share (cpuNum id target : ℕ) : ℕ :=
  if target ≤ cpuNum then if id < target then 1 else 0
  else if id = 0 then target - target / cpuNum * (cpuNum - 1) else target / cpuNum

lemma toNat_clientAssignTask {cpuNum id : ℕ} (hc : 0 < cpuNum) (hle : cpuNum ≤ 64)
    (hid : id < cpuNum) (target : UInt64) :
    (clientAssignTask cpuNum.toUInt64 id.toUInt64 target).toNat = share cpuNum id target.toNat := by
  have hcn : cpuNum.toUInt64.toNat = cpuNum := by
    simp
    omega
  have hidn : id.toUInt64.toNat = id := by
    simp
    omega
  rw [clientAssignTask, share]
  simp only [UInt64.le_iff_toNat_le, UInt64.lt_iff_toNat_lt, hcn, hidn]
  have hzero : id.toUInt64 = 0 ↔ id = 0 := by
    rw [← UInt64.toNat_inj, hidn]
    rfl
  simp only [hzero]
  have hmul : target.toNat / cpuNum * (cpuNum - 1) ≤ target.toNat :=
    (Nat.mul_le_mul_left _ (Nat.sub_le _ _)).trans (Nat.div_mul_le_self _ _)
  have hlt : target.toNat < 2 ^ 64 := target.toNat_lt
  have hprod : (target / cpuNum.toUInt64 * (cpuNum.toUInt64 - 1)).toNat =
      target.toNat / cpuNum * (cpuNum - 1) := by
    have hsub : (cpuNum.toUInt64 - 1).toNat = cpuNum - 1 := by
      rw [UInt64.toNat_sub_of_le _ _ (by rw [UInt64.le_iff_toNat_le, hcn]; exact hc), hcn]
      rfl
    rw [UInt64.toNat_mul, UInt64.toNat_div, hcn, hsub]
    exact Nat.mod_eq_of_lt (by omega)
  split_ifs
  · rfl
  · rfl
  · rw [UInt64.toNat_sub_of_le _ _ (by rw [UInt64.le_iff_toNat_le, hprod]; exact hmul), hprod]
  · rw [UInt64.toNat_div, hcn]

lemma share_le (cpuNum id target : ℕ) : share cpuNum id target ≤ target := by
  rw [share]
  split_ifs
  · omega
  · omega
  · exact Nat.sub_le _ _
  · exact Nat.div_le_self _ _

/-- The shares of a target add up to it. -/
lemma sum_share {cpuNum : ℕ} (hc : 0 < cpuNum) (target : ℕ) :
    ∑ id : Fin cpuNum, share cpuNum id target = target := by
  by_cases ht : target ≤ cpuNum
  · have hone : ∀ id : Fin cpuNum, share cpuNum id target = if (id : ℕ) < target then 1 else 0 :=
      fun id => if_pos ht
    simp only [hone]
    rw [Finset.sum_boole, Fin.card_filter_val_lt, min_eq_right ht, Nat.cast_id]
  · obtain ⟨c, rfl⟩ : ∃ c, cpuNum = c + 1 := ⟨cpuNum - 1, by omega⟩
    rw [Fin.sum_univ_succ]
    have hsucc : ∀ i : Fin c, share (c + 1) (i.succ : Fin (c + 1)) target = target / (c + 1) := by
      intro i
      rw [share, if_neg ht, if_neg (by simp)]
    have hmul : target / (c + 1) * c ≤ target :=
      (Nat.mul_le_mul_left _ (Nat.le_succ c)).trans (Nat.div_mul_le_self _ _)
    simp only [hsucc, Finset.sum_const, Finset.card_univ, Fintype.card_fin, smul_eq_mul]
    rw [share, if_neg ht, if_pos (by simp), Nat.add_sub_cancel, mul_comm c]
    omega

/-- A worker without a share of the target is one beyond it. -/
lemma share_eq_zero {cpuNum id target : ℕ} (hid : id < cpuNum) :
    share cpuNum id target = 0 ↔ target ≤ id := by
  rw [share]
  have hdiv : cpuNum < target → 0 < target / cpuNum := fun h =>
    Nat.div_pos (le_of_lt h) (by omega)
  split_ifs with h1 h2 h3
  · exact iff_of_false not_false (by omega)
  · exact iff_of_true rfl (by omega)
  · have := hdiv (by omega)
    have hmul : target / cpuNum * (cpuNum - 1) + target / cpuNum ≤ target := by
      calc target / cpuNum * (cpuNum - 1) + target / cpuNum
          = target / cpuNum * (cpuNum - 1 + 1) := by ring
        _ = target / cpuNum * cpuNum := by rw [Nat.sub_add_cancel (by omega)]
        _ ≤ target := Nat.div_mul_le_self _ _
    omega
  · have := hdiv (by omega)
    omega

lemma defaultLaunchNum_ne (cps : UInt64) : defaultLaunchNum cps ≠ 0 := by
  rw [defaultLaunchNum]
  split_ifs with h
  · decide
  · exact h

/-- What `client_init` gives to a worker with a share of `cps`, and to one without. -/
lemma clientInit_launch (p : ClientPlan) {id : ℕ} (hid : id < p.cpuNum)
    (tscPerSec rdtsc : UInt64) (launchNum : UInt32) :
    (share p.cpuNum id p.cps.toNat = 0 →
      (clientInit p id.toUInt64 tscPerSec rdtsc launchNum).1 = {}) ∧
    (share p.cpuNum id p.cps.toNat ≠ 0 →
      (clientInit p id.toUInt64 tscPerSec rdtsc launchNum).1.cc.toNat =
          share p.cpuNum id p.cc.toNat ∧
        (clientInit p id.toUInt64 tscPerSec rdtsc launchNum).1.launchNum ≠ 0) := by
  have hcps := toNat_clientAssignTask p.cpuNum_pos p.cpuNum_le hid p.cps
  have hcc := toNat_clientAssignTask p.cpuNum_pos p.cpuNum_le hid p.cc
  rw [clientInit]
  dsimp only
  generalize clientAssignTask p.cpuNum.toUInt64 id.toUInt64 p.cps = cps at hcps
  have hzero : cps = 0 ↔ share p.cpuNum id p.cps.toNat = 0 := by
    rw [← UInt64.toNat_inj, hcps]
    rfl
  constructor
  · intro h
    rw [if_pos (hzero.mpr h)]
  · intro h
    rw [if_neg (fun h0 => h (hzero.mp h0))]
    refine ⟨hcc, ?_⟩
    have hle : cps.toNat < 2 ^ 31 := by
      rw [hcps]
      exact lt_of_le_of_lt (share_le _ _ _) p.cps_lt
    have hnum : (if launchNum = 0 then defaultLaunchNum cps else launchNum) ≠ 0 := by
      split_ifs with h0
      · exact defaultLaunchNum_ne cps
      · exact h0
    dsimp only
    generalize (if launchNum = 0 then defaultLaunchNum cps else launchNum) = num at hnum ⊢
    split_ifs
    · intro h0
      have h1 : cps.toNat % 2 ^ 32 = 0 := by
        rw [← UInt64.toNat_toUInt32, h0]
        rfl
      omega
    · exact hnum

/-! ### Closed sockets -/

section Closed

variable {ws : WorkSpace} {v : View}

lemma tcpClientInput_closed (h : v.sk.state = .closed) (m : Mbuf) :
    (tcpClientInput ws m v).2.sk.state = .closed := by
  rw [tcpClientInput]
  split_ifs
  · have hv : (v.count (tcpFlagsRxCount m.th.flags)).sk.state = .closed := h
    have hc := tcpCheckSequence_closed ws hv m.th (tcpDataGet m).2
    rw [tcpClientProcessData, if_pos hc.1]
    exact hc.2
  · rw [tcpClientProcessSynAck]
    simp [h]
  · exact tcpProcessRst_closed _
  · exact h

/-- A client's call other than a launch leaves a closed socket closed. UDP timer handlers
are called on open sockets. -/
lemma run_closed {k : Call} (h : v.sk.state = .closed) (hs : ws.cfg.server = false)
    (hl : ∀ turns, k ≠ .launch turns) (hq : ws.cfg.protocol = .udp → k.queue = none) :
    (k.run ws v).sk.state = .closed := by
  cases k with
  | input m =>
      rw [Call.run, l4Input]
      split
      · rename_i hs'
        rw [hs] at hs'
        cases hs'
      · exact tcpClientInput_closed h m
      · rename_i hs'
        rw [hs] at hs'
        cases hs'
      · rw [udpClientInput]
        simp [h]
  | ackDone b =>
      rw [Call.run, tcpAckDelayDone]
      dsimp only
      split_ifs
      · rw [startKeepaliveTimer_state]
        exact h
      · exact h
  | ackFlush =>
      rw [Call.run, tcpAckDelayFlushOne]
      dsimp only
      split_ifs <;> simpa using h
  | retransmit =>
      rw [Call.run]
      split
      · exact tcpDoRetransmit_closed ws h
      · rw [udpRetransmitHandler]
        exact socketClose_closed _
  | keepalive =>
      rw [Call.run]
      split
      · rw [tcpDoKeepalive]
        have hdel : (socketDelTimer v).sk.state = .closed := h
        dsimp only
        have hn : (socketDelTimer v).sk.sndNxt ≠ (socketDelTimer v).sk.sndUna ∨
            (socketDelTimer v).sk.state ≠ .established ∨
            (socketDelTimer v).sk.keepalive = false := .inr (.inl (by rw [hdel]; simp))
        rw [if_pos hn]
        split_ifs with _ _ he
        · rw [startKeepaliveTimer_state]
          simpa using hdel
        · exact socketClose_closed _
        · rw [hdel] at he
          cases he.2
        · exact hdel
      · rename_i hp
        cases hq hp
  | timeout => exact socketClose_closed _
  | launch turns => exact absurd rfl (hl turns)
  | disableKeepalive => exact h

end Closed

/-! ### Launches -/

section Launch

variable {n : ℕ} {ws : WorkSpace}

/-- A call on a closed socket that stays closed, or on an open one, opens nothing. -/
lemma openCount_put_le {w : Worker n} {i : Fin n} {v : View}
    (h : (w.pool i).state = .closed → v.sk.state = .closed) :
    (w.put i v).openCount ≤ w.openCount := by
  rw [Worker.openCount_eq _ i, Worker.openCount_eq w i, Worker.otherOpen_put,
    Worker.pool_put_self]
  by_cases hc : (w.pool i).state = .closed
  · rw [openNum_closed (h hc)]
    omega
  · rw [openNum_open hc]
    have : openNum v.sk ≤ 1 := by
      rw [openNum]
      split_ifs <;> omega
    omega

/-- Whatever a call does, it opens one socket at most. -/
lemma openCount_put_le_succ (w : Worker n) (i : Fin n) (v : View) :
    (w.put i v).openCount ≤ w.openCount + 1 := by
  rw [Worker.openCount_eq _ i, Worker.openCount_eq w i, Worker.otherOpen_put,
    Worker.pool_put_self, openNum]
  split_ifs <;> omega

lemma Quiet.openCount {w w' : Worker n} (h : Quiet w w') : w'.openCount = w.openCount := by
  rw [Worker.openCount, Worker.openCount, h.pool]

/-- Turns without a launch open nothing. -/
lemma turns_openCount_le {inp : Grants n} {w w' : Worker n} (hn : n < 2 ^ 32)
    (hs : ws.cfg.server = false) (hl : ¬ inp.launch) (h : Counted ws w)
    (ht : Turns ws inp w w') : w'.openCount ≤ w.openCount := by
  induction ht with
  | refl => exact le_rfl
  | @tail b c hb hbc ih =>
      refine le_trans ?_ ih
      have hcount : Counted ws b := h.turns hn hb
      cases hbc with
      | @call i k _ hp =>
          refine openCount_put_le fun hc => run_closed hc hs (fun t ht => hl (hp.launch t ht)) ?_
          intro hu
          -- a UDP socket in a queue is open
          by_contra hk
          obtain ⟨q, hq⟩ := Option.ne_none_iff_exists'.mp hk
          refine hcount.queued hu i ?_ hc
          rw [Worker.slot, Queues.place_eq_some.mpr (hp.timer q hq)]
          simp
      | quiet hq => exact le_of_eq hq.openCount

/-- A turn of the launch loops opens one socket at most. -/
lemma clientLaunchOne_openCount {st : SocketTable n} {fuel : ℕ} {start : View → View}
    {w : Worker n} {r : Bool × Worker n} (h : clientLaunchOne st ws fuel start w = some r) :
    r.2.openCount ≤ w.openCount + 1 ∧ r.2.launch = w.launch := by
  obtain ⟨p, -, rfl⟩ := Option.map_eq_some_iff.mp h
  exact ⟨openCount_put_le_succ _ _ _, rfl⟩

lemma tcpClientLaunch_openCount {st : SocketTable n} {fuel : ℕ} : ∀ (num : ℕ) {w w' : Worker n},
    tcpClientLaunch st ws fuel num w = some w' →
      w'.openCount ≤ w.openCount + num ∧ w'.launch = w.launch := by
  intro num
  induction num with
  | zero =>
      intro w w' h
      cases h
      exact ⟨le_rfl, rfl⟩
  | succ num ih =>
      intro w w' h
      obtain ⟨r, hr, h⟩ := Option.bind_eq_some_iff.mp h
      obtain ⟨h1, h2⟩ := clientLaunchOne_openCount hr
      obtain ⟨h3, h4⟩ := ih h
      exact ⟨by omega, h4.trans h2⟩

lemma udpClientLaunch_openCount {st : SocketTable n} {fuel : ℕ} :
    ∀ (num : ℕ) {pipeline : Int} {w w' : Worker n},
      udpClientLaunch st ws fuel num pipeline w = some w' →
        w'.openCount ≤ w.openCount + num ∧ w'.launch = w.launch := by
  intro num
  induction num with
  | zero =>
      intro pipeline w w' h
      cases h
      exact ⟨le_rfl, rfl⟩
  | succ num ih =>
      intro pipeline w w' h
      obtain ⟨r, hr, h⟩ := Option.bind_eq_some_iff.mp h
      obtain ⟨h1, h2⟩ := clientLaunchOne_openCount hr
      obtain ⟨h3, h4⟩ := ih h
      exact ⟨by omega, h4.trans h2⟩

/-- Without RSS, what a launch is to open fits under a share of `cc`; the share and the pool
stay. -/
lemma workSpaceClientLaunchNum_fits (ws : WorkSpace) {st : SocketTable n} {w : Worker n}
    (hr : st.rss = false)
    (hcur : w.stats.socketCurrent.toNat = w.openCount) :
    (workSpaceClientLaunchNum st ws w).2.openCount = w.openCount ∧
      (workSpaceClientLaunchNum st ws w).2.launch.cc = w.launch.cc ∧
      (workSpaceClientLaunchNum st ws w).2.launch.launchNum = w.launch.launchNum ∧
      (w.launch.launchNum = 0 → (workSpaceClientLaunchNum st ws w).1 = 0) ∧
      (0 < w.launch.cc.toNat → w.openCount ≤ w.launch.cc.toNat →
        w.openCount + (workSpaceClientLaunchNum st ws w).1.toNat ≤ w.launch.cc.toNat) := by
  rw [workSpaceClientLaunchNum]
  simp only [hr, Bool.false_and, Bool.false_eq_true, if_false]
  have hzero : w.launch.launchNum = 0 → w.launch.launchNum.toUInt64 = 0 := by
    intro h
    rw [h]
    rfl
  split_ifs with ht hc hlt hgap he
  · -- the gap
    refine ⟨rfl, rfl, rfl, fun h => ?_, fun _ hle => ?_⟩
    · rw [hzero h] at hgap
      exact absurd hgap (by simp)
    · rw [UInt64.toNat_sub_of_le _ _ (UInt64.le_of_lt hlt), hcur]
      omega
  · -- less than the gap
    refine ⟨rfl, rfl, rfl, hzero, fun _ hle => ?_⟩
    rw [UInt64.lt_iff_toNat_lt, UInt64.toNat_sub_of_le _ _ (UInt64.le_of_lt hlt), hcur] at hgap
    show _ + w.launch.launchNum.toUInt64.toNat ≤ _
    omega
  · exact ⟨rfl, rfl, rfl, fun _ => rfl, fun _ hle => hle⟩
  · exact ⟨rfl, rfl, rfl, fun _ => rfl, fun _ hle => hle⟩
  · exact ⟨rfl, rfl, rfl, hzero, fun h => absurd h (fun h => hc (UInt64.lt_iff_toNat_lt.mpr h))⟩
  · exact ⟨rfl, rfl, rfl, fun _ => rfl, fun _ hle => hle⟩

/-- A launch opens what `work_space_client_launch_num` says at most. -/
lemma clientLaunch_openCount {st : SocketTable n} {fuel : ℕ} {w w' : Worker n}
    (h : clientLaunch st ws fuel w = some w') :
    w'.openCount ≤ (workSpaceClientLaunchNum st ws w).2.openCount +
        (workSpaceClientLaunchNum st ws w).1.toNat ∧
      w'.launch = (workSpaceClientLaunchNum st ws w).2.launch := by
  rw [clientLaunch] at h
  split at h
  · exact tcpClientLaunch_openCount _ h
  · exact udpClientLaunch_openCount _ h

/-! ### What leaves the launch record alone -/

lemma socketTimerRun_launch {q : TimerKind} {timeout : UInt64} {handler : View → View} :
    ∀ (fuel : ℕ) {w : Worker n} {r : List (Fin n) × Worker n},
      socketTimerRun ws q timeout handler fuel w = some r → r.2.launch = w.launch := by
  intro fuel
  induction fuel with
  | zero =>
      intro w r h
      cases h
  | succ fuel ih =>
      intro w r h
      rw [socketTimerRun] at h
      split at h
      · cases h
        rfl
      · split_ifs at h
        · obtain ⟨r', hr', rfl⟩ := Option.map_eq_some_iff.mp h
          have h₁ := ih hr'
          exact h₁
        · cases h
          rfl

lemma socketTimerProcess_launch {fuel : ℕ} {w w' : Worker n}
    (h : socketTimerProcess ws fuel w = some w') : w'.launch = w.launch := by
  rw [socketTimerProcess] at h
  split at h
  · obtain ⟨r, hr, rfl⟩ := Option.map_eq_some_iff.mp h
    exact socketTimerRun_launch _ hr
  · obtain ⟨r, hr, h⟩ := Option.bind_eq_some_iff.mp h
    have h₁ := socketTimerRun_launch _ hr
    split_ifs at h
    · obtain ⟨r', hr', rfl⟩ := Option.map_eq_some_iff.mp h
      exact (socketTimerRun_launch _ hr').trans h₁
    · cases h
      exact h₁
  · cases h
    rfl
  · split_ifs at h
    · obtain ⟨r, hr, rfl⟩ := Option.map_eq_some_iff.mp h
      exact socketTimerRun_launch _ hr
    · obtain ⟨r, hr, rfl⟩ := Option.map_eq_some_iff.mp h
      exact socketTimerRun_launch _ hr

lemma tcpAckDelayFlush_launch (w : Worker n) : (tcpAckDelayFlush ws w).launch = w.launch := by
  have hfold : ∀ (l : List (Fin n)) (w : Worker n),
      (l.foldl (fun w i => w.on i (tcpAckDelayFlushOne ws)) w).launch = w.launch := by
    intro l
    induction l with
    | nil => exact fun w => rfl
    | cons i l ih => exact fun w => ih _
  exact hfold _ _

lemma noSocket_launch (m : Mbuf) (w : Worker n) : (noSocket ws m w).launch = w.launch := by
  unfold noSocket tcpReplyRst
  split_ifs <;> first | rfl | (split <;> rfl)

lemma tcpAckDelayRest_launch (i : Fin n) (d : AckDelay) (w : Worker n) :
    (tcpAckDelayRest ws i d w).launch = w.launch := by
  cases d with
  | none => rfl
  | add b =>
      rw [tcpAckDelayRest]
      split_ifs
      · exact tcpAckDelayFlush_launch w
      · rfl

lemma recvPacket_launch {st : SocketTable n} (p : Protocol) (m : Mbuf) (w : Worker n) :
    (recvPacket st ws p m w).launch = w.launch := by
  rw [recvPacket]
  split_ifs
  · generalize socketLookup st ws w.pool m = found
    cases found with
    | none => exact noSocket_launch m w
    | some i => exact tcpAckDelayRest_launch i _ _
  · unfold l4Drop
    split_ifs
    · rfl
    · cases p <;> rfl

end Launch

/-! ### The limit of a worker -/

/-- A worker with a share `k` of `cc` holds at most `k` sockets; a worker that `client_init`
left idle holds none. -/
inductive Capped {n : ℕ} (k : ℕ) (w : Worker n) : Prop
  | share (pos : 0 < k) (cc : w.launch.cc.toNat = k) (le : w.openCount ≤ k)
  | idle (num : w.launch.launchNum = 0) (cc : w.launch.cc = 0) (none : w.openCount = 0)

section Capped

variable {n : ℕ} {k : ℕ} {st : SocketTable n} {ws : WorkSpace} {w w' : Worker n}

lemma Capped.le (h : Capped k w) : w.openCount ≤ k := by
  cases h with
  | share _ _ hle => exact hle
  | idle _ _ h0 => omega

/-- What opens nothing and leaves the share keeps the limit. -/
lemma Capped.mono (h : Capped k w) (hle : w'.openCount ≤ w.openCount)
    (hcc : w'.launch.cc = w.launch.cc)
    (hnum : w.launch.launchNum = 0 → w'.launch.launchNum = 0) : Capped k w' := by
  cases h with
  | share hpos hk hw => exact .share hpos (by rw [hcc, hk]) (hle.trans hw)
  | idle h0 hk hw => exact .idle (hnum h0) (by rw [hcc, hk]) (by omega)

/-- A launch opens what is left of the share. -/
lemma Capped.launch (h : Capped k w) (hr : st.rss = false)
    (hcur : w.stats.socketCurrent.toNat = w.openCount) {fuel : ℕ}
    (hl : clientLaunch st ws fuel w = some w') : Capped k w' := by
  obtain ⟨hopen, hlaunch⟩ := clientLaunch_openCount hl
  obtain ⟨hcount, hcc, hnum, hidle, hfits⟩ := workSpaceClientLaunchNum_fits ws hr hcur
  rw [hcount] at hopen
  cases h with
  | share hpos hk hw =>
      have hle := hfits (by omega) (by omega)
      exact .share hpos (by rw [hlaunch, hcc, hk]) (by omega)
  | idle h0 hk hw =>
      rw [hidle h0] at hopen
      exact .idle (by rw [hlaunch, hnum, h0]) (by rw [hlaunch, hcc, hk]) (by simpa [hw] using hopen)

/-- A step keeps the limit. -/
theorem Capped.step {c : Clock} {e : Event} (h : Capped k w) (hs : ws.cfg.server = false)
    (hr : st.rss = false) (hc : Counted ws w) (hstep : step st (ws.at c) e w = some w') :
    Capped k w' := by
  -- all but a launch: the turns open nothing
  have hturns : (¬ ∃ fuel, e = .launch fuel) → w'.openCount ≤ w.openCount := by
    intro he
    have hat : (ws.at c).cfg.server = false := hs
    exact turns_openCount_le st.pool_lt hat he (hc.at c) (step_turns hstep)
  cases e with
  | launch fuel =>
      have hl : clientLaunch st (ws.at c) fuel w = some w' := by
        rwa [Dperf.step, WorkSpace.at_cfg, hs] at hstep
      exact h.launch hr hc.current hl
  | recv p m =>
      have hl : w'.launch = w.launch := by
        rw [← Option.some.inj hstep]
        exact recvPacket_launch p m w
      exact h.mono (hturns (by simp)) (by rw [hl]) (by rw [hl]; exact id)
  | socketTimer fuel =>
      have hl : w'.launch = w.launch := socketTimerProcess_launch hstep
      exact h.mono (hturns (by simp)) (by rw [hl]) (by rw [hl]; exact id)
  | timeoutTimer fuel =>
      obtain ⟨r, hr', rfl⟩ := Option.map_eq_some_iff.mp hstep
      have hl := socketTimerRun_launch _ hr'
      exact h.mono (hturns (by simp)) (by rw [hl]) (by rw [hl]; exact id)
  | ackFlush =>
      have hl : w'.launch = w.launch := by
        rw [Dperf.step, WorkSpace.at_cfg, hs] at hstep
        rw [← Option.some.inj hstep]
        exact tcpAckDelayFlush_launch w
      exact h.mono (hturns (by simp)) (by rw [hl]) (by rw [hl]; exact id)
  | setLaunchInterval x =>
      cases hstep
      exact h.mono le_rfl rfl id
  | stop =>
      cases hstep
      exact h.mono le_rfl rfl fun _ => rfl

/-- A run keeps the limit. -/
theorem Capped.runs (h : Capped k w) (hs : ws.cfg.server = false) (hr : st.rss = false)
    (hc : Counted ws w) (hrun : Runs st ws anyStep w w') : Capped k w' := by
  have hboth : Capped k w' ∧ Counted ws w' := by
    induction hrun with
    | refl => exact ⟨h, hc⟩
    | tail _ hstep ih =>
        obtain ⟨c, e, -, hstep⟩ := hstep
        exact ⟨ih.1.step hs hr ih.2 hstep, ih.2.step hstep⟩
  exact hboth.1

end Capped

/-! ### First launches -/

section First

variable {n : ℕ} {st : SocketTable n} {ws : WorkSpace} {w : Worker n}

/-- Without RSS the cursor yields a socket and stays in the pool. -/
lemma socketTableGetSocket_next (hr : st.rss = false) (pool : Fin n → Socket) (fuel : ℕ)
    {next : UInt32} (hn : next.toNat < n) :
    ∃ p, socketTableGetSocket st pool fuel next = some p ∧ p.2.toNat < n := by
  have hwrap : ∀ x : UInt32, (if n ≤ x.toNat then 0 else x).toNat < n := by
    intro x
    split_ifs with h
    · exact lt_of_le_of_lt (Nat.zero_le _) hn
    · exact not_le.mp h
  rw [socketTableGetSocket]
  rw [if_pos hr, dif_pos hn]
  refine ⟨_, rfl, ?_⟩
  dsimp only
  by_cases hop : st.clientHop = true
  · rw [if_pos hop]
    exact hwrap _
  · rw [if_neg hop]
    exact hwrap _

/-- An open socket after the call: at least as many as before, and not none. -/
lemma openCount_put_open (w : Worker n) (i : Fin n) {v : View} (h : v.sk.state ≠ .closed) :
    w.openCount ≤ (w.put i v).openCount ∧ 0 < (w.put i v).openCount := by
  have hnum : openNum (w.pool i) ≤ 1 := by
    rw [openNum]
    split_ifs <;> omega
  rw [Worker.openCount_eq w i, Worker.openCount_eq (w.put i v) i, Worker.otherOpen_put,
    Worker.pool_put_self, openNum_open h]
  omega

/-- A turn of the launch loops leaves the socket of the cursor open, where the start of a
connection does. -/
lemma clientLaunchOne_opens (hr : st.rss = false) (hk : ws.cfg.keepalive = true) (fuel : ℕ)
    {start : View → View}
    (hstart : ∀ v, v.sk.keepalive = true → v.sk.state ≠ .closed → (start v).sk.state ≠ .closed)
    (hn : w.next.toNat < n) :
    ∃ r, clientLaunchOne st ws fuel start w = some r ∧ r.2.next.toNat < n ∧
      w.openCount ≤ r.2.openCount ∧ 0 < r.2.openCount := by
  obtain ⟨p, hp, hp2⟩ := socketTableGetSocket_next hr w.pool fuel hn
  rw [clientLaunchOne, hp, Option.map_some]
  refine ⟨_, rfl, hp2, openCount_put_open _ _ ?_⟩
  by_cases hc : (w.pool p.1).state = .closed
  · have hopen : socketClientOpen ws ws.tsc (Worker.view { w with next := p.2 } p.1) =
        (true, socketClientOpened ws ws.tsc (Worker.view { w with next := p.2 } p.1)) := if_pos hc
    dsimp only
    rw [hopen]
    exact hstart _ hk (by simp [socketClientOpened, socketInitHttp])
  · have hopen : socketClientOpen ws ws.tsc (Worker.view { w with next := p.2 } p.1) =
        (false, Worker.view { w with next := p.2 } p.1) := if_neg hc
    dsimp only
    rw [hopen]
    exact hc

/-- With `keepalive` a new connection stays open. -/
lemma tcpClientStart_open {v : View} (hk : v.sk.keepalive = true) (ho : v.sk.state ≠ .closed) :
    (tcpClientStart ws v).sk.state ≠ .closed := by
  rw [tcpClientStart]
  split_ifs with hf hk'
  · rw [startKeepaliveTimer_state]
    simpa using ho
  · simp [hk] at hk'
  · simpa using ho

lemma udpClientStart_open (turns : ℕ) {v : View} (hk : v.sk.keepalive = true)
    (ho : v.sk.state ≠ .closed) : (udpClientStart ws turns v).sk.state ≠ .closed := by
  have hsk := udpRepeatSend_sk ws turns v
  rw [udpClientStart]
  split_ifs with hk' hi hf
  · rw [startKeepaliveTimer_state, hsk]
    exact ho
  · rw [hsk]
    exact ho
  · simp [hsk, hk] at hk'
  · simp [hsk, hk] at hk'

lemma tcpClientLaunch_opens (hr : st.rss = false) (hk : ws.cfg.keepalive = true) (fuel : ℕ) :
    ∀ (num : ℕ) {w : Worker n}, w.next.toNat < n →
      ∃ w', tcpClientLaunch st ws fuel num w = some w' ∧ w.openCount ≤ w'.openCount ∧
        (num ≠ 0 → 0 < w'.openCount) := by
  intro num
  induction num with
  | zero => exact fun {w} _ => ⟨w, rfl, le_rfl, fun h => absurd rfl h⟩
  | succ num ih =>
      intro w hn
      obtain ⟨r, hone, hn', hle, hpos⟩ :=
        clientLaunchOne_opens hr hk fuel (fun v => tcpClientStart_open) hn
      obtain ⟨w', hw', hle', -⟩ := ih hn'
      exact ⟨w', by rw [tcpClientLaunch, hone, Option.bind_some, hw'], hle.trans hle',
        fun _ => lt_of_lt_of_le hpos hle'⟩

lemma udpClientLaunch_opens (hr : st.rss = false) (hk : ws.cfg.keepalive = true) (fuel : ℕ) :
    ∀ (num : ℕ) (pipeline : Int) {w : Worker n}, w.next.toNat < n →
      ∃ w', udpClientLaunch st ws fuel num pipeline w = some w' ∧
        w.openCount ≤ w'.openCount ∧ (num ≠ 0 → 0 < w'.openCount) := by
  intro num
  induction num with
  | zero => exact fun _ {w} _ => ⟨w, rfl, le_rfl, fun h => absurd rfl h⟩
  | succ num ih =>
      intro pipeline w hn
      obtain ⟨r, hone, hn', hle, hpos⟩ := clientLaunchOne_opens hr hk fuel
        (fun v => udpClientStart_open (pipelineTurns pipeline)) hn
      obtain ⟨w', hw', hle', -⟩ :=
        ih (if r.1 then pipeline - pipelineTurns pipeline else pipeline) hn'
      exact ⟨w', by rw [udpClientLaunch, hone, Option.bind_some, hw'], hle.trans hle',
        fun _ => lt_of_lt_of_le hpos hle'⟩

/-- At its time the first launch of a worker that is not idle opens a socket. -/
lemma clientLaunch_first (hr : st.rss = false) (hk : ws.cfg.keepalive = true) (fuel : ℕ)
    (hn : w.next.toNat < n) (hnum : w.launch.launchNum ≠ 0) (hcur : w.stats.socketCurrent = 0)
    (ht : w.launch.launchNext ≤ ws.tsc) :
    ∃ w', clientLaunch st ws fuel w = some w' ∧ 0 < w'.openCount := by
  have hnum' : w.launch.launchNum.toUInt64.toNat ≠ 0 := by
    rw [UInt32.toNat_toUInt64]
    exact fun h => hnum (UInt32.toNat_inj.mp h)
  have hpos : (workSpaceClientLaunchNum st ws w).1.toNat ≠ 0 ∧
      (workSpaceClientLaunchNum st ws w).2.next = w.next := by
    rw [workSpaceClientLaunchNum]
    simp only [hcur, if_pos ht]
    split_ifs with hc hgap
    · refine ⟨?_, rfl⟩
      rw [UInt64.lt_iff_toNat_lt] at hc
      rw [UInt64.sub_zero]
      exact Nat.ne_of_gt hc
    · exact ⟨hnum', rfl⟩
    · exact ⟨hnum', rfl⟩
  rw [← hpos.2] at hn
  rw [clientLaunch]
  split
  · obtain ⟨w', hw', -, h0⟩ := tcpClientLaunch_opens hr hk fuel _ hn
    exact ⟨w', hw', h0 hpos.1⟩
  · obtain ⟨w', hw', -, h0⟩ := udpClientLaunch_opens hr hk fuel _ _ hn
    exact ⟨w', hw', h0 hpos.1⟩

end First

/-! ### All workers -/

/-- The workers of a client without RSS, each with a pool that is not empty. -/
structure Cluster (p : ClientPlan) where
  n : Fin p.cpuNum → ℕ
  st : ∀ i, SocketTable (n i)
  ws : Fin p.cpuNum → WorkSpace
  pos : ∀ i, 0 < n i
  rss : ∀ i, (st i).rss = false
  cfg : ∀ i, (ws i).cfg = p.cfg

namespace Cluster

variable {p : ClientPlan} (C : Cluster p)

/-- The workers at the start of their loops, as `client_init` set their launches. -/
def Start (x : ∀ i, Worker (C.n i)) : Prop :=
  ∀ i, Initial (C.ws i) (x i) ∧ ∃ rdtsc launchNum,
    (x i).launch = (clientInit p (i : ℕ).toUInt64 (C.ws i).tscPerSec rdtsc launchNum).1

/-- Runs of the workers: their events in any order, each at any reading of its clock. -/
def Run : (∀ i, Worker (C.n i)) → (∀ i, Worker (C.n i)) → Prop :=
  Relation.ReflTransGen <| Products.Step fun i w w' =>
    ∃ (c : Clock) (e : Event), anyStep ((C.ws i).at c) e w ∧
      Dperf.step (C.st i) ((C.ws i).at c) e w = some w'

variable {C} {x y : ∀ i, Worker (C.n i)}

lemma client (C : Cluster p) (i : Fin p.cpuNum) : (C.ws i).cfg.server = false := by
  rw [C.cfg, p.client]

/-- A worker at its start, where a worker without a share of `cc` has none of `cps`. -/
lemma Start.capped (h : C.Start x) (i : Fin p.cpuNum)
    (hle : p.cpuNum ≤ p.cc.toNat ∨ p.cps.toNat ≤ p.cc.toNat) :
    Capped (share p.cpuNum i p.cc.toNat) (x i) := by
  obtain ⟨h₀, rdtsc, launchNum, hl⟩ := h i
  obtain ⟨hidle, hshare⟩ := clientInit_launch p i.isLt (C.ws i).tscPerSec rdtsc launchNum
  have hcur := h₀.counted.current
  rw [h₀.stats] at hcur
  by_cases hcps : share p.cpuNum i p.cps.toNat = 0
  · rw [hidle hcps] at hl
    exact .idle (by rw [hl]) (by rw [hl]) hcur.symm
  · have hcc : share p.cpuNum i p.cc.toNat ≠ 0 := by
      rw [share_eq_zero i.isLt] at hcps
      rw [ne_eq, share_eq_zero i.isLt]
      have := i.isLt
      omega
    refine .share (Nat.pos_of_ne_zero hcc) (by rw [hl]; exact (hshare hcps).1) ?_
    rw [← hcur]
    exact Nat.zero_le _

/-- Where a worker has a share of `cps` but none of `cc`, one launch on each of the workers
up to it is one connection too many. -/
lemma exceeds (C : Cluster p) (hcc : p.cc.toNat < p.cpuNum) (hcps : p.cc.toNat < p.cps.toNat) :
    ∃ x y, C.Start x ∧ C.Run x y ∧ p.cc.toNat < ∑ i, (y i).openCount := by
  -- the initial workers
  let x : ∀ i, Worker (C.n i) := fun i =>
    { pool := fun _ => socketInit (C.ws i) 0 0 0 0 0
      launch := (clientInit p (i : ℕ).toUInt64 (C.ws i).tscPerSec 0 0).1 }
  have hx : C.Start x := fun i =>
    ⟨⟨fun _ => ⟨0, 0, 0, 0, 0, by decide, rfl⟩, rfl, rfl, rfl, rfl, rfl⟩, 0, 0, rfl⟩
  -- each worker up to the first without a share opens a socket
  have hone : ∀ i : Fin p.cpuNum, ∃ w', Runs (C.st i) (C.ws i) anyStep (x i) w' ∧
      ((i : ℕ) ≤ p.cc.toNat → 0 < w'.openCount) := by
    intro i
    by_cases hi : (i : ℕ) ≤ p.cc.toNat
    · obtain ⟨-, hshare⟩ := clientInit_launch p i.isLt (C.ws i).tscPerSec 0 0
      have hne : share p.cpuNum i p.cps.toNat ≠ 0 := by
        rw [ne_eq, share_eq_zero i.isLt]
        omega
      let c : Clock := ⟨(x i).launch.launchNext, 0, false⟩
      have hk : ((C.ws i).at c).cfg.keepalive = true := by
        rw [WorkSpace.at_cfg, C.cfg, p.keepalive]
      have hs : ((C.ws i).at c).cfg.server = false := C.client i
      obtain ⟨w', hw', hpos⟩ := clientLaunch_first (w := x i) (C.rss i) hk 0 (C.pos i)
        (hshare hne).2 rfl (UInt64.le_refl _)
      refine ⟨w', .single ⟨c, .launch 0, trivial, ?_⟩, fun _ => hpos⟩
      rw [Dperf.step, hs]
      exact hw'
    · exact ⟨x i, .refl, fun h => absurd h hi⟩
  choose y hy hpos using hone
  refine ⟨x, y, hx, Products.runs_iff.mpr hy, ?_⟩
  have hle : ∀ i : Fin p.cpuNum, (if (i : ℕ) < p.cc.toNat + 1 then 1 else 0) ≤ (y i).openCount := by
    intro i
    split_ifs with h
    · exact hpos i (by omega)
    · exact Nat.zero_le _
  calc p.cc.toNat < p.cc.toNat + 1 := Nat.lt_succ_self _
    _ = ∑ i : Fin p.cpuNum, if (i : ℕ) < p.cc.toNat + 1 then 1 else 0 := by
        rw [Finset.sum_boole, Fin.card_filter_val_lt, min_eq_right (by omega), Nat.cast_id]
    _ ≤ ∑ i, (y i).openCount := Finset.sum_le_sum fun i _ => hle i

/-- **The connections of a client.** The workers together never hold more than `cc`
connections exactly if every worker has a share of `cc` or no launch rate needs one more
worker than `cc`: a worker without a share of `cc` has no limit. -/
theorem connections_le_iff (C : Cluster p) :
    (∀ x y, C.Start x → C.Run x y → ∑ i, (y i).openCount ≤ p.cc.toNat) ↔
      p.cpuNum ≤ p.cc.toNat ∨ p.cps.toNat ≤ p.cc.toNat := by
  constructor
  · intro h
    by_contra hno
    rw [not_or, not_le, not_le] at hno
    obtain ⟨x, y, hx, hy, hlt⟩ := C.exceeds hno.1 hno.2
    exact absurd (h x y hx hy) (not_le.mpr hlt)
  · intro hle x y hx hy
    have hcap : ∀ i, (y i).openCount ≤ share p.cpuNum i p.cc.toNat := by
      intro i
      refine ((hx.capped i hle).runs (C.client i) (C.rss i) (hx i).1.counted ?_).le
      exact Products.component hy i
    calc ∑ i, (y i).openCount ≤ ∑ i : Fin p.cpuNum, share p.cpuNum i p.cc.toNat :=
          Finset.sum_le_sum fun i _ => hcap i
      _ = p.cc.toNat := sum_share p.cpuNum_pos _

end Cluster

/-- The plan of one connection at most, for two workers that launch one a second. -/
def ClientPlan.pair : ClientPlan where
  cfg := .single
  cpuNum := 2
  cps := 2
  cc := 1
  wait := 0
  client := rfl
  keepalive := rfl
  cpuNum_pos := by decide
  cpuNum_le := by decide
  cps_pos := by decide
  cps_lt := by decide
  cc_pos := by decide
  cc_lt := by decide

/-- Two workers with one socket each. -/
def Cluster.pair : Cluster .pair where
  n _ := 1
  st _ := .single
  ws _ := .single .single
  pos _ := Nat.one_pos
  rss _ := rfl
  cfg _ := rfl

/-- Both workers of the plan open a connection. -/
theorem connections_exceed : ¬ ∀ x y, Cluster.pair.Start x → Cluster.pair.Run x y →
    ∑ i, (y i).openCount ≤ ClientPlan.pair.cc.toNat := by
  intro h
  obtain ⟨x, y, hx, hy, hlt⟩ := Cluster.pair.exceeds (by decide) (by decide)
  exact absurd (h x y hx hy) (not_le.mpr hlt)

end Dperf
