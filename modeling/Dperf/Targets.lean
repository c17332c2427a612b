import Dperf.ClientTargets
import Dperf.TableInit

/-!
Whether the connections that a worker is assigned fit into its sockets.

* `configCheckTarget`: the check of `config.c`. It compares the sockets of every worker with the
  quotient of the target, and forgets the remainder.
* `clientAssignTask_fits_iff`: the share of the first worker, which has the remainder as well, fits
  exactly if its sockets have room for it; targets below the number of workers fit exactly if the
  workers that get one connection have a socket. The shares always add up to the targets.
-/

namespace Dperf

/-- What `config_check_target` reads of a configuration: `table id` is the table of the worker
`id`. The targets are numbers of type `int` that are not negative. -/
structure TargetConfig where
  server : Bool
  flood : Bool
  cpuNum : ℕ
  cps : UInt64
  cc : UInt64
  retransmitTimeoutSec : UInt32
  table : ℕ → TableConfig
  table_server : ∀ id, (table id).server = server
  cpuNum_pos : 0 < cpuNum
  cpuNum_le : cpuNum ≤ 64
  cps_lt : cps.toNat < 2 ^ 31
  cc_lt : cc.toNat < 2 ^ 31

namespace TargetConfig

variable (c : TargetConfig)

/-- `config_get_total_socket_num`. -/
def socketNum (id : ℕ) : UInt32 := (c.table id).configGetTotalSocketNum

/-- The loop of `config_check_target` over the workers. -/
def configCheckSockets : Option TargetConfig :=
  let cps := c.cps / c.cpuNum.toUInt64
  let cpsCc := cps * c.retransmitTimeoutSec.toUInt64
  let cc := c.cc / c.cpuNum.toUInt64
  if ∀ i < c.cpuNum, ¬ (c.socketNum i).toUInt64 < cc ∧ ¬ (c.socketNum i).toUInt64 < cpsCc then
    some c
  else none

/-- `config_check_target`. -/
def configCheckTarget : Option TargetConfig :=
  if c.server then
    { c with cc := 0, cps := 0, flood := false, cps_lt := by decide
             cc_lt := by decide }.configCheckSockets
  -- no targets
  else if c.cps = 0 ∧ c.cc = 0 then none
  -- DEFAULT_CPS
  else if c.cps = 0 then { c with cps := 1000, cps_lt := by decide }.configCheckSockets
  else c.configCheckSockets

/-- What `client_assign_task` gives to the worker `id`. -/
def assigned (target : UInt64) (id : ℕ) : ℕ :=
  (clientAssignTask c.cpuNum.toUInt64 id.toUInt64 target).toNat

/-- The sockets have room for what the check passes over: the remainder, which the first worker
gets, and the single connections of a target below the number of workers. -/
structure Room : Prop where
  remainder : c.cpuNum < c.cc.toNat →
    c.cc.toNat / c.cpuNum + c.cc.toNat % c.cpuNum ≤ (c.socketNum 0).toNat
  single : c.cc.toNat < c.cpuNum → ∀ id < c.cc.toNat, c.socketNum id ≠ 0

variable {c} {c' : TargetConfig}

lemma configCheckSockets_some (h : c.configCheckSockets = some c') :
    c' = c ∧ ∀ id < c.cpuNum, c.cc.toNat / c.cpuNum ≤ (c.socketNum id).toNat := by
  rw [configCheckSockets] at h
  split_ifs at h with hall
  refine ⟨(Option.some.inj h).symm, fun id hid => ?_⟩
  have hcpu : c.cpuNum.toUInt64.toNat = c.cpuNum := by
    have hle := c.cpuNum_le
    simp
    omega
  have hcc := (hall id hid).1
  rw [UInt64.lt_iff_toNat_lt, UInt64.toNat_div, hcpu, UInt32.toNat_toUInt64] at hcc
  omega

/-- An accepted client configuration: only `cps` may have been set, and every worker has sockets
for the quotient of `cc`. -/
lemma configCheckTarget_some (hs : c.server = false) (h : c.configCheckTarget = some c') :
    c'.cpuNum = c.cpuNum ∧ c'.cc = c.cc ∧ c'.table = c.table ∧
      ∀ id < c.cpuNum, c.cc.toNat / c.cpuNum ≤ (c.socketNum id).toNat := by
  rw [configCheckTarget, if_neg (by rw [hs]; exact Bool.false_ne_true)] at h
  split_ifs at h
  all_goals
    obtain ⟨rfl, hsockets⟩ := configCheckSockets_some h
    exact ⟨rfl, rfl, rfl, hsockets⟩

/-- The shares of a target. -/
lemma assigned_eq {id : ℕ} (hid : id < c.cpuNum) (target : UInt64) :
    c.assigned target id = share c.cpuNum id target.toNat :=
  toNat_clientAssignTask c.cpuNum_pos c.cpuNum_le hid target

lemma sum_assigned (target : UInt64) :
    ∑ id : Fin c.cpuNum, c.assigned target id = target.toNat := by
  rw [← sum_share c.cpuNum_pos target.toNat]
  exact Finset.sum_congr rfl fun id _ => assigned_eq id.isLt target

/-- The share of the first worker is the quotient and the remainder. -/
lemma share_zero {cpuNum target : ℕ} (hc : 0 < cpuNum) (h : cpuNum < target) :
    share cpuNum 0 target = target / cpuNum + target % cpuNum := by
  have hdiv := Nat.div_add_mod' target cpuNum
  have hmul : target / cpuNum * (cpuNum - 1) + target / cpuNum = target / cpuNum * cpuNum := by
    rw [← Nat.mul_succ, Nat.succ_eq_add_one, Nat.sub_add_cancel hc]
  rw [share, if_neg (by omega), if_pos rfl]
  generalize target / cpuNum * (cpuNum - 1) = others at hmul ⊢
  generalize target / cpuNum * cpuNum = whole at hdiv hmul
  generalize target / cpuNum = quotient at hmul ⊢
  generalize target % cpuNum = remainder at hdiv ⊢
  omega

/-- The shares fit exactly if there is room for what is left over. -/
lemma share_fits_iff (hquot : ∀ id < c.cpuNum, c.cc.toNat / c.cpuNum ≤ (c.socketNum id).toNat) :
    (∀ id < c.cpuNum, share c.cpuNum id c.cc.toNat ≤ (c.socketNum id).toNat) ↔ c.Room := by
  have hpos := c.cpuNum_pos
  have hne : ∀ id, c.socketNum id ≠ 0 ↔ 1 ≤ (c.socketNum id).toNat := fun id => by
    rw [ne_eq, ← UInt32.toNat_inj, UInt32.toNat_zero]
    omega
  constructor
  · intro h
    refine ⟨fun hlt => ?_, fun hlt id hid => ?_⟩
    · rw [← share_zero hpos hlt]
      exact h 0 hpos
    · have hshare := h id (by omega)
      rw [share, if_pos (by omega), if_pos hid] at hshare
      exact (hne id).mpr hshare
  · intro hroom id hid
    rw [share]
    split_ifs with hle hidle hzero
    · -- a target below the number of workers, or equal to it
      rcases Nat.eq_or_lt_of_le hle with heq | hlt
      · have hone := hquot id hid
        rwa [heq, Nat.div_self hpos] at hone
      · exact (hne id).mp (hroom.single hlt id hidle)
    · exact Nat.zero_le _
    · have hrest := hroom.remainder (by omega)
      have hfirst := share_zero hpos (show c.cpuNum < c.cc.toNat by omega)
      rw [share, if_neg hle, if_pos rfl] at hfirst
      rw [hzero, hfirst]
      exact hrest
    · exact hquot id hid

end TargetConfig

/-- **Assigned and available.** In an accepted client configuration, every worker has sockets for
the connections that it is assigned, and the assignments add up to the targets, exactly if there
is room for what the check passes over. -/
theorem clientAssignTask_fits_iff {c c' : TargetConfig} (hs : c.server = false)
    (h : c.configCheckTarget = some c') :
    ((∀ id < c'.cpuNum, c'.assigned c'.cc id ≤ (c'.socketNum id).toNat) ∧
      ∑ id : Fin c'.cpuNum, c'.assigned c'.cc id = c'.cc.toNat ∧
      ∑ id : Fin c'.cpuNum, c'.assigned c'.cps id = c'.cps.toNat) ↔ c.Room := by
  obtain ⟨hcpu, hcc, htable, hquot⟩ := TargetConfig.configCheckTarget_some hs h
  have hfits : (∀ id < c'.cpuNum, c'.assigned c'.cc id ≤ (c'.socketNum id).toNat) ↔
      ∀ id < c.cpuNum, share c.cpuNum id c.cc.toNat ≤ (c.socketNum id).toNat := by
    rw [← hcpu]
    refine forall₂_congr fun id hid => ?_
    rw [TargetConfig.assigned_eq hid, hcc, hcpu, TargetConfig.socketNum, htable]
    exact Iff.rfl
  rw [hfits, TargetConfig.share_fits_iff hquot, and_iff_left]
  exact ⟨TargetConfig.sum_assigned c'.cc, TargetConfig.sum_assigned c'.cps⟩

lemma one_lt_intMax : (1 : UInt64).toNat < 2 ^ 31 := by decide

/-- A client with four workers that have one socket each: one address and port on each side. -/
def TargetConfig.four (cc : UInt64) (h : cc.toNat < 2 ^ 31) : TargetConfig where
  server := false
  flood := false
  cpuNum := 4
  cps := 1
  cc := cc
  retransmitTimeoutSec := 1
  table _ := { TableConfig.single 80 1 with server := false, lportMax := 1 }
  table_server _ := rfl
  cpuNum_pos := by decide
  cpuNum_le := by decide
  cps_lt := one_lt_intMax
  cc_lt := h

lemma TargetConfig.four_socketNum (cc : UInt64) (h : cc.toNat < 2 ^ 31) (id : ℕ) :
    (TargetConfig.four cc h).socketNum id = 1 := by
  show TableConfig.configGetTotalSocketNum
    { TableConfig.single 80 1 with server := false, lportMax := 1 } = 1
  decide

/-- Four connections for four sockets. -/
theorem clientAssignTask_fits_four : ∃ c', (TargetConfig.four 4 (by decide)).configCheckTarget =
      some c' ∧
    (∀ id < c'.cpuNum, c'.assigned c'.cc id ≤ (c'.socketNum id).toNat) ∧
    ∑ id : Fin c'.cpuNum, c'.assigned c'.cc id = c'.cc.toNat ∧
    ∑ id : Fin c'.cpuNum, c'.assigned c'.cps id = c'.cps.toNat := by
  have hcheck : (TargetConfig.four 4 (by decide)).configCheckTarget =
    some (TargetConfig.four 4 (by decide)) := rfl
  refine ⟨_, hcheck, (clientAssignTask_fits_iff rfl hcheck).mpr ⟨fun hlt => ?_, fun hlt => ?_⟩⟩
  · exact absurd hlt (by decide)
  · exact absurd hlt (by decide)

/-- Seven connections are accepted, and the first worker gets four of them for its one socket. -/
theorem clientAssignTask_seven_fails : ∃ c', (TargetConfig.four 7 (by decide)).configCheckTarget =
      some c' ∧ ¬ ∀ id < c'.cpuNum, c'.assigned c'.cc id ≤ (c'.socketNum id).toNat := by
  refine ⟨TargetConfig.four 7 (by decide), rfl, fun h => ?_⟩
  have hfirst := h 0 (by decide)
  rw [TargetConfig.four_socketNum] at hfirst
  exact absurd hfirst (by decide)

end Dperf
