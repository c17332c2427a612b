import Dperf.ClientTargets

/-!
How fast a client launches, however `ctl_slow_start` sets the interval.

* `workSpaceClientLaunchNum_spec`, `workSpaceSetLaunchInterval_spec`: what a call does with
  `client_launch`. The interval never falls below its default.
* `LaunchRun`: the calls of the two functions one after the other, with what has been granted and
  the time of the last grant asked for.
* `Paced`: after `k` grants `launch_next` is at least `k` default intervals behind its first value.
* `launchRun_granted_le`: the bound on what is granted, as long as `launch_next` does not leave its
  64 bits.
-/

namespace Dperf

section Pacing

variable {n : ℕ} {st : SocketTable n} {ws : WorkSpace}

/-- A call of `work_space_client_launch_num`: before `launch_next` nothing happens; from then on
at most `launch_num` are granted, and `launch_next` moves on by the interval. -/
lemma workSpaceClientLaunchNum_spec (st : SocketTable n) (ws : WorkSpace) (w : Worker n) :
    (¬ w.launch.launchNext ≤ ws.tsc → workSpaceClientLaunchNum st ws w = (0, w)) ∧
    (w.launch.launchNext ≤ ws.tsc →
      (workSpaceClientLaunchNum st ws w).1.toNat ≤ w.launch.launchNum.toNat ∧
      ∃ reduce, (workSpaceClientLaunchNum st ws w).2.launch = { w.launch with
        launchNext := w.launch.launchNext + w.launch.launchInterval, launchReduce := reduce }) := by
  have hnum : w.launch.launchNum.toUInt64.toNat = w.launch.launchNum.toNat :=
    UInt32.toNat_toUInt64 _
  rw [workSpaceClientLaunchNum]
  refine ⟨fun ht => if_neg ht, fun ht => ?_⟩
  rw [if_pos ht]
  dsimp only
  split_ifs with hcc hlt hgap heq hreduce
  · rw [← hnum]
    exact ⟨UInt64.le_iff_toNat_le.mp (UInt64.le_of_lt hgap), _, rfl⟩
  · exact ⟨le_of_eq hnum, _, rfl⟩
  · exact ⟨Nat.zero_le _, _, rfl⟩
  · exact ⟨Nat.zero_le _, _, rfl⟩
  · exact ⟨Nat.zero_le _, _, rfl⟩
  · exact ⟨le_of_eq hnum, _, rfl⟩

/-- What `work_space_set_launch_interval` leaves: an interval that is at least the default, and a
second at most if the default is. -/
lemma workSpaceSetLaunchInterval_spec (ws : WorkSpace) (v : UInt64) (w : Worker n) :
    ∃ interval, (workSpaceSetLaunchInterval ws v w).launch =
        { w.launch with launchInterval := interval } ∧
      w.launch.launchIntervalDefault.toNat ≤ interval.toNat ∧
      interval.toNat ≤ max w.launch.launchIntervalDefault.toNat ws.tscPerSec.toNat := by
  refine ⟨_, rfl, ?_⟩
  have hclamp : (if ws.tscPerSec ≤ v then ws.tscPerSec else v).toNat ≤ ws.tscPerSec.toNat := by
    split_ifs with h
    · exact le_rfl
    · rw [UInt64.le_iff_toNat_le] at h
      omega
  generalize (if ws.tscPerSec ≤ v then ws.tscPerSec else v) = u at hclamp ⊢
  split_ifs with h
  · exact ⟨le_rfl, le_max_left _ _⟩
  · rw [UInt64.le_iff_toNat_le] at h
    exact ⟨by omega, hclamp.trans (le_max_right _ _)⟩

/-- Calls of the two functions on a worker, in any order and with anything else in between that
leaves `client_launch` alone: what has been granted, and the time of the last call. -/
inductive LaunchRun (st : SocketTable n) (ws : WorkSpace) (w₀ : Worker n) :
    ℕ → UInt64 → Worker n → Prop
  | start : LaunchRun st ws w₀ 0 0 w₀
  | launch {g t w} (c : Clock) (h : LaunchRun st ws w₀ g t w) (ht : t ≤ c.tsc) :
      LaunchRun st ws w₀ (g + (workSpaceClientLaunchNum st (ws.at c) w).1.toNat) c.tsc
        (workSpaceClientLaunchNum st (ws.at c) w).2
  | interval {g t w} (v : UInt64) (h : LaunchRun st ws w₀ g t w) :
      LaunchRun st ws w₀ g t (workSpaceSetLaunchInterval ws v w)
  | other {g t w} (w' : Worker n) (h : LaunchRun st ws w₀ g t w) (hw : w'.launch = w.launch) :
      LaunchRun st ws w₀ g t w'

/-- `client_init` leaves the interval at its default. -/
lemma clientInit_interval (p : ClientPlan) (id tscPerSec rdtsc : UInt64) (launchNum : UInt32) :
    (clientInit p id tscPerSec rdtsc launchNum).1.launchInterval =
      (clientInit p id tscPerSec rdtsc launchNum).1.launchIntervalDefault := by
  rw [clientInit]
  dsimp only
  split_ifs <;> rfl

/-- The launches of a worker after `k` grants. -/
structure Paced (ws : WorkSpace) (l₀ : ClientLaunch) (k : ℕ) (l : ClientLaunch) : Prop where
  num : l.launchNum = l₀.launchNum
  default : l.launchIntervalDefault = l₀.launchIntervalDefault
  interval : l₀.launchIntervalDefault.toNat ≤ l.launchInterval.toNat
  interval_le :
    l.launchInterval.toNat ≤ max l₀.launchIntervalDefault.toNat ws.tscPerSec.toNat
  next : l₀.launchNext.toNat + k * l₀.launchIntervalDefault.toNat ≤ l.launchNext.toNat

variable {l₀ l : ClientLaunch} {w₀ w : Worker n} {k g : ℕ} {t : UInt64}

/-- Another interval. -/
lemma Paced.setLaunchInterval (h : Paced ws l₀ k w.launch) (v : UInt64) :
    Paced ws l₀ k (workSpaceSetLaunchInterval ws v w).launch := by
  obtain ⟨interval, heq, hge, hle⟩ := workSpaceSetLaunchInterval_spec ws v w
  rw [h.default] at hge hle
  rw [heq]
  exact ⟨h.num, h.default, hge, hle, h.next⟩

/-- A grant, if the new `launch_next` fits in 64 bits. -/
lemma Paced.launch (h : Paced ws l₀ k w.launch) {c : Clock} (hdue : w.launch.launchNext ≤ c.tsc)
    (hov : c.tsc.toNat + max l₀.launchIntervalDefault.toNat ws.tscPerSec.toNat < 2 ^ 64) :
    Paced ws l₀ (k + 1) (workSpaceClientLaunchNum st (ws.at c) w).2.launch := by
  obtain ⟨-, reduce, heq⟩ := (workSpaceClientLaunchNum_spec st (ws.at c) w).2 hdue
  rw [heq]
  refine ⟨h.num, h.default, h.interval, h.interval_le, ?_⟩
  have hle := h.interval_le
  have hge := h.interval
  have hnext := h.next
  rw [UInt64.le_iff_toNat_le] at hdue
  have hadd : (w.launch.launchNext + w.launch.launchInterval).toNat =
      w.launch.launchNext.toNat + w.launch.launchInterval.toNat := by
    rw [UInt64.toNat_add]
    exact Nat.mod_eq_of_lt (by omega)
  show _ ≤ (w.launch.launchNext + w.launch.launchInterval).toNat
  rw [hadd, Nat.succ_mul]
  omega

/-- The run so far: `k` grants of `launch_num` at most, the last of them due. -/
lemma LaunchRun.paced (h : LaunchRun st ws w₀ g t w)
    (hinit : w₀.launch.launchInterval = w₀.launch.launchIntervalDefault)
    (hov : t.toNat + max w₀.launch.launchIntervalDefault.toNat ws.tscPerSec.toNat < 2 ^ 64) :
    ∃ k, Paced ws w₀.launch k w.launch ∧ g ≤ w₀.launch.launchNum.toNat * k ∧
      (0 < k → w₀.launch.launchNext.toNat
        + (k - 1) * w₀.launch.launchIntervalDefault.toNat ≤ t.toNat) := by
  induction h with
  | start =>
      refine ⟨0, ⟨rfl, rfl, ?_, ?_, ?_⟩, Nat.zero_le _, fun h => absurd h (lt_irrefl 0)⟩
      · rw [hinit]
      · rw [hinit]
        exact le_max_left _ _
      · rw [Nat.zero_mul, Nat.add_zero]
  | @launch g t w c _ ht ih =>
      rw [UInt64.le_iff_toNat_le] at ht
      obtain ⟨k, hpaced, hg, hlast⟩ := ih (by omega)
      obtain ⟨hquiet, hgrant⟩ := workSpaceClientLaunchNum_spec st (ws.at c) w
      by_cases hdue : w.launch.launchNext ≤ c.tsc
      · obtain ⟨hnum, -⟩ := hgrant hdue
        rw [hpaced.num] at hnum
        refine ⟨k + 1, hpaced.launch hdue hov, ?_, fun _ => ?_⟩
        · rw [Nat.mul_succ]
          exact Nat.add_le_add hg hnum
        · rw [Nat.add_sub_cancel]
          exact hpaced.next.trans (UInt64.le_iff_toNat_le.mp hdue)
      · rw [hquiet hdue]
        exact ⟨k, hpaced, hg, fun hk => (hlast hk).trans ht⟩
  | interval v _ ih =>
      obtain ⟨k, hpaced, hrest⟩ := ih hov
      exact ⟨k, hpaced.setLaunchInterval v, hrest⟩
  | other w' _ hw ih =>
      obtain ⟨k, hpaced, hrest⟩ := ih hov
      rw [hw]
      exact ⟨k, hpaced, hrest⟩

end Pacing

/-- **Launch pacing.** What a worker is granted up to a time is bounded by the default intervals
since the first `launch_next`, if the last call is not so late that `launch_next` leaves its 64
bits. -/
theorem launchRun_granted_le {n : ℕ} {st : SocketTable n} {ws : WorkSpace} {w₀ w : Worker n}
    {g : ℕ} {t t' : UInt64} (hpos : 0 < w₀.launch.launchIntervalDefault)
    (hinit : w₀.launch.launchInterval = w₀.launch.launchIntervalDefault)
    (h : LaunchRun st ws w₀ g t w) (ht : t ≤ t')
    (hov : t.toNat + max w₀.launch.launchIntervalDefault.toNat ws.tscPerSec.toNat < 2 ^ 64) :
    g ≤ w₀.launch.launchNum.toNat * if w₀.launch.launchNext ≤ t' then
      1 + (t'.toNat - w₀.launch.launchNext.toNat) / w₀.launch.launchIntervalDefault.toNat
      else 0 := by
  obtain ⟨k, -, hg, hlast⟩ := h.paced hinit hov
  rw [UInt64.le_iff_toNat_le] at ht
  have hD : 0 < w₀.launch.launchIntervalDefault.toNat := UInt64.lt_iff_toNat_lt.mp hpos
  refine hg.trans (Nat.mul_le_mul_left _ ?_)
  rcases Nat.eq_zero_or_pos k with rfl | hk
  · exact Nat.zero_le _
  · have hdue := (hlast hk).trans ht
    have hintervals : k - 1 ≤
        (t'.toNat - w₀.launch.launchNext.toNat) / w₀.launch.launchIntervalDefault.toNat := by
      rw [Nat.le_div_iff_mul_le hD]
      omega
    rw [if_pos (UInt64.le_iff_toNat_le.mpr (by omega))]
    omega

/-- A worker that launches one connection every ten ticks, from `launchNext` on. -/
def Worker.launching (launchNext : UInt64) : Worker 1 where
  pool _ := {}
  launch :=
    { launchNum := 1, launchInterval := 10, launchIntervalDefault := 10
      launchNext := launchNext }

/-- Two calls at one time. -/
lemma launchRun_twice (tsc : UInt64) : let c : Clock := ⟨tsc, 0, false⟩
    let r := workSpaceClientLaunchNum SocketTable.single ((WorkSpace.single .single).at c)
      (.launching tsc)
    let r' := workSpaceClientLaunchNum SocketTable.single ((WorkSpace.single .single).at c) r.2
    LaunchRun SocketTable.single (.single .single) (.launching tsc) (0 + r.1.toNat + r'.1.toNat) tsc
      r'.2 :=
  .launch ⟨tsc, 0, false⟩ (.launch ⟨tsc, 0, false⟩ .start (UInt64.zero_le)) (UInt64.le_refl tsc)

/-- Two calls at the time 5 grant one launch. -/
theorem launchRun_granted_five : ∃ w,
    LaunchRun SocketTable.single (.single .single) (.launching 5) 1 5 w ∧
    1 ≤ 1 * if (5 : UInt64) ≤ 5 then 1 + (5 - 5) / 10 else 0 :=
  ⟨_, launchRun_twice 5,
    launchRun_granted_le (by decide) rfl (launchRun_twice 5) (UInt64.le_refl 5) (by decide)⟩

/-- Five ticks before the clock wraps, `launch_next` wraps first: the second call at the same time
is granted as well. -/
theorem launchRun_wraps : ∃ w,
    LaunchRun SocketTable.single (.single .single) (.launching (0 - 5)) 2 (0 - 5) w ∧
    ¬ 2 ≤ 1 * if (0 - 5 : UInt64) ≤ 0 - 5 then
      1 + ((0 - 5 : UInt64).toNat - (0 - 5 : UInt64).toNat) / 10 else 0 :=
  ⟨_, launchRun_twice (0 - 5), by decide⟩

end Dperf
