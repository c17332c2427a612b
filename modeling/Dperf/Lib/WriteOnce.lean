import Mathlib.Data.List.Basic

/-!
Calls that write slots, and refuse to write a slot that is full.

* `WriteOnce`: the calls, the slots, and what a call does to them.
* `WriteOnce.run_full`: a slot is full after a run if it was full before or a call of the run
  has filled it.
* `WriteOnce.run_none_iff`: when a call is refused after a run.
-/

namespace Dperf

/-- Calls of which some write a slot, if the slot is not full. A call of a run may leave its slot
as empty as before. -/
structure WriteOnce (C σ G : Type*) where
  /-- `none` if the call is refused. -/
  step : C → σ → Option σ
  slot : C → Option G
  full : G → σ → Prop
  /-- The call fills its slot. -/
  Fills : C → Prop
  /-- The call is accepted while its slot is not full. -/
  Valid : C → Prop
  Inv : σ → Prop
  inv_step {c : C} {s t : σ} : Inv s → step c s = some t → Inv t
  full_slot {c : C} {g : G} {s t : σ} : Inv s → slot c = some g → step c s = some t →
    (full g t ↔ Fills c)
  full_frame {c : C} {g : G} {s t : σ} : slot c ≠ some g → step c s = some t →
    (full g t ↔ full g s)
  step_none_iff {c : C} {g : G} {s : σ} : Inv s → slot c = some g →
    (step c s = none ↔ full g s ∨ ¬ Valid c)

namespace WriteOnce

variable {C σ G : Type*} (m : WriteOnce C σ G) {c : C} {cs : List C} {g : G} {s t : σ}

/-- The calls of a run, up to the first that is refused. -/
def run (cs : List C) (s : σ) : Option σ := cs.foldlM (fun s c => m.step c s) s

lemma run_cons : m.run (c :: cs) s = (m.step c s).bind (m.run cs) := rfl

lemma run_cons_eq_some (h : m.run (c :: cs) s = some t) :
    ∃ u, m.step c s = some u ∧ m.run cs u = some t :=
  Option.bind_eq_some_iff.mp (m.run_cons.symm.trans h)

lemma inv_run (hs : m.Inv s) (h : m.run cs s = some t) : m.Inv t := by
  induction cs generalizing s with
  | nil => exact Option.some.inj h ▸ hs
  | cons c cs ih =>
      obtain ⟨u, hstep, hrun⟩ := m.run_cons_eq_some h
      exact ih (m.inv_step hs hstep) hrun

/-- One call: it fills its slot, or leaves the slot as it was. -/
lemma step_full (hs : m.Inv s) (h : m.step c s = some t) :
    m.full g t ↔ m.full g s ∨ (m.slot c = some g ∧ m.Fills c) := by
  by_cases hslot : m.slot c = some g
  · have hempty : ¬ m.full g s := by
      intro hfull
      have hnone := (m.step_none_iff hs hslot).mpr (.inl hfull)
      rw [hnone] at h
      cases h
    rw [m.full_slot hs hslot h]
    exact ⟨fun hfills => .inr ⟨hslot, hfills⟩, fun hor => hor.elim (absurd · hempty) And.right⟩
  · rw [m.full_frame hslot h]
    exact ⟨.inl, fun hor => hor.elim id fun hc => absurd hc.1 hslot⟩

/-- **Runs.** A slot is full after a run exactly if it was full before or a call has filled it. -/
theorem run_full (hs : m.Inv s) (h : m.run cs s = some t) :
    m.full g t ↔ m.full g s ∨ ∃ c ∈ cs, m.slot c = some g ∧ m.Fills c := by
  induction cs generalizing s with
  | nil =>
      obtain rfl := Option.some.inj h
      exact ⟨.inl, fun hor => hor.elim id fun ⟨_, hmem, _⟩ => absurd hmem List.not_mem_nil⟩
  | cons c cs ih =>
      obtain ⟨u, hstep, hrun⟩ := m.run_cons_eq_some h
      rw [ih (m.inv_step hs hstep) hrun, m.step_full hs hstep, or_assoc, List.exists_mem_cons_iff]

/-- A run that writes a slot has found it empty. -/
lemma not_full_of_mem (hs : m.Inv s) (h : m.run cs s = some t) (hc : c ∈ cs)
    (hslot : m.slot c = some g) : ¬ m.full g s := by
  induction cs generalizing s with
  | nil => exact absurd hc List.not_mem_nil
  | cons d cs ih =>
      obtain ⟨u, hstep, hrun⟩ := m.run_cons_eq_some h
      intro hfull
      rcases List.mem_cons.mp hc with rfl | hmem
      · have hnone := (m.step_none_iff hs hslot).mpr (.inl hfull)
        rw [hnone] at hstep
        cases hstep
      · exact ih (m.inv_step hs hstep) hrun hmem ((m.step_full hs hstep).mpr (.inl hfull))

/-- **After a run.** A call is refused if its slot was full, a call before it has filled the slot,
or it is not valid. -/
theorem run_none_iff (hs : m.Inv s) (h : m.run cs s = some t) (hslot : m.slot c = some g) :
    m.step c t = none ↔
      (m.full g s ∨ ∃ c' ∈ cs, m.slot c' = some g ∧ m.Fills c') ∨ ¬ m.Valid c := by
  rw [m.step_none_iff (m.inv_run hs h) hslot, m.run_full hs h]

end WriteOnce

end Dperf
