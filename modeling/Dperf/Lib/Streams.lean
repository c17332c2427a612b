import Mathlib.Tactic

/-!
Consumers of a stream that is handed over in pieces.

A consumer takes a piece and answers with a verdict and its new state; `go` is the verdict
that asks for the next piece.

* `feed go f`: hand over the pieces one by one, up to the first verdict that is not `go`.
* `scan go step`: the consumer that looks at one symbol after the other.
* `feed_scan`: to a scanner the cut of the stream into pieces makes no difference.
-/

namespace Streams

variable {σ α ρ : Type*} [DecidableEq ρ] (go : ρ)

/-- Hand over the pieces one by one and stop at the first verdict that is not `go`. -/
def feed (f : σ → List α → ρ × σ) : σ → List (List α) → ρ × σ
  | s, [] => (go, s)
  | s, p :: l => if (f s p).1 = go then feed f (f s p).2 l else f s p

/-- Look at one symbol after the other and stop at the first verdict that is not `go`. -/
def scan (step : σ → α → ρ × σ) : σ → List α → ρ × σ
  | s, [] => (go, s)
  | s, a :: p => if (step s a).1 = go then scan step (step s a).2 p else step s a

variable {go} {f : σ → List α → ρ × σ} {step : σ → α → ρ × σ}

lemma scan_cons_go {s t : σ} {a : α} {p : List α} (h : step s a = (go, t)) :
    scan go step s (a :: p) = scan go step t p := by
  rw [scan, h, if_pos rfl]

lemma scan_cons_stop {s : σ} {a : α} {p : List α} (h : (step s a).1 ≠ go) :
    scan go step s (a :: p) = step s a := by
  rw [scan, if_neg h]

/-- A scanner that went on goes on from the state it left. -/
lemma scan_append_go {s t : σ} : ∀ {p q : List α}, scan go step s p = (go, t) →
    scan go step s (p ++ q) = scan go step t q := by
  intro p
  induction p generalizing s with
  | nil =>
      intro q h
      cases h
      rfl
  | cons a p ih =>
      intro q h
      rw [List.cons_append]
      rw [scan] at h ⊢
      split_ifs at h ⊢ with ha
      · exact ih h
      · exact absurd (congrArg Prod.fst h) ha

/-- A scanner that stopped has stopped for good. -/
lemma scan_append_stop {s : σ} : ∀ {p q : List α}, (scan go step s p).1 ≠ go →
    scan go step s (p ++ q) = scan go step s p := by
  intro p
  induction p generalizing s with
  | nil =>
      intro q h
      exact absurd rfl h
  | cons a p ih =>
      intro q h
      rw [List.cons_append]
      rw [scan] at h ⊢
      rw [scan]
      split_ifs at h ⊢ with ha
      · exact ih h
      · rfl

/-- A scanner that goes on after the whole has gone on after every part of it. -/
lemma scan_go_of_append {s : σ} {p q : List α} (h : (scan go step s (p ++ q)).1 = go) :
    (scan go step s p).1 = go := by
  by_contra hp
  rw [scan_append_stop hp] at h
  exact hp h

/-- To a scanner the cut of the stream into pieces makes no difference. -/
theorem feed_scan {s : σ} : ∀ l : List (List α),
    feed go (scan go step) s l = scan go step s l.flatten := by
  intro l
  induction l generalizing s with
  | nil => rfl
  | cons p l ih =>
      rw [feed, List.flatten_cons]
      split_ifs with hp
      · have h : scan go step s p = (go, (scan go step s p).2) := Prod.ext hp rfl
        rw [ih, scan_append_go h]
      · rw [scan_append_stop hp]

/-- What every step that goes on preserves holds where a scanner went on. -/
lemma scan_preserves {I : σ → Prop} (hI : ∀ s a, I s → (step s a).1 = go → I (step s a).2)
    {s : σ} : ∀ {p : List α}, I s → (scan go step s p).1 = go → I (scan go step s p).2 := by
  intro p
  induction p generalizing s with
  | nil => exact fun hs _ => hs
  | cons a p ih =>
      intro hs h
      rw [scan] at h ⊢
      split_ifs at h ⊢ with ha
      · exact ih (hI s a hs ha) h
      · exact absurd h ha

/-- A relation that every step keeps, with equal verdicts, a scanner keeps. -/
lemma scan_related {R : σ → σ → Prop}
    (hR : ∀ s t a, R s t → (step s a).1 = (step t a).1 ∧ R (step s a).2 (step t a).2) :
    ∀ (p : List α) {s t : σ}, R s t →
      (scan go step s p).1 = (scan go step t p).1 ∧ R (scan go step s p).2 (scan go step t p).2 := by
  intro p
  induction p with
  | nil => exact fun h => ⟨rfl, h⟩
  | cons a p ih =>
      intro s t h
      obtain ⟨hret, hnext⟩ := hR s t a h
      rw [scan, scan, ← hret]
      split_ifs
      · exact ih hnext
      · exact ⟨hret, hnext⟩

/-- The same for a consumer that scans every piece as long as `I` holds, which no step that
goes on breaks. -/
theorem feed_eq_scan {I : σ → Prop} (hf : ∀ s p, I s → f s p = scan go step s p)
    (hI : ∀ s a, I s → (step s a).1 = go → I (step s a).2) {s : σ} (hs : I s)
    (l : List (List α)) : feed go f s l = scan go step s l.flatten := by
  rw [← feed_scan]
  induction l generalizing s with
  | nil => rfl
  | cons p l ih =>
      rw [feed, feed, hf s p hs]
      split_ifs with hp
      · exact ih (scan_preserves hI hs hp)
      · rfl

/-! ### Delimiters -/

/-- Where the first symbol that fails a test stands is determined. -/
lemma split_unique {P : α → Prop} : ∀ {l l' : List α} {a a' : α} {r r' : List α},
    (∀ x ∈ l, P x) → (∀ x ∈ l', P x) → ¬ P a → ¬ P a' → l ++ a :: r = l' ++ a' :: r' →
      l = l' ∧ a = a' ∧ r = r' := by
  intro l
  induction l with
  | nil =>
      intro l' a a' r r' _ hl' ha _ h
      cases l' with
      | nil =>
          obtain ⟨rfl, rfl⟩ := List.cons.inj h
          exact ⟨rfl, rfl, rfl⟩
      | cons x l' =>
          obtain ⟨rfl, -⟩ := List.cons.inj h
          exact absurd (hl' a List.mem_cons_self) ha
  | cons x l ih =>
      intro l' a a' r r' hl hl' ha ha' h
      cases l' with
      | nil =>
          obtain ⟨rfl, -⟩ := List.cons.inj h
          exact absurd (hl x List.mem_cons_self) ha'
      | cons y l' =>
          obtain ⟨rfl, htail⟩ := List.cons.inj h
          obtain ⟨rfl, rfl, rfl⟩ := ih (fun z hz => hl z (List.mem_cons_of_mem _ hz))
            (fun z hz => hl' z (List.mem_cons_of_mem _ hz)) ha ha' htail
          exact ⟨rfl, rfl, rfl⟩

/-- Where some symbol fails a test there is a first one. -/
lemma exists_split {P : α → Prop} [DecidablePred P] : ∀ {l : List α}, ¬ (∀ y ∈ l, P y) →
    ∃ m x r, l = m ++ x :: r ∧ (∀ y ∈ m, P y) ∧ ¬ P x := by
  intro l
  induction l with
  | nil => exact fun h => absurd (by simp) h
  | cons b l ih =>
      intro h
      by_cases hb : P b
      · rw [List.forall_mem_cons, not_and] at h
        obtain ⟨m, x, r, rfl, hm, hx⟩ := ih (h hb)
        exact ⟨b :: m, x, r, rfl, List.forall_mem_cons.mpr ⟨hb, hm⟩, hx⟩
      · exact ⟨[], b, l, rfl, by simp, hb⟩

end Streams
