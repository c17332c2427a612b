import Mathlib.Data.List.Basic

/-!
A lossy queue: what is put in waits, and leaves from the front or is dropped.

* `Outbox.Accounts`: every item put in is in one place, and what has left, followed by what waits,
  is in the order of the puts.
-/

namespace Dperf

variable {α : Type*}

/-- The items that have left, in order, those that wait, in order, and those dropped. -/
structure Outbox (α : Type*) where
  left : List α
  waiting : List α
  dropped : List α

namespace Outbox

variable {b c : Outbox α} {puts : List α}

/-- The outbox accounts for the items put in. -/
structure Accounts (b : Outbox α) (puts : List α) : Prop where
  inOrder : (b.left ++ b.waiting).Sublist puts
  once : puts.Perm (b.left ++ b.waiting ++ b.dropped)

lemma accounts_nil : Accounts (⟨[], [], []⟩ : Outbox α) [] := ⟨.slnil, .nil⟩

namespace Accounts

/-- An item waits behind the others. -/
lemma put (h : b.Accounts puts) (m : α) :
    Accounts { b with waiting := b.waiting ++ [m] } (puts ++ [m]) := by
  refine ⟨?_, ?_⟩
  · rw [← List.append_assoc]
    exact h.inOrder.append (List.Sublist.refl [m])
  · calc (puts ++ [m]).Perm (b.left ++ b.waiting ++ b.dropped ++ [m]) := h.once.append_right [m]
      List.Perm _ (b.left ++ b.waiting ++ ([m] ++ b.dropped)) := by
          rw [List.append_assoc]
          exact List.perm_append_comm.append_left _
      _ = b.left ++ (b.waiting ++ [m]) ++ b.dropped := by simp only [List.append_assoc]

/-- Items leave from the front. -/
lemma leave (h : b.Accounts puts) (hc : c.left ++ c.waiting = b.left ++ b.waiting)
    (hd : c.dropped = b.dropped) : c.Accounts puts :=
  ⟨hc ▸ h.inOrder, by rw [hc, hd]; exact h.once⟩

/-- All that waits is dropped. -/
lemma drop (h : b.Accounts puts) :
    Accounts ⟨b.left, [], b.waiting ++ b.dropped⟩ puts := by
  refine ⟨?_, ?_⟩
  · rw [List.append_nil]
    exact (List.sublist_append_left _ _).trans h.inOrder
  · rw [List.append_nil, ← List.append_assoc]
    exact h.once

end Accounts

end Outbox

end Dperf
