import Mathlib.Tactic

/-!
Two endpoints that number what they send to each other and acknowledge what they have received.

* `Ends`: how far an endpoint has sent, how far it knows that the other one has received, and how
  far it has received itself.
* `Extent`, `Sends`: what an endpoint sends at once, and when it may be on the way: it does not
  begin beyond what is acknowledged, does not go beyond what is sent, and acknowledges no more than
  what has been received.
* `Consistent`: each endpoint has received all that the other one knows of, and no more than was
  sent. It is kept when something is sent (`Consistent.send`) and when something on the way is
  taken, however old it is (`Consistent.take`, `Consistent.accept`).
-/

namespace Peers

/-- The positions of an endpoint: the end of what it has sent, of what is acknowledged, and of
what it has received. -/
structure Ends where
  nxt : ℕ
  una : ℕ
  rcv : ℕ

/-- What lies from `start` to `stop`, sent together with the acknowledgement `ack`. -/
structure Extent where
  start : ℕ
  stop : ℕ
  ack : ℕ

/-- An endpoint at `x` may have `s` on the way. -/
structure Sends (x : Ends) (s : Extent) : Prop where
  start : s.start ≤ x.una
  stop : s.stop ≤ x.nxt
  ack : s.ack ≤ x.rcv

/-- Two endpoints agree on what has been received. -/
structure Consistent (x y : Ends) : Prop where
  una_le : x.una ≤ y.rcv
  le_nxt : y.rcv ≤ x.nxt
  una_le' : y.una ≤ x.rcv
  le_nxt' : x.rcv ≤ y.nxt

variable {x x' y : Ends} {s : Extent}

/-- Positions only grow. -/
lemma Sends.mono (h : Sends x s) (hnxt : x.nxt ≤ x'.nxt) (huna : x.una ≤ x'.una)
    (hrcv : x.rcv ≤ x'.rcv) : Sends x' s :=
  ⟨h.start.trans huna, h.stop.trans hnxt, h.ack.trans hrcv⟩

namespace Consistent

lemma symm (h : Consistent x y) : Consistent y x := ⟨h.una_le', h.le_nxt', h.una_le, h.le_nxt⟩

/-- More is sent. -/
lemma send (h : Consistent x y) (hnxt : x.nxt ≤ x'.nxt) (huna : x'.una = x.una)
    (hrcv : x'.rcv = x.rcv) : Consistent x' y :=
  ⟨huna ▸ h.una_le, h.le_nxt.trans hnxt, hrcv ▸ h.una_le', hrcv ▸ h.le_nxt'⟩

/-- What is on the way is taken where the last one ended; its acknowledgement is left alone. -/
lemma take (h : Consistent x y) (hs : Sends y s) (hstart : s.start = x.rcv)
    (hle : s.start ≤ s.stop) : Consistent { x with rcv := s.stop } y :=
  ⟨h.una_le, h.le_nxt, h.una_le'.trans (hstart ▸ hle), hs.stop⟩

/-- What is on the way is taken, and acknowledges all that was sent. -/
lemma accept (h : Consistent x y) (hs : Sends y s) (hstart : s.start = x.rcv)
    (hle : s.start ≤ s.stop) (hack : s.ack = x.nxt) :
    Consistent { x with una := x.nxt, rcv := s.stop } y :=
  ⟨hack ▸ hs.ack, h.le_nxt, h.una_le'.trans (hstart ▸ hle), hs.stop⟩

end Consistent

end Peers
