import LeaseQueue.Backend.Basic
import Mathlib.Tactic.Lemma

/-!
# Actions one after the other

What is done first decides how an action goes on as long as it succeeds (`Action.bind_of_ok`), and
ends it with its error otherwise (`Action.bind_of_error`).
-/

namespace LeaseQueue

namespace Action

variable {σ ε α β : Type} {x : Action σ ε α} {f : α → Action σ ε β} {s t : σ}

/-- What goes well is followed by the rest. -/
lemma bind_of_ok {a : α} (h : x s = (.ok a, t)) : (x >>= f) s = f a t := by
  show (let r := x s; ExceptT.bindCont f r.1 r.2) = f a t
  rw [h]
  rfl

/-- An error ends the whole. -/
lemma bind_of_error {e : ε} (h : x s = (.error e, t)) : (x >>= f) s = (.error e, t) := by
  show (let r := x s; ExceptT.bindCont f r.1 r.2) = (.error e, t)
  rw [h]
  rfl

end Action

end LeaseQueue
