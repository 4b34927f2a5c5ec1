import Roster.Gate.Basic

/-!
# Laws of the readiness gate

What each operation on a gate does to the outcome, to those who are parked, and to the mark that
tells whether the gate is closed. A gate that is not closed is *exclusive* (`Exclusive`) when nobody
is parked while there is an outcome; every operation keeps it so.
-/

namespace Roster.Gate

variable {ω ε : Type}

/-! ## Entering -/

/-- While there is an outcome, whoever enters has it at once. -/
theorem enter_of_some {g : Gate ω ε} {outcome : Outcome ε} (h : g.outcome = some outcome) (w : ω) :
    g.enter w = (g, .answered outcome) := by
  unfold enter
  rw [h]

/-- Without an outcome, whoever enters is parked. -/
theorem enter_of_none {g : Gate ω ε} (h : g.outcome = none) (w : ω) :
    g.enter w = ({ g with waiters := g.waiters ++ [w] }, .queued g.waiters.isEmpty) := by
  unfold enter
  rw [h]

/-! ## Resolving, reopening and closing -/

/-- A gate that is not closed takes the outcome and answers everyone who is parked. -/
theorem resolve_of_open {g : Gate ω ε} (h : g.closed = false) (outcome : Outcome ε) :
    g.resolve outcome = ({ g with waiters := [], outcome := some outcome }, g.waiters) := by
  unfold resolve
  rw [h]
  rfl

/-- A closed gate takes no outcome. -/
theorem resolve_of_closed {g : Gate ω ε} (h : g.closed = true) (outcome : Outcome ε) :
    g.resolve outcome = (g, []) := by
  unfold resolve
  rw [if_pos h]

/-- A gate that is not closed answers everyone who is parked when it closes. -/
theorem close_of_open {g : Gate ω ε} (h : g.closed = false) (error : ε) :
    g.close error =
      ({ waiters := [], outcome := some (.failed error), closed := true }, g.waiters) := by
  unfold close
  rw [resolve_of_open h]

/-- Reopening lets everyone stay who is parked. -/
@[simp] theorem waiters_reopen (g : Gate ω ε) : g.reopen.waiters = g.waiters := by
  unfold reopen
  split <;> rfl

/-- Reopening closes nothing. -/
@[simp] theorem closed_reopen (g : Gate ω ε) : g.reopen.closed = g.closed := by
  unfold reopen
  split <;> rfl

/-- Reopening leaves a success alone. -/
theorem reopen_of_ready {g : Gate ω ε} (h : g.outcome = some .ready) : g.reopen = g := by
  unfold reopen
  rw [h]
  cases g.closed <;> rfl

/-- Reopening leaves a closed gate alone. -/
theorem reopen_of_closed {g : Gate ω ε} (h : g.closed = true) : g.reopen = g := by
  unfold reopen
  rw [h]

/-- Reopening changes nothing where there is no outcome. -/
theorem reopen_of_none {g : Gate ω ε} (h : g.outcome = none) : g.reopen = g := by
  unfold reopen
  rw [h]
  cases g.closed <;> rfl

/-- A gate that is not closed has no outcome after reopening, unless it is a success. -/
theorem outcome_reopen_of_ne_ready {g : Gate ω ε} (h : g.closed = false)
    (hne : g.outcome ≠ some .ready) : g.reopen.outcome = none := by
  unfold reopen
  rw [h]
  rcases ho : g.outcome with _ | _ | e
  · exact ho
  · exact absurd ho hne
  · rfl

/-! ## Nobody is parked while there is an outcome -/

/-- Nobody is parked while there is an outcome. -/
def Exclusive (g : Gate ω ε) : Prop := g.outcome ≠ none → g.waiters = []

/-- Entering a gate keeps it exclusive. -/
theorem Exclusive.enter {g : Gate ω ε} (h : g.Exclusive) (w : ω) : (g.enter w).1.Exclusive := by
  rcases ho : g.outcome with _ | outcome
  · rw [enter_of_none ho]
    exact fun hne => absurd ho hne
  · rw [enter_of_some ho]
    exact h

/-- A gate that has just been resolved is exclusive. -/
theorem Exclusive.resolve {g : Gate ω ε} (h : g.Exclusive) (outcome : Outcome ε) :
    (g.resolve outcome).1.Exclusive := by
  unfold Gate.resolve
  split
  · exact h
  · exact fun _ => rfl

/-- Reopening a gate keeps it exclusive. -/
theorem Exclusive.reopen {g : Gate ω ε} (h : g.Exclusive) : g.reopen.Exclusive := by
  intro hne
  rw [waiters_reopen]
  refine h fun hno => hne ?_
  rw [reopen_of_none hno]
  exact hno

end Roster.Gate
