/-!
# The readiness gate

Waiters who ask to be told when something is ready are parked at a gate until there is an outcome,
and then each is answered once. While an outcome stands, a new waiter is answered at once.

* `resolve` sets the outcome and answers everyone who is parked.
* `reopen` forgets a failure, so that later waiters park again; a success it leaves alone.
* `close` answers everyone with an error and fixes the outcome for good.

The gate only tells who is answered with what; handing the answers over is its owner's work.
-/

namespace Roster

/-- How a preparation ended. -/
inductive Outcome (ε : Type) where
  /-- It succeeded. -/
  | ready
  /-- It failed. -/
  | failed (error : ε)
  deriving DecidableEq, Repr

/-- What became of a waiter at the gate. -/
inductive Admission (ε : Type) where
  /-- There was an outcome, and the waiter has it. -/
  | answered (outcome : Outcome ε)
  /-- The waiter is parked; `first` says that nobody was parked before. -/
  | queued (first : Bool)
  deriving DecidableEq, Repr

/-- A gate for waiters of type `ω` and errors of type `ε`. -/
structure Gate (ω ε : Type) where
  /-- The parked waiters in the order of their arrival. -/
  waiters : List ω := []
  /-- The outcome, if there is one. -/
  outcome : Option (Outcome ε) := none
  /-- Whether the outcome stands for good. -/
  closed : Bool := false
  deriving DecidableEq, Repr

namespace Gate

variable {ω ε : Type}

/-- Lets a waiter in: it is answered if there is an outcome, and parked if not. -/
def enter (g : Gate ω ε) (waiter : ω) : Gate ω ε × Admission ε :=
  match g.outcome with
  | some outcome => (g, .answered outcome)
  | none => ({ g with waiters := g.waiters ++ [waiter] }, .queued (g.waiters.isEmpty))

/-- Sets the outcome, and tells who is answered with it. A closed gate keeps its outcome. -/
def resolve (g : Gate ω ε) (outcome : Outcome ε) : Gate ω ε × List ω :=
  if g.closed then (g, [])
  else ({ g with waiters := [], outcome := some outcome }, g.waiters)

/-- Forgets a failure. -/
def reopen (g : Gate ω ε) : Gate ω ε :=
  match g.closed, g.outcome with
  | false, some (.failed _) => { g with outcome := none }
  | _, _ => g

/-- Fails everyone, now and later, and tells who is answered now. -/
def close (g : Gate ω ε) (error : ε) : Gate ω ε × List ω :=
  let (g, answered) := g.resolve (.failed error)
  ({ g with closed := true }, answered)

end Gate

end Roster
