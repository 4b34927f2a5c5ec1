import Roster.Gate.Basic

/-!
# Running a gate

A gate together with those who wait at it: a waiter may lose interest while it is parked, and then
its answer reaches nobody, although the gate still counts it. `Run.step` does one operation, and its
state keeps every answer that the gate gave, in order.
-/

namespace Roster.Gate

/-- An operation on a gate. -/
inductive Op (ω ε : Type) where
  /-- A waiter comes. -/
  | enter (waiter : ω)
  /-- A waiter loses interest. -/
  | abandon (waiter : ω)
  /-- The preparation ends. -/
  | resolve (outcome : Outcome ε)
  /-- A new preparation begins. -/
  | reopen
  /-- The gate closes. -/
  | close (error : ε)
  deriving DecidableEq, Repr

/-- What an operation gives back. -/
inductive Result (ε : Type) where
  /-- What became of the waiter. -/
  | admitted (admission : Admission ε)
  /-- Whether the waiter was still without an answer. -/
  | abandoned (unanswered : Bool)
  /-- How many waiters were answered. -/
  | answered (count : Nat)
  /-- Nothing. -/
  | reopened
  deriving DecidableEq, Repr

/-- A gate, those who still listen for an answer, and the answers so far. -/
structure Run (ω ε : Type) where
  /-- The gate. -/
  gate : Gate ω ε := {}
  /-- The parked waiters that have not lost interest. -/
  listening : List ω := []
  /-- The answers that the gate gave, each with its waiter, in order. -/
  answers : List (ω × Outcome ε) := []
  /-- The answers that reached a listening waiter. -/
  delivered : List (ω × Outcome ε) := []
  deriving DecidableEq, Repr

namespace Run

variable {ω ε : Type} [DecidableEq ω]

/-- Hands one outcome to waiters: it reaches those who listen. -/
def answer (r : Run ω ε) (outcome : Outcome ε) (waiters : List ω) : Run ω ε :=
  { r with
    answers := r.answers ++ waiters.map fun w => (w, outcome)
    delivered := r.delivered ++
      (waiters.filter fun w => w ∈ r.listening).map fun w => (w, outcome)
    listening := r.listening.filter fun w => w ∉ waiters }

/-- Does one operation. -/
def step (r : Run ω ε) : Op ω ε → Run ω ε × Result ε
  | .enter w =>
    let (gate, admission) := r.gate.enter w
    let r := { r with gate := gate, listening := r.listening ++ [w] }
    match admission with
    | .answered outcome => (r.answer outcome [w], .admitted admission)
    | .queued _ => (r, .admitted admission)
  | .abandon w =>
    ({ r with listening := r.listening.filter (· ≠ w) }, .abandoned (w ∈ r.listening))
  | .resolve outcome =>
    let (gate, waiters) := r.gate.resolve outcome
    ({ r with gate := gate }.answer outcome waiters, .answered waiters.length)
  | .reopen => ({ r with gate := r.gate.reopen }, .reopened)
  | .close error =>
    let (gate, waiters) := r.gate.close error
    ({ r with gate := gate }.answer (.failed error) waiters, .answered waiters.length)

/-- Does operations one after another, from a new gate. -/
def ofOps (ops : List (Op ω ε)) : Run ω ε := ops.foldl (fun r op => (r.step op).1) {}

end Run

end Roster.Gate
