/-!
# The countdown

A barrier that opens once a given number of arrivals has been counted. Its two calls are made of
atomic steps, so that any number of them may overlap.

* **Arriving** takes one from the count unless nothing is left, and then, if that was the last one,
  wakes everyone who has shown interest.
* **Waiting** first shows interest, then looks at the count, and only then returns or sleeps;
  whoever is woken begins again. Interest that was shown before the wake-up is not lost, even if the
  sleep comes after it.

`Step` has one constructor for each atomic step. `arrive` and `wait` do a whole call at once and let
every waiter that can go on do so.
-/

namespace Roster

/-- Where a call of `wait` is. -/
inductive Waiting where
  /-- Interest is shown and the count not looked at yet. -/
  | interested
  /-- So many were missing when the call looked at the count. -/
  | looked (missing : Nat)
  /-- The count was above zero: asleep until woken. -/
  | asleep
  /-- The call has returned. -/
  | returned
  deriving DecidableEq, Repr

/-- A call of `wait`. -/
structure Waiter where
  /-- Where the call is. -/
  phase : Waiting := .interested
  /-- Whether a wake-up came since interest was last shown. -/
  woken : Bool := false
  deriving DecidableEq, Repr

/-- A countdown with the calls made on it. -/
structure Countdown where
  /-- The count at the beginning. -/
  total : Nat
  /-- How many arrivals are still missing. -/
  remaining : Nat
  /-- The calls of `wait` in the order in which they began. -/
  waiters : List Waiter := []
  /-- What the calls of `arrive` return, in the order in which they counted. -/
  arrivals : List Nat := []
  /-- Calls of `arrive` that took the last one and have not woken anyone yet. -/
  wakeUps : Nat := 0
  deriving DecidableEq, Repr

namespace Countdown

/-- A countdown on which nothing was called. -/
def ofTotal (total : Nat) : Countdown where
  total := total
  remaining := total

/-- An atomic step. -/
inductive Step where
  /-- A call of `wait` begins and shows interest. -/
  | begin
  /-- The waiter looks at the count. -/
  | look (waiter : Nat)
  /-- The waiter has looked, and returns or falls asleep. -/
  | act (waiter : Nat)
  /-- The waiter was woken and shows interest again. -/
  | rise (waiter : Nat)
  /-- A call of `arrive` counts. -/
  | count
  /-- The arrival that took the last one wakes everyone. -/
  | wake
  deriving DecidableEq, Repr

/-- Looking at the count. -/
def Waiter.look (remaining : Nat) (w : Waiter) : Waiter :=
  match w.phase with
  | .interested => { w with phase := .looked remaining }
  | _ => w

/-- Returning if nobody was missing, and else falling asleep. A wake-up from before that stays. -/
def Waiter.act (w : Waiter) : Waiter :=
  match w.phase with
  | .looked missing => { w with phase := if missing = 0 then .returned else .asleep }
  | _ => w

@[simp] theorem Waiter.act_looked (missing : Nat) (woken : Bool) :
    Waiter.act ⟨.looked missing, woken⟩ =
      ⟨if missing = 0 then .returned else .asleep, woken⟩ := rfl

@[simp] theorem Waiter.act_asleep (woken : Bool) :
    Waiter.act ⟨.asleep, woken⟩ = ⟨.asleep, woken⟩ := rfl

/-- Going on after a wake-up. -/
def Waiter.rise (w : Waiter) : Waiter :=
  match w.phase, w.woken with
  | .asleep, true => {}
  | _, _ => w

/-- Does an atomic step; a step that is not possible changes nothing. -/
def step (c : Countdown) : Step → Countdown
  | .begin => { c with waiters := c.waiters ++ [{}] }
  | .look i => { c with waiters := c.waiters.modify i (Waiter.look c.remaining) }
  | .act i => { c with waiters := c.waiters.modify i Waiter.act }
  | .rise i => { c with waiters := c.waiters.modify i Waiter.rise }
  | .count =>
    { c with
      remaining := c.remaining - 1
      arrivals := c.arrivals ++ [c.remaining - 1]
      wakeUps := if c.remaining = 1 then c.wakeUps + 1 else c.wakeUps }
  | .wake =>
    if c.wakeUps = 0 then c
    else
      { c with
        wakeUps := c.wakeUps - 1
        waiters := c.waiters.map fun w => { w with woken := true } }

/-- Does atomic steps one after another. -/
def run (c : Countdown) (steps : List Step) : Countdown := steps.foldl step c

/-! ## Whole calls -/

/-- Every waiter that was woken shows interest again, looks at the count, and returns or sleeps. -/
def settle (c : Countdown) : Countdown :=
  c.run ((List.range c.waiters.length).flatMap fun i => [.rise i, .look i, .act i])

/-- Counts an arrival, and gives back how many are still missing. -/
def arrive (c : Countdown) : Countdown × Nat :=
  let c := (c.run [.count, .wake]).settle
  (c, c.remaining)

/-- Begins to wait. -/
def wait (c : Countdown) : Countdown :=
  c.run [.begin, .look c.waiters.length, .act c.waiters.length]

/-- Whether each waiter has returned, in the order in which they began. -/
def returned (c : Countdown) : List Bool := c.waiters.map fun w => w.phase = .returned

end Countdown

end Roster
