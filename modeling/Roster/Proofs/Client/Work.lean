import Roster.Client.Clock

/-!
# A client at work

All that a client does by itself, from the next step of a task up to settling, is made of a few small
things: a task does its next step, the line of ready tasks changes, a cache read ends, and time goes by.
So whatever holds between a client and what it becomes by each of them (`Work`) holds between a client
and what it becomes when it settles (`Work.settle`), when its clock runs (`Work.advance`) and when held
cache reads end (`Work.releaseReads`).
-/

namespace Roster.Client

/-- A relation that holds between a client and what it becomes by each small thing that it does by
itself, and by several of them one after another. -/
structure Work (R : Client → Client → Prop) : Prop where
  /-- It holds where nothing is done. -/
  refl : ∀ c, R c c
  /-- It holds over things done one after another. -/
  trans : ∀ {a b c}, R a b → R b c → R a c
  /-- A task does its next step. -/
  steps : ∀ {c c' task}, c.taskStep? task = some c' → R c c'
  /-- The line of ready tasks changes. -/
  queues : ∀ c ready, R c { c with ready := ready }
  /-- The cache read of a proxy ends. -/
  reads : ∀ c id finished, R c (c.modifyProxy id fun p => { p with finished := finished })
  /-- Time goes by. -/
  waits : ∀ c now, R c { c with now := now }
  /-- Cache reads are held, or end again. -/
  holds : ∀ c holdsReads, R c { c with holdsReads := holdsReads }

namespace Work

variable {R : Client → Client → Prop} (w : Work R)

include w

/-- It holds over any number of things of one kind. -/
theorem foldl {α : Type} {f : Client → α → Client} (hf : ∀ c a, R c (f c a)) (l : List α)
    (c : Client) : R c (l.foldl f c) := by
  induction l generalizing c with
  | nil => exact w.refl c
  | cons a rest ih => exact w.trans (hf c a) (ih (f c a))

variable (c : Client)

/-- A task becomes ready. -/
theorem wake (task : ClientTask) : R c (c.wake task) := by
  unfold Client.wake
  split
  · exact w.refl c
  · exact w.queues c _

/-- A task does all that it can. -/
theorem runSteps (task : ClientTask) (fuel : Nat) : R c (c.runSteps task fuel) := by
  induction fuel generalizing c with
  | zero => exact w.refl c
  | succ fuel ih =>
    rw [Client.runSteps]
    split
    · rename_i c' hstep
      exact w.trans (w.steps hstep) (ih c')
    · exact w.refl c

/-- A task has its turn. -/
theorem runTask (task : ClientTask) : R c (c.runTask task) := by
  refine w.trans (w.runSteps c task stepBound) ?_
  unfold Client.runTask
  dsimp only
  split
  · exact w.queues _ _
  · exact w.refl _

/-- The proxies that nobody holds become ready. -/
theorem wakeForsaken : R c c.wakeForsaken := w.foldl (fun c i => w.wake c (.proxy i)) _ c

/-- The cache reads that have begun end. -/
theorem finishReads : R c c.finishReads := by
  refine w.foldl (fun c a => ?_) _ c
  dsimp only
  split
  · split
    · exact w.refl c
    · exact w.trans (w.reads c a.2 _) (w.wake _ _)
  · exact w.refl c

/-- Everything is done that can be done at the present time. -/
theorem runReady (fuel : Nat) : R c (c.runReady fuel) := by
  induction fuel generalizing c with
  | zero => exact w.refl c
  | succ fuel ih =>
    rw [Client.runReady]
    split
    · rename_i task rest _
      have hturn := w.trans (w.queues c rest) (w.runTask { c with ready := rest } task)
      exact w.trans (w.trans hturn (w.wakeForsaken _)) (ih _)
    · split
      · exact w.trans (w.finishReads c) (ih _)
      · exact w.refl c

/-- The clock moves. -/
theorem moveClock (time : Nat) : R c (c.moveClock time) :=
  w.trans (w.waits c time) (w.foldl w.wake _ _)

/-- Everything is done until some time. -/
theorem runUntil (time fuel : Nat) : R c (c.runUntil time fuel) := by
  induction fuel generalizing c with
  | zero => exact w.refl c
  | succ fuel ih =>
    rw [Client.runUntil]
    refine w.trans (w.runReady c stepBound) ?_
    split
    · exact w.refl _
    · exact w.trans (w.moveClock _ _) (ih _)

/-- **A client settles.** -/
theorem settle : R c c.settle := w.trans (w.wakeForsaken c) (w.runUntil _ _ _)

/-- **The clock of a client runs.** -/
theorem advance (milliseconds : Nat) : R c (c.advance milliseconds) :=
  w.trans (w.trans (w.wakeForsaken c) (w.runUntil _ _ _)) (w.settle _)

/-- **Held cache reads end.** -/
theorem releaseReads : R c c.releaseReads :=
  w.trans (w.trans (w.holds c false) (w.settle _)) (w.holds _ _)

end Work

end Roster.Client
