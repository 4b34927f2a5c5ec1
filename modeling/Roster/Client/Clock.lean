import Roster.Client.Discovery

/-!
# Time and progress

The tasks of a client take turns: a task that becomes ready goes to the end of the line, and when its
turn comes it does all that it can. Cache reads end when nothing is ready any more. The clock moves
only when nothing can be done at the present time, from one due time to the next.
-/

namespace Roster.Client

/-- A bound on the steps that a client does without outside influence. -/
def stepBound : Nat := 1000000

/-- The next thing that a task can do, if there is any. -/
def taskStep? (c : Client) : ClientTask → Option Client
  | .proxy id => c.proxyStep? id
  | .discovery id => c.discoveryStep? id
  | .question id => c.questionStep? id

/-- Does everything that a task can do now. -/
def runSteps (c : Client) (task : ClientTask) : Nat → Client
  | 0 => c
  | fuel + 1 =>
    match c.taskStep? task with
    | some c => runSteps c task fuel
    | none => c

/-- Gives a task its turn. A task that was woken in its own turn gets another one at the end of the
line. -/
def runTask (c : Client) (task : ClientTask) : Client :=
  let c := c.runSteps task stepBound
  if task ∈ c.ready then { c with ready := c.ready.filter (· ≠ task) ++ [task] } else c

/-- Makes the proxies ready that nobody holds any more. -/
def wakeForsaken (c : Client) : Client :=
  ((List.range c.proxies.length).filter fun i => !c.isDisposed i && !c.isHeld i).foldl
    (fun c i => c.wake (.proxy i)) c

/-- Whether the cache read of a proxy has begun and not ended. -/
def isReading (p : Proxy) : Bool :=
  p.manager.read.isSome && p.finished.all fun f => p.manager.read ≠ some f.number

/-- What reading a cache file gives now. -/
def readResult (c : Client) (path : Path) : ReadEnd :=
  if c.setup.brokenReader then .failed
  else
    match CacheFile.read c.tree path with
    | .ok d => .described d
    | .error _ => .failed

/-- Ends the cache reads that have begun. -/
def finishReads (c : Client) : Client :=
  c.proxies.zipIdx.foldl (fun c (p, i) =>
    if isReading p then
      match p.manager.read with
      | none => c
      | some number =>
        let path := (p.manager.readsStarted[number - 1]?).getD ""
        let result := c.readResult path
        (c.modifyProxy i fun p => { p with finished := some ⟨number, result⟩ }).wake (.proxy i)
    else c) c

/-- Does everything that can be done at the present time. -/
def runReady (c : Client) : Nat → Client
  | 0 => c
  | fuel + 1 =>
    match c.ready with
    | task :: rest => runReady ({ c with ready := rest }.runTask task).wakeForsaken fuel
    | [] =>
      if !c.holdsReads && c.proxies.any isReading then runReady c.finishReads fuel else c

/-- The times at which something is due after the present one. -/
def dueTimes (c : Client) : List (Nat × ClientTask) :=
  (c.proxies.zipIdx.filterMap fun (p, i) =>
    (sentCall? p).bind fun s => if c.now < s.due then some (s.due, .proxy i) else none)
  ++ c.discoveries.zipIdx.filterMap fun (d, i) =>
    match d.stage with
    | .listing _ due _ => if c.now < due then some (due, .discovery i) else none
    | _ => none

/-- The next time at which something is due. -/
def nextDue? (c : Client) : Option Nat := (c.dueTimes.map Prod.fst).min?

/-- Moves the clock to a time, and makes everything ready that is due then. -/
def moveClock (c : Client) (time : Nat) : Client :=
  let due := (c.dueTimes.filter fun (t, _) => t ≤ time).map Prod.snd
  due.foldl wake { c with now := time }

/-- Lets the clock run up to a time, and does everything that can be done on the way. -/
def runUntil (c : Client) (time : Nat) : Nat → Client
  | 0 => c
  | fuel + 1 =>
    let c := c.runReady stepBound
    if time ≤ c.now then c
    else runUntil (c.moveClock (min time (c.nextDue?.getD time))) time fuel

/-- Does everything that can be done now. Settling takes a millisecond. -/
def settle (c : Client) : Client := c.wakeForsaken.runUntil (c.now + 1) stepBound

/-- Lets the clock run, and then settles. -/
def advance (c : Client) (milliseconds : Nat) : Client :=
  (c.wakeForsaken.runUntil (c.now + milliseconds) stepBound).settle

/-- Lets the cache reads end that are held, and those that begin meanwhile. -/
def releaseReads (c : Client) : Client :=
  { { c with holdsReads := false }.settle with holdsReads := c.holdsReads }

end Roster.Client
