import Roster.Manager.Basic

/-!
# How the proxy of a manager works

The proxy takes one occurrence at a time: a command from its queue, a report about the owner of the
manager's name, the answer to its call, the end of its cache read. After each one it does the steps
that have become due (`runDeferred`), so a `step` is the one followed by the other.

* **Preparation.** The first report makes the cache file be read. Without a cache file, or if it
  cannot be read, the manager is called, which starts it. A manager that is seen to run is called
  too, unless a cache file told enough.
* **Freshness.** An answer of the manager replaces everything; a cache file only fills a gap.
* **Failure.** A call that fails is told to those who wait only when no cache read is left that could
  still succeed.
* **The end.** `dispose` answers everyone, and nothing has any effect afterwards.
-/

namespace Roster.Manager

/-! ## Telling the outside -/

/-- Tells an event. -/
def emit (m : Manager) (event : ManagerEvent) : Manager := { m with events := m.events ++ [event] }

/-- Lets everyone see the present state. -/
def publish (m : Manager) : Manager :=
  { m with
    snapshot := {
      running := m.running
      source := m.source
      protocols := m.protocols
      interfaces := m.interfaces
      cacheFile := m.cachePath
      alwaysIntrospect := m.alwaysIntrospect }
    publications := m.publications + 1 }

/-- Makes a step due, unless it is already. -/
def schedule (m : Manager) (step : Deferred) : Manager :=
  if step ∈ m.deferred then m else { m with deferred := m.deferred ++ [step] }

/-- Ends the preparation at the gate, and answers those who were parked. -/
def openGate (m : Manager) (outcome : Outcome ManagerError) : Manager :=
  let (gate, waiters) := m.gate.resolve outcome
  { m with gate := gate, answers := m.answers ++ waiters.map fun w => (w, outcome) }

/-- Whether a cache read is on its way or due. -/
def awaitsCacheFile (m : Manager) : Bool :=
  m.read.isSome || .readCacheFile ∈ m.deferred

/-- Answers those who wait: with success if anything is known, and else with the error, which is held
back as long as a cache read may still succeed. -/
def resolveReady (m : Manager) (error : Option ManagerError) : Manager :=
  if m.source = .none then
    let error := error.getD .noInformation
    if m.awaitsCacheFile then { m with heldFailure := some error }
    else m.openGate (.failed error)
  else { m with heldFailure := none }.openGate .ready

/-! ## New information -/

/-- A list with the members of another one added that are not in it yet. -/
def addNew (old : List String) (new : List String) : List String :=
  new.foldl (fun all i => if i ∈ all then all else all ++ [i]) old

/-- Takes a description from a source over, and lets everyone see it. -/
def install (m : Manager) (source : InfoSource) (description : Description) : Manager :=
  { m with
    interfaces := addNew m.interfaces description.interfaces
    protocols := description.protocols
    source := m.source.merge source }.publish

/-- Ends the call on its way, if there is one, and answers those who wait. -/
def endIntrospection (m : Manager) (error : Option ManagerError) : Manager :=
  ({ m with call := none }.emit (.gotInfo m.source)).resolveReady error

/-- The description in the answer to a call, or why there is none. -/
def decode (answer : Except BusError Json) : Except ManagerError Description :=
  match answer with
  | .error e => .error (.transport e)
  | .ok reply =>
    match Reply.description reply with
    | .ok d => .ok d
    | .error f => .error (.malformedReply f)

/-- Takes the answer to the call on its way. -/
def onReply (m : Manager) (answer : Except BusError Json) : Manager :=
  if m.call.isNone then m
  else
    let m := { m with call := none }
    match decode answer with
    | .ok d => (m.install .live d).endIntrospection none
    | .error e =>
      let m := if m.source = .none ∧ m.running = false then m.emit .exited else m
      m.endIntrospection (some e)

/-- Takes the end of the cache read on its way. A read that failed lets the failure out that was held
back, or else makes a call due; one that was cancelled changes nothing more. -/
def onCacheRead (m : Manager) (result : ReadEnd) : Manager :=
  if m.read.isNone then m
  else
    let m := { m with read := none }
    match result with
    | .described d =>
      if InfoSource.file.supersedes m.source then
        let m := m.install .file d
        (m.emit (.gotInfo m.source)).resolveReady none
      else m
    | .failed =>
      match m.heldFailure with
      | some error => { m with heldFailure := none }.resolveReady (some error)
      | none => if m.source = .none then m.schedule .introspect else m
    | .cancelled => m

/-! ## The owner of the name -/

/-- The error of a call to a manager that left. -/
def lostError (m : Manager) : ManagerError :=
  .nameOwnerLost (.nameOwnerLost (m.busName ++ " exited during introspection"))

/-- The call on its way has failed, if there is one, because the manager left. -/
def loseCall (m : Manager) : Manager :=
  if m.call.isSome then m.endIntrospection (some m.lostError) else m

/-- The name has no owner any more. -/
def onNameLost (m : Manager) : Manager :=
  let m := { m with running := false }.loseCall
  if m.nameKnown then m.emit .exited else m

/-- The name has a new owner; if it had one before, that one is gone. -/
def onNameGained (m : Manager) : Manager :=
  let m := if m.running then m.onNameLost else m
  ({ m with running := true }.emit .activated).schedule .introspect

/-- The first time that the owner is known, preparation begins. -/
def learnName (m : Manager) : Manager :=
  if m.nameKnown then m
  else
    let m := m.schedule .readCacheFile
    let m := if m.wantsActivation then m.schedule .introspect else m
    { m with nameKnown := true }

/-- Takes a report about the owner; an owner without a name is none. -/
def onOwner (m : Manager) (owner : Option String) : Manager :=
  let m := match owner.filter (· ≠ "") with
    | none => m.onNameLost
    | some _ => m.onNameGained
  m.learnName.publish

/-- There will be no more reports. Without any, the name counts as without an owner. -/
def onWatchClosed (m : Manager) : Manager :=
  let m := { m with watching := false }
  if m.nameKnown then m else m.onOwner none

/-! ## Commands -/

/-- Makes sure that someone who is parked will be answered. -/
def prepare (m : Manager) : Manager :=
  if !m.nameKnown || m.call.isSome || m.awaitsCacheFile || m.source ≠ .none then m
  else m.schedule .introspect

/-- Lets in someone who wants to be told when the manager is ready. -/
def requestReady (m : Manager) (waiter : Nat) : Manager :=
  let (gate, admission) := m.gate.enter waiter
  let m := { m with gate := gate }
  match admission with
  | .answered outcome => { m with answers := m.answers ++ [(waiter, outcome)] }
  | .queued true => m.prepare
  | .queued false => m

/-- Makes a call due that starts the manager, unless it runs. -/
def activate (m : Manager) (waiter : Nat) : Manager :=
  let reply (m : Manager) (started : Bool) : Manager :=
    { m with activations := m.activations ++ [(waiter, started)] }
  if !m.nameKnown then reply { m with wantsActivation := true } true
  else if m.running then reply m false
  else reply (m.schedule .introspect) true

/-- Sets whether a running manager is asked even if a cache file was read. -/
def setAlwaysIntrospect (m : Manager) (always : Bool) : Manager :=
  let due := always && !m.alwaysIntrospect && m.running
  let m := { m with alwaysIntrospect := always }
  (if due then m.schedule .introspect else m).publish

/-- Sets the cache file. A read that is on its way is given up, and the new file is due. -/
def setCacheFile (m : Manager) (path : Option Path) : Manager :=
  let m := { m with cachePath := path }
  (if m.nameKnown then { m with read := none }.schedule .readCacheFile else m).publish

/-- The end: nothing is on its way or due any more, and everyone is answered, first those whose
commands were not looked at. -/
def dispose (m : Manager) : Manager :=
  let (gate, waiters) := m.gate.close .disposed
  { m with
    call := none
    read := none
    deferred := []
    heldFailure := none
    watching := false
    disposed := true
    queue := []
    gate := gate
    answers := m.answers
      ++ (m.queue.filterMap fun c => match c with
        | .requestReady w => some (w, .failed .disposed)
        | _ => none)
      ++ waiters.map fun w => (w, .failed .disposed)
    activations := m.activations ++ m.queue.filterMap fun c => match c with
      | .activate w => some (w, false)
      | _ => none }

/-- Does a command; a search for the cache file would give `found`. -/
def onCommand (m : Manager) (found : Option Path) : Command → Manager
  | .requestReady waiter => m.requestReady waiter
  | .activate waiter => m.activate waiter
  | .setAlwaysIntrospect always => m.setAlwaysIntrospect always
  | .setCacheFile setting => m.setCacheFile (setting.resolve found)
  | .dispose => m.dispose

/-! ## Steps that are due -/

/-- Begins to read the cache file, if anything can be learned from it; without a file the manager is
called. -/
def readCacheFile (m : Manager) : Manager :=
  if m.source ≠ .none ∨ m.read.isSome then m
  else
    match m.cachePath with
    | none => m.schedule .introspect
    | some path =>
      { m with
        read := some (m.readsStarted.length + 1)
        readsStarted := m.readsStarted ++ [path] }

/-- Begins a call, unless one is on its way or enough is known. -/
def introspect (m : Manager) : Manager :=
  if m.call.isSome ∨ (m.alwaysIntrospect = false ∧ m.source ≠ .none) then m
  else
    { m with
      gate := m.gate.reopen
      callsStarted := m.callsStarted + 1
      call := some (m.callsStarted + 1) }

/-- Does a step that was due. -/
def runStep (m : Manager) : Deferred → Manager
  | .readCacheFile => m.readCacheFile
  | .introspect => m.introspect

/-- How much a step that is due can bring about: a cache read may make a call due. -/
def stepWeight : Deferred → Nat
  | .readCacheFile => 2
  | .introspect => 1

/-- How much the steps that are due can bring about. -/
def dueWeight : List Deferred → Nat
  | [] => 0
  | s :: rest => stepWeight s + dueWeight rest

theorem dueWeight_append (a b : List Deferred) : dueWeight (a ++ b) = dueWeight a + dueWeight b := by
  induction a with
  | nil => simp [dueWeight]
  | cons s rest ih => simp only [List.cons_append, dueWeight, ih]; omega

theorem dueWeight_schedule_le (m : Manager) :
    dueWeight (m.schedule .introspect).deferred ≤ dueWeight m.deferred + 1 := by
  unfold schedule
  split
  · omega
  · simp [dueWeight_append, dueWeight, stepWeight]

theorem dueWeight_runStep_lt (m : Manager) (s : Deferred) (rest : List Deferred) :
    dueWeight ({ m with deferred := rest }.runStep s).deferred < dueWeight (s :: rest) := by
  cases s with
  | readCacheFile =>
    simp only [runStep, readCacheFile]
    split
    · simp [dueWeight, stepWeight]
    · split
      · have := dueWeight_schedule_le { m with deferred := rest }
        simp only [dueWeight, stepWeight] at this ⊢
        omega
      · simp [dueWeight, stepWeight]
  | introspect =>
    simp only [runStep, introspect]
    split <;> simp [dueWeight, stepWeight]

/-- Does the steps that are due, until none is. -/
def runDeferred (m : Manager) : Manager :=
  match _h : m.deferred with
  | [] => m
  | s :: rest => runDeferred ({ m with deferred := rest }.runStep s)
termination_by dueWeight m.deferred
decreasing_by
  rw [_h]
  exact dueWeight_runStep_lt m s rest

/-! ## Occurrences -/

/-- Something that a proxy may have to react to. -/
inductive Occurrence where
  /-- A command is put into the queue. -/
  | sent (command : Command)
  /-- The next command of the queue is looked at; a search for the cache file would give `found`. -/
  | command (found : Option Path)
  /-- A report about the owner of the name. -/
  | owner (owner : Option String)
  /-- There will be no more reports. -/
  | watchClosed
  /-- The call on its way is answered. -/
  | reply (answer : Except BusError Json)
  /-- The cache read on its way ends. -/
  | cacheRead (result : ReadEnd)
  /-- Nobody can send commands any more. -/
  | forsaken

/-- Puts a command into the queue; a proxy that has stopped answers at once. -/
def send (m : Manager) (command : Command) : Manager :=
  if m.disposed then
    match command with
    | .requestReady w => { m with answers := m.answers ++ [(w, .failed .disposed)] }
    | .activate w => { m with activations := m.activations ++ [(w, false)] }
    | _ => m
  else { m with queue := m.queue ++ [command] }

/-- Looks at the next command of the queue. -/
def takeCommand (m : Manager) (found : Option Path) : Manager :=
  match m.queue with
  | [] => m
  | command :: rest => { m with queue := rest }.onCommand found command

/-- Reacts to an occurrence. -/
def react (m : Manager) (occurrence : Occurrence) : Manager :=
  match occurrence with
  | .sent command => m.send command
  | _ =>
    if m.disposed then m
    else
      match occurrence with
      | .sent _ => m
      | .command found => m.takeCommand found
      | .owner owner => if m.watching then m.onOwner owner else m
      | .watchClosed => if m.watching then m.onWatchClosed else m
      | .reply answer => m.onReply answer
      | .cacheRead result => m.onCacheRead result
      | .forsaken => m.dispose

/-- Reacts to an occurrence and does the steps that become due. Putting a command into the queue is
not the proxy's own doing and makes nothing due. -/
def step (m : Manager) (occurrence : Occurrence) : Manager :=
  (m.react occurrence).runDeferred

/-- Reacts to occurrences one after another. -/
def run (m : Manager) (occurrences : List Occurrence) : Manager := occurrences.foldl step m

end Roster.Manager
