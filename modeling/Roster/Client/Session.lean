import Roster.Client.Clock

/-!
# Working with a client

What somebody does with a client from outside: holding proxies by handles, asking them for things,
searching for all managers, and looking at what has become of it all. Asking only sends commands; the
client itself runs when it is told to settle.

Through each handle the events of a proxy are observed once. A handle keeps at most the last
sixty-four events for its next observation and says how many it lost.
-/

namespace Roster.Client

/-! ## Handles -/

/-- Keeps a proxy under a handle, in place of an earlier handle of that name. Events that came before
are not observed through it. -/
def hold (c : Client) (handle : String) (proxy : Nat) : Client :=
  let eventsSeen := match c.proxy? proxy with
    | some p => p.manager.events.length
    | none => 0
  { c with handles := c.handles.insert handle { proxy := proxy, eventsSeen := eventsSeen } }

/-- Forgets a handle. -/
def dropHandle (c : Client) (handle : String) : Client :=
  { c with handles := c.handles.erase handle }

/-- The proxy under a handle. -/
def held? (c : Client) (handle : String) : Option Nat := (c.handles.get? handle).map (·.proxy)

/-- What everyone may see of the proxy of a number. -/
def snapshot (c : Client) (id : Nat) : Snapshot :=
  match c.proxy? id with
  | some p => p.manager.snapshot
  | none => {}

/-- Sends a command through a handle. -/
def tell (c : Client) (handle : String) (command : Command) : Client :=
  match c.held? handle with
  | some id => c.send id command
  | none => c

/-! ## Observations -/

/-- What is seen of a proxy through a handle. -/
structure Observation where
  /-- How many events were lost. -/
  lost : Nat
  /-- The events since the last observation, without the lost ones. -/
  events : List ManagerEvent
  /-- Whether a snapshot was published since; nothing is known once the proxy has stopped. -/
  changed : Option Bool
  /-- What everyone may see. -/
  snapshot : Snapshot
  /-- Whether the proxy has stopped. -/
  disposed : Bool

/-- How many events a handle keeps. -/
def eventCapacity : Nat := 64

/-- What is seen of a proxy that was observed so far as a handle says. -/
def observation (m : Manager) (h : Handle) : Observation :=
  let fresh := m.events.drop h.eventsSeen
  let lost := fresh.length - eventCapacity
  { lost := lost
    events := fresh.drop lost
    changed := if m.disposed then none else some (h.publicationsSeen < m.publications)
    snapshot := m.snapshot
    disposed := m.disposed }

/-- Observes the proxies of all handles. -/
def observe (c : Client) : Client × List (String × Observation) :=
  let seen := c.handles.toList.filterMap fun (name, h) =>
    (c.proxy? h.proxy).map fun p => (name, h, p.manager)
  let handles := OrderedMap.ofList (seen.map fun (name, h, m) =>
    (name, { h with eventsSeen := m.events.length, publicationsSeen := m.publications }))
  ({ c with handles := handles }, seen.map fun (name, h, m) => (name, observation m h))

/-! ## Questions and searches -/

/-- How something that was asked ended. -/
inductive Ending where
  /-- The manager is ready, or could not be made ready. -/
  | ready (outcome : Outcome ManagerError)
  /-- The manager will be started, or not. -/
  | activate (started : Bool)
  /-- A search is over. -/
  | search (callback : Bool) (outcome : DiscoveryOutcome)

/-- How a question to a proxy ended, if it did. -/
def requestEnding? (c : Client) (r : Request) : Option Ending :=
  (c.proxy? r.proxy).bind fun p =>
    match r.kind with
    | .ready => (p.manager.answers.lookup r.waiter).map .ready
    | .activate => (p.manager.activations.lookup r.waiter).map .activate

/-- How a search ended, if it did. -/
def searchEnding? (c : Client) (s : Search) : Option Ending :=
  (c.discoveries[s.discovery]?).bind fun d =>
    match d.stage with
    | .done outcome => some (.search d.callback (if d.callback then d.called else outcome))
    | _ => none

/-- Asks a proxy something through a handle. An ending that is there at once is given at once. -/
def request (c : Client) (handle label : String) (kind : RequestKind) : Client × Option Ending :=
  match c.held? handle with
  | none => (c, none)
  | some proxy =>
    let (c, waiter) := c.freshWaiter
    let c := c.send proxy (kind.command waiter)
    let r : Request := { label := label, kind := kind, proxy := proxy, waiter := waiter }
    match c.requestEnding? r with
    | some ending => (c, some ending)
    | none => ({ c with requests := c.requests ++ [r] }, none)

/-- The number of the caller by a name, or one that nobody has if there is no such caller. -/
def callerNumber (c : Client) (caller : Option String) : Option Nat :=
  caller.map fun name => (c.callers.get? name).getD c.callersMade

/-- Begins a search for all managers; a caller by a name that nobody has is gone already. -/
def search (c : Client) (label : String) (caller : Option String) (callback : Bool) : Client :=
  let (c, discovery) :=
    { c with callersMade := c.callersMade + 1 }.beginDiscovery (c.callerNumber caller) callback
  let s : Search := { label := label, discovery := discovery }
  { c with searches := c.searches ++ [s] }

/-- Makes a caller, in place of an earlier one of that name. -/
def addCaller (c : Client) (name : String) : Client :=
  { c with callers := c.callers.insert name c.callersMade, callersMade := c.callersMade + 1 }

/-- Lets a caller vanish. -/
def dropCaller (c : Client) (name : String) : Client := { c with callers := c.callers.erase name }

/-- Gives every ending that has come. -/
def takeEndings (c : Client) : Client × List (String × Ending) :=
  let requests := c.requests.map fun r => (r, c.requestEnding? r)
  let searches := c.searches.map fun s => (s, c.searchEnding? s)
  ({ c with
      requests := (requests.filter fun (_, e) => e.isNone).map Prod.fst
      searches := (searches.filter fun (_, e) => e.isNone).map Prod.fst },
    (requests.filterMap fun (r, e) => e.map fun e => (r.label, e))
      ++ searches.filterMap fun (s, e) => e.map fun e => (s.label, e))

/-! ## Watches that the bus does not know -/

/-- The numbers of the proxies with such a watch on a name, as long as it goes on. -/
def apartOn (c : Client) (busName : String) : List Nat :=
  (c.proxies.zipIdx.filter fun (p, _) =>
    match p.watch with
    | .apart w => w.busName = busName && w.registered && w.held
    | .onBus _ => false).map Prod.snd

/-- Changes the watches of proxies, and makes them ready. -/
def changeWatches (c : Client) (f : Watch → Watch) (ids : List Nat) : Client :=
  ids.foldl (fun c i => (c.modifyWatch i f).wake (.proxy i)) c

/-- Reports an owner to all such watches on a name, and tells how many took it. -/
def report (c : Client) (busName : String) (owner : Option String) : Client × Nat :=
  let ids := c.apartOn busName
  (c.changeWatches (·.tell owner) ids, ids.length)

/-- Ends all such watches on a name, and tells how many there were. -/
def closeWatches (c : Client) (busName : String) : Client × Nat :=
  let ids := c.apartOn busName
  (c.changeWatches (fun w => { w with registered := false }) ids, ids.length)

/-! ## Logs -/

/-- Lists the calls that were sent since the last time, those to one name together. -/
def takeCalls (c : Client) : Client × List MethodCall :=
  ({ c with callLog := [] },
    c.callLog.mergeSort fun a b => a.destination < b.destination || a.destination = b.destination)

/-- Lists the cache reads that were begun since the last time, as texts in order. -/
def takeReads (c : Client) : Client × List String :=
  ({ c with readLog := [] },
    (c.readLog.map fun (name, path) => name.text ++ " " ++ path).mergeSort fun a b => a ≤ b)

end Roster.Client
