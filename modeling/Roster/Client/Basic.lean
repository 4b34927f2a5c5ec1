import Roster.Bus.Basic
import Roster.Countdown
import Roster.Manager.Step

/-!
# The client of a bus

A client holds the proxies of the managers that it was asked for. Its registry keeps one proxy for
each name until the name is evicted; others hold proxies through handles, through questions that are
not answered yet, and through searches for all managers (discoveries). A proxy that nobody holds any
more stops.

This module has the state of a client: the files and the bus it sees, the clock, the proxies, the
discoveries and the tasks that are ready to run. The rules by which it changes are in the modules for
the registry, for proxies, for discoveries and for the clock.
-/

namespace Roster

/-- Where the watches on owners get their reports from. -/
inductive WatchMode where
  /-- From the bus. -/
  | bus
  /-- Every watch ends before it reports anything. -/
  | closing
  /-- From whoever drives the client. -/
  | manual
  deriving DecidableEq, Repr

/-- What a client is set up with. -/
structure Setup where
  /-- The settings. -/
  config : Config := {}
  /-- The data directories that are searched for cache files. -/
  searchDirs : List Path := []
  /-- Where watches get their reports from. -/
  watchMode : WatchMode := .bus
  /-- For how many milliseconds the list of names that can be started is held back. -/
  activatableDelay : Nat := 0
  /-- For how many milliseconds the list of owned names is held back. -/
  ownedDelay : Nat := 0
  /-- Whether reading a cache file breaks down, whatever the file holds. -/
  brokenReader : Bool := false
  deriving DecidableEq, Repr

/-- The watch of a proxy on its manager's name. -/
inductive ProxyWatch where
  /-- The watch of this number on the bus. -/
  | onBus (id : Nat)
  /-- A watch that the bus does not know. -/
  | apart (watch : Watch)
  deriving DecidableEq, Repr

/-- A call that was sent: when its answer counts, and what it is. -/
structure SentCall where
  /-- The number of the call. -/
  number : Nat
  /-- The time at which the answer is there. -/
  due : Nat
  /-- The answer. -/
  answer : Except BusError Json

/-- A cache read that is over. -/
structure FinishedRead where
  /-- The number of the read. -/
  number : Nat
  /-- How it ended. -/
  result : ReadEnd
  deriving DecidableEq

/-- A proxy with what is on its way for it. -/
structure Proxy where
  /-- The manager's name. -/
  name : ServiceName
  /-- The state of the proxy. -/
  manager : Manager
  /-- Its watch. -/
  watch : ProxyWatch
  /-- The call that was sent last. -/
  sent : Option SentCall := none
  /-- The cache read that ended last. -/
  finished : Option FinishedRead := none

/-- A list of names that a discovery asks the bus for. -/
inductive Listing where
  /-- The names that can be started. -/
  | activatable
  /-- The names that have owners. -/
  | owned
  deriving DecidableEq, Repr

namespace Listing

/-- The method that gives the list. -/
def method : Listing → String
  | activatable => "ListActivatableNames"
  | owned => "ListNames"

end Listing

/-- How a discovery ended. -/
inductive DiscoveryOutcome where
  /-- Every manager found, by its proxy, in the order of names. -/
  | complete (found : List (ServiceName × Nat))
  /-- The one who asked was gone. -/
  | callerGone
  /-- A list of names failed. -/
  | failed (error : BusError)
  deriving DecidableEq, Repr

/-- What a callback gets when a discovery has ended; one whose caller was gone gets nothing. -/
def DiscoveryOutcome.delivery :
    DiscoveryOutcome → Option (Except BusError (List (ServiceName × Nat)))
  | complete found => some (.ok found)
  | callerGone => none
  | failed e => some (.error e)

/-- Where a discovery is. -/
inductive DiscoveryStage where
  /-- Nothing was done yet. -/
  | start
  /-- A list is awaited until a time; if it does not come by then, it will not. -/
  | listing (which : Listing) (due : Nat) (timely : Bool)
  /-- A list is there, and these of its names were not looked at yet. -/
  | collecting (which : Listing) (busNames : List String)
  /-- Everyone found is asked; these proxies were not asked yet. -/
  | asking (proxies : List Nat) (countdown : Countdown)
  /-- Everyone found is awaited. -/
  | waiting (countdown : Countdown)
  /-- It is over. -/
  | done (outcome : DiscoveryOutcome)
  deriving DecidableEq, Repr

/-- A search for all managers. -/
structure Discovery where
  /-- The one who asked, if the search is for anyone in particular. -/
  caller : Option Nat
  /-- Whether the outcome goes to a callback. -/
  callback : Bool := false
  /-- Where the search is. -/
  stage : DiscoveryStage := .start
  /-- The proxies found so far. -/
  found : OrderedMap ServiceName Nat := ∅
  /-- What the callback was called with, in order. -/
  calls : List (Except BusError (List (ServiceName × Nat))) := []

namespace Discovery

/-- Whether a discovery still holds the proxy of a number. -/
def holds (d : Discovery) (id : Nat) : Bool :=
  match d.stage with
  | .done _ => false
  | _ => id ∈ d.found.values

/-- Ends a discovery. -/
def finish (d : Discovery) (outcome : DiscoveryOutcome) : Discovery :=
  { d with
    stage := .done outcome
    calls := d.calls ++ if d.callback then outcome.delivery.toList else [] }

/-- Takes a list of names, where the caller is alive or not. -/
def hear (d : Discovery) (alive : Bool) (which : Listing)
    (answer : Except BusError (List String)) : Discovery :=
  if alive then
    match answer with
    | .ok busNames => { d with stage := .collecting which busNames }
    | .error e => d.finish (.failed e)
  else d.finish .callerGone

/-- Ends a discovery for which everyone has answered, where the caller is alive or not. -/
def conclude (d : Discovery) (alive : Bool) : Discovery :=
  d.finish (if alive then .complete d.found.toList else .callerGone)

/-- Counts an answer. -/
def arrive (d : Discovery) : Discovery :=
  match d.stage with
  | .asking proxies countdown => { d with stage := .asking proxies countdown.arrive.1 }
  | .waiting countdown => { d with stage := .waiting countdown.arrive.1 }
  | _ => d

/-- Whether everyone who is awaited has answered. -/
def isAnswered (d : Discovery) : Bool :=
  match d.stage with
  | .waiting countdown => countdown.returned.all (· = true)
  | _ => false

/-- The outcome as it shows from what the callback was called with. -/
def called (d : Discovery) : DiscoveryOutcome :=
  match d.calls.head? with
  | some (.ok found) => .complete found
  | some (.error e) => .failed e
  | none => .callerGone

end Discovery

/-- A question of a discovery to a proxy, whether it is ready. -/
structure Question where
  /-- The discovery. -/
  discovery : Nat
  /-- The proxy. -/
  proxy : Nat
  /-- The number under which the answer comes, once the question was sent. -/
  waiter : Option Nat := none
  /-- Whether the answer was counted. -/
  counted : Bool := false
  deriving DecidableEq, Repr

/-- Something that runs on its own. -/
inductive ClientTask where
  /-- The proxy of a number. -/
  | proxy (id : Nat)
  /-- The discovery of a number. -/
  | discovery (id : Nat)
  /-- The question of a number. -/
  | question (id : Nat)
  deriving DecidableEq, Repr

/-- What somebody asked a proxy and awaits the answer to. -/
inductive RequestKind where
  /-- To be told when the manager is ready. -/
  | ready
  /-- To start the manager. -/
  | activate
  deriving DecidableEq, Repr

/-- The command that asks a proxy, for somebody who awaits the answer. -/
def RequestKind.command : RequestKind → Nat → Command
  | ready => .requestReady
  | activate => .activate

/-- A question to a proxy from outside. -/
structure Request where
  /-- The label under which its answer is given. -/
  label : String
  /-- What was asked. -/
  kind : RequestKind
  /-- The proxy. -/
  proxy : Nat
  /-- The number under which the answer comes. -/
  waiter : Nat
  deriving DecidableEq, Repr

/-- A discovery from outside. -/
structure Search where
  /-- The label under which its outcome is given. -/
  label : String
  /-- The discovery. -/
  discovery : Nat
  deriving DecidableEq, Repr

/-- A handle on a proxy, with what was observed through it. -/
structure Handle where
  /-- The proxy. -/
  proxy : Nat
  /-- How many of its events were observed, or came before the handle. -/
  eventsSeen : Nat
  /-- How many of its snapshots were observed. -/
  publicationsSeen : Nat := 0
  deriving DecidableEq, Repr

/-- A client of a bus. -/
structure Client where
  /-- What it was set up with. -/
  setup : Setup
  /-- The files. -/
  tree : FileTree
  /-- The bus. -/
  bus : Bus := {}
  /-- The time in milliseconds. -/
  now : Nat := 0
  /-- Every proxy that was ever made; its place is its number. -/
  proxies : List Proxy := []
  /-- The registry: the proxy held for each name. -/
  managers : OrderedMap ServiceName Nat := ∅
  /-- Every discovery that was ever begun; its place is its number. -/
  discoveries : List Discovery := []
  /-- Every question of a discovery; its place is its number. -/
  questions : List Question := []
  /-- The tasks that are ready, the next first; none is ready twice. -/
  ready : List ClientTask := []
  /-- Whether cache reads that have begun do not end. -/
  holdsReads : Bool := false
  /-- The handles by name. -/
  handles : OrderedMap String Handle := ∅
  /-- The questions from outside whose answers were not given yet. -/
  requests : List Request := []
  /-- The discoveries from outside whose outcomes were not given yet. -/
  searches : List Search := []
  /-- The present callers of discoveries by name. -/
  callers : OrderedMap String Nat := ∅
  /-- How many callers there ever were. -/
  callersMade : Nat := 0
  /-- How many numbers were given to those who await answers. -/
  waiters : Nat := 0
  /-- The calls that were sent and not listed yet, in order. -/
  callLog : List MethodCall := []
  /-- The cache reads that were begun and not listed yet, in order. -/
  readLog : List (ServiceName × Path) := []

namespace Client

/-- The proxy of a number. -/
def proxy? (c : Client) (id : Nat) : Option Proxy := c.proxies[id]?

/-- Makes a task ready. -/
def wake (c : Client) (task : ClientTask) : Client :=
  if task ∈ c.ready then c else { c with ready := c.ready ++ [task] }

/-- Changes the proxy of a number. -/
def modifyProxy (c : Client) (id : Nat) (f : Proxy → Proxy) : Client :=
  { c with proxies := c.proxies.modify id f }

/-- Whether anyone holds the proxy of a number. -/
def isHeld (c : Client) (id : Nat) : Bool :=
  id ∈ c.managers.values
    || c.handles.values.any (·.proxy = id)
    || c.requests.any (·.proxy = id)
    || c.discoveries.any (·.holds id)
    || c.questions.any fun q => q.proxy = id && !q.counted

/-- A new number for somebody who awaits an answer. -/
def freshWaiter (c : Client) : Client × Nat := ({ c with waiters := c.waiters + 1 }, c.waiters)

/-- Whether the one who asked for a discovery is still there. -/
def callerAlive (c : Client) (caller : Option Nat) : Bool :=
  match caller with
  | none => true
  | some id => id ∈ c.callers.values

end Client

end Roster
