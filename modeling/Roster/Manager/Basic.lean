import Roster.Bus.Error
import Roster.CacheFile.Search
import Roster.Gate.Basic
import Roster.InfoSource
import Roster.Reply

/-!
# What is known of a manager

The state of the proxy that stands for one manager: whether the manager runs, what it offers and
where that is known from, the call and the cache read that are on their way, the steps that are due,
and those who wait for the manager to be ready.

The state also keeps what it ever told the outside, as lists that only grow: the events, the answers
to waiters, and the cache files it began to read.
-/

namespace Roster

/-- Why a manager could not be made ready. -/
inductive ManagerError where
  /-- The call to the manager failed. -/
  | transport (error : BusError)
  /-- The manager left while a call to it was waiting for its answer. -/
  | nameOwnerLost (error : BusError)
  /-- The manager's answer cannot be understood. -/
  | malformedReply (fault : ReplyFault)
  /-- There is nothing to learn from. -/
  | noInformation
  /-- The proxy is no longer there. -/
  | disposed
  deriving DecidableEq, Repr

namespace ManagerError

/-- The error in words. -/
def message : ManagerError → String
  | transport e => "introspection failed: " ++ e.message
  | nameOwnerLost e => "manager exited during introspection: " ++ e.message
  | malformedReply f => "malformed introspection reply: " ++ f.message
  | noInformation => "no information source available"
  | disposed => "manager proxy disposed"

end ManagerError

/-- Where a proxy takes its cache file from. -/
inductive CacheSetting where
  /-- From the data directories. -/
  | search
  /-- From this path and nowhere else. -/
  | path (path : Path)
  /-- There is none. -/
  | disabled
  deriving DecidableEq, Repr

namespace CacheSetting

/-- The setting that a text gives: none searches, the empty one disables. -/
def ofText : Option String → CacheSetting
  | none => search
  | some text => if text = "" then disabled else path text

/-- The path that a setting stands for, where a search would give `found`. -/
def resolve (found : Option Path) : CacheSetting → Option Path
  | search => found
  | path p => some p
  | disabled => none

end CacheSetting

/-- Something that happened to a manager. -/
inductive ManagerEvent where
  /-- Its name got an owner. -/
  | activated
  /-- Its name lost its owner, or starting it failed. -/
  | exited
  /-- A call or a cache read ended, and this is the source of what is known now. -/
  | gotInfo (source : InfoSource)
  deriving DecidableEq, Repr

namespace ManagerEvent

/-- The event in words. -/
def text : ManagerEvent → String
  | activated => "activated"
  | exited => "exited"
  | gotInfo source => "got-info(" ++ source.text ++ ")"

end ManagerEvent

/-- Something that is asked of a proxy. Those who expect an answer are known by a number. -/
inductive Command where
  /-- To be told when the manager is ready. -/
  | requestReady (waiter : Nat)
  /-- To start the manager, and to be told whether it will be started. -/
  | activate (waiter : Nat)
  /-- To ask a running manager even if a cache file was read, or not to. -/
  | setAlwaysIntrospect (always : Bool)
  /-- To take the cache file from somewhere else. -/
  | setCacheFile (setting : CacheSetting)
  /-- To stop. -/
  | dispose
  deriving DecidableEq, Repr

/-- The one who awaits the answer to a command, if anyone does. -/
def Command.waiter? : Command → Option Nat
  | requestReady waiter | activate waiter => some waiter
  | setAlwaysIntrospect _ | setCacheFile _ | dispose => none

/-- A step that is done before the next occurrence is looked at. -/
inductive Deferred where
  /-- To begin reading the cache file. -/
  | readCacheFile
  /-- To begin a call to the manager. -/
  | introspect
  deriving DecidableEq, Repr

/-- How a cache read ended. -/
inductive ReadEnd where
  /-- The file was read and gave a description. -/
  | described (description : Description)
  /-- There was no file, it could not be understood, or the reader broke down. -/
  | failed
  /-- The read was cancelled and gave nothing. -/
  | cancelled
  deriving DecidableEq

/-- What everyone may see of a manager. -/
structure Snapshot where
  /-- Whether the manager's name has an owner. -/
  running : Bool := false
  /-- Where what is known comes from. -/
  source : InfoSource := .none
  /-- The manager's protocols. -/
  protocols : ProtocolSet := ∅
  /-- The manager's own interfaces. -/
  interfaces : List String := []
  /-- The cache file in effect. -/
  cacheFile : Option Path := none
  /-- Whether a running manager is asked even if a cache file was read. -/
  alwaysIntrospect : Bool := false
  deriving DecidableEq

/-- The state of the proxy of a manager. -/
structure Manager where
  /-- The manager's name on the bus. -/
  busName : String
  /-- What was asked and not looked at yet. -/
  queue : List Command := []
  /-- Whether the name has an owner, as far as reported. -/
  running : Bool := false
  /-- Whether the owner is known: there was a report, or there will be none. -/
  nameKnown : Bool := false
  /-- Whether starting the manager was asked for before the owner was known. -/
  wantsActivation : Bool := false
  /-- Whether a running manager is asked even if a cache file was read. -/
  alwaysIntrospect : Bool
  /-- Where what is known comes from. -/
  source : InfoSource := .none
  /-- The manager's protocols. -/
  protocols : ProtocolSet := ∅
  /-- The manager's own interfaces, in the order in which they became known. -/
  interfaces : List String := []
  /-- The cache file in effect. -/
  cachePath : Option Path
  /-- The number of the call that is on its way, if there is one. -/
  call : Option Nat := none
  /-- The number of the cache read that is on its way, if there is one. -/
  read : Option Nat := none
  /-- The steps that are due, the next first; none is due twice. -/
  deferred : List Deferred := []
  /-- Those who wait for the manager to be ready. -/
  gate : Gate Nat ManagerError := {}
  /-- A failure that is told only if the cache read on its way fails too. -/
  heldFailure : Option ManagerError := none
  /-- Whether the owner of the name is still watched. -/
  watching : Bool := true
  /-- Whether the proxy has stopped. -/
  disposed : Bool := false
  /-- What everyone may see. -/
  snapshot : Snapshot
  /-- How often a snapshot was published. -/
  publications : Nat := 0
  /-- The events, in order. -/
  events : List ManagerEvent := []
  /-- The answers to those who waited for the manager to be ready, in order. -/
  answers : List (Nat × Outcome ManagerError) := []
  /-- The answers to those who asked for the manager to be started, in order. -/
  activations : List (Nat × Bool) := []
  /-- How many calls were begun; the last one has this number. -/
  callsStarted : Nat := 0
  /-- The cache files of all reads that were begun; the last read has their number. -/
  readsStarted : List Path := []
  deriving DecidableEq

namespace Manager

/-- The proxy of a manager of which nothing is known yet. -/
def start (busName : String) (alwaysIntrospect : Bool) (cachePath : Option Path) : Manager where
  busName := busName
  alwaysIntrospect := alwaysIntrospect
  cachePath := cachePath
  snapshot := { cacheFile := cachePath, alwaysIntrospect := alwaysIntrospect }

end Manager

end Roster
