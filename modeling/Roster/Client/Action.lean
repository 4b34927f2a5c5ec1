import Roster.Client.Session

/-!
# What can happen to a client

A client is one of many things that go on at the same time. Its proxies react to whatever the bus
tells them and its discoveries take whatever lists the bus gives them, while others use the registry.
An `Action` is one such happening. Actions follow each other in any order, so a `run` is a list of
them.

A run leaves open how the bus works, how time goes by and whose turn it is. All of that is in
`Action.around`, which may change a client in any way as long as its `core` stays the same. What a
client does by itself when it settles is one of its runs.
-/

namespace Roster

/-- What a client knows apart from the bus, the files, the clock, whose turn it is, the handles and the
logs. -/
structure Core where
  /-- What the client was set up with. -/
  setup : Setup
  /-- Every proxy that was ever made, with its manager's name. -/
  known : List (ServiceName × Manager)
  /-- The registry. -/
  managers : OrderedMap ServiceName Nat
  /-- The discoveries. -/
  discoveries : List Discovery
  /-- The questions of discoveries. -/
  questions : List Question
  /-- How many numbers were given to those who await answers. -/
  waiters : Nat
  /-- The present callers of discoveries. -/
  callers : OrderedMap String Nat
  /-- How many callers there ever were. -/
  callersMade : Nat

/-- What a client knows. -/
def Client.core (c : Client) : Core where
  setup := c.setup
  known := c.proxies.map fun p => (p.name, p.manager)
  managers := c.managers
  discoveries := c.discoveries
  questions := c.questions
  waiters := c.waiters
  callers := c.callers
  callersMade := c.callersMade

/-- Something that happens to a client. -/
inductive Action where
  /-- Somebody asks the registry for the proxy of a manager. -/
  | getManager (name : ServiceName) (setting : CacheSetting)
  /-- Somebody makes the registry stop keeping a name. -/
  | evict (name : ServiceName)
  /-- Somebody asks a proxy something, through a handle. -/
  | request (handle label : String) (kind : RequestKind)
  /-- Somebody sends a proxy a command that nobody awaits an answer to, through a handle. -/
  | tell (handle : String) (command : Command) (silent : command.waiter? = none)
  /-- Somebody begins a discovery. -/
  | search (label : String) (caller : Option String) (callback : Bool)
  /-- A caller of discoveries comes. -/
  | addCaller (name : String)
  /-- A caller of discoveries vanishes. -/
  | dropCaller (name : String)
  /-- A proxy reacts to something. -/
  | proxy (id : Nat) (occurrence : Manager.Occurrence) (own : ∀ command, occurrence ≠ .sent command)
  /-- The bus gives a discovery the list that it awaits. -/
  | list (id : Nat) (answer : Except BusError (List String))
  /-- A discovery does the next thing that it can do by itself. -/
  | discovery (id : Nat)
  /-- A question of a discovery does the next thing that it can do. -/
  | question (id : Nat)
  /-- Something changes that the client does not know. -/
  | around (change : Client → Client) (keeps : ∀ c, (change c).core = c.core)

namespace Client

/-- A client to which nothing has happened yet. -/
def start (setup : Setup) (tree : FileTree) : Client := { setup := setup, tree := tree }

/-- The client after something happened. -/
def act (c : Client) : Action → Client
  | .getManager name setting => (c.getManager name setting).1
  | .evict name => c.evict name
  | .request handle label kind => (c.request handle label kind).1
  | .tell handle command _ => c.tell handle command
  | .search label caller callback => c.search label caller callback
  | .addCaller name => c.addCaller name
  | .dropCaller name => c.dropCaller name
  | .proxy id occurrence _ => c.happen id occurrence
  | .list id answer => c.giveList id answer
  | .discovery id => (c.ownStep? id).getD c
  | .question id => (c.questionStep? id).getD c
  | .around change _ => change c

/-- The client after a number of things happened one after another. -/
def run (c : Client) (actions : List Action) : Client := actions.foldl act c

end Client

end Roster
