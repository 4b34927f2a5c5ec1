import Roster.Bus.Error
import Roster.Json.Basic
import Roster.OrderedMap

/-!
# The bus

A message bus: services and how they answer, the owners of names, watches on names, and how often
each name was called. Each owner has a unique name that is never given twice.

* **Watches.** A watch is told the owner of its name when it begins and after every change. It keeps
  all that it was told, and how much of that has been taken out. Cancelling a watch takes it off the
  bus; what was told before can still be taken. A watch whose receiver is gone leaves the bus at the
  next change.
* **Calls.** A call to a name without an owner starts the service if it can be started and answers
  with a reply; that is the only way in which a call changes an owner.
-/

namespace Roster

/-- How a service answers. -/
structure Service where
  /-- The answer to the question for all properties. -/
  answer : Except BusError Json
  /-- Whether the bus can start it. -/
  activatable : Bool := true
  /-- For how many milliseconds every answer is held back. -/
  delay : Nat := 0

/-- A watch on the owner of a name. -/
structure Watch where
  /-- The number of the watch. -/
  id : Nat
  /-- The watched name. -/
  busName : String
  /-- Everything the watch was told, in order: an owner, or that there is none. -/
  told : List (Option String)
  /-- How many of the reports have been taken out. -/
  taken : Nat := 0
  /-- Whether the bus still tells it changes. -/
  registered : Bool := true
  /-- Whether anyone can still take reports out. -/
  held : Bool := true
  deriving DecidableEq, Repr

namespace Watch

/-- The reports that nobody has taken out yet. -/
def queued (w : Watch) : List (Option String) := w.told.drop w.taken

/-- Takes the next report out, if there is one. -/
def take? (w : Watch) : Option (Option String × Watch) :=
  match w.queued with
  | [] => none
  | report :: _ => some (report, { w with taken := w.taken + 1 })

/-- Tells the watch a change; one that nobody holds leaves the bus instead. -/
def tell (w : Watch) (owner : Option String) : Watch :=
  if w.registered then
    if w.held then { w with told := w.told ++ [owner] } else { w with registered := false }
  else w

/-- The text that names a watch. -/
def idText (id : Nat) : String := "watch#" ++ toString id

end Watch

/-- A call of a method. -/
structure MethodCall where
  /-- The name that is called. -/
  destination : String
  /-- The object. -/
  objectPath : String
  /-- The interface. -/
  interface : String
  /-- The method. -/
  method : String
  /-- The arguments. -/
  arguments : List Json
  /-- For how many milliseconds the caller waits. -/
  timeout : Nat
  deriving DecidableEq

namespace MethodCall

/-- The interface of properties. -/
def propertiesInterface : String := "org.freedesktop.DBus.Properties"

/-- The question for all properties of an interface. -/
def getAll (destination objectPath interface : String) (timeout : Nat) : MethodCall where
  destination := destination
  objectPath := objectPath
  interface := propertiesInterface
  method := "GetAll"
  arguments := [.str interface]
  timeout := timeout

/-- Whether the call asks for all properties. -/
def isGetAll (c : MethodCall) : Bool := c.interface = propertiesInterface && c.method = "GetAll"

end MethodCall

/-- A message bus. -/
structure Bus where
  /-- The services by bus name. -/
  services : OrderedMap String Service := ∅
  /-- The unique name of the owner of each owned name. -/
  owners : OrderedMap String String := ∅
  /-- Every watch that was ever begun, in order. -/
  watches : List Watch := []
  /-- How often each name was called. -/
  calls : OrderedMap String Nat := ∅
  /-- The error that lists of names give, if they fail. -/
  listingError : Option BusError := none
  /-- How many unique names were given. -/
  uniqueNames : Nat := 0

/-- An answer of the bus, and for how many milliseconds it is held back. -/
structure Answer where
  /-- The answer. -/
  value : Except BusError Json
  /-- The milliseconds. -/
  delay : Nat := 0

namespace Bus

/-- The owner of a name. -/
def owner? (bus : Bus) (busName : String) : Option String := bus.owners.get? busName

/-- How often a name was called. -/
def callCount (bus : Bus) (busName : String) : Nat := (bus.calls.get? busName).getD 0

/-- The watches that the bus tells of changes of a name. -/
def watchers (bus : Bus) (busName : String) : List Watch :=
  bus.watches.filter fun w => w.registered && w.busName = busName

/-! ## Owners -/

/-- Tells the watches of a name about its owner. -/
def notify (bus : Bus) (busName : String) (owner : Option String) : Bus :=
  { bus with
    watches := bus.watches.map fun w => if w.busName = busName then w.tell owner else w }

/-- Gives a name a new owner, and tells the owner's unique name. -/
def setOwner (bus : Bus) (busName : String) : Bus × String :=
  let unique := ":1." ++ toString (bus.uniqueNames + 1)
  let bus := { bus with
    uniqueNames := bus.uniqueNames + 1
    owners := bus.owners.insert busName unique }
  (bus.notify busName (some unique), unique)

/-- Takes the owner of a name away, if it has one. -/
def release (bus : Bus) (busName : String) : Bus :=
  if bus.owners.contains busName then
    { bus with owners := bus.owners.erase busName }.notify busName none
  else bus

/-! ## Services -/

/-- Installs a service. -/
def addService (bus : Bus) (busName : String) (service : Service) : Bus :=
  { bus with services := bus.services.insert busName service }

/-- Sets the reply of a service that exists. -/
def setReply (bus : Bus) (busName : String) (reply : Json) : Bus :=
  match bus.services.get? busName with
  | some service => bus.addService busName { service with answer := .ok reply }
  | none => bus

/-- Makes lists of names fail with an error, or work again. -/
def failListing (bus : Bus) (error : Option BusError) : Bus := { bus with listingError := error }

/-! ## Watches -/

/-- Begins a watch, and tells its number. -/
def watch (bus : Bus) (busName : String) : Bus × Nat :=
  let id := bus.watches.length + 1
  ({ bus with watches := bus.watches ++ [{ id, busName, told := [bus.owner? busName] }] }, id)

/-- Changes the watch of a number. -/
def modifyWatch (bus : Bus) (id : Nat) (f : Watch → Watch) : Bus :=
  { bus with watches := bus.watches.map fun w => if w.id = id then f w else w }

/-- The watch of a number. -/
def watch? (bus : Bus) (id : Nat) : Option Watch := bus.watches.find? fun w => w.id = id

/-- Takes the watch of a number off the bus, if it is on this name. -/
def cancelWatch (bus : Bus) (busName : String) (id : Nat) : Bus :=
  bus.modifyWatch id fun w => if w.busName = busName then { w with registered := false } else w

/-- Lets the receiver of a watch go. -/
def dropWatch (bus : Bus) (id : Nat) : Bus :=
  bus.modifyWatch id fun w => { w with held := false }

/-- Takes out everything that a watch was told since. -/
def drainWatch (bus : Bus) (id : Nat) : Bus :=
  bus.modifyWatch id fun w => { w with taken := w.told.length }

/-! ## Lists -/

/-- The name of the bus itself. -/
def daemonName : String := "org.freedesktop.DBus"

/-- A list of names, unless lists fail. -/
def listing (bus : Bus) (names : List String) : Except BusError (List String) :=
  match bus.listingError with
  | some error => .error error
  | none => .ok (daemonName :: names)

/-- The names that the bus can start, after its own. -/
def activatableNames (bus : Bus) : Except BusError (List String) :=
  bus.listing ((bus.services.toList.filter fun e => e.2.activatable).map Prod.fst)

/-- The names that have owners, after the owners' unique names and the bus's own name. -/
def ownedNames (bus : Bus) : Except BusError (List String) :=
  bus.listing (bus.owners.values ++ bus.owners.keys)

/-! ## Calls -/

/-- Counts a call of a name. -/
def countCall (bus : Bus) (busName : String) : Bus :=
  { bus with calls := bus.calls.insert busName (bus.callCount busName + 1) }

/-- The answer of a service that runs. -/
def serviceAnswer (service : Service) : Answer := ⟨service.answer, service.delay⟩

/-- Takes a call: the bus after it, and the answer. -/
def call (bus : Bus) (c : MethodCall) : Bus × Answer :=
  let bus := bus.countCall c.destination
  match bus.services.get? c.destination with
  | none => (bus, { value := .error (.serviceUnknown c.destination) })
  | some service =>
    if !c.isGetAll then (bus, { value := .error (.unknownMethod c.interface c.method) })
    else if bus.owners.contains c.destination then (bus, serviceAnswer service)
    else if !service.activatable then (bus, { value := .error (.serviceUnknown c.destination) })
    else
      match service.answer with
      | .error e => (bus, { value := .error (.spawnFailed c.destination e.text) })
      | .ok _ => ((bus.setOwner c.destination).1, serviceAnswer service)

end Bus

end Roster
