import Roster.Name
import Roster.Path

/-!
# Configuration

Where managers are found on the bus and in the file tree, how long to wait for them, and the name
mapping that follows from it: a manager `n` has the bus name `busNameStart ++ n`, and a bus name
belongs to the manager whose bus name it is (`serviceName?_eq_some_iff`).
-/

namespace Roster

/-- The settings of the program. -/
structure Config where
  /-- What the bus names of managers begin with. -/
  busNameStart : String := "org.freedesktop.Telepathy.ConnectionManager."
  /-- What the object paths of managers begin with. -/
  objectPathBase : String := "/org/freedesktop/Telepathy/ConnectionManager/"
  /-- The interface whose properties describe a manager. -/
  managerInterface : String := "org.freedesktop.Telepathy.ConnectionManager"
  /-- The directory of cache files below a data directory. -/
  managersSubdir : Path := "telepathy/managers"
  /-- The extension of cache files. -/
  managerFileExtension : String := "manager"
  /-- How many milliseconds a list of bus names may take. -/
  listTimeout : Nat := 2000
  /-- How many milliseconds a call to a manager may take. -/
  callTimeout : Nat := 25000
  /-- Whether to ask running managers even when a cache file was read. -/
  alwaysIntrospect : Bool := false
  /-- Data directories to search after the usual ones. -/
  extraDataDirs : List Path := []
  deriving DecidableEq, Repr, Inhabited

namespace Config

/-- The bus name of a manager. -/
def busName (c : Config) (name : ServiceName) : String := c.busNameStart ++ name.text

/-- The object path of a manager. -/
def objectPath (c : Config) (name : ServiceName) : String := c.objectPathBase ++ name.text

/-- The manager that a bus name belongs to. -/
def serviceName? (c : Config) (busName : String) : Option ServiceName :=
  (Text.stripStart? c.busNameStart busName).bind fun rest => Name.ofText? .service rest

theorem serviceName?_eq_some_iff {c : Config} {busName : String} {name : ServiceName} :
    c.serviceName? busName = some name ↔ busName = c.busName name := by
  unfold serviceName? Config.busName
  simp only [Option.bind_eq_some_iff, Text.stripStart?_eq_some_iff, Name.ofText?_eq_some_iff]
  constructor
  · rintro ⟨_, h, rfl⟩
    exact h
  · intro h
    exact ⟨name.text, h, rfl⟩

end Config

end Roster
