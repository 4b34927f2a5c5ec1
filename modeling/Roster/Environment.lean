import Roster.Path

/-!
# Environment variables

The variables that a call sees, and the directories that follow from them. A base directory from a
variable counts only if it is absolute; otherwise it lies in the home directory.
-/

namespace Roster

/-- The variables that are set, each with its value. -/
structure Environment where
  /-- Names and values; the first value of a name counts. -/
  entries : List (String × String)
  deriving DecidableEq, Repr, Inhabited

namespace Environment

/-- The value of a variable that is set. -/
def get? (env : Environment) (name : String) : Option String := env.entries.lookup name

/-- The home directory. -/
def home (env : Environment) : Path := (env.get? "HOME").getD ""

/-- The directory that a variable names, or its place in the home directory. -/
def baseDirectory (env : Environment) (name : String) (inHome : Path) : Path :=
  match (env.get? name).filter fun p => Path.isAbsolute p with
  | some path => path
  | none => Path.join env.home inHome

/-- The user's data directory. -/
def dataHome (env : Environment) : Path := env.baseDirectory "XDG_DATA_HOME" ".local/share"

/-- The user's configuration directory. -/
def configHome (env : Environment) : Path := env.baseDirectory "XDG_CONFIG_HOME" ".config"

/-- The shared data directories, in order: those of the variable that are not empty, or the usual
two. -/
def dataDirs (env : Environment) : List Path :=
  match (Text.splitOn ':' ((env.get? "XDG_DATA_DIRS").getD "")).filter (· ≠ "") with
  | [] => ["/usr/local/share", "/usr/share"]
  | dirs => dirs

end Environment

end Roster
