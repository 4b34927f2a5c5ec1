/-!
# Key files

A key file is a list of groups, each with a name and lines of a key and a value. Names of groups and
keys may repeat. Lines in front of the first group belong to a group without a name.
-/

namespace Roster

/-- A group of a key file. -/
structure KeyGroup where
  /-- The name between the brackets; lines before the first group have none. -/
  name : Option String
  /-- The lines, each a key and a value. -/
  lines : List (String × String)
  deriving DecidableEq, Repr

/-- A key file: its groups from top to bottom. -/
abbrev KeyFile := List KeyGroup

namespace KeyGroup

/-- The value of the first line of a key. -/
def get? (g : KeyGroup) (key : String) : Option String := g.lines.lookup key

end KeyGroup

namespace KeyFile

/-- The first group of a name. -/
def group? (file : KeyFile) (name : String) : Option KeyGroup :=
  file.find? fun g => g.name = some name

end KeyFile

end Roster
