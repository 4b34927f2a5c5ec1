import Roster.Text.Blank

/-!
# Paths

Paths are texts whose parts are separated by slashes. Repeated slashes, a slash at the end and parts
`.` after the first say nothing. The last part of a path, if it is not `..`, is its file name; a dot
in it that is not its first character separates the stem from the extension.
-/

namespace Roster

/-- A path as text. -/
abbrev Path := String

namespace Path

/-- Whether the path starts at the root. -/
def isAbsolute (path : Path) : Bool := path.toList.head? = some '/'

/-- The path of `tail` seen from `base`; an absolute one stands for itself. -/
def join (base tail : Path) : Path :=
  if isAbsolute tail then tail
  else if base = "" ∨ base.toList.getLast? = some '/' then base ++ tail
  else base ++ "/" ++ tail

/-- The parts of a path that name something: all but empty ones and `.`. -/
def parts (path : Path) : List String :=
  (Text.splitOn '/' path).filter fun p => p ≠ "" ∧ p ≠ "."

/-- The last part of a path, if it names something. -/
def fileName? (path : Path) : Option String :=
  (parts path).getLast?.filter (· ≠ "..")

/-- What stands before and after the last dot of a file name. A dot in front of all else separates
nothing. -/
def splitName (name : String) : String × Option String :=
  let cs := name.toList.reverse
  let after := cs.takeWhile (· ≠ '.')
  match cs.dropWhile (· ≠ '.') with
  | _ :: d :: before => (String.ofList (d :: before).reverse, some (String.ofList after.reverse))
  | _ => (name, none)

/-- The file name without its extension. -/
def stem? (path : Path) : Option String := (fileName? path).map fun n => (splitName n).1

end Path

end Roster
