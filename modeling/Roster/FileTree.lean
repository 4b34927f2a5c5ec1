import Roster.Path
import Roster.Text.Octets

/-!
# File trees

A file tree as a value: files with their octets, directories with their entries, and the directory
from which relative paths start. Looking a path up follows its parts one by one, `..` included, and
fails as a file system does: at a part that is missing, or at a file where a directory is needed. A
slash or a `.` at the end of a path needs a directory.
-/

namespace Roster

/-- Why a file or directory cannot be used. -/
inductive FileFault where
  /-- A part of the path does not exist. -/
  | notFound
  /-- A part of the path is a file where a directory is needed. -/
  | notADirectory
  /-- The path is a directory where a file is needed. -/
  | isADirectory
  /-- The file's octets are no text. -/
  | notText
  /-- The path holds a character that no path can hold. -/
  | badCharacter
  /-- A part of the path is longer than a file name can be. -/
  | nameTooLong
  deriving DecidableEq, Repr

namespace FileFault

/-- The fault in words. -/
def message : FileFault → String
  | notFound => "No such file or directory (os error 2)"
  | notADirectory => "Not a directory (os error 20)"
  | isADirectory => "Is a directory (os error 21)"
  | notText => "stream did not contain valid UTF-8"
  | badCharacter => "file name contained an unexpected NUL byte"
  | nameTooLong => "File name too long (os error 36)"

end FileFault

/-- A file or a directory. -/
inductive Node where
  /-- A file with its octets. -/
  | file (content : List UInt8)
  /-- A directory with its entries. -/
  | dir (entries : List (String × Node))
  deriving Repr, Inhabited

namespace Node

/-- Sets one entry of an entry list. -/
def setEntry (name : String) (node : Node) : List (String × Node) → List (String × Node)
  | [] => [(name, node)]
  | e :: rest => if e.1 = name then (name, node) :: rest else e :: setEntry name node rest

/-- The node with something new at a place below it; directories on the way are made. -/
def write (new : Option Node → Node) : List String → Option Node → Node
  | [], old => new old
  | name :: rest, some (dir entries) =>
    dir (setEntry name (write new rest (entries.lookup name)) entries)
  | name :: rest, _ => dir [(name, write new rest none)]

/-- The node without the entry at a place below it. -/
def remove : List String → Node → Node
  | _, file content => file content
  | [], node => node
  | [name], dir entries => dir (entries.filter fun e => e.1 ≠ name)
  | name :: rest, dir entries =>
    match entries.lookup name with
    | some node => dir (setEntry name (remove rest node) entries)
    | none => dir entries

end Node

/-- A file tree and the directory in which relative paths start. -/
structure FileTree where
  /-- The directory at the top. -/
  root : Node
  /-- The names of the directories from the top to the current one. -/
  current : List String
  deriving Repr, Inhabited

namespace FileTree

/-- The steps that a path takes: its parts, and a last `.` if it needs a directory at its end. -/
def steps (path : Path) : List String :=
  let parts := Text.splitOn '/' path
  parts.filter (· ≠ "") ++ (if parts.getLast? = some "" then ["."] else [])

/-- Follows steps from the innermost of a chain of nested directories, the innermost first. -/
def follow : List String → List Node → Except FileFault (List Node)
  | [], chain => .ok chain
  | _, [] => .error .notFound
  | _ :: _, .file _ :: _ => .error .notADirectory
  | name :: rest, .dir entries :: outer =>
    if name = "." then follow rest (.dir entries :: outer)
    else if name = ".." then
      match outer with
      | [] => follow rest [.dir entries]
      | _ :: _ => follow rest outer
    else if 255 < (Text.octets name).length then .error .nameTooLong
    else
      match entries.lookup name with
      | none => .error .notFound
      | some node => follow rest (node :: .dir entries :: outer)

/-- What a path leads to. -/
def lookup (tree : FileTree) (path : Path) : Except FileFault Node := do
  if path.toList.contains '\x00' then throw .badCharacter
  if path = "" then throw .notFound
  let top ← if Path.isAbsolute path then pure [tree.root] else follow tree.current [tree.root]
  match ← follow (steps path) top with
  | [] => throw .notFound
  | node :: _ => pure node

/-- Whether a path leads to anything. -/
def contains (tree : FileTree) (path : Path) : Bool :=
  match tree.lookup path with
  | .ok _ => true
  | .error _ => false

/-- Whether a path leads to a file. -/
def isFile (tree : FileTree) (path : Path) : Bool :=
  match tree.lookup path with
  | .ok (.file _) => true
  | _ => false

/-- The octets of a file. -/
def read (tree : FileTree) (path : Path) : Except FileFault (List UInt8) := do
  match ← tree.lookup path with
  | .file content => pure content
  | .dir _ => throw .isADirectory

/-- The text of a file. -/
def readText (tree : FileTree) (path : Path) : Except FileFault String := do
  match Text.decode? (← tree.read path) with
  | some text => pure text
  | none => throw .notText

/-- The names in a directory. -/
def list (tree : FileTree) (path : Path) : Except FileFault (List String) := do
  match ← tree.lookup path with
  | .file _ => throw .notADirectory
  | .dir entries => pure (entries.map Prod.fst)

/-! ## Changes -/

/-- The names from the top to the place that a path names, whether or not it exists. -/
def place (tree : FileTree) (path : Path) : List String :=
  let start := if Path.isAbsolute path then [] else tree.current
  ((Path.parts path).foldl (fun at_ p => if p = ".." then at_.drop 1 else p :: at_)
    start.reverse).reverse

/-- The tree with a file of the given octets; directories on the way are made. -/
def writeFile (tree : FileTree) (path : Path) (content : List UInt8) : FileTree :=
  { tree with root := Node.write (fun _ => .file content) (tree.place path) (some tree.root) }

/-- The tree with a directory; directories on the way are made. -/
def makeDirectory (tree : FileTree) (path : Path) : FileTree :=
  { tree with
    root := Node.write (fun old => match old with
      | some (.dir entries) => .dir entries
      | _ => .dir []) (tree.place path) (some tree.root) }

/-- The tree without the file that a path leads to. -/
def removeFile (tree : FileTree) (path : Path) : FileTree :=
  { tree with root := Node.remove (tree.place path) tree.root }

end FileTree

end Roster
