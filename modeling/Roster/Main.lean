import Roster.Cli.Needs

/-!
# The program

The outer layer: it looks at the files that a task depends on and at the environment, lets
`Cli.World.run` say what to print, and prints it.
-/

namespace Roster.Cli

/-- The environment variables that matter. -/
def variableNames : List String :=
  ["HOME", "XDG_DATA_HOME", "XDG_DATA_DIRS", "XDG_CONFIG_HOME", "CLICOLOR_FORCE"]

/-- The environment as it is. -/
def readEnvironment : IO Environment := do
  let entries ← variableNames.filterMapM fun name => do
    return (← IO.getEnv name).map fun value => (name, value)
  return ⟨entries⟩

/-- Adds the file at a path to a tree, if there is one. -/
def addFile (tree : FileTree) (path : Path) : IO FileTree := do
  try
    let content ← IO.FS.readBinFile path
    return tree.writeFile path content.toList
  catch _ => return tree

/-- Adds what is at a path to a tree: a file, or a directory with its entries. -/
def addPath (tree : FileTree) (path : Path) : IO FileTree := do
  try
    let place ← IO.FS.realPath path
    if ← place.isDir then
      let entries ← place.readDir
      entries.toList.foldlM (fun tree entry => do
        let inside := Path.join path entry.fileName
        if ← entry.path.isDir then return tree.makeDirectory inside else addFile tree inside)
        (tree.makeDirectory path)
    else addFile tree path
  catch _ => return tree

/-- The files and directories that a task depends on. -/
def readWorld (task : Task) : IO World := do
  let env ← readEnvironment
  let here ← IO.currentDir
  let empty : FileTree := FileTree.makeDirectory ⟨.dir [], Path.parts here.toString⟩ "."
  let files ← (World.filesFor ⟨empty, env⟩ task).foldlM addPath empty
  let tree ← (World.directoriesFor ⟨files, env⟩ task).foldlM addPath files
  return ⟨tree, env⟩

/-- Runs the program on its arguments. -/
def runProgram (arguments : List String) : IO UInt32 := do
  let world ← match Task.ofArguments arguments with
    | .ok task => readWorld task
    | .error _ => pure ⟨⟨.dir [], []⟩, ⟨[]⟩⟩
  let ending := world.run arguments
  IO.print ending.output
  IO.eprint ending.complaint
  return ending.code.toUInt32

end Roster.Cli

/-- The program. -/
def main (arguments : List String) : IO UInt32 := Roster.Cli.runProgram arguments
