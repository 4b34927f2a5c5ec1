import Roster.CacheFile.Basic
import Roster.Config.Basic
import Roster.Environment

/-!
# Where cache files are

The cache file of a manager is `<data directory>/<subdirectory>/<name>.<extension>`, and the first
data directory that has it wins. There are two ways to ask: `find?` looks for one manager's file, and
`list` collects all of them, leaving out entries that are named for no manager.
-/

namespace Roster.CacheFile

/-- The data directories to search, in order: the user's, the shared ones, and those of the
configuration. -/
def searchDirs (env : Environment) (config : Config) : List Path :=
  env.dataHome :: env.dataDirs ++ config.extraDataDirs

/-- The directory of cache files in a data directory. -/
def directory (config : Config) (dataDir : Path) : Path := Path.join dataDir config.managersSubdir

/-- The name of a manager's cache file. -/
def fileName (config : Config) (name : ServiceName) : String :=
  name.text ++ "." ++ config.managerFileExtension

/-- The path of a manager's cache file in a data directory. -/
def path (config : Config) (dataDir : Path) (name : ServiceName) : Path :=
  Path.join (directory config dataDir) (fileName config name)

/-- The first of the data directories' cache files for a manager that is a file. -/
def find? (tree : FileTree) (config : Config) (dirs : List Path) (name : ServiceName) :
    Option Path :=
  (dirs.map fun dir => path config dir name).find? tree.isFile

/-- The manager whose cache file a directory entry would be, by its name alone. -/
def entryOwner? (config : Config) (entry : String) : Option ServiceName :=
  if (Path.splitName entry).2 = some config.managerFileExtension then
    Name.ofText? .service (Path.splitName entry).1
  else none

/-- The entries of one directory that are named like cache files, with their paths; a directory that
does not exist has none. -/
def listDirectory (tree : FileTree) (config : Config) (dir : Path) :
    Except FileFault (List (ServiceName × Path)) :=
  match tree.list dir with
  | .ok entries =>
    .ok (entries.filterMap fun e => (entryOwner? config e).map fun n => (n, Path.join dir e))
  | .error .notFound => .ok []
  | .error fault => .error fault

/-- Adds the entries of managers that the map does not have yet. -/
def addMissing (found : OrderedMap ServiceName Path) (entries : List (ServiceName × Path)) :
    OrderedMap ServiceName Path :=
  entries.foldl (fun m e => if m.contains e.1 then m else m.insert e.1 e.2) found

/-- Lists the directories that are left, in front of what was found before. A directory that cannot
be listed is the fault, with its path. -/
def listFrom (tree : FileTree) (config : Config) (found : OrderedMap ServiceName Path) :
    List Path → Except (Path × FileFault) (OrderedMap ServiceName Path)
  | [] => .ok found
  | dataDir :: rest =>
    match listDirectory tree config (directory config dataDir) with
    | .ok entries => listFrom tree config (addMissing found entries) rest
    | .error fault => .error (directory config dataDir, fault)

/-- Every manager with a cache file in the data directories, with the path in the first directory
that has one. -/
def list (tree : FileTree) (config : Config) (dirs : List Path) :
    Except (Path × FileFault) (OrderedMap ServiceName Path) :=
  listFrom tree config ∅ dirs

end Roster.CacheFile
