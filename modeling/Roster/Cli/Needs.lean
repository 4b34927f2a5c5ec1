import Roster.Cli.Run

/-!
# What a run looks at

The files and directories that a task depends on. The files come first, because the configuration says
which directories there are.
-/

namespace Roster.Cli.World

/-- The files that a task reads in any case. -/
def filesFor (w : World) (task : Task) : List Path :=
  match task.command with
  | .checkName _ _ => []
  | .inspect file _ _ => [file]
  | .list _ | .prepare _ _ => [w.configPath task.config]

/-- The directories in which a task looks for cache files. -/
def directoriesFor (w : World) (task : Task) : List Path :=
  match task.command with
  | .checkName _ _ | .inspect _ _ _ => []
  | .list _ | .prepare _ _ =>
    match w.config task.config with
    | .error _ => []
    | .ok config => (CacheFile.searchDirs w.env config).map (CacheFile.directory config)

end Roster.Cli.World
