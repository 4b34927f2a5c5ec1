import Roster.CacheFile.Search
import Roster.Config.Reader

/-!
# Faults

What can go wrong with names, cache files and configuration, by cause, and the message for each.
-/

namespace Roster

/-- What went wrong. -/
inductive Fault where
  /-- A text is no name. -/
  | invalidName (kind : NameKind) (text : String) (cause : NameFault)
  /-- A cache file gives no description. -/
  | cacheUnavailable (path : Path) (cause : CacheFault)
  /-- A file or directory cannot be used. -/
  | file (path : Path) (cause : FileFault)
  /-- A file gives no configuration. -/
  | config (path : Path) (cause : Config.Fault)
  deriving DecidableEq, Repr

namespace Fault

/-- The fault in words. -/
def message : Fault → String
  | invalidName kind text cause => cause.message kind text
  | cacheUnavailable path cause => cause.message path
  | file path cause => "I/O error at " ++ path ++ ": " ++ cause.message
  | config path cause => "failed to parse config at " ++ path ++ ": " ++ cause.message

/-- What lies behind the fault, in words, if it was passed on from a file. -/
def cause? : Fault → Option String
  | invalidName _ _ _ => none
  | cacheUnavailable _ _ => none
  | file _ cause => some cause.message
  | config _ cause => some cause.message

end Fault

/-- The name in a text; a text that is none is a fault. -/
def Name.read (kind : NameKind) (text : String) : Except Fault (Name kind) :=
  match Name.ofText kind text with
  | .ok name => .ok name
  | .error cause => .error (.invalidName kind text cause)

namespace CacheFile

/-- The description in the cache file at a path; a file that gives none is a fault. -/
def load (tree : FileTree) (path : Path) : Except Fault Description :=
  match read tree path with
  | .ok description => .ok description
  | .error cause => .error (.cacheUnavailable path cause)

/-- Every manager with a cache file; a directory that cannot be listed is a fault. -/
def installed (tree : FileTree) (config : Config) (dirs : List Path) :
    Except Fault (OrderedMap ServiceName Path) :=
  match list tree config dirs with
  | .ok found => .ok found
  | .error (path, cause) => .error (.file path cause)

end CacheFile

namespace Config

/-- The configuration in the file at a path. A file that is missing or blank says nothing. -/
def load (tree : FileTree) (path : Path) : Except Roster.Fault Config :=
  if tree.contains path then
    match tree.readText path with
    | .error cause => .error (.file path cause)
    | .ok text =>
      if Text.trim text = "" then .ok {}
      else
        match ofText text with
        | .error cause => .error (.config path cause)
        | .ok config => .ok config
  else .ok {}

/-- Where the configuration of a user lies. -/
def usualPath (env : Environment) : Path :=
  Path.join (Path.join env.configHome "rollcall") "config.yaml"

end Config

end Roster
