import Roster.Cli.Arguments
import Roster.Cli.Complaint
import Roster.Cli.Report
import Roster.Client.Preparation

/-!
# Running the program

What the program prints and how it ends, from its arguments, the environment and the files it finds.
It ends with 0 if all went well, with 1 and a complaint if a command failed, and with 2 if the
arguments cannot be understood.
-/

namespace Roster.Cli

/-- How the program ends. -/
structure Ending where
  /-- The exit code. -/
  code : Nat
  /-- What is printed as the result. -/
  output : String := ""
  /-- What is printed as the complaint. -/
  complaint : String := ""
  deriving DecidableEq, Repr

/-- What a run of the program depends on. -/
structure World where
  /-- The files. -/
  tree : FileTree
  /-- The environment variables. -/
  env : Environment

namespace World

/-- Whether output has colours: only if they are asked for. -/
def colours (w : World) : Bool := (w.env.get? "CLICOLOR_FORCE").any (· ≠ "0")

/-- The path of the configuration file. -/
def configPath (w : World) (given : Option Path) : Path := given.getD (Config.usualPath w.env)

/-- The configuration. -/
def config (w : World) (given : Option Path) : Except Complaint Config :=
  let path := w.configPath given
  match Config.load w.tree path with
  | .ok config => .ok config
  | .error fault => .error ((Complaint.ofFault fault).within ("failed to load config " ++ path))

/-- A name; a text that is none is a complaint. -/
def named (kind : NameKind) (text : String) : Except Complaint (Name kind) :=
  (Name.read kind text).mapError Complaint.ofFault

/-- The result of checking a name. -/
def checkName (w : World) (text : String) (isProtocol : Bool) : Except Complaint String := do
  if isProtocol then let _ ← named .protocol text else let _ ← named .service text
  let kind := if isProtocol then "protocol" else "manager"
  return Text.Paint.green.apply w.colours "✓" ++ " '" ++ text ++ "' is a valid " ++ kind ++ " name\n"

/-- What a cache file says about the manager of the given name, or of the file's. -/
def inspection (w : World) (file : Path) (name : Option String) : Except Complaint Inspection :=
  match name.or (Path.stem? file) with
  | none => .error ⟨"cannot derive a manager name from " ++ file, []⟩
  | some text =>
    match named .service text with
    | .error c => .error (c.within "use --name to give the manager name")
    | .ok manager =>
      match CacheFile.load w.tree file with
      | .error fault => .error ((Complaint.ofFault fault).within ("failed to read " ++ file))
      | .ok description => .ok ⟨manager, file, description⟩

/-- The managers with cache files. -/
def listed (w : World) (config : Config) : Except Complaint (List Listed) :=
  match CacheFile.installed w.tree config (CacheFile.searchDirs w.env config) with
  | .error fault => .error ((Complaint.ofFault fault).within "failed to scan data directories")
  | .ok found => .ok (found.toList.map fun (manager, file) =>
      match CacheFile.load w.tree file with
      | .ok description => ⟨manager, file, .ok description.protocols.keys⟩
      | .error fault => ⟨manager, file, .error fault.message⟩)

/-- What a manager offers, once it is ready. -/
def prepared (w : World) (config : Config) (text : String) : Except Complaint Prepared := do
  let manager ← named .service text
  let setup : Setup := { config := config, searchDirs := CacheFile.searchDirs w.env config }
  let p := Client.prepare setup w.tree manager
  let unusable := "manager '" ++ text ++ "' has no usable description"
  match p.outcome with
  | some .ready =>
    return ⟨manager, config.busName manager, p.snapshot.source, p.snapshot.cacheFile,
      p.snapshot.protocols⟩
  | some (.failed error) => .error ⟨unusable, [error.message]⟩
  | none => .error ⟨unusable, []⟩

/-- The result of a task. -/
def perform (w : World) (task : Task) : Except Complaint String :=
  match task.command with
  | .checkName name isProtocol => w.checkName name isProtocol
  | .inspect file name asJson => (w.inspection file name).map (·.output w.colours asJson)
  | .list asJson => do
    let config ← w.config task.config
    return Listed.output w.colours asJson (← w.listed config)
  | .prepare name asJson => do
    let config ← w.config task.config
    return (← w.prepared config name).output w.colours asJson

/-- What the program says about its version. -/
def versionText : String := "rollcall 0.1.0\n"

/-- How the program ends. -/
def run (w : World) (arguments : List String) : Ending :=
  match Task.ofArguments arguments with
  | .error .help => { code := 0 }
  | .error .version => { code := 0, output := versionText }
  | .error _ => { code := 2 }
  | .ok task =>
    match w.perform task with
    | .ok output => { code := 0, output := output }
    | .error c => { code := 1, complaint := c.text }

end World

end Roster.Cli
