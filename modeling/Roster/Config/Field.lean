import Roster.Config.Basic

/-!
# Fields of the configuration

The fields of a configuration file, in the order in which they are written.
-/

namespace Roster.Config

/-- A field of the configuration file. -/
inductive Field where
  /-- What bus names begin with. -/
  | busNameStart
  /-- What object paths begin with. -/
  | objectPathBase
  /-- The interface that describes a manager. -/
  | managerInterface
  /-- The directory of cache files. -/
  | managersSubdir
  /-- The extension of cache files. -/
  | managerFileExtension
  /-- The time for a list of bus names. -/
  | listTimeout
  /-- The time for a call. -/
  | callTimeout
  /-- Whether to ask running managers in any case. -/
  | alwaysIntrospect
  /-- More data directories. -/
  | extraDataDirs
  deriving DecidableEq, Repr

namespace Field

/-- All fields, in the order of the file. -/
def all : List Field :=
  [busNameStart, objectPathBase, managerInterface, managersSubdir, managerFileExtension, listTimeout,
    callTimeout, alwaysIntrospect, extraDataDirs]

/-- The key of a field. -/
def key : Field → String
  | busNameStart => "bus_name_prefix"
  | objectPathBase => "object_path_base"
  | managerInterface => "manager_interface"
  | managersSubdir => "managers_subdir"
  | managerFileExtension => "manager_file_extension"
  | listTimeout => "list_timeout_ms"
  | callTimeout => "call_timeout_ms"
  | alwaysIntrospect => "always_introspect"
  | extraDataDirs => "extra_data_dirs"

/-- The field with a key. -/
def ofKey? (key : String) : Option Field := all.find? (·.key = key)

theorem mem_all (f : Field) : f ∈ all := by cases f <;> decide

theorem ofKey?_key (f : Field) : ofKey? f.key = some f := by cases f <;> decide

end Field

end Roster.Config
