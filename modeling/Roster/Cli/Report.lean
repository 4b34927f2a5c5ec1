import Roster.Protocol
import Roster.InfoSource
import Roster.Json.Printer
import Roster.Path
import Roster.Text.Paint
import Roster.Text.Table

/-!
# Reports

What the commands print of managers and protocols, for people (`text`) and for programs (`json`). The
default of a secret parameter is not shown to people.
-/

namespace Roster

open Text (Paint)

namespace ParamSpec

/-- What people are shown of the default. -/
def defaultText (s : ParamSpec) : String :=
  match s.default with
  | none => ""
  | some value => if s.flags.secret then "(hidden)" else value.text

/-- The cells of a table of parameters. -/
def cells (s : ParamSpec) : List String :=
  [s.name, s.signature, " ".intercalate s.flags.words, s.defaultText]

/-- The parameter for programs. -/
def json (s : ParamSpec) : Json :=
  .obj [("name", .str s.name), ("signature", .str s.signature),
    ("flags", .arr (s.flags.words.map .str)), ("default", (s.default.map ParamValue.toJson).getD .null)]

end ParamSpec

namespace Protocol

/-- The first line about a protocol. -/
def heading (colours : Bool) (p : Protocol) : String :=
  Paint.bold.apply colours (p.name.text ++ " (" ++ p.englishName ++ ")") ++
    (if p.canRegister then " " ++ Paint.green.apply colours "[can register]" else "")

/-- The table of the parameters, or that there are none. -/
def paramsText (colours : Bool) (p : Protocol) : String :=
  if p.params = [] then "  " ++ Paint.grey.apply colours "no parameters"
  else Text.Table.text ["param", "type", "flags", "default"] (p.params.map ParamSpec.cells)

/-- The protocol for people. -/
def text (colours : Bool) (p : Protocol) : String :=
  let field := match p.vcardField with
    | some field => "  vCard field: " ++ field ++ "\n"
    | none => ""
  p.heading colours ++ "\n" ++ field ++ "  icon: " ++ p.iconName ++ "\n" ++ p.paramsText colours ++ "\n"

/-- The protocol for programs. -/
def json (p : Protocol) : Json :=
  .obj [("name", .str p.name.text), ("english_name", .str p.englishName), ("icon", .str p.iconName),
    ("vcard_field", (p.vcardField.map Json.str).getD .null), ("can_register", .bool p.canRegister),
    ("interfaces", .arr (p.interfaces.toList.map .str)),
    ("connection_interfaces", .arr (p.connectionInterfaces.map .str)),
    ("authentication_types", .arr (p.authenticationTypes.map .str)),
    ("params", .arr (p.params.map ParamSpec.json))]

end Protocol

namespace ProtocolSet

/-- The protocols for people, each behind an empty line. -/
def text (colours : Bool) (protocols : ProtocolSet) : String :=
  String.join (protocols.values.map fun p => "\n" ++ p.text colours)

/-- The protocols for programs. -/
def json (protocols : ProtocolSet) : Json := .arr (protocols.values.map Protocol.json)

/-- How many protocols there are, in words. -/
def countText (protocols : ProtocolSet) : String := toString protocols.size ++ " protocols"

end ProtocolSet

namespace Cli

/-- What a program reads: the notation of a value, with a line end behind it. -/
def printed (value : Json) : String := value.pretty ++ "\n"

/-- What a cache file says. -/
structure Inspection where
  /-- The manager. -/
  manager : ServiceName
  /-- The path of the file. -/
  file : Path
  /-- What it says. -/
  description : Description

namespace Inspection

/-- The inspection for people. -/
def text (colours : Bool) (i : Inspection) : String :=
  let interfaces := i.description.interfaces.map fun name => "interface: " ++ name ++ "\n"
  i.manager.text ++ " | " ++ i.description.protocols.countText ++ " | " ++ i.file ++ "\n" ++
    String.join interfaces ++ i.description.protocols.text colours

/-- The inspection for programs. -/
def json (i : Inspection) : Json :=
  .obj [("manager", .str i.manager.text), ("path", .str i.file),
    ("interfaces", .arr (i.description.interfaces.map .str)),
    ("protocols", i.description.protocols.json)]

/-- What is printed. -/
def output (colours asJson : Bool) (i : Inspection) : String :=
  if asJson then printed i.json else i.text colours

end Inspection

/-- A manager with a cache file. -/
structure Listed where
  /-- The manager. -/
  manager : ServiceName
  /-- The path of its cache file. -/
  file : Path
  /-- The names of its protocols, or why the file gives none. -/
  protocols : Except String (List ProtocolName)

namespace Listed

/-- The cells of a table of managers. -/
def cells (colours : Bool) (l : Listed) : List String :=
  let protocols := match l.protocols with
    | .ok names => ", ".intercalate (names.map (·.text))
    | .error reason => Paint.yellow.apply colours ("unreadable: " ++ reason)
  [l.manager.text, protocols, l.file]

/-- The manager for programs. -/
def json (l : Listed) : Json :=
  let (names, reason) := match l.protocols with
    | .ok names => (names, Json.null)
    | .error reason => ([], .str reason)
  .obj [("manager", .str l.manager.text), ("path", .str l.file),
    ("protocols", .arr (names.map fun n => .str n.text)), ("error", reason)]

/-- What is printed of the managers that were found. -/
def output (colours asJson : Bool) (found : List Listed) : String :=
  if asJson then printed (.arr (found.map json))
  else if found.isEmpty then "No managers installed.\n"
  else Text.Table.text ["manager", "protocols", "file"] (found.map (cells colours)) ++ "\n"

end Listed

/-- What a manager offers that was prepared. -/
structure Prepared where
  /-- The manager. -/
  manager : ServiceName
  /-- Its name on the bus. -/
  busName : String
  /-- Where what is known comes from. -/
  source : InfoSource
  /-- Its cache file. -/
  cacheFile : Option Path
  /-- Its protocols. -/
  protocols : ProtocolSet

namespace Prepared

/-- The manager for people. -/
def text (colours : Bool) (p : Prepared) : String :=
  p.manager.text ++ " | " ++ p.busName ++ " | source: " ++ p.source.text ++ " | " ++
    p.protocols.countText ++ "\n" ++ p.protocols.text colours

/-- The manager for programs. -/
def json (p : Prepared) : Json :=
  .obj [("manager", .str p.manager.text), ("bus_name", .str p.busName),
    ("info_source", .str p.source.text), ("cache_file", (p.cacheFile.map Json.str).getD .null),
    ("protocols", p.protocols.json)]

/-- What is printed. -/
def output (colours asJson : Bool) (p : Prepared) : String :=
  if asJson then printed p.json else p.text colours

end Prepared

end Cli

end Roster
