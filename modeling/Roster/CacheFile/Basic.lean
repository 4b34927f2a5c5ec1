import Roster.FileTree
import Roster.KeyFile.Reader
import Roster.Protocol

/-!
# Cache files

A cache file is a key file that describes a manager. The group `ConnectionManager` lists the
manager's own interfaces, and each group `Protocol <name>` describes a protocol: a line
`param-<name>` gives a parameter's signature and flags, a line `default-<name>` its default value.

Reading is forgiving: groups and lines that mean nothing here, groups whose protocol name is not
valid and parameters without a signature are left out, and a default that does not fit its signature
is as good as none. Of several groups for one protocol the last one counts.
-/

namespace Roster

namespace ParamSpec

/-- The parameter that a line `param-<name>=<value>` of a group declares. -/
def ofLine? (group : KeyGroup) (name value : String) : Option ParamSpec :=
  if name = "" then none
  else
    match Text.words value with
    | [] => none
    | signature :: flagWords =>
      let flags := ParamFlags.unionAll (flagWords.filterMap ParamFlags.ofWord?)
      let default := (group.get? ("default-" ++ name)).bind (ParamValue.ofKeyFile? signature)
      some (ParamSpec.of name signature flags default)

end ParamSpec

namespace Protocol

/-- The entries of a list that a group gives under a key. -/
def listOfGroup (group : KeyGroup) (key : String) : List String :=
  ((group.get? key).map ParamValue.splitList).getD []

/-- The text that a group gives under a key. -/
def textOfGroup (group : KeyGroup) (key : String) : Option String :=
  given ((group.get? key).map Text.trim)

/-- The protocol that a group describes. -/
def ofGroup (name : ProtocolName) (group : KeyGroup) : Protocol where
  name := name
  params := group.lines.filterMap fun (key, value) =>
    (Text.stripStart? "param-" key).bind fun param => ParamSpec.ofLine? group param value
  interfaces := TextSet.ofList (listOfGroup group "Interfaces")
  connectionInterfaces := listOfGroup group "ConnectionInterfaces"
  authenticationTypes := listOfGroup group "AuthenticationTypes"
  vcardField := textOfGroup group "VCardField"
  declaredEnglishName := textOfGroup group "EnglishName"
  declaredIcon := textOfGroup group "Icon"

/-- The name of the protocol that a group describes, if it describes one. -/
def nameOfGroup? (group : KeyGroup) : Option ProtocolName :=
  (group.name.bind (Text.stripStart? "Protocol ")).bind (Name.ofText? .protocol)

end Protocol

namespace Description

/-- The description that a key file gives. -/
def ofKeyFile (file : KeyFile) : Description where
  interfaces := (((KeyFile.group? file "ConnectionManager").bind (·.get? "Interfaces")).map
    ParamValue.splitList).getD []
  protocols := OrderedMap.ofList (file.filterMap fun group =>
    (Protocol.nameOfGroup? group).map fun name => (name, Protocol.ofGroup name group))

end Description

/-- Why a cache file gives no description. -/
inductive CacheFault where
  /-- There is no file. -/
  | missing
  /-- The file cannot be read. -/
  | unreadable (cause : FileFault)
  /-- The file's text is no key file. -/
  | malformed (cause : KeyFile.Fault)
  deriving DecidableEq, Repr

namespace CacheFault

/-- The fault in words. -/
def reason : CacheFault → String
  | missing => "file not found"
  | unreadable cause => cause.message
  | malformed cause => cause.message

/-- The full message about the cache file at a path. -/
def message (path : Path) (fault : CacheFault) : String :=
  "cache file unavailable at " ++ path ++ ": " ++ fault.reason

end CacheFault

namespace CacheFile

/-- The description in the text of a cache file. -/
def parse (text : String) : Except CacheFault Description :=
  match KeyFile.read text with
  | .ok file => .ok (Description.ofKeyFile file)
  | .error fault => .error (.malformed fault)

/-- Without the mark that some editors put in front of a text. -/
def withoutMark : List UInt8 → List UInt8
  | 0xEF :: 0xBB :: 0xBF :: rest => rest
  | bytes => bytes

/-- The description in the octets of a cache file. -/
def decode (bytes : List UInt8) : Except CacheFault Description :=
  match Text.decode? (withoutMark bytes) with
  | some text => parse text
  | none => .error (.unreadable .notText)

/-- The description in the cache file at a path. -/
def read (tree : FileTree) (path : Path) : Except CacheFault Description :=
  match tree.read path with
  | .ok bytes => decode bytes
  | .error .notFound => .error .missing
  | .error fault => .error (.unreadable fault)

end CacheFile

end Roster
