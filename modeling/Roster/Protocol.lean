import Roster.Name
import Roster.OrderedMap
import Roster.Param.Spec

/-!
# Protocols

What a manager says of one protocol that it offers. The English name and the icon have defaults made
from the protocol's name; a text that is given but empty counts as not given.
-/

namespace Roster

/-- A protocol of a manager. -/
structure Protocol where
  /-- The protocol's name. -/
  name : ProtocolName
  /-- Its parameters in the order in which they were declared. -/
  params : List ParamSpec := []
  /-- Its interfaces. -/
  interfaces : TextSet := ∅
  /-- The interfaces of its connections. -/
  connectionInterfaces : List String := []
  /-- The ways in which its connections authenticate. -/
  authenticationTypes : List String := []
  /-- The field of a contact card that holds its addresses. -/
  vcardField : Option String := none
  /-- The declared name for people, if any. -/
  declaredEnglishName : Option String := none
  /-- The declared icon, if any. -/
  declaredIcon : Option String := none
  deriving DecidableEq

namespace Protocol

/-- A declared text that says something. -/
def given (text : Option String) : Option String := text.filter (· ≠ "")

/-- The first parameter of a name. -/
def param? (p : Protocol) (name : String) : Option ParamSpec :=
  p.params.find? fun s => s.name = name

/-- Whether accounts can be registered: there is a truth-valued parameter for it. -/
def canRegister (p : Protocol) : Bool :=
  match p.param? "register" with
  | some s => s.signature = "b"
  | none => false

/-- The name for people: as declared, or the protocol's name with a capital first letter. -/
def englishName (p : Protocol) : String :=
  match p.declaredEnglishName with
  | some name => name
  | none =>
    match p.name.text.toList with
    | c :: rest => String.ofList (c.toUpper :: rest)
    | [] => ""

/-- The icon: as declared, or named for the protocol. -/
def iconName (p : Protocol) : String := p.declaredIcon.getD ("im-" ++ p.name.text)

end Protocol

/-- The protocols of a manager by name. -/
abbrev ProtocolSet := OrderedMap ProtocolName Protocol

/-- What a manager offers. -/
structure Description where
  /-- The manager's own interfaces. -/
  interfaces : List String
  /-- Its protocols. -/
  protocols : ProtocolSet
  deriving DecidableEq, Inhabited

end Roster
