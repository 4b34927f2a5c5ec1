import Roster.Protocol

/-!
# Replies of managers

The property map in which a manager describes itself. The manager's own interfaces and the map of
its protocols stand under `Interfaces` and `Protocols`; the properties of a protocol stand under
names that begin with its interface's name. A list is accepted in place of a property map, with the
values in the order in which the properties are named here.

A protocol whose name is not valid or whose properties do not have the right types is left out; it
never touches the other protocols. A reply is malformed (`ReplyFault`) only by what stands around
the protocols.
-/

namespace Roster

/-- Why a value is not what its place needs. -/
inductive ReplyFault where
  /-- The value is of another type. -/
  | mismatch (found : Json) (expected : String)
  /-- A list has more items than there are properties. -/
  | tooLong (length : Nat)
  deriving DecidableEq, Repr

namespace ReplyFault

/-- The fault in words. -/
def message : ReplyFault → String
  | mismatch found expected => found.mismatchText expected
  | tooLong length => "invalid length " ++ toString length ++ ", expected fewer elements in array"

end ReplyFault

namespace Reply

/-! ## Fields -/

/-- A text. -/
def text : Json → Except ReplyFault String
  | .str s => .ok s
  | v => .error (.mismatch v "a string")

/-- A list of texts. -/
def texts : Json → Except ReplyFault (List String)
  | .arr items => items.mapM text
  | v => .error (.mismatch v "a sequence")

/-- A text that may be absent. -/
def optionalText : Json → Except ReplyFault (Option String)
  | .null => .ok none
  | v => (text v).map some

/-- A number of 32 bits. -/
def word (v : Json) : Except ReplyFault Nat :=
  match v with
  | .int n => if 0 ≤ n ∧ n < Nat.pow 2 32 then .ok n.toNat else .error (.mismatch v "u32")
  | v => .error (.mismatch v "u32")

/-- A record's fields. -/
def fields : Json → Except ReplyFault (List (String × Json))
  | .obj fields => .ok fields
  | v => .error (.mismatch v "a map")

/-- The values of named properties: by name in a record, by place in a list. -/
def properties (names : List String) (noun : String) :
    Json → Except ReplyFault (String → Option Json)
  | .obj fields => .ok fun name => OrderedMap.lookupEntry name fields
  | .arr items => .ok fun name => items[names.idxOf name]?
  | v => .error (.mismatch v noun)

/-- A list of properties holds no more than there are. This is looked at after the properties. -/
def noExcess (names : List String) : Json → Except ReplyFault Unit
  | .arr items => if names.length < items.length then .error (.tooLong items.length) else .ok ()
  | _ => .ok ()

/-- The value of a property, or a default where the property is absent. -/
def orDefault {α : Type} (read : Json → Except ReplyFault α) (default : α) :
    Option Json → Except ReplyFault α
  | some v => read v
  | none => .ok default

/-! ## Protocols -/

/-- A parameter: its name, the number of its flags, its signature and its default value. The default
counts only if the flags say that there is one. -/
def param : Json → Except ReplyFault ParamSpec
  | .arr [name, bits, signature, default] => do
    let name ← text name
    let flags := ParamFlags.ofBits (← word bits)
    let signature ← text signature
    let default := if flags.hasDefault then ParamValue.ofJson? signature default else none
    return ParamSpec.of name signature flags default
  | v => .error (.mismatch v "tuple struct WireParam with 4 elements")

/-- A list of parameters. -/
def params : Json → Except ReplyFault (List ParamSpec)
  | .arr items => items.mapM param
  | v => .error (.mismatch v "a sequence")

/-- The interface whose properties describe a protocol. -/
def protocolInterface : String := "org.freedesktop.Telepathy.Protocol"

/-- The full name of a protocol's property. -/
def full (property : String) : String := protocolInterface ++ "." ++ property

/-- The names of a protocol's properties. -/
def protocolProperties : List String :=
  ["Parameters", "Interfaces", "ConnectionInterfaces", "AuthenticationTypes", "VCardField",
    "EnglishName", "Icon"].map full

/-- The protocol that a property map describes. -/
def protocol (name : ProtocolName) (v : Json) : Except ReplyFault Protocol := do
  let get ← properties protocolProperties "struct ProtocolProperties" v
  let params ← orDefault params [] (get (full "Parameters"))
  let interfaces ← orDefault texts [] (get (full "Interfaces"))
  let connectionInterfaces ← orDefault texts [] (get (full "ConnectionInterfaces"))
  let authenticationTypes ← orDefault texts [] (get (full "AuthenticationTypes"))
  let vcardField ← orDefault optionalText none (get (full "VCardField"))
  let englishName ← orDefault optionalText none (get (full "EnglishName"))
  let icon ← orDefault optionalText none (get (full "Icon"))
  noExcess protocolProperties v
  return {
    name := name
    params := params
    interfaces := TextSet.ofList interfaces
    connectionInterfaces := connectionInterfaces
    authenticationTypes := authenticationTypes
    vcardField := Protocol.given vcardField
    declaredEnglishName := Protocol.given englishName
    declaredIcon := Protocol.given icon }

/-- The protocol under a key of the map of protocols, if the key is a name and the value describes a
protocol. -/
def protocolEntry? (key : String) (v : Json) : Option (ProtocolName × Protocol) :=
  (Name.ofText? .protocol key).bind fun name =>
    match protocol name v with
    | .ok p => some (name, p)
    | .error _ => none

/-! ## The whole reply -/

/-- The names of a manager's properties. -/
def managerProperties : List String := ["Interfaces", "Protocols"]

/-- The description that a reply gives. -/
def description (reply : Json) : Except ReplyFault Description := do
  let get ← properties managerProperties "struct ManagerProperties" reply
  let interfaces ← orDefault texts [] (get "Interfaces")
  let entries ← orDefault fields [] (get "Protocols")
  noExcess managerProperties reply
  return {
    interfaces := interfaces
    protocols := OrderedMap.ofList (entries.filterMap fun (key, v) => protocolEntry? key v) }

end Reply

end Roster
