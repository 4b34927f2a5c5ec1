import Roster.Json.Basic
import Roster.Text.Blank
import Roster.Text.Octets

/-!
# Default values of parameters

A parameter's signature says which type of value it takes, and with it the range of its numbers. A
default value arrives as text in a cache file or as a structured value in an answer of the manager;
either way it is kept only if it is a value of the signature's type (`ParamType.Admits`).
-/

namespace Roster

open Number

/-- The types of parameters that have default values. -/
inductive ParamType where
  /-- A truth value. -/
  | boolean
  /-- A number from 0 to `2^bits - 1`. -/
  | unsigned (bits : Nat)
  /-- A number from `-2^(bits-1)` to `2^(bits-1) - 1`. -/
  | signed (bits : Nat)
  /-- A floating-point number. -/
  | double
  /-- A text. -/
  | string
  /-- A text that begins with a slash. -/
  | objectPath
  /-- A list of texts. -/
  | stringList
  /-- A sequence of octets. -/
  | bytes
  deriving DecidableEq, Repr

/-- A default value. -/
inductive ParamValue where
  /-- A truth value. -/
  | bool (b : Bool)
  /-- A number of a signed type. -/
  | int (n : Int)
  /-- A number of an unsigned type. -/
  | uint (n : Nat)
  /-- A floating-point number. -/
  | double (x : Double)
  /-- A text. -/
  | string (s : String)
  /-- An object path. -/
  | objectPath (s : String)
  /-- A list of texts. -/
  | stringList (items : List String)
  /-- A sequence of octets. -/
  | bytes (octets : List UInt8)
  deriving DecidableEq, Repr

namespace ParamType

/-- The type that a signature stands for; other signatures have no default values. -/
def ofSignature? : String → Option ParamType
  | "b" => some boolean
  | "y" => some (unsigned 8)
  | "q" => some (unsigned 16)
  | "u" => some (unsigned 32)
  | "t" => some (unsigned 64)
  | "n" => some (signed 16)
  | "i" => some (signed 32)
  | "x" => some (signed 64)
  | "d" => some double
  | "s" => some string
  | "o" => some objectPath
  | "as" => some stringList
  | "ay" => some bytes
  | _ => none

/-- Whether the value is one of the type, in its range. -/
def Admits : ParamType → ParamValue → Prop
  | boolean, .bool _ => True
  | unsigned bits, .uint n => n < Nat.pow 2 bits
  | signed bits, .int n => -(Nat.pow 2 (bits - 1)) ≤ n ∧ n < Nat.pow 2 (bits - 1)
  | double, .double _ => True
  | string, .string _ => True
  | objectPath, .objectPath s => s.toList.head? = some '/'
  | stringList, .stringList _ => True
  | bytes, .bytes _ => True
  | _, _ => False

end ParamType

namespace ParamValue

/-- The entries of a list in a cache file: separated by `;`, trimmed, empty ones dropped. -/
def splitList (text : String) : List String :=
  ((Text.splitOn ';' text).map Text.trim).filter (· ≠ "")

/-- Whether a text begins with a slash. -/
def isObjectPath (text : String) : Bool := text.toList.head? = some '/'

/-- The value of a type that a trimmed text writes. -/
def ofTrimmed? (type : ParamType) (text : String) : Option ParamValue :=
  match type with
  | .boolean =>
    if text = "true" ∨ text = "1" then some (.bool true)
    else if text = "false" ∨ text = "0" then some (.bool false)
    else none
  | .unsigned bits => (readUnsigned? (Nat.pow 2 bits - 1) text).map .uint
  | .signed bits => (readSigned? bits text).map .int
  | .double => (Double.read? text).map .double
  | .string => some (.string text)
  | .objectPath => if isObjectPath text then some (.objectPath text) else none
  | .stringList => some (.stringList (splitList text))
  | .bytes => some (.bytes (Text.octets text))

/-- The default value that a line of a cache file gives, under a signature. -/
def ofKeyFile? (signature text : String) : Option ParamValue := do
  ofTrimmed? (← ParamType.ofSignature? signature) (Text.trim text)

/-- The text in a structured value. -/
def textOf? : Json → Option String
  | .str s => some s
  | _ => none

/-- The octet in a structured value. -/
def octetOf? : Json → Option UInt8
  | .int n => if 0 ≤ n ∧ n ≤ 255 then some n.toNat.toUInt8 else none
  | _ => none

/-- The value of a type in a structured value. -/
def ofTyped? (type : ParamType) (value : Json) : Option ParamValue :=
  match type, value with
  | .boolean, .bool b => some (.bool b)
  | .unsigned bits, .int n => if 0 ≤ n ∧ n < Nat.pow 2 bits then some (.uint n.toNat) else none
  | .signed bits, .int n =>
    if -(Nat.pow 2 (bits - 1)) ≤ n ∧ n < Nat.pow 2 (bits - 1) then some (.int n) else none
  | .double, .int n => some (.double (Double.ofInt n))
  | .double, .float x => some (.double x)
  | .string, .str s => some (.string s)
  | .objectPath, .str s => if isObjectPath s then some (.objectPath s) else none
  | .stringList, .arr items => (items.mapM textOf?).map .stringList
  | .bytes, .str s => some (.bytes (Text.octets s))
  | .bytes, .arr items => (items.mapM octetOf?).map .bytes
  | _, _ => none

/-- The default value in an answer of a manager, under a signature. -/
def ofJson? (signature : String) (value : Json) : Option ParamValue := do
  ofTyped? (← ParamType.ofSignature? signature) value

/-! ## Writing -/

/-- The text for a reader. -/
def text : ParamValue → String
  | bool b => if b then "true" else "false"
  | int n => toString n
  | uint n => toString n
  | double x => x.plainText
  | string s => s
  | objectPath s => s
  | stringList items => ";".intercalate items
  | bytes octets => Text.lossy octets

/-- The value in a data field; what has no number there is null. -/
def toJson : ParamValue → Json
  | bool b => .bool b
  | int n => .int n
  | uint n => .int n
  | double x => if x.isFinite then .float x else .null
  | string s => .str s
  | objectPath s => .str s
  | stringList items => .arr (items.map .str)
  | bytes octets => .arr (octets.map fun b => .int b.toNat)

end ParamValue

end Roster
