import Roster.Yaml.Document
import Roster.Number.Shortest
import Roster.Text.Blank
import Roster.Text.Quoted

/-!
# What texts mean

A plain text without a tag may be nothing, a truth value or a number; a tag of the core set says which
of them a text has to be. Whole numbers may be written in four bases; digits behind a leading zero
make no number.
-/

namespace Roster.Yaml

/-- What a text means. -/
inductive Meaning where
  /-- Nothing. -/
  | nothing
  /-- A truth value. -/
  | truth (b : Bool)
  /-- A whole number. -/
  | whole (n : Int)
  /-- A number with a fraction or an exponent. -/
  | real (x : Number.Double)
  /-- Itself. -/
  | text (s : String)
  deriving DecidableEq, Repr

namespace Meaning

/-- The truth value that a text means. -/
def truth? (text : String) : Option Bool :=
  if text ∈ ["true", "True", "TRUE"] then some true
  else if text ∈ ["false", "False", "FALSE"] then some false
  else none

/-- Whether a text is a word for nothing. -/
def isNull (text : String) : Bool := text ∈ ["null", "Null", "NULL", "~"]

/-- The text without the given sign in front. -/
def dropSign (sign : Char) : List Char → List Char
  | c :: rest => if c = sign then rest else c :: rest
  | [] => []

/-- Whether a text begins with a sign. -/
def isSigned : List Char → Bool
  | c :: _ => c = '+' || c = '-'
  | [] => false

/-- Whether a text has only digits behind a leading zero. -/
def isPadded (cs : List Char) : Bool :=
  match if isSigned cs then cs.drop 1 else cs with
  | '0' :: c :: rest => (c :: rest).all Number.isDigit
  | _ => false

/-- The value of a digit in a base. -/
def digit? (base : Nat) (c : Char) : Option Nat :=
  let value :=
    if Number.isDigit c then some (c.toNat - '0'.toNat)
    else if 'a' ≤ c ∧ c ≤ 'z' then some (c.toNat - 'a'.toNat + 10)
    else if 'A' ≤ c ∧ c ≤ 'Z' then some (c.toNat - 'A'.toNat + 10)
    else none
  value.filter (· < base)

/-- The number that digits of a base write. -/
def digits? (base : Nat) (cs : List Char) : Option Nat :=
  if cs = [] then none else (cs.mapM (digit? base)).map (·.foldl (fun n d => base * n + d) 0)

/-- The bases that have a mark, with their marks. -/
def markedBases : List (Nat × List Char) := [(16, ['0', 'x']), (8, ['0', 'o']), (2, ['0', 'b'])]

/-- The number up to `max` that follows the mark of its base. -/
def marked? (max : Nat) (cs : List Char) : Option Nat :=
  markedBases.findSome? fun (base, mark) =>
    (Text.dropStart? mark cs).bind fun rest => (digits? base rest).filter (· ≤ max)

/-- The whole number from 0 to `max` that a text means. -/
def unsigned? (max : Nat) (text : String) : Option Nat :=
  let cs := text.toList
  let bare := dropSign '+' cs
  match marked? max bare with
  | some n => some n
  | none =>
    if isSigned bare || isPadded cs then none else (digits? 10 bare).filter (· ≤ max)

/-- The whole number from `-max` to -1 or zero that a text with a minus means. -/
def negative? (max : Nat) (text : String) : Option Int :=
  match text.toList with
  | '-' :: rest =>
    let n :=
      match marked? max rest with
      | some n => some n
      | none => if isPadded rest then none else (digits? 10 rest).filter (· ≤ max)
    n.map fun n => -(n : Int)
  | _ => none

/-- The whole number that a text means. -/
def whole? (text : String) : Option Int :=
  match unsigned? (Nat.pow 2 128 - 1) text with
  | some n => some n
  | none => negative? (Nat.pow 2 127) text

/-- The number that a text means, with a fraction, an exponent or a name. -/
def real? (text : String) : Option Number.Double :=
  let bare := dropSign '+' text.toList
  if text.toList ≠ bare && isSigned bare then none
  else
    let name := String.ofList bare
    if name ∈ [".inf", ".Inf", ".INF"] then some (.infinity false)
    else if text ∈ ["-.inf", "-.Inf", "-.INF"] then some (.infinity true)
    else if text ∈ [".nan", ".NaN", ".NAN"] then some .nan
    else (Number.Double.read? name).filter (·.isFinite)

/-- What a plain text means. -/
def ofPlain (s : String) : Meaning :=
  if s = "" || isNull s then .nothing
  else
    match truth? s with
    | some b => .truth b
    | none =>
      match whole? s with
      | some n => .whole n
      | none =>
        if isPadded s.toList then .text s
        else
          match real? s with
          | some x => .real x
          | none => .text s

/-- How an error message names a meaning. -/
def noun : Meaning → String
  | nothing => "unit value"
  | truth b => "boolean `" ++ (if b then "true" else "false") ++ "`"
  | whole n =>
    let wide := if n < -(Nat.pow 2 63) then " as i128" else if Nat.pow 2 64 ≤ n then " as u128" else ""
    "integer `" ++ toString n ++ "`" ++ wide
  | real x =>
    let text := x.plainText
    "floating point `" ++
      (if !x.isFinite || text.toList.contains '.' then text else text ++ ".0") ++ "`"
  | text s => "string " ++ Text.quoted s

end Meaning

/-! ## Tags -/

/-- The tags of the core set. -/
inductive CoreTag where
  /-- A truth value. -/
  | truth
  /-- A whole number. -/
  | whole
  /-- A number. -/
  | real
  /-- Nothing. -/
  | nothing
  deriving DecidableEq, Repr

namespace CoreTag

/-- The name of a tag in full. -/
def name : CoreTag → String
  | truth => "tag:yaml.org,2002:bool"
  | whole => "tag:yaml.org,2002:int"
  | real => "tag:yaml.org,2002:float"
  | nothing => "tag:yaml.org,2002:null"

/-- The tag with a name. -/
def ofName? (name : String) : Option CoreTag :=
  [truth, whole, real, nothing].find? (·.name = name)

/-- How an error message names what a tag asks for. -/
def noun : CoreTag → String
  | truth => "a boolean"
  | whole => "an integer"
  | real => "a float"
  | nothing => "null"

/-- What a text means that has to be what a tag says. -/
def read? (text : String) : CoreTag → Option Meaning
  | truth => (Meaning.truth? text).map .truth
  | whole => (Meaning.whole? text).map .whole
  | real => (Meaning.real? text).map .real
  | nothing => if Meaning.isNull text then some .nothing else none

end CoreTag

namespace Scalar

/-- What a text means, by its tag and the way it is written; a text that is not what its tag says
gives that tag. -/
def meaning (s : Scalar) : Except CoreTag Meaning :=
  match s.tag.bind CoreTag.ofName? with
  | some tag =>
    match tag.read? s.content with
    | some m => .ok m
    | none => .error tag
  | none =>
    if s.style = .plain && s.tag.all (Text.dropStart? ['!'] ·.toList |>.isSome) then
      .ok (.ofPlain s.content)
    else .ok (.text s.content)

/-- Whether the text may be what the given tag says: it is plain, or a literal text with that tag. -/
def mayBe (tag : CoreTag) (s : Scalar) : Bool :=
  s.style = .plain || (s.style = .literal && s.tag = some tag.name)

/-- Whether the text is plain and empty. -/
def isEmpty (s : Scalar) : Bool := s.style = .plain && s.content = ""

end Scalar

end Roster.Yaml
