/-!
# Whole numbers in texts

Reading a whole number written with ASCII digits and at most one sign, and checking it against the
range of the field it is for. A field without negative numbers takes `+` only; a field with them
takes `+` or `-`.
-/

namespace Roster.Number

/-- An ASCII digit. -/
def isDigit (c : Char) : Bool := '0' ≤ c && c ≤ '9'

/-- The value of a digit. -/
def digitValue (c : Char) : Nat := c.toNat - '0'.toNat

/-- The number that the digits write, most significant first. -/
def digitsValue (cs : List Char) : Nat := cs.foldl (fun n c => 10 * n + digitValue c) 0

/-- The number that a non-empty list of digits writes. -/
def readDigits? (cs : List Char) : Option Nat :=
  if cs ≠ [] ∧ cs.all isDigit then some (digitsValue cs) else none

/-- A number of a field from 0 to `max`. -/
def readUnsigned? (max : Nat) (text : String) : Option Nat :=
  let digits := match text.toList with
    | '+' :: rest => rest
    | cs => cs
  (readDigits? digits).filter (· ≤ max)

/-- A number of a field from `-2^(bits-1)` to `2^(bits-1) - 1`. -/
def readSigned? (bits : Nat) (text : String) : Option Int :=
  match text.toList with
  | '-' :: rest => ((readDigits? rest).filter (· ≤ Nat.pow 2 (bits - 1))).map fun n => -(n : Int)
  | '+' :: rest => ((readDigits? rest).filter (· < Nat.pow 2 (bits - 1))).map Int.ofNat
  | cs => ((readDigits? cs).filter (· < Nat.pow 2 (bits - 1))).map Int.ofNat

end Roster.Number
