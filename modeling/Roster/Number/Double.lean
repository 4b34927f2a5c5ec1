import Roster.Number.Whole

/-!
# Double-precision numbers

A 64-bit binary floating-point number, kept as its bit pattern, so that equality is equality of
patterns and every operation is exact arithmetic on whole numbers. All not-a-numbers are one value.

* `Double.ofDecimal` is the double nearest to a decimal number `±d · 10^e`; a tie goes to the
  even pattern, and what is too large becomes an infinity.
* `Double.magnitude` takes a finite double apart into `m · 2^q`.
* `Double.read?` reads the decimal notation with an optional point and exponent, and the names of
  the values that have no digits.
-/

namespace Roster.Number

/-- A 64-bit floating-point number by its bit pattern. -/
structure Double where
  /-- The sign bit, eleven bits of exponent and fifty-two bits of fraction. -/
  bits : UInt64
  deriving DecidableEq, Repr, Inhabited

namespace Double

/-- The one not-a-number. -/
def nan : Double := ⟨0x7FF8000000000000⟩

/-- The infinity of a sign. -/
def infinity (negative : Bool) : Double :=
  ⟨if negative then 0xFFF0000000000000 else 0x7FF0000000000000⟩

/-- The sign bit. -/
def isNegative (x : Double) : Bool := Nat.pow 2 63 ≤ x.bits.toNat

/-- The bit pattern without the sign. -/
def unsignedBits (x : Double) : Nat := x.bits.toNat % Nat.pow 2 63

/-- Whether the value is not a number. -/
def isNaN (x : Double) : Bool := 0x7FF0000000000000 < x.unsignedBits

/-- Whether the value is an infinity. -/
def isInfinite (x : Double) : Bool := x.unsignedBits = 0x7FF0000000000000

/-- Whether the value is a number other than the infinities. -/
def isFinite (x : Double) : Bool := x.unsignedBits < 0x7FF0000000000000

/-- Whether the value is one of the two zeros. -/
def isZero (x : Double) : Bool := x.unsignedBits = 0

/-- A finite value without its sign as `m · 2^q`. -/
def magnitude (x : Double) : Nat × Int :=
  let exponent : Nat := x.unsignedBits / Nat.pow 2 52
  let fraction : Nat := x.unsignedBits % Nat.pow 2 52
  if exponent = 0 then (fraction, -1074) else (Nat.pow 2 52 + fraction, (Int.ofNat exponent) - 1075)

/-- Puts a sign on a bit pattern below `2^63`. -/
def ofUnsignedBits (negative : Bool) (bits : Nat) : Double :=
  ⟨(if negative then Nat.pow 2 63 + bits else bits).toUInt64⟩

/-- The quotient rounded to the nearest whole number, a tie to the even one. -/
def roundQuotient (num den : Nat) : Nat :=
  let q := num / den
  let r := num % den
  if 2 * r < den then q else if den < 2 * r then q + 1 else q + q % 2

/-- The double nearest to the positive fraction `num / den`. The exponent is the one that leaves
fifty-three bits before the point, but not below the least one; since patterns grow with values, a
carry out of the rounded bits gives the next pattern without further cases. -/
def ofFraction (negative : Bool) (num den : Nat) : Double :=
  let guess : Int := (num.log2 : Int) - (den.log2 : Int) - 52
  let scaled (q : Int) : Nat × Nat :=
    if q < 0 then (num * Nat.pow 2 (-q).toNat, den) else (num, den * Nat.pow 2 q.toNat)
  let exact := if (scaled guess).1 / (scaled guess).2 < Nat.pow 2 52 then guess - 1 else guess
  let q := max exact (-1074)
  let m := roundQuotient (scaled q).1 (scaled q).2
  let bits := (q + 1074).toNat * Nat.pow 2 52 + m
  if 0x7FF0000000000000 ≤ bits then infinity negative else ofUnsignedBits negative bits

/-- The double nearest to `±digits · 10^exponent`. An exponent far out of range decides the value
by itself. -/
def ofDecimal (negative : Bool) (digits : Nat) (exponent : Int) : Double :=
  if digits = 0 then ofUnsignedBits negative 0
  else
    let length : Int := (Nat.toDigits 10 digits).length
    if 400 < exponent + length then infinity negative
    else if exponent + length < -400 then ofUnsignedBits negative 0
    else if exponent < 0 then ofFraction negative digits (Nat.pow 10 (-exponent).toNat)
    else ofFraction negative (digits * Nat.pow 10 exponent.toNat) 1

/-- The double nearest to a whole number. -/
def ofInt (n : Int) : Double := ofDecimal (n < 0) n.natAbs 0

/-! ## Reading -/

/-- Cuts off a sign; no sign counts as plus. -/
def splitSign : List Char → Bool × List Char
  | '-' :: rest => (true, rest)
  | '+' :: rest => (false, rest)
  | cs => (false, cs)

/-- The value of an exponent, given in full: a sign is optional, a digit is not. -/
def readExponent? (cs : List Char) : Option Int :=
  let (negative, digits) := splitSign cs
  (readDigits? digits).map fun n => if negative then -(n : Int) else n

/-- The value of `digits[.digits][e±digits]`, given in full. One of the two groups of digits may be
empty, not both. -/
def readDecimal? (negative : Bool) (cs : List Char) : Option Double :=
  let whole := cs.takeWhile isDigit
  let rest := cs.dropWhile isDigit
  let (fraction, rest) := match rest with
    | '.' :: rest => (rest.takeWhile isDigit, rest.dropWhile isDigit)
    | rest => ([], rest)
  if whole ++ fraction = [] then none
  else
    let value (e : Int) := ofDecimal negative (digitsValue (whole ++ fraction)) (e - fraction.length)
    match rest with
    | [] => some (value 0)
    | c :: rest => if c = 'e' || c = 'E' then (readExponent? rest).map value else none

/-- A number in decimal notation, or the name of an infinity or of the not-a-number in any case of
letters, with an optional sign. -/
def read? (text : String) : Option Double :=
  let (negative, cs) := splitSign text.toList
  let name := String.ofList (cs.map Char.toLower)
  if name = "inf" || name = "infinity" then some (infinity negative)
  else if name = "nan" then some nan
  else readDecimal? negative cs

end Double

end Roster.Number
