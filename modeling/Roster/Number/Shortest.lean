import Roster.Number.Double

/-!
# The shortest decimal of a double

The fewest decimal digits that read back as a given double, and two ways to write them.

* **Digits.** A finite double `m · 2^q` is the double nearest to every number between the midpoints
  to its neighbours, the midpoints included when `m` is even. `shortest` tries one digit, two digits
  and so on, and takes a decimal between the midpoints from the first grid that has one; of two, the
  nearer. `TieRule` says which of two equally near ones.
* **Plain text** (`plainText`) never uses an exponent and writes a whole number without a point.
* **Field text** (`fieldText`) always shows that the number is no integer: by a point, or by an
  exponent where positional notation would need more than sixteen digits before the point or more
  than four zeros after it.
-/

namespace Roster.Number

/-- Which of two equally near decimals is taken. -/
inductive TieRule where
  /-- The one with the even last digit. -/
  | toEven
  /-- The larger one. -/
  | up
  deriving DecidableEq, Repr

/-- A decimal `0.d₁d₂… · 10^point`, the digits as one number without trailing zeros of its own. -/
structure Decimal where
  /-- The digits as a whole number. -/
  digits : Nat
  /-- The power of ten of the last digit. -/
  exponent : Int
  deriving DecidableEq, Repr

namespace Double

/-- Compares the fraction `num / den` with `d · 10^e`: the two sides over a common denominator. -/
def crossed (num den : Nat) (d : Nat) (e : Int) : Nat × Nat :=
  if e < 0 then (num * Nat.pow 10 (-e).toNat, d * den) else (num, d * Nat.pow 10 e.toNat * den)

/-- The midpoints around `m · 2^q` and the value itself, over the denominator four times a power of
two: below a power of two the gap to the lower neighbour is half as wide. -/
def midpoints (m : Nat) (q : Int) : Nat × Nat × Nat × Nat :=
  let low := if m = Nat.pow 2 52 ∧ -1074 < q then 4 * m - 1 else 4 * m - 2
  let scale := if q < 0 then 1 else Nat.pow 2 q.toNat
  let den := 4 * (if q < 0 then Nat.pow 2 (-q).toNat else 1)
  (low * scale, 4 * m * scale, (4 * m + 2) * scale, den)

/-- The number of digits before the point of a fraction `num / den`, negative if zeros follow the
point. The argument bounds the search upwards from the least possible answer. -/
def decimalPoint (num den : Nat) : Nat → Int → Int
  | 0, p => p
  | fuel + 1, p =>
    let (a, b) := crossed num den 1 p
    if b ≤ a then decimalPoint num den fuel (p + 1) else p

/-- The decimal with its last digit at `10^e` that lies between the midpoints and is nearest to the
value, if there is one. -/
def onGrid? (tie : TieRule) (m : Nat) (q : Int) (e : Int) : Option Nat :=
  let (low, value, high, den) := midpoints m q
  let inside (d : Nat) : Bool :=
    let l := crossed low den d e
    let h := crossed high den d e
    if m % 2 = 0 then l.1 ≤ l.2 && h.2 ≤ h.1 else l.1 < l.2 && h.2 < h.1
  let (num, unit) := crossed value den 1 e
  let d := num / unit
  let r := num % unit
  let below := inside d
  let above := inside (d + 1)
  if below && above then
    if 2 * r < unit then some d
    else if unit < 2 * r then some (d + 1)
    else match tie with
      | .toEven => some (d + d % 2)
      | .up => some (d + 1)
  else if below then some d
  else if above then some (d + 1)
  else none

/-- The first grid, from `digits` digits on, with a decimal between the midpoints. -/
def firstGrid (tie : TieRule) (m : Nat) (q point : Int) : Nat → Nat → Decimal
  | 0, digits => ⟨0, point - digits⟩
  | fuel + 1, digits =>
    match onGrid? tie m q (point - digits) with
    | some d => ⟨d, point - digits⟩
    | none => firstGrid tie m q point fuel (digits + 1)

/-- Takes the trailing zeros off the digits. -/
def dropZeros : Nat → Decimal → Decimal
  | 0, x => x
  | fuel + 1, x =>
    if x.digits ≠ 0 ∧ x.digits % 10 = 0 then dropZeros fuel ⟨x.digits / 10, x.exponent + 1⟩ else x

/-- The shortest decimal that reads back as the given finite double without its sign. Seventeen
digits always suffice. -/
def shortest (tie : TieRule) (x : Double) : Decimal :=
  let (m, q) := x.magnitude
  if m = 0 then ⟨0, 0⟩
  else
    let (_, value, _, den) := midpoints m q
    let least : Int := ((value.log2 : Int) - (den.log2 : Int) - 1) * 30103 / 100000 - 1
    let point := decimalPoint value den 6 least
    dropZeros 20 (firstGrid tie m q point 20 1)

/-! ## Writing -/

/-- Digits with the point after `point` of them; zeros fill the places that have no digit. -/
def positional (digits : List Char) (point : Int) : List Char × List Char :=
  if point ≤ 0 then (['0'], List.replicate (-point).toNat '0' ++ digits)
  else if digits.length ≤ point.toNat then
    (digits ++ List.replicate (point.toNat - digits.length) '0', [])
  else (digits.take point.toNat, digits.drop point.toNat)

/-- The sign in front of a negative number, zero included. -/
def signText (x : Double) : String := if x.isNegative then "-" else ""

/-- The text for a reader: positional, a whole number without a point, of two equally near decimals
the larger. -/
def plainText (x : Double) : String :=
  if x.isNaN then "NaN"
  else if x.isInfinite then x.signText ++ "inf"
  else
    let d := x.shortest .up
    let digits := Nat.toDigits 10 d.digits
    let (whole, fraction) := positional digits (d.exponent + digits.length)
    let fraction := if d.digits = 0 then [] else fraction
    let tail := if fraction = [] then "" else "." ++ String.ofList fraction
    x.signText ++ String.ofList whole ++ tail

/-- The text of a number in a data field: a point or an exponent always shows that it is no integer;
what is not finite has no number and is written as nothing. -/
def fieldText (x : Double) : String :=
  if !x.isFinite then "null"
  else if x.isZero then x.signText ++ "0.0"
  else
    let d := x.shortest .toEven
    let digits := Nat.toDigits 10 d.digits
    let point := d.exponent + digits.length
    if -5 < point ∧ point ≤ 16 then
      let (whole, fraction) := positional digits point
      let fraction := if fraction = [] then ['0'] else fraction
      x.signText ++ String.ofList whole ++ "." ++ String.ofList fraction
    else
      let fraction := digits.drop 1
      let tail := if fraction = [] then "" else "." ++ String.ofList fraction
      let e := point - 1
      x.signText ++ String.ofList (digits.take 1) ++ tail ++ "e" ++
        (if e < 0 then "-" else "+") ++ toString e.natAbs

end Double

end Roster.Number
