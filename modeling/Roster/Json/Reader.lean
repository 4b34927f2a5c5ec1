import Roster.Json.Basic

/-!
# Reading structured values

The reader of the notation that `Json.compact` writes. A number without point and exponent that
fits a signed or an unsigned 64-bit field is an integer, every other number a double; a repeated key
of a record keeps its last value. Every step consumes a character, so the length of the text bounds
the depth of the recursion.
-/

namespace Roster.Json

open Number

/-- A blank between tokens. -/
def isGap (c : Char) : Bool := c = ' ' || c = '\t' || c = '\n' || c = '\r'

/-- The value of a digit to base 16. -/
def hexDigit? (c : Char) : Option Nat :=
  if isDigit c then some (digitValue c)
  else if 'a' ≤ c ∧ c ≤ 'f' then some (c.toNat - 'a'.toNat + 10)
  else if 'A' ≤ c ∧ c ≤ 'F' then some (c.toNat - 'A'.toNat + 10)
  else none

/-- Four digits to base 16 in front. -/
def readUnit? : List Char → Option (Nat × List Char)
  | a :: b :: c :: d :: rest => do
    let a ← hexDigit? a
    let b ← hexDigit? b
    let c ← hexDigit? c
    let d ← hexDigit? d
    return (((a * 16 + b) * 16 + c) * 16 + d, rest)
  | _ => none

/-- The character of an escape by number; two numbers stand for a character beyond the first
plane. -/
def readNumbered? (cs : List Char) : Option (Char × List Char) := do
  let (high, rest) ← readUnit? cs
  if 0xD800 ≤ high ∧ high < 0xDC00 then
    match rest with
    | '\\' :: 'u' :: rest =>
      let (low, rest) ← readUnit? rest
      if 0xDC00 ≤ low ∧ low < 0xE000 then
        return (Char.ofNat (0x10000 + (high - 0xD800) * 0x400 + (low - 0xDC00)), rest)
      else none
    | _ => none
  else if 0xDC00 ≤ high ∧ high < 0xE000 then none
  else return (Char.ofNat high, rest)

/-- The characters up to the closing quote, and what follows it. -/
def readText? (fuel : Nat) (cs : List Char) (done : List Char) : Option (String × List Char) :=
  match fuel, cs with
  | 0, _ => none
  | _, [] => none
  | fuel + 1, c :: rest =>
    if c = '"' then some (String.ofList done.reverse, rest)
    else if c = '\\' then
      match rest with
      | 'u' :: rest =>
        match readNumbered? rest with
        | some (c, rest) => readText? fuel rest (c :: done)
        | none => none
      | 'n' :: rest => readText? fuel rest ('\n' :: done)
      | 't' :: rest => readText? fuel rest ('\t' :: done)
      | 'r' :: rest => readText? fuel rest ('\r' :: done)
      | 'b' :: rest => readText? fuel rest ('\x08' :: done)
      | 'f' :: rest => readText? fuel rest ('\x0c' :: done)
      | c :: rest =>
        if c = '"' || c = '\\' || c = '/' then readText? fuel rest (c :: done) else none
      | [] => none
    else if c.toNat < 0x20 then none
    else readText? fuel rest (c :: done)

/-- A character that a number may hold. -/
def isNumeral (c : Char) : Bool :=
  isDigit c || c = '-' || c = '+' || c = '.' || c = 'e' || c = 'E'

/-- The value of the characters of a number. -/
def numberOf? (cs : List Char) : Option Json :=
  let (negative, digits) := match cs with
    | '-' :: rest => (true, rest)
    | cs => (false, cs)
  match readDigits? digits with
  | some n =>
    let value : Int := if negative then -(n : Int) else n
    if (minInteger ≤ value ∧ value ≤ maxInteger) ∧ ¬ (negative ∧ n = 0) then some (.int value)
    else some (.float (Double.ofDecimal negative n 0))
  | none =>
    match digits with
    | c :: _ => if isDigit c then (Double.readDecimal? negative digits).map .float else none
    | [] => none

/-- What follows a given word in front. -/
def readWord? (word : String) (value : Json) (cs : List Char) : Option (Json × List Char) :=
  if word.toList.isPrefixOf cs then some (value, cs.drop word.length) else none

mutual

/-- The value in front, and what follows it. -/
def readValue? (fuel : Nat) (cs : List Char) : Option (Json × List Char) :=
  match fuel, cs.dropWhile isGap with
  | 0, _ => none
  | _, [] => none
  | fuel + 1, c :: rest =>
    if c = '"' then (readText? (rest.length + 1) rest []).map fun (s, rest) => (.str s, rest)
    else if c = '[' then
      match rest.dropWhile isGap with
      | ']' :: rest => some (.arr [], rest)
      | rest => readItems? fuel rest []
    else if c = '\x7b' then
      match rest.dropWhile isGap with
      | '\x7d' :: rest => some (.obj [], rest)
      | rest => readFields? fuel rest []
    else if c = 'n' then readWord? "null" .null (c :: rest)
    else if c = 't' then readWord? "true" (.bool true) (c :: rest)
    else if c = 'f' then readWord? "false" (.bool false) (c :: rest)
    else
      let number := (c :: rest).takeWhile isNumeral
      (numberOf? number).map fun v => (v, (c :: rest).dropWhile isNumeral)

/-- The items of a list up to its closing bracket, and what follows it. -/
def readItems? (fuel : Nat) (cs : List Char) (done : List Json) : Option (Json × List Char) :=
  match fuel with
  | 0 => none
  | fuel + 1 =>
    match readValue? fuel cs with
    | none => none
    | some (v, rest) =>
      match rest.dropWhile isGap with
      | ',' :: rest => readItems? fuel rest (v :: done)
      | ']' :: rest => some (.arr (v :: done).reverse, rest)
      | _ => none

/-- The fields of a record up to its closing brace, and what follows it. -/
def readFields? (fuel : Nat) (cs : List Char) (done : List (String × Json)) :
    Option (Json × List Char) :=
  match fuel with
  | 0 => none
  | fuel + 1 =>
    match cs.dropWhile isGap with
    | '"' :: rest =>
      match readText? (rest.length + 1) rest [] with
      | none => none
      | some (key, rest) =>
        match rest.dropWhile isGap with
        | ':' :: rest =>
          match readValue? fuel rest with
          | none => none
          | some (v, rest) =>
            match rest.dropWhile isGap with
            | ',' :: rest => readFields? fuel rest ((key, v) :: done)
            | '\x7d' :: rest => some (record ((key, v) :: done).reverse, rest)
            | _ => none
        | _ => none
    | _ => none

end

/-- The value that a text writes, with nothing but blanks around it. -/
def read? (text : String) : Option Json :=
  let cs := text.toList
  match readValue? (2 * cs.length + 2) cs with
  | some (v, rest) => if rest.all isGap then some v else none
  | none => none

end Roster.Json
