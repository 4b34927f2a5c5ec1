import Roster.Yaml.Token
import Roster.Json.Reader
import Roster.Text.Octets

/-!
# Anchors, tags and directives

A tag has a handle, `!`, `!!` or `!name!`, and a name behind it; between angle brackets the name stands
alone. In names a percent sign and two hexadecimal digits stand for an octet, and the octets of a
character stand together.
-/

namespace Roster.Yaml

/-! ## Anchors -/

/-- Reads the name of an anchor, or of a reference to one, from its sign on. -/
def readAnchor (construct : Construct) (s : Source) : Except Fault (String × Source) :=
  let (name, rest) := s.next.span isNameChar
  if name ≠ [] ∧ (rest.wordEndsAt 0 || rest.startsIn ("?:,]\x7d%@`".toList.contains ·)) then
    .ok (String.ofList name, rest)
  else .error ⟨.noAnchorName, rest.mark, some (construct, s.mark)⟩

/-! ## Tags -/

namespace Tag

/-- What is being read as a tag: the constructs for its handle and its name, and where it begins. -/
structure Place where
  /-- Whether it is a directive. -/
  isDirective : Bool
  /-- Where it begins. -/
  start : Mark
  deriving Repr

/-- A fault in the name of a tag. -/
def Place.nameFault (p : Place) (problem : Problem) (mark : Mark) : Fault :=
  ⟨problem, mark, some (if p.isDirective then .directiveName else .tagName, p.start)⟩

/-- Reads a handle; what may also be the begin of a name is no fault in a tag. -/
def readHandle (p : Place) (s : Source) : Except Fault (List Char × Source) :=
  if s.startsWith '!' then
    let (name, rest) := s.next.span isNameChar
    if rest.startsWith '!' then .ok ('!' :: name ++ ['!'], rest.next)
    else if p.isDirective && name ≠ [] then
      .error ⟨.noTagMark, rest.mark, some (.directiveHandleEnd, p.start)⟩
    else .ok ('!' :: name, rest)
  else .error ⟨.noTagMark, s.mark, some (if p.isDirective then .directiveHandle else .tag, p.start)⟩

/-- The octet that a percent sign and two digits stand for. -/
def octet? (s : Source) : Option Nat := do
  if s.char? ≠ some '%' then none
  let high ← (s.charAt? 1).bind Json.hexDigit?
  let low ← (s.charAt? 2).bind Json.hexDigit?
  return 16 * high + low

/-- How many octets a character has whose first octet is the given one; zero if none has. -/
def octetCount (n : Nat) : Nat :=
  if n < 0x80 then 1
  else if n / 0x20 = 6 then 2
  else if n / 0x10 = 14 then 3
  else if n / 0x08 = 30 then 4
  else 0

/-- Reads the octets that continue a character. -/
def readTail (p : Place) : Nat → Source → Except Fault (List UInt8 × Source)
  | 0, s => .ok ([], s)
  | n + 1, s =>
    match octet? s with
    | none => .error (p.nameFault .noTagOctet s.mark)
    | some octet =>
      if octet / 0x40 = 2 then
        (readTail p n (s.drop 3)).map fun (more, rest) => (octet.toUInt8 :: more, rest)
      else .error (p.nameFault .badTailOctet s.mark)

/-- Reads the octets of a character. -/
def readOctets (p : Place) (s : Source) : Except Fault (List UInt8 × Source) :=
  match octet? s with
  | none => .error (p.nameFault .noTagOctet s.mark)
  | some octet =>
    match octetCount octet with
    | 0 => .error (p.nameFault .badLeadOctet s.mark)
    | n + 1 => (readTail p n (s.drop 3)).map fun (more, rest) => (octet.toUInt8 :: more, rest)

/-- A character of a name; in angle brackets and directives there are more. -/
def isInName (wide : Bool) (c : Char) : Bool :=
  isNameChar c || ";/?:@&=+$.!~*'()%".toList.contains c || (wide && (c = ',' || c = '[' || c = ']'))

/-- Reads the octets of a name, as far as it goes; the fuel bounds the number of characters. -/
def readOctetsOfName (p : Place) (wide : Bool) :
    Nat → Source → Except Fault (List UInt8 × Source)
  | 0, s => .ok ([], s)
  | fuel + 1, s =>
    match s.char?.filter (isInName wide) with
    | none => .ok ([], s)
    | some c => do
      let (octets, s) ← if c = '%' then readOctets p s else .ok (Text.charOctets c, s.next)
      let (more, rest) ← readOctetsOfName p wide fuel s
      return (octets ++ more, rest)

/-- Reads a name behind the given characters, of which an exclamation mark in front is no part; a name
that says nothing is a fault. -/
def readName (p : Place) (wide : Bool) (before : List Char) (s : Source) :
    Except Fault (String × Source) := do
  let (octets, rest) ← readOctetsOfName p wide s.spots.length s
  if before = [] ∧ rest.mark = s.mark then .error (p.nameFault .noTagName rest.mark)
  else
    let name := (before.drop 1).flatMap Text.charOctets ++ octets
    return (Text.lossy (name.takeWhile (· ≠ 0)), rest)

/-- Reads a tag from its exclamation mark on: the handle, the name and the source behind them. -/
def read (inFlow : Bool) (s : Source) : Except Fault (String × String × Source) := do
  let p : Place := ⟨false, s.mark⟩
  let (handle, name, rest) ← (
    if s.charAt? 1 = some '<' then do
      let (name, rest) ← readName p true [] (s.drop 2)
      if rest.startsWith '>' then .ok ("", name, rest.next)
      else .error ⟨.noTagEnd, rest.mark, some (.tag, p.start)⟩
    else do
      let (handle, rest) ← readHandle p s
      if handle ≠ ['!'] ∧ handle.getLast? = some '!' then
        let (name, rest) ← readName p false [] rest
        .ok (String.ofList handle, name, rest)
      else
        let (name, rest) ← readName p false handle rest
        .ok (if name = "" then ("", "!", rest) else ("!", name, rest)))
  if rest.wordEndsAt 0 || (inFlow && rest.startsWith ',') then return (handle, name, rest)
  else .error ⟨.noBlankOrBreak, rest.mark, some (.tag, p.start)⟩

end Tag

/-! ## Directives -/

namespace Directive

/-- Reads a part of a version. -/
def readNumber (start : Mark) (s : Source) : Except Fault (Nat × Source) :=
  let (digits, rest) := s.span Number.isDigit
  if 9 < digits.length then
    .error ⟨.longVersionNumber, (s.drop 9).mark, some (.versionDirective, start)⟩
  else if digits = [] then .error ⟨.noVersionNumber, s.mark, some (.versionDirective, start)⟩
  else .ok (Number.digitsValue digits, rest)

/-- Reads a version. -/
def readVersion (start : Mark) (s : Source) : Except Fault (TokenKind × Source) := do
  let (major, s) ← readNumber start (s.skip isGap)
  if s.startsWith '.' then
    let (minor, s) ← readNumber start s.next
    return (.version major minor, s)
  else .error ⟨.noVersionPoint, s.mark, some (.versionDirective, start)⟩

/-- Reads a handle and what it stands for. -/
def readMeaning (start : Mark) (s : Source) : Except Fault (TokenKind × Source) := do
  let p : Tag.Place := ⟨true, start⟩
  let (handle, s) ← Tag.readHandle p (s.skip isGap)
  if !s.startsIn isGap then .error ⟨.noBlank, s.mark, some (.tagDirective, start)⟩
  else
    let (meaning, s) ← Tag.readName p true [] (s.skip isGap)
    if s.wordEndsAt 0 then return (.handle (String.ofList handle) meaning, s)
    else .error ⟨.noBlankOrBreak, s.mark, some (.tagDirective, start)⟩

/-- Reads a directive from its percent sign on: the token, the source behind it, and the source behind
its line. -/
def read (s : Source) : Except Fault (TokenKind × Source × Source) := do
  let start := s.mark
  let (name, s) := s.next.span isNameChar
  if name = [] then .error ⟨.noDirectiveName, s.mark, some (.directive, start)⟩
  else if !s.wordEndsAt 0 then .error ⟨.strayInDirectiveName, s.mark, some (.directive, start)⟩
  else
    let (kind, s) ← (
      if String.ofList name = "YAML" then readVersion start s
      else if String.ofList name = "TAG" then readMeaning start s
      else .error ⟨.unknownDirective, s.mark, some (.directive, start)⟩)
    return (kind, s, ← s.endOfLine .directive start)

end Directive

end Roster.Yaml
