import Roster.Yaml.Fault

/-!
# Texts with marks

A text is read as a list of characters that each carry their mark. The two characters of a carriage
return with a line feed are one line end, and so is every other character that ends a line; all line
ends but the two separators of Unicode read as a line feed. So whatever reads a text takes a
character at a time, and the recursion is on the list.
-/

namespace Roster.Yaml

/-! ## Kinds of characters -/

/-- A space or a tab. -/
def isGap (c : Char) : Bool := c = ' ' || c = '\t'

/-- The separators of lines and of paragraphs, which stay as they are. -/
def isSeparator (c : Char) : Bool := c = '\u2028' || c = '\u2029'

/-- The end of a line. -/
def isBreak (c : Char) : Bool := c = '\n' || c = '\r' || c = '\u0085' || isSeparator c

/-- A letter or digit of ASCII, `_` or `-`: what names consist of. -/
def isNameChar (c : Char) : Bool := c.isAlphanum || c = '_' || c = '-'

/-- Whether a character may stand in a text at all. -/
def isAllowed (c : Char) : Bool :=
  let n := c.toNat
  n = 0x9 || n = 0xA || n = 0xD || (0x20 ≤ n && n ≤ 0x7E) || n = 0x85 || (0xA0 ≤ n && n ≤ 0xD7FF) ||
    (0xE000 ≤ n && n ≤ 0xFFFD) || 0x10000 ≤ n

/-! ## Characters with marks -/

/-- A character with its mark. -/
structure Spot where
  /-- The character; a line end is a line feed or a separator. -/
  char : Char
  /-- The place of the character. -/
  mark : Mark
  deriving Repr

/-- What is left of a text. -/
structure Source where
  /-- The characters that are left. -/
  spots : List Spot
  /-- The mark behind the last of them. -/
  final : Mark
  deriving Repr

/-- The characters of a text from a mark on, and the mark behind them. -/
def spotsFrom (m : Mark) : List Char → List Spot × Mark
  | [] => ([], m)
  | '\r' :: '\n' :: rest =>
    let (spots, final) := spotsFrom ⟨m.index + 2, m.line + 1, 0⟩ rest
    (⟨'\n', m⟩ :: spots, final)
  | c :: rest =>
    if isBreak c then
      let (spots, final) := spotsFrom ⟨m.index + 1, m.line + 1, 0⟩ rest
      (⟨if isSeparator c then c else '\n', m⟩ :: spots, final)
    else
      let (spots, final) := spotsFrom ⟨m.index + 1, m.line, m.column + 1⟩ rest
      (⟨c, m⟩ :: spots, final)

/-- How many octets stand in front of the first character that may not stand in a text. -/
def forbiddenAt? (before : Nat) : List Char → Option Nat
  | [] => none
  | c :: rest => if isAllowed c then forbiddenAt? (before + c.utf8Size) rest else some before

namespace Source

/-- A whole text; a character that may not stand in it is a fault. -/
def ofText (text : String) : Except Fault Source :=
  match forbiddenAt? 0 text.toList with
  | some octets => .error ⟨.controlCharacter octets, .first, none⟩
  | none =>
    let (spots, final) := spotsFrom .first text.toList
    .ok ⟨spots, final⟩

/-- The mark of the next character. -/
def mark (s : Source) : Mark :=
  match s.spots with
  | [] => s.final
  | spot :: _ => spot.mark

/-- The column of the next character. -/
def column (s : Source) : Nat := s.mark.column

/-- The next character. -/
def char? (s : Source) : Option Char := s.spots.head?.map Spot.char

/-- The character after the given number of others. -/
def charAt? (s : Source) (n : Nat) : Option Char := s.spots[n]?.map Spot.char

/-- The text without the given number of characters. -/
def drop (s : Source) (n : Nat) : Source := { s with spots := s.spots.drop n }

/-- The text without the next character. -/
def next (s : Source) : Source := s.drop 1

/-- Whether the next character is the given one. -/
def startsWith (s : Source) (c : Char) : Bool := s.char? = some c

/-- Whether the next character satisfies a condition. -/
def startsIn (s : Source) (p : Char → Bool) : Bool := s.char?.any p

/-- Whether a blank, a line end or the end of the text follows the given number of characters. -/
def wordEndsAt (s : Source) (n : Nat) : Bool := (s.charAt? n).all fun c => isGap c || isBreak c

/-- Whether a line end or the end of the text follows. -/
def lineEnds (s : Source) : Bool := s.char?.all isBreak

/-- The next characters that satisfy a condition, and the text behind them. -/
def span (s : Source) (p : Char → Bool) : List Char × Source :=
  ((s.spots.takeWhile (p ·.char)).map Spot.char, { s with spots := s.spots.dropWhile (p ·.char) })

/-- The text without the characters in front that satisfy a condition. -/
def skip (s : Source) (p : Char → Bool) : Source := (s.span p).2

/-- Whether a line begins here with three of a character and the end of a word. -/
def isRule (s : Source) (c : Char) : Bool :=
  s.column = 0 && s.charAt? 0 = some c && s.charAt? 1 = some c && s.charAt? 2 = some c && s.wordEndsAt 3

/-- Whether a line begins here that begins or ends a document. -/
def isDocumentMark (s : Source) : Bool := s.isRule '-' || s.isRule '.'

/-- The text behind the blanks, the comment and the end of the line that follow; anything else in
the line is a fault. -/
def endOfLine (s : Source) (construct : Construct) (start : Mark) : Except Fault Source :=
  let s := s.skip isGap
  let s := if s.startsWith '#' then s.skip (!isBreak ·) else s
  if s.lineEnds then .ok s.next else .error ⟨.strayInLine, s.mark, some (construct, start)⟩

end Source

end Roster.Yaml
