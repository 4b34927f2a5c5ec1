import Roster.Yaml.Token
import Roster.Number.Whole

/-!
# Block texts

A block text is a header and the indented lines below it. The header may say how far the lines are
indented, which otherwise the first line with content shows, and what becomes of the line ends behind
the last line: one is kept, or none with `-`, or all with `+`. Literal texts keep their lines; in
folded ones a line end between two lines that begin with no blank is a space, or nothing if empty
lines follow.
-/

namespace Roster.Yaml.Block

/-- What becomes of the line ends behind the last line. -/
inductive Ending where
  /-- None is kept. -/
  | strip
  /-- One is kept. -/
  | clip
  /-- All are kept. -/
  | keep
  deriving DecidableEq, Repr

/-- The header of a block text. -/
structure Header where
  /-- Whether the lines are kept. -/
  isLiteral : Bool
  /-- What becomes of the last line ends. -/
  ending : Ending
  /-- How much deeper than its surroundings the text is said to stand. -/
  deeper : Option Nat
  deriving DecidableEq, Repr

/-- The ending that a sign stands for. -/
def ending? (s : Source) : Option Ending :=
  if s.startsWith '+' then some .keep else if s.startsWith '-' then some .strip else none

/-- The indentation that a digit gives; zero is a fault. -/
def deeper? (start : Mark) (s : Source) : Except Fault (Option Nat) :=
  match s.char?.filter Number.isDigit with
  | none => .ok none
  | some '0' => .error ⟨.zeroIndentation, s.mark, some (.blockText, start)⟩
  | some c => .ok (some (Number.digitValue c))

/-- Reads a header, its line end included. -/
def readHeader (isLiteral : Bool) (s : Source) : Except Fault (Header × Source) := do
  let start := s.mark
  let s := s.next
  let (ending, deeper, s) ← (match ending? s with
    | some ending => do
      let s := s.next
      let deeper ← deeper? start s
      pure (ending, deeper, if deeper.isSome then s.next else s)
    | none => do
      let deeper ← deeper? start s
      let s := if deeper.isSome then s.next else s
      match ending? s with
      | some ending => pure (ending, deeper, s.next)
      | none => pure (.clip, deeper, s))
  let s ← s.endOfLine .blockText start
  return (⟨isLiteral, ending, deeper⟩, s)

/-- Where reading a block text stands. -/
structure State where
  /-- The column that the lines begin in, or zero if that is not known yet. -/
  indent : Nat
  /-- Whether a line is being read, or else the indentation of one. -/
  inLine : Bool
  /-- The furthest column of an indentation since the last line. -/
  widest : Nat
  /-- The content, the last character first. -/
  reversed : List Char
  /-- The end of the last line. -/
  lineEnd : Option Char
  /-- The ends of the empty lines behind it, the last one first. -/
  emptyLines : List Char
  /-- Whether the last line begins with a blank. -/
  blankStart : Bool
  deriving Repr

/-- The content with the line ends in front of a line that begins with the given character. -/
def joined (isLiteral : Bool) (t : State) (c : Char) : List Char :=
  if !isLiteral && t.lineEnd = some '\n' && !t.blankStart && !isGap c then
    if t.emptyLines = [] then ' ' :: t.reversed else t.emptyLines ++ t.reversed
  else t.emptyLines ++ t.lineEnd.toList ++ t.reversed

/-- The content with the line ends that are kept behind the last line. -/
def finished (ending : Ending) (t : State) : List Char :=
  match ending with
  | .strip => t.reversed
  | .clip => t.lineEnd.toList ++ t.reversed
  | .keep => t.emptyLines ++ t.lineEnd.toList ++ t.reversed

/-- Reads on; `least` is the least indentation that the lines may have. -/
def readOn (h : Header) (least : Nat) (start final : Mark) (t : State) :
    List Spot → Except Fault (List Char × Source)
  | [] => .ok (finished h.ending t, ⟨[], final⟩)
  | spot :: rest =>
    let c := spot.char
    let column := spot.mark.column
    if t.inLine then
      if isBreak c then
        readOn h least start final { t with inLine := false, widest := 0, lineEnd := some c } rest
      else readOn h least start final { t with reversed := c :: t.reversed } rest
    else if (t.indent = 0 || column < t.indent) && c = ' ' then readOn h least start final t rest
    else
      let widest := max t.widest column
      if (t.indent = 0 || column < t.indent) && c = '\t' then
        .error ⟨.tabInIndentation, spot.mark, some (.blockText, start)⟩
      else if isBreak c then
        readOn h least start final { t with widest, emptyLines := c :: t.emptyLines } rest
      else
        let indent := if t.indent = 0 then max widest least else t.indent
        if column = indent then
          let reversed := c :: joined h.isLiteral t c
          readOn h least start final ⟨indent, true, 0, reversed, none, [], isGap c⟩ rest
        else .ok (finished h.ending t, ⟨spot :: rest, final⟩)

/-- Reads a block text whose surroundings begin in the given column, or before the first column:
its content and the source behind it. -/
def read (isLiteral : Bool) (around : Int) (s : Source) : Except Fault (String × Source) := do
  let (header, rest) ← readHeader isLiteral s
  let indent := header.deeper.elim 0 fun n => if 0 ≤ around then around.toNat + n else n
  let least := max (around + 1).toNat 1
  let (reversed, rest) ←
    readOn header least s.mark rest.final ⟨indent, false, 0, [], none, [], false⟩ rest.spots
  return (String.ofList reversed.reverse, rest)

end Roster.Yaml.Block
