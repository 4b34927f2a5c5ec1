import Roster.Yaml.Token

/-!
# Plain texts

A plain text runs over words and the gaps between them. It ends before a colon that ends a word,
before a comment, before a line that begins or ends a document or stands too far left and, in a flow
collection, before a sign of that collection.
-/

namespace Roster.Yaml.Plain

/-- The signs of flow collections. -/
def isFlowSign (c : Char) : Bool := c = ',' || c = '[' || c = ']' || c = '\x7b' || c = '\x7d'

/-- Where a plain text stands. -/
structure Place where
  /-- Whether it is in a flow collection. -/
  inFlow : Bool
  /-- The first column that its lines may begin in. -/
  indent : Int
  /-- Where it begins. -/
  start : Mark
  /-- The mark behind the whole source. -/
  final : Mark
  deriving Repr

/-- A plain text that was read: its content, the last character first, the gap behind it, and the
source behind the gap. -/
structure Result where
  /-- The content, the last character first. -/
  reversed : List Char
  /-- What stands behind it. -/
  gap : Gap
  /-- The source behind the gap. -/
  rest : Source
  deriving Repr

/-- Reads on, after some content and a gap behind it. -/
def readOn (p : Place) (reversed : List Char) (gap : Gap) : List Spot → Except Fault Result
  | [] => .ok ⟨reversed, gap, ⟨[], p.final⟩⟩
  | spot :: rest =>
    let here : Source := ⟨spot :: rest, p.final⟩
    let c := spot.char
    if isGap c then
      if gap.isLines && spot.mark.column < p.indent && c = '\t' then
        .error ⟨.tabBeforeText, spot.mark, some (.plainText, p.start)⟩
      else readOn p reversed (gap.blank c) rest
    else if isBreak c then readOn p reversed (gap.line c) rest
    else if here.isDocumentMark || (gap ≠ .none && c = '#') ||
        (gap.isLines && !p.inFlow && spot.mark.column < p.indent) then
      .ok ⟨reversed, gap, here⟩
    else if p.inFlow && c = ':' &&
        (here.charAt? 1).any (fun d => isFlowSign d || d = '?') then
      .error ⟨.unexpectedColon, spot.mark, some (.plainText, p.start)⟩
    else if (c = ':' && here.wordEndsAt 1) || (p.inFlow && isFlowSign c) then
      .ok ⟨reversed, gap, here⟩
    else readOn p (c :: (gap.content.reverse ++ reversed)) .none rest

/-- Reads a plain text. -/
def read (inFlow : Bool) (indent : Int) (s : Source) : Except Fault Result :=
  readOn ⟨inFlow, indent, s.mark, s.final⟩ [] .none s.spots

end Roster.Yaml.Plain
