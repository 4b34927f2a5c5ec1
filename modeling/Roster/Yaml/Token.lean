import Roster.Yaml.Source

/-!
# Tokens

The words and signs of a YAML text, block collections included: where the lines of a block collection
begin and end, tokens stand that no character writes.
-/

namespace Roster.Yaml

/-- How a text is written. -/
inductive Style where
  /-- As it is. -/
  | plain
  /-- Between single quotes. -/
  | singleQuoted
  /-- Between double quotes, with escapes. -/
  | doubleQuoted
  /-- In indented lines that are kept. -/
  | literal
  /-- In indented lines that are joined. -/
  | folded
  deriving DecidableEq, Repr

/-- What a token is. -/
inductive TokenKind where
  /-- The begin of everything. -/
  | streamStart
  /-- The end of everything. -/
  | streamEnd
  /-- The version of a document. -/
  | version (major minor : Nat)
  /-- What a tag handle stands for. -/
  | handle (name meaning : String)
  /-- The line that begins a document. -/
  | documentStart
  /-- The line that ends a document. -/
  | documentEnd
  /-- The begin of a block sequence. -/
  | blockSequenceStart
  /-- The begin of a block mapping. -/
  | blockMappingStart
  /-- The end of a block collection. -/
  | blockEnd
  /-- An opening bracket. -/
  | flowSequenceStart
  /-- A closing bracket. -/
  | flowSequenceEnd
  /-- An opening brace. -/
  | flowMappingStart
  /-- A closing brace. -/
  | flowMappingEnd
  /-- The sign in front of an item of a block sequence. -/
  | item
  /-- A comma. -/
  | separator
  /-- The begin of a key. -/
  | key
  /-- The begin of a value. -/
  | value
  /-- A reference to an anchor. -/
  | reference (name : String)
  /-- An anchor. -/
  | anchor (name : String)
  /-- A tag: a handle, empty for none, and the rest of the name. -/
  | tag (handle rest : String)
  /-- A text. -/
  | text (content : String) (style : Style)
  deriving DecidableEq, Repr

/-- A token with its place. -/
structure Token where
  /-- What it is. -/
  kind : TokenKind
  /-- Where it begins. -/
  start : Mark
  /-- Where reading went on behind it. -/
  stop : Mark
  deriving DecidableEq, Repr

/-! ## Gaps in texts -/

/-- What stands between two words of a text. -/
inductive Gap where
  /-- Nothing. -/
  | none
  /-- Blanks, the last one first. -/
  | blanks (reversed : List Char)
  /-- Line ends: the first one, if it counts, and the others, the last one first. -/
  | lines (first : Option Char) (reversed : List Char)
  deriving DecidableEq, Repr

namespace Gap

/-- What a gap stands for: blanks for themselves, one line feed for a space, and more line ends for
all but the first of them; a separator in front is kept. -/
def content : Gap → List Char
  | none => []
  | blanks reversed => reversed.reverse
  | lines (some '\n') [] => [' ']
  | lines (some '\n') reversed => reversed.reverse
  | lines first reversed => first.toList ++ reversed.reverse

/-- The gap with one more blank; behind a line end blanks say nothing. -/
def blank (c : Char) : Gap → Gap
  | none => blanks [c]
  | blanks reversed => blanks (c :: reversed)
  | lines first reversed => lines first reversed

/-- The gap with one more line end, in front of which blanks say nothing. -/
def line (c : Char) : Gap → Gap
  | lines first reversed => lines first (c :: reversed)
  | _ => lines (some c) []

/-- Whether the gap holds a line end. -/
def isLines : Gap → Bool
  | lines _ _ => true
  | _ => false

end Gap

end Roster.Yaml
