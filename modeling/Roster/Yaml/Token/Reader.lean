import Roster.Yaml.Token.Plain
import Roster.Yaml.Token.Quoted
import Roster.Yaml.Token.Block
import Roster.Yaml.Token.Tag

/-!
# Reading tokens

Whether a text or a collection is a key shows only at the colon behind it. So a token that may turn
out to begin a key **waits**, and with it all tokens behind it, until the colon comes or can no longer
come: it has to stand in the same line and within 1024 characters. Only then tokens are **released**.
If the source turns out to be faulty, the tokens that wait are lost, and what was released stays.

Outside flow collections the columns of the tokens open and close block collections: `indents` holds
the columns of those that are open.
-/

namespace Roster.Yaml

/-- A token that may begin a key. -/
structure Candidate where
  /-- Whether nothing but a key can stand here. -/
  required : Bool
  /-- The number of the token. -/
  number : Nat
  /-- Where the token begins. -/
  mark : Mark
  deriving Repr

/-- Where reading tokens stands. -/
structure Reading where
  /-- What is left of the source. -/
  source : Source
  /-- The tokens that wait. -/
  waiting : List Token := []
  /-- How many tokens were released. -/
  released : Nat := 0
  /-- The column of the innermost block collection; less than zero if there is none. -/
  indent : Int := -1
  /-- The columns around it. -/
  outer : List Int := []
  /-- Whether a key in one line may begin here. -/
  keyAllowed : Bool := true
  /-- The candidate in each flow collection and outside of all, the innermost first. -/
  candidates : List (Option Candidate) := [none]
  deriving Repr

namespace Reading

/-- Whether a flow collection is open. -/
def inFlow (r : Reading) : Bool := 1 < r.candidates.length

/-- The mark of the next character. -/
def mark (r : Reading) : Mark := r.source.mark

/-- The candidate of the innermost collection. -/
def candidate? (r : Reading) : Option Candidate := r.candidates.head?.join

/-- Sets the candidate of the innermost collection. -/
def setCandidate (c : Option Candidate) (r : Reading) : Reading :=
  { r with candidates := c :: r.candidates.tail }

/-- The fault that a key has no colon. -/
def noColon (r : Reading) (c : Candidate) : Fault :=
  ⟨.missingColon, r.mark, some (.lineKey, c.mark)⟩

/-- A token at the next character, which it does not take. -/
def emptyToken (r : Reading) (kind : TokenKind) : Token := ⟨kind, r.mark, r.mark⟩

/-- Lets a token wait that ends in front of the given source. -/
def push (kind : TokenKind) (rest : Source) (r : Reading) : Reading :=
  { r with waiting := r.waiting ++ [⟨kind, r.mark, rest.mark⟩], source := rest }

/-- Puts a token in front of the waiting one with the given number. -/
def insertAt (number : Nat) (token : Token) (r : Reading) : Reading :=
  let i := number - r.released
  { r with waiting := r.waiting.take i ++ token :: r.waiting.drop i }

/-! ## Candidates -/

/-- Whether the colon of a candidate can no longer come. -/
def isStale (r : Reading) (c : Candidate) : Bool :=
  c.mark.line < r.mark.line || c.mark.index + 1024 < r.mark.index

/-- Drops the candidates whose colon can no longer come; one that has to be a key is a fault. -/
def dropStale (r : Reading) : Except Fault Reading :=
  let stale := r.candidates.filter fun c => c.any r.isStale
  match (stale.filterMap id).find? (·.required) with
  | some c => .error (r.noColon c)
  | none => .ok { r with candidates := r.candidates.map fun c => c.filter fun c => !r.isStale c }

/-- Drops the candidate of the innermost collection; one that has to be a key is a fault. -/
def dropCandidate (r : Reading) : Except Fault Reading :=
  match r.candidate? with
  | some c => if c.required then .error (r.noColon c) else .ok (r.setCandidate none)
  | none => .ok r

/-- Notes that the next token may begin a key, if one may begin here. -/
def noteCandidate (r : Reading) : Except Fault Reading :=
  if r.keyAllowed then do
    let required := !r.inFlow && r.indent = r.mark.column
    let r ← r.dropCandidate
    return r.setCandidate (some ⟨required, r.released + r.waiting.length, r.mark⟩)
  else .ok r

/-! ## Columns -/

/-- Opens a block collection in a column, if none is open there, in front of the waiting token with
the given number or behind all. -/
def openBlock (column : Nat) (number : Option Nat) (token : Token) (r : Reading) : Reading :=
  if r.inFlow || column ≤ r.indent then r
  else
    let r := { r with outer := r.indent :: r.outer, indent := column }
    r.insertAt (number.getD (r.released + r.waiting.length)) token

/-- The innermost of some columns that does not lie behind the given one, those around it, and how
many there are that do. -/
def closing (column : Int) : Int → List Int → Int × List Int × Nat
  | indent, [] => (indent, [], 0)
  | indent, next :: outer =>
    if column < indent then
      let (indent, outer, n) := closing column next outer
      (indent, outer, n + 1)
    else (indent, next :: outer, 0)

/-- Closes the block collections whose columns lie behind the given one. -/
def closeBlocks (column : Int) (r : Reading) : Reading :=
  if r.inFlow then r
  else
    let (indent, outer, n) := closing column r.indent r.outer
    let ends := List.replicate n (r.emptyToken .blockEnd)
    { r with indent, outer, waiting := r.waiting ++ ends }

/-! ## Gaps between tokens -/

/-- The source behind blanks, comments and line ends, and whether a key may begin there. Tabs are no
indentation; behind a line end outside flow collections a key may begin. -/
def behindGap (inFlow : Bool) : Bool → Bool → List Spot → List Spot × Bool
  | _, keyAllowed, [] => ([], keyAllowed)
  | inComment, keyAllowed, spot :: rest =>
    let c := spot.char
    if isBreak c then behindGap inFlow false (keyAllowed || !inFlow) rest
    else if inComment then behindGap inFlow true keyAllowed rest
    else if c = ' ' || (c = '\t' && (inFlow || !keyAllowed)) ||
        (c = '\ufeff' && spot.mark.index = 0) then
      behindGap inFlow false keyAllowed rest
    else if c = '#' then behindGap inFlow true keyAllowed rest
    else (spot :: rest, keyAllowed)

/-- Skips the gap in front of the next token. -/
def skipGap (r : Reading) : Reading :=
  let (spots, keyAllowed) := behindGap r.inFlow false r.keyAllowed r.source.spots
  { r with source := { r.source with spots }, keyAllowed }

/-! ## Tokens -/

/-- Reads a sign that stands outside of all block collections. -/
def atMargin (r : Reading) : Except Fault Reading := do
  let r ← (r.closeBlocks (-1)).dropCandidate
  return { r with keyAllowed := false }

/-- Reads the end of the source, which ends its line. -/
def readEnd (r : Reading) : Except Fault Reading := do
  let m := r.mark
  let final : Mark := if m.column = 0 then m else ⟨m.index, m.line + 1, 0⟩
  let r ← { r with source := ⟨[], final⟩ }.atMargin
  return r.push .streamEnd r.source

/-- Reads a directive. -/
def readDirective (r : Reading) : Except Fault Reading := do
  let r ← r.atMargin
  let (kind, stop, rest) ← Directive.read r.source
  return { r.push kind stop with source := rest }

/-- Reads the line that begins or ends a document. -/
def readDocumentMark (kind : TokenKind) (r : Reading) : Except Fault Reading := do
  let r ← r.atMargin
  return r.push kind (r.source.drop 3)

/-- Reads the sign that opens a flow collection. -/
def readOpening (kind : TokenKind) (r : Reading) : Except Fault Reading := do
  let r ← r.noteCandidate
  let r := { r with candidates := none :: r.candidates, keyAllowed := true }
  return r.push kind r.source.next

/-- Reads the sign that closes a flow collection. -/
def readClosing (kind : TokenKind) (r : Reading) : Except Fault Reading := do
  let r ← r.dropCandidate
  let candidates := if r.inFlow then r.candidates.tail else r.candidates
  let r := { r with candidates, keyAllowed := false }
  return r.push kind r.source.next

/-- Reads a comma. -/
def readSeparator (r : Reading) : Except Fault Reading := do
  let r ← r.dropCandidate
  return { r with keyAllowed := true }.push .separator r.source.next

/-- Opens a block collection for a sign in this column, unless a flow collection is open. -/
def openHere (kind : TokenKind) (problem : Problem) (r : Reading) : Except Fault Reading :=
  if r.inFlow then .ok r
  else if r.keyAllowed then .ok (r.openBlock r.mark.column none (r.emptyToken kind))
  else .error ⟨problem, r.mark, none⟩

/-- Reads the sign of an item. -/
def readItem (r : Reading) : Except Fault Reading := do
  let r ← r.openHere .blockSequenceStart .misplacedItem
  let r ← r.dropCandidate
  return { r with keyAllowed := true }.push .item r.source.next

/-- Reads the sign of a key. -/
def readKey (r : Reading) : Except Fault Reading := do
  let r ← r.openHere .blockMappingStart .misplacedKey
  let r ← r.dropCandidate
  return { r with keyAllowed := !r.inFlow }.push .key r.source.next

/-- Reads a colon. It makes a key of the candidate, if there is one. -/
def readValue (r : Reading) : Except Fault Reading := do
  let r ← (match r.candidate? with
    | some c =>
      let r := r.insertAt c.number ⟨.key, c.mark, c.mark⟩
      let r := r.openBlock c.mark.column (some c.number) ⟨.blockMappingStart, c.mark, c.mark⟩
      .ok { r.setCandidate none with keyAllowed := false }
    | none => do
      let r ← r.openHere .blockMappingStart .misplacedValue
      return { r with keyAllowed := !r.inFlow })
  return r.push .value r.source.next

/-- Reads an anchor or a reference to one. -/
def readAnchorToken (construct : Construct) (kind : String → TokenKind) (r : Reading) :
    Except Fault Reading := do
  let r ← r.noteCandidate
  let (name, rest) ← readAnchor construct r.source
  return { r with keyAllowed := false }.push (kind name) rest

/-- Reads a tag. -/
def readTag (r : Reading) : Except Fault Reading := do
  let r ← r.noteCandidate
  let (handle, name, rest) ← Tag.read r.inFlow r.source
  return { r with keyAllowed := false }.push (.tag handle name) rest

/-- Reads a block text. -/
def readBlock (isLiteral : Bool) (r : Reading) : Except Fault Reading := do
  let r ← r.dropCandidate
  let (content, rest) ← Block.read isLiteral r.indent r.source
  let style := if isLiteral then .literal else .folded
  return { r with keyAllowed := true }.push (.text content style) rest

/-- Reads a quoted text. -/
def readQuoted (single : Bool) (r : Reading) : Except Fault Reading := do
  let r ← r.noteCandidate
  let (content, rest) ← Quoted.read single r.source
  let style := if single then .singleQuoted else .doubleQuoted
  return { r with keyAllowed := false }.push (.text content style) rest

/-- Reads a plain text; if a line end follows, a key may begin behind it. -/
def readPlain (r : Reading) : Except Fault Reading := do
  let r ← r.noteCandidate
  let result ← Plain.read r.inFlow (r.indent + 1) r.source
  let text := String.ofList result.reversed.reverse
  return { r with keyAllowed := result.gap.isLines }.push (.text text .plain) result.rest

/-- Whether a character never begins a plain text. -/
def isSign (c : Char) : Bool :=
  "-?:,[]\x7b\x7d#&*!|>'\"%@`".toList.contains c

/-- Reads a token that begins with the given character. -/
def readFrom (c : Char) (r : Reading) : Except Fault Reading :=
  let s := r.source
  let wordEnds := s.wordEndsAt 1
  if s.column = 0 && c = '%' then r.readDirective
  else if s.isRule '-' then r.readDocumentMark .documentStart
  else if s.isRule '.' then r.readDocumentMark .documentEnd
  else if c = '[' then r.readOpening .flowSequenceStart
  else if c = '\x7b' then r.readOpening .flowMappingStart
  else if c = ']' then r.readClosing .flowSequenceEnd
  else if c = '\x7d' then r.readClosing .flowMappingEnd
  else if c = ',' then r.readSeparator
  else if c = '-' && wordEnds then r.readItem
  else if c = '?' && (r.inFlow || wordEnds) then r.readKey
  else if c = ':' && (r.inFlow || wordEnds) then r.readValue
  else if c = '*' then r.readAnchorToken .reference .reference
  else if c = '&' then r.readAnchorToken .anchor .anchor
  else if c = '!' then r.readTag
  else if c = '|' && !r.inFlow then r.readBlock true
  else if c = '>' && !r.inFlow then r.readBlock false
  else if c = '\'' then r.readQuoted true
  else if c = '"' then r.readQuoted false
  else if (!isSign c && !isGap c) || c = '-' || (!r.inFlow && (c = '?' || c = ':')) then r.readPlain
  else .error ⟨.noToken, r.mark, some (.nextToken, r.mark)⟩

/-- Reads the next token. -/
def readNext (r : Reading) : Except Fault Reading := do
  let r ← r.skipGap.dropStale
  let r := r.closeBlocks r.mark.column
  match r.source.char? with
  | none => r.readEnd
  | some c => r.readFrom c

/-! ## Releasing -/

/-- The least number of a candidate. -/
def firstCandidate? (r : Reading) : Option Nat :=
  ((r.candidates.filterMap id).map (·.number)).min?

/-- Releases the tokens in front of all candidates. -/
def release (r : Reading) : Except Fault (List Token × Reading) := do
  let r ← r.dropStale
  let n := (r.firstCandidate?.map (· - r.released)).getD r.waiting.length
  let tokens := r.waiting.take n
  return (tokens, { r with waiting := r.waiting.drop n, released := r.released + tokens.length })

/-- Whether tokens end the source. -/
def areLast (tokens : List Token) : Bool := tokens.any (·.kind = .streamEnd)

/-- The tokens that are released from here on, and the fault that ends them early. The fuel bounds the
number of steps, each of which takes a character or ends the source. -/
def tokens : Nat → Reading → List Token × Option Fault
  | 0, _ => ([], none)
  | fuel + 1, r =>
    match r.readNext >>= release with
    | .error fault => ([], some fault)
    | .ok (released, r) =>
      if areLast released then (released, none)
      else
        let (more, fault) := tokens fuel r
        (released ++ more, fault)

end Reading

/-- The tokens of a text, and the fault that ends them early. -/
def tokensOf (text : String) : List Token × Option Fault :=
  match Source.ofText text with
  | .error fault => ([], some fault)
  | .ok source =>
    let (tokens, fault) := Reading.tokens (source.spots.length + 2) { source, released := 1 }
    (⟨.streamStart, .first, .first⟩ :: tokens, fault)

end Roster.Yaml
