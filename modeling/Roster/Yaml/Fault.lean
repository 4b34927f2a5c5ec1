/-!
# Faults in YAML texts

What keeps a text from being read as YAML. A fault has a problem with the mark at which it was noticed
and, for most problems, the construct that was being read with the mark at which that began. The very
first place of a text is never shown, and the second mark only where it differs from the first.
-/

namespace Roster.Yaml

/-- A place in a text. -/
structure Mark where
  /-- How many characters stand in front. -/
  index : Nat
  /-- How many line ends stand in front. -/
  line : Nat
  /-- How many characters of the line stand in front. -/
  column : Nat
  deriving DecidableEq, Repr, Inhabited

namespace Mark

/-- The first place of a text. -/
def first : Mark := ⟨0, 0, 0⟩

/-- Whether two marks lie in one line and column. -/
def samePlace (a b : Mark) : Bool := a.line = b.line && a.column = b.column

/-- The mark after an error text, counted from one; the first place of a text is not shown. -/
def text (m : Mark) : String :=
  if m.samePlace first then ""
  else " at line " ++ toString (m.line + 1) ++ " column " ++ toString (m.column + 1)

end Mark

/-- What is wrong. -/
inductive Problem where
  /-- A character may not stand in a text, given how many octets stand in front of it. -/
  | controlCharacter (octets : Nat)
  /-- No token begins with a character. -/
  | noToken
  /-- A key in one line has no colon behind it. -/
  | missingColon
  /-- An item of a block sequence stands where none may begin. -/
  | misplacedItem
  /-- A question mark stands where no key may begin. -/
  | misplacedKey
  /-- A colon stands where no value may begin. -/
  | misplacedValue
  /-- A directive has no name. -/
  | noDirectiveName
  /-- The name of a directive is not followed by a blank. -/
  | strayInDirectiveName
  /-- A directive is neither of the known ones. -/
  | unknownDirective
  /-- Something but a comment follows in the line. -/
  | strayInLine
  /-- A version has no point. -/
  | noVersionPoint
  /-- A part of a version has no digit. -/
  | noVersionNumber
  /-- A part of a version has too many digits. -/
  | longVersionNumber
  /-- A blank has to follow. -/
  | noBlank
  /-- A blank or a line end has to follow. -/
  | noBlankOrBreak
  /-- An anchor has no name, or its name is not followed by the end of a word. -/
  | noAnchorName
  /-- A tag in angle brackets is not closed. -/
  | noTagEnd
  /-- The handle of a tag has no exclamation mark. -/
  | noTagMark
  /-- A tag says nothing. -/
  | noTagName
  /-- A percent sign is not followed by an octet. -/
  | noTagOctet
  /-- The octets of a tag begin no character. -/
  | badLeadOctet
  /-- The octets of a tag do not continue a character. -/
  | badTailOctet
  /-- The indentation of a block text is given as zero. -/
  | zeroIndentation
  /-- A tab stands in the indentation of a block text. -/
  | tabInIndentation
  /-- A quoted text holds a line that begins or ends a document. -/
  | documentMarkInText
  /-- A quoted text does not end. -/
  | endInText
  /-- A backslash is followed by a character without a meaning. -/
  | unknownEscape
  /-- A character number lacks a digit. -/
  | noHexDigit
  /-- A number is that of no character. -/
  | noSuchCharacter
  /-- A colon is followed by a sign of a flow collection. -/
  | unexpectedColon
  /-- A tab stands in the indentation of a plain text. -/
  | tabBeforeText
  /-- A document does not begin after directives or after another document. -/
  | noDocumentStart
  /-- A document gives its version twice. -/
  | repeatedVersion
  /-- A document is of another version. -/
  | otherVersion
  /-- A document explains a tag handle twice. -/
  | repeatedTagDirective
  /-- A block mapping goes on with something but a key. -/
  | noKey
  /-- A block sequence goes on with something but an item. -/
  | noItem
  /-- A flow sequence goes on with neither a comma nor its end. -/
  | noSequenceEnd
  /-- A flow mapping goes on with neither a comma nor its end. -/
  | noMappingEnd
  /-- No value stands where one has to. -/
  | noNode
  /-- A tag handle is not explained. -/
  | unknownHandle
  deriving DecidableEq, Repr

/-- The problem in words. -/
def Problem.text : Problem → String
  | controlCharacter _ => "control characters are not allowed"
  | noToken => "found character that cannot start any token"
  | missingColon => "could not find expected ':'"
  | misplacedItem => "block sequence entries are not allowed in this context"
  | misplacedKey => "mapping keys are not allowed in this context"
  | misplacedValue => "mapping values are not allowed in this context"
  | noDirectiveName => "could not find expected directive name"
  | strayInDirectiveName => "found unexpected non-alphabetical character"
  | unknownDirective => "found unknown directive name"
  | strayInLine => "did not find expected comment or line break"
  | noVersionPoint => "did not find expected digit or '.' character"
  | noVersionNumber => "did not find expected version number"
  | longVersionNumber => "found extremely long version number"
  | noBlank => "did not find expected whitespace"
  | noBlankOrBreak => "did not find expected whitespace or line break"
  | noAnchorName => "did not find expected alphabetic or numeric character"
  | noTagEnd => "did not find the expected '>'"
  | noTagMark => "did not find expected '!'"
  | noTagName => "did not find expected tag URI"
  | noTagOctet => "did not find URI escaped octet"
  | badLeadOctet => "found an incorrect leading UTF-8 octet"
  | badTailOctet => "found an incorrect trailing UTF-8 octet"
  | zeroIndentation => "found an indentation indicator equal to 0"
  | tabInIndentation => "found a tab character where an indentation space is expected"
  | documentMarkInText => "found unexpected document indicator"
  | endInText => "found unexpected end of stream"
  | unknownEscape => "found unknown escape character"
  | noHexDigit => "did not find expected hexdecimal number"
  | noSuchCharacter => "found invalid Unicode character escape code"
  | unexpectedColon => "found unexpected ':'"
  | tabBeforeText => "found a tab character that violates indentation"
  | noDocumentStart => "did not find expected <document start>"
  | repeatedVersion => "found duplicate %YAML directive"
  | otherVersion => "found incompatible YAML document"
  | repeatedTagDirective => "found duplicate %TAG directive"
  | noKey => "did not find expected key"
  | noItem => "did not find expected '-' indicator"
  | noSequenceEnd => "did not find expected ',' or ']'"
  | noMappingEnd => "did not find expected ',' or '\x7d'"
  | noNode => "did not find expected node content"
  | unknownHandle => "found undefined tag handle"

/-- The construct that was being read. -/
inductive Construct where
  /-- The gap in front of a token. -/
  | nextToken
  /-- A key in one line. -/
  | lineKey
  /-- A directive of any kind. -/
  | directive
  /-- A version directive. -/
  | versionDirective
  /-- A tag directive. -/
  | tagDirective
  /-- The handle of a tag directive. -/
  | directiveHandle
  /-- The rest of the handle of a tag directive. -/
  | directiveHandleEnd
  /-- The name in a tag directive. -/
  | directiveName
  /-- An anchor. -/
  | anchor
  /-- A reference to an anchor. -/
  | reference
  /-- A tag. -/
  | tag
  /-- The name of a tag. -/
  | tagName
  /-- A block text. -/
  | blockText
  /-- A quoted text. -/
  | quotedText
  /-- An escape in a quoted text. -/
  | escape
  /-- A plain text. -/
  | plainText
  /-- A value with a tag. -/
  | taggedNode
  /-- A value in a block collection. -/
  | blockNode
  /-- A value in a flow collection. -/
  | flowNode
  /-- A block sequence. -/
  | blockSequence
  /-- A block mapping. -/
  | blockMapping
  /-- A flow sequence. -/
  | flowSequence
  /-- A flow mapping. -/
  | flowMapping
  deriving DecidableEq, Repr

/-- The construct in words. -/
def Construct.text : Construct → String
  | nextToken => "while scanning for the next token"
  | lineKey => "while scanning a simple key"
  | directive => "while scanning a directive"
  | versionDirective => "while scanning a %YAML directive"
  | tagDirective => "while scanning a %TAG directive"
  | directiveHandle => "while scanning a tag directive"
  | directiveHandleEnd => "while parsing a tag directive"
  | directiveName => "while parsing a %TAG directive"
  | anchor => "while scanning an anchor"
  | reference => "while scanning an alias"
  | tag => "while scanning a tag"
  | tagName => "while parsing a tag"
  | blockText => "while scanning a block scalar"
  | quotedText => "while scanning a quoted scalar"
  | escape => "while parsing a quoted scalar"
  | plainText => "while scanning a plain scalar"
  | taggedNode => "while parsing a node"
  | blockNode => "while parsing a block node"
  | flowNode => "while parsing a flow node"
  | blockSequence => "while parsing a block collection"
  | blockMapping => "while parsing a block mapping"
  | flowSequence => "while parsing a flow sequence"
  | flowMapping => "while parsing a flow mapping"

/-- A fault of a text. -/
structure Fault where
  /-- What is wrong. -/
  problem : Problem
  /-- Where it was noticed. -/
  mark : Mark
  /-- What was being read, and where that began. -/
  construct : Option (Construct × Mark) := none
  deriving DecidableEq, Repr

/-- The fault in words. -/
def Fault.message (f : Fault) : String :=
  let place := match f.problem with
    | .controlCharacter octets => if octets = 0 then "" else " at position " ++ toString octets
    | _ => f.mark.text
  let construct := match f.construct with
    | none => ""
    | some (c, m) => ", " ++ c.text ++ (if m.samePlace f.mark then "" else m.text)
  f.problem.text ++ place ++ construct

end Roster.Yaml
