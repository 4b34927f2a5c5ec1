import Roster.Yaml.Token.Reader

/-!
# Events

What a text says, piece by piece: documents, the texts in them, and the begin and end of collections.
Reading events keeps a stack of what is expected next, the innermost first (`Expected`). A step looks
at the next token, may take some, and gives one event.

A key or value that is missing is an empty plain text at the place where it is missed.
-/

namespace Roster.Yaml

/-- A text with how it is written. -/
structure Scalar where
  /-- The content. -/
  content : String
  /-- How it is written. -/
  style : Style := .plain
  /-- The tag, if there is one. -/
  tag : Option String := none
  deriving DecidableEq, Repr, Inhabited

/-- A piece of what a text says; values may have anchors. -/
inductive Event where
  /-- The begin of a document. -/
  | documentStart
  /-- The end of a document. -/
  | documentEnd
  /-- The end of everything. -/
  | streamEnd
  /-- The value of an anchor. -/
  | reference (name : String)
  /-- A text. -/
  | scalar (s : Scalar) (anchor : Option String)
  /-- The begin of a sequence. -/
  | sequenceStart (anchor : Option String)
  /-- The end of a sequence. -/
  | sequenceEnd
  /-- The begin of a mapping. -/
  | mappingStart (anchor : Option String)
  /-- The end of a mapping. -/
  | mappingEnd
  deriving DecidableEq, Repr

/-- What may follow. The marks tell where the collection begins. -/
inductive Expected where
  /-- A document, or the end; the first one needs no line to begin it. -/
  | document (isFirst : Bool)
  /-- The content of a document that a line began. -/
  | documentContent
  /-- The content of any other document. -/
  | blockNode
  /-- The end of a document. -/
  | documentEnd
  /-- An item of a block sequence, or its end. -/
  | blockItem (start : Mark)
  /-- An item of a block sequence in the columns of a mapping, or its end. -/
  | mappingItem
  /-- A key of a block mapping, or its end. -/
  | blockKey (start : Mark)
  /-- The value of a block mapping. -/
  | blockValue (start : Mark)
  /-- An item of a flow sequence, or its end; all but the first need a comma. -/
  | flowItem (isFirst : Bool) (start : Mark)
  /-- The key of a pair that stands as an item. -/
  | pairKey (start : Mark)
  /-- The value of such a pair. -/
  | pairValue (start : Mark)
  /-- The end of such a pair. -/
  | pairEnd (start : Mark)
  /-- A key of a flow mapping, or its end; all but the first need a comma. -/
  | flowKey (isFirst : Bool) (start : Mark)
  /-- The value of a flow mapping. -/
  | flowValue (start : Mark)
  /-- The value of a key without one. -/
  | noFlowValue (start : Mark)
  deriving DecidableEq, Repr

/-- Where reading events stands. -/
structure Sentence where
  /-- The tokens that are left. -/
  tokens : List Token
  /-- The fault behind them. -/
  fault : Option Fault
  /-- What may follow, the innermost first; nothing may behind the end of everything. -/
  expected : List Expected
  /-- What the tag handles of the document stand for. -/
  handles : List (String × String)
  deriving Repr

namespace Sentence

/-- What tag handles stand for if a document does not say otherwise. -/
def usualHandles : List (String × String) := [("!", "!"), ("!!", "tag:yaml.org,2002:")]

/-- The next token; behind the last one is the fault that ended them. -/
def peek (s : Sentence) : Except Fault Token :=
  match s.tokens with
  | token :: _ => .ok token
  | [] => .error (s.fault.getD ⟨.endInText, .first, none⟩)

/-- The sentence without the next token. -/
def next (s : Sentence) : Sentence := { s with tokens := s.tokens.tail }

/-- The sentence in which one of the given things may follow next. -/
def expecting (more : List Expected) (s : Sentence) : Sentence :=
  { s with expected := more ++ s.expected }

/-- An event with its mark, and the sentence behind it. -/
abbrev Step := Except Fault ((Event × Mark) × Sentence)

/-- The event for a value that is missing. -/
def missing (mark : Mark) (s : Sentence) : Step :=
  .ok ((.scalar ⟨"", .plain, none⟩ none, mark), s)

/-! ## Values -/

/-- The anchor and tag in front of a value: the anchor, the tag with its mark, and where they begin. -/
def properties (s : Sentence) :
    Except Fault (Option String × Option (String × String × Mark) × Sentence) := do
  let token ← s.peek
  match token.kind with
  | .anchor name =>
    let s := s.next
    let token ← s.peek
    match token.kind with
    | .tag handle rest => return (some name, some (handle, rest, token.start), s.next)
    | _ => return (some name, none, s)
  | .tag handle rest =>
    let tag := (handle, rest, token.start)
    let s := s.next
    match (← s.peek).kind with
    | .anchor name => return (some name, some tag, s.next)
    | _ => return (none, some tag, s)
  | _ => return (none, none, s)

/-- The tag that a handle and the rest of its name stand for; `start` is where the value begins. -/
def tagOf (s : Sentence) (start : Mark) : Option (String × String × Mark) → Except Fault (Option String)
  | none => .ok none
  | some (handle, rest, mark) =>
    if handle = "" then .ok (some rest)
    else
      match s.handles.lookup handle with
      | some meaning => .ok (some (meaning ++ rest))
      | none => .error ⟨.unknownHandle, mark, some (.taggedNode, start)⟩

/-- A text with its tag; the tag `!` says nothing. -/
def scalarOf (content : String) (style : Style) (tag : Option String) : Scalar :=
  ⟨content, style, tag.filter (· ≠ "!")⟩

/-- Reads a value. Block collections may begin only if `isBlock`; the items of a sequence may begin in
the columns around it only if `isLoose`. -/
def node (isBlock isLoose : Bool) (s : Sentence) : Step := do
  let token ← s.peek
  let start := token.start
  match token.kind with
  | .reference name => return ((.reference name, start), s.next)
  | _ =>
    let (anchor, tag, s) ← s.properties
    let tag ← s.tagOf start tag
    let token ← s.peek
    match token.kind, isBlock with
    | .text content style, _ =>
      return ((.scalar (scalarOf content style tag) anchor, start), s.next)
    | .flowSequenceStart, _ =>
      return ((.sequenceStart anchor, start), s.next.expecting [.flowItem true token.start])
    | .flowMappingStart, _ =>
      return ((.mappingStart anchor, start), s.next.expecting [.flowKey true token.start])
    | .blockSequenceStart, true =>
      return ((.sequenceStart anchor, start), s.next.expecting [.blockItem token.start])
    | .blockMappingStart, true =>
      return ((.mappingStart anchor, start), s.next.expecting [.blockKey token.start])
    | kind, _ =>
      if isLoose ∧ kind = .item then
        return ((.sequenceStart anchor, start), s.expecting [.mappingItem])
      else if anchor.isSome ∨ tag.isSome then
        return ((.scalar ⟨"", .plain, tag⟩ anchor, start), s)
      else
        let construct := if isBlock then .blockNode else .flowNode
        .error ⟨.noNode, token.start, some (construct, start)⟩

/-! ## Documents -/

/-- Reads the directives of a document; the fuel bounds their number. -/
def directives (seenVersion : Bool) (handles : List (String × String)) :
    Nat → Sentence → Except Fault Sentence
  | 0, s => .ok s
  | fuel + 1, s => do
    let token ← s.peek
    match token.kind with
    | .version major minor =>
      if seenVersion then .error ⟨.repeatedVersion, token.start, none⟩
      else if major ≠ 1 ∨ (minor ≠ 1 ∧ minor ≠ 2) then .error ⟨.otherVersion, token.start, none⟩
      else directives true handles fuel s.next
    | .handle name meaning =>
      if (handles.lookup name).isSome then .error ⟨.repeatedTagDirective, token.start, none⟩
      else directives seenVersion (handles ++ [(name, meaning)]) fuel s.next
    | _ => return { s with handles := handles ++ usualHandles }

/-- The sentence without the lines in front that end a document. -/
def skipEnds (s : Sentence) : Sentence :=
  { s with tokens := s.tokens.dropWhile (·.kind = .documentEnd) }

/-- Reads the begin of a document, or the end of everything. -/
def document (isFirst : Bool) (s : Sentence) : Step := do
  let s := if isFirst then s else s.skipEnds
  let token ← s.peek
  match token.kind with
  | .streamEnd => return ((.streamEnd, token.start), s.next)
  | kind =>
    let begins := match kind with
      | .version _ _ | .handle _ _ | .documentStart => true
      | _ => false
    if isFirst && !begins then
      return ((.documentStart, token.start),
        { s with handles := usualHandles }.expecting [.blockNode, .documentEnd])
    else
      let s ← s.directives false [] (s.tokens.length + 1)
      let mark ← s.peek
      if mark.kind = .documentStart then
        return ((.documentStart, token.start), s.next.expecting [.documentContent, .documentEnd])
      else .error ⟨.noDocumentStart, mark.start, none⟩

/-- Whether a token ends the content of a document. -/
def endsContent : TokenKind → Bool
  | .version _ _ | .handle _ _ | .documentStart | .documentEnd | .streamEnd => true
  | _ => false

/-! ## Collections -/

/-- Reads a value, or misses it at the given mark if one of the given tokens follows. -/
def nodeUnless (isBlock isLoose : Bool) (ends : List TokenKind) (mark : Mark) (s : Sentence) : Step := do
  let token ← s.peek
  if token.kind ∈ ends then s.missing mark else s.node isBlock isLoose

/-- Reads an item of a block sequence, or its end. -/
def blockItem (start : Mark) (s : Sentence) : Step := do
  let token ← s.peek
  match token.kind with
  | .item => (s.next.expecting [.blockItem start]).nodeUnless true false [.item, .blockEnd] token.stop
  | .blockEnd => return ((.sequenceEnd, token.start), s.next)
  | _ => .error ⟨.noItem, token.start, some (.blockSequence, start)⟩

/-- Reads an item of a block sequence in the columns of a mapping, or its end. -/
def mappingItem (s : Sentence) : Step := do
  let token ← s.peek
  match token.kind with
  | .item =>
    (s.next.expecting [.mappingItem]).nodeUnless true false [.item, .key, .value, .blockEnd] token.stop
  | _ => return ((.sequenceEnd, token.start), s)

/-- Reads a key of a block mapping, or its end. -/
def blockKey (start : Mark) (s : Sentence) : Step := do
  let token ← s.peek
  match token.kind with
  | .key =>
    (s.next.expecting [.blockValue start]).nodeUnless true true [.key, .value, .blockEnd] token.stop
  | .blockEnd => return ((.mappingEnd, token.start), s.next)
  | _ => .error ⟨.noKey, token.start, some (.blockMapping, start)⟩

/-- Reads the value of a block mapping. -/
def blockValue (start : Mark) (s : Sentence) : Step := do
  let token ← s.peek
  let s := s.expecting [.blockKey start]
  match token.kind with
  | .value => s.next.nodeUnless true true [.key, .value, .blockEnd] token.stop
  | _ => s.missing token.start

/-- Takes the comma in front of all but the first entry; `ending` closes the collection. -/
def comma (isFirst : Bool) (ending : TokenKind) (fault : Mark → Fault) (s : Sentence) :
    Except Fault Sentence := do
  let token ← s.peek
  if isFirst ∨ token.kind = ending then return s
  else if token.kind = .separator then return s.next
  else .error (fault token.start)

/-- Reads an item of a flow sequence, or its end. -/
def flowItem (isFirst : Bool) (start : Mark) (s : Sentence) : Step := do
  let s ← s.comma isFirst .flowSequenceEnd fun m => ⟨.noSequenceEnd, m, some (.flowSequence, start)⟩
  let token ← s.peek
  match token.kind with
  | .flowSequenceEnd => return ((.sequenceEnd, token.start), s.next)
  | .key => return ((.mappingStart none, token.start), s.next.expecting [.pairKey start])
  | _ => (s.expecting [.flowItem false start]).node false false

/-- Reads the key of a pair that stands as an item. A token in the place of a missing key is taken. -/
def pairKey (start : Mark) (s : Sentence) : Step := do
  let token ← s.peek
  let s := s.expecting [.pairValue start]
  if token.kind ∈ [.value, .separator, .flowSequenceEnd] then s.next.missing token.stop
  else s.node false false

/-- Reads the value behind a colon, if there is one; it may be missing in front of the given tokens. -/
def flowValueUnless (ends : List TokenKind) (s : Sentence) : Step := do
  let token ← s.peek
  match token.kind with
  | .value =>
    let s := s.next
    let token ← s.peek
    s.nodeUnless false false ends token.start
  | _ => s.missing token.start

/-- Reads the end of a pair that stands as an item. -/
def pairEnd (start : Mark) (s : Sentence) : Step := do
  let token ← s.peek
  return ((.mappingEnd, token.start), s.expecting [.flowItem false start])

/-- Reads a key of a flow mapping, or its end. -/
def flowKey (isFirst : Bool) (start : Mark) (s : Sentence) : Step := do
  let s ← s.comma isFirst .flowMappingEnd fun m => ⟨.noMappingEnd, m, some (.flowMapping, start)⟩
  let token ← s.peek
  match token.kind with
  | .flowMappingEnd => return ((.mappingEnd, token.start), s.next)
  | .key =>
    let s := s.next
    let token ← s.peek
    (s.expecting [.flowValue start]).nodeUnless false false [.value, .separator, .flowMappingEnd]
      token.start
  | _ => (s.expecting [.noFlowValue start]).node false false

/-! ## Steps -/

/-- Reads one event of those that may follow. -/
def step (s : Sentence) : Expected → Step
  | .document isFirst => s.document isFirst
  | .documentContent => do
    let token ← s.peek
    if endsContent token.kind then s.missing token.start else s.node true false
  | .blockNode => s.node true false
  | .documentEnd => do
    let token ← s.peek
    let s := if token.kind = .documentEnd then s.next else s
    return ((.documentEnd, token.start), s.expecting [.document false])
  | .blockItem start => s.blockItem start
  | .mappingItem => s.mappingItem
  | .blockKey start => s.blockKey start
  | .blockValue start => s.blockValue start
  | .flowItem isFirst start => s.flowItem isFirst start
  | .pairKey start => s.pairKey start
  | .pairValue start =>
    (s.expecting [.pairEnd start]).flowValueUnless [.separator, .flowSequenceEnd]
  | .pairEnd start => s.pairEnd start
  | .flowKey isFirst start => s.flowKey isFirst start
  | .flowValue start =>
    (s.expecting [.flowKey false start]).flowValueUnless [.separator, .flowMappingEnd]
  | .noFlowValue start => do
    let token ← s.peek
    (s.expecting [.flowKey false start]).missing token.start

/-- The events that are left, and the fault that ends them early. The fuel bounds their number. -/
def events : Nat → Sentence → List (Event × Mark) × Option Fault
  | 0, _ => ([], none)
  | fuel + 1, s =>
    match s.expected with
    | [] => ([], none)
    | expected :: outer =>
      match { s with expected := outer }.step expected with
      | .error fault => ([], some fault)
      | .ok (event, s) =>
        let (more, fault) := events fuel s
        (event :: more, fault)

end Sentence

/-- The events of a text, and the fault that ends them early. A token gives at most four events: the
text that it is, the missing ones around it, and the end of a pair. -/
def eventsOf (text : String) : List (Event × Mark) × Option Fault :=
  match tokensOf text with
  | ([], fault) => ([], fault)
  | (_ :: tokens, fault) =>
    Sentence.events (4 * tokens.length + 8) ⟨tokens, fault, [.document true], []⟩

end Roster.Yaml
