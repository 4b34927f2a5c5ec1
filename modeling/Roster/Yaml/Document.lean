import Roster.Yaml.Event

/-!
# Documents

The first document of a text, as the list of its parts. A reference leads to the part that has the
anchor, by a number: an anchor gets as its number how many anchor names there are in front of it, and
where two anchors get one number, because a name is given again, the later part counts for both.

A fault of the text ends the document early. It matters only to a reader that comes that far, so it is
kept beside the parts (`Document.fault`).
-/

namespace Roster.Yaml

/-- A part of a document. -/
inductive Part where
  /-- What an empty text says. -/
  | nothing
  /-- The value of the anchor with a number. -/
  | reference (number : Nat)
  /-- A text. -/
  | scalar (s : Scalar)
  /-- The begin of a sequence. -/
  | sequenceStart
  /-- The end of a sequence. -/
  | sequenceEnd
  /-- The begin of a mapping. -/
  | mappingStart
  /-- The end of a mapping. -/
  | mappingEnd
  deriving DecidableEq, Repr

/-- Why a document ends early. -/
inductive DocumentFault where
  /-- The text is faulty. -/
  | malformed (fault : Fault)
  /-- No anchor in front has the name of a reference. -/
  | unknownAnchor (mark : Mark)
  deriving DecidableEq, Repr

/-- The fault in words. -/
def DocumentFault.message : DocumentFault → String
  | malformed fault => fault.message
  | unknownAnchor mark => "unknown anchor" ++ mark.text

/-- The first document of a text. -/
structure Document where
  /-- Its parts, each with the mark at which it begins. -/
  parts : List (Part × Mark)
  /-- Where in the parts the anchors lead, by number, the later ones first. -/
  anchored : List (Nat × Nat)
  /-- Why it ends early, if it does. -/
  fault : Option DocumentFault
  /-- Whether something follows the document. -/
  isFollowed : Bool
  deriving Repr

namespace Document

/-- What is known of a document while its parts are collected, the last part first. -/
structure Draft where
  /-- The parts, the last one first. -/
  reversed : List (Part × Mark) := []
  /-- The numbers of the anchor names. -/
  names : List (String × Nat) := []
  /-- Where in the parts the anchors lead, the later ones first. -/
  anchored : List (Nat × Nat) := []
  deriving Repr

/-- The draft with one more part. -/
def Draft.push (part : Part) (mark : Mark) (d : Draft) : Draft :=
  { d with reversed := (part, mark) :: d.reversed }

/-- The draft in which the next part has an anchor. -/
def Draft.anchor (name : Option String) (d : Draft) : Draft :=
  match name with
  | none => d
  | some name =>
    let number := d.names.length
    { d with
      names := (name, number) :: d.names.filter (·.1 ≠ name)
      anchored := (number, d.reversed.length) :: d.anchored }

/-- The document that a draft makes. -/
def Draft.finish (fault : Option DocumentFault) (isFollowed : Bool) (d : Draft) : Document :=
  ⟨d.reversed.reverse, d.anchored, fault, isFollowed⟩

/-- Whether anything but the end comes after a document. -/
def isMore : List (Event × Mark) → Bool
  | [(.streamEnd, _)] => false
  | _ => true

/-- Collects the parts of the first document; `fault` is what is wrong behind the events. -/
def collect (fault : Option Fault) (d : Draft) : List (Event × Mark) → Document
  | [] => d.finish (fault.map .malformed) false
  | (event, mark) :: rest =>
    match event with
    | .documentStart => collect fault d rest
    | .streamEnd => (d.push .nothing mark).finish none false
    | .documentEnd => d.finish none (isMore rest)
    | .reference name =>
      match d.names.lookup name with
      | none => d.finish (some (.unknownAnchor mark)) false
      | some number => collect fault (d.push (.reference number) mark) rest
    | .scalar s anchor => collect fault ((d.anchor anchor).push (.scalar s) mark) rest
    | .sequenceStart anchor => collect fault ((d.anchor anchor).push .sequenceStart mark) rest
    | .sequenceEnd => collect fault (d.push .sequenceEnd mark) rest
    | .mappingStart anchor => collect fault ((d.anchor anchor).push .mappingStart mark) rest
    | .mappingEnd => collect fault (d.push .mappingEnd mark) rest

/-- The first document of a text. -/
def ofText (text : String) : Document :=
  let (events, fault) := eventsOf text
  collect fault {} events

/-- The parts from the one on that has the anchor with a number. -/
def target (d : Document) (number : Nat) : List (Part × Mark) :=
  d.parts.drop ((d.anchored.lookup number).getD d.parts.length)

end Document

end Roster.Yaml
