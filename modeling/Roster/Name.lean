import Roster.Json.Basic
import Roster.Text.Blank

/-!
# Names of managers and protocols

A name is a text of ASCII letters, digits and one joining character that starts with a letter. The
two kinds of names differ only in the joining character: `_` in the name of a manager, `-` in the
name of a protocol. A `Name` carries the proof that its text is valid, and names of one kind are
ordered as their texts.

* `fault?` finds the first thing wrong with a text, in this order: no character at all, a first
  character that is no letter, a later character out of place.
* `ofText` makes a name of a text without a fault, and `ofText_text` says that reading a name's own
  text gives the name back.
-/

namespace Roster

/-- What a name is the name of. -/
inductive NameKind where
  /-- A manager. -/
  | service
  /-- A protocol of a manager. -/
  | protocol
  deriving DecidableEq, Repr, Inhabited

/-- Why a text is no name. -/
inductive NameFault where
  /-- There is no character. -/
  | empty
  /-- The first character is no ASCII letter. -/
  | badFirst
  /-- This is the first later character that is no ASCII letter or digit and not the joining
  character. -/
  | badChar (c : Char)
  deriving DecidableEq, Repr

namespace NameKind

/-- The word for the kind. -/
def text : NameKind → String
  | service => "service"
  | protocol => "protocol"

/-- The character that may join the parts of a name. -/
def joiner : NameKind → Char
  | service => '_'
  | protocol => '-'

/-- Whether the character may stand first. -/
def allowsFirst (c : Char) : Bool := c.isAlpha

/-- Whether the character may stand after the first. -/
def allowsLater (kind : NameKind) (c : Char) : Bool := c.isAlphanum || c = kind.joiner

/-- What is wrong with the characters as a name. -/
def charsFault? (kind : NameKind) : List Char → Option NameFault
  | [] => some .empty
  | c :: rest =>
    if !allowsFirst c then some .badFirst
    else (rest.find? fun c => !kind.allowsLater c).map .badChar

/-- What is wrong with a text as a name. -/
def fault? (kind : NameKind) (text : String) : Option NameFault := kind.charsFault? text.toList

end NameKind

namespace NameFault

/-- The reason in words. -/
def reason (kind : NameKind) : NameFault → String
  | empty => "the empty string is not valid"
  | badFirst => "first character is not an ASCII letter"
  | badChar c =>
    "character '" ++ String.singleton c ++ "' is not an ASCII letter, digit or '" ++
      String.singleton kind.joiner ++ "'"

/-- The full message about a text that is no name. -/
def message (kind : NameKind) (text : String) (fault : NameFault) : String :=
  "invalid " ++ kind.text ++ " name " ++ Text.quoted text ++ ": " ++ fault.reason kind

end NameFault

/-- A valid name. -/
structure Name (kind : NameKind) where
  /-- The name itself. -/
  text : String
  /-- Nothing is wrong with it. -/
  valid : kind.fault? text = none

/-- The name of a manager. -/
abbrev ServiceName := Name .service

/-- The name of a protocol. -/
abbrev ProtocolName := Name .protocol

namespace Name

variable {kind : NameKind}

@[ext] theorem ext {a b : Name kind} (h : a.text = b.text) : a = b := by
  cases a
  cases b
  cases h
  rfl

instance : DecidableEq (Name kind) := fun a b =>
  decidable_of_iff (a.text = b.text) ⟨ext, fun h => h ▸ rfl⟩

instance : Repr (Name kind) := ⟨fun a p => reprPrec a.text p⟩

instance : LT (Name kind) := ⟨fun a b => a.text < b.text⟩

instance : DecidableLT (Name kind) := fun a b => inferInstanceAs (Decidable (a.text < b.text))

instance : StrictKeys (Name kind) where
  lt_trans := fun h₁ h₂ => String.lt_trans h₁ h₂
  lt_irrefl := fun a => String.lt_irrefl a.text
  eq_of_not_lt := fun h₁ h₂ => ext (String.le_antisymm h₂ h₁)

/-- The name with the given text, or what is wrong with it. -/
def ofText (kind : NameKind) (text : String) : Except NameFault (Name kind) :=
  match h : kind.fault? text with
  | none => .ok ⟨text, h⟩
  | some fault => .error fault

/-- The name with the given text, if it is one. -/
def ofText? (kind : NameKind) (text : String) : Option (Name kind) :=
  if h : kind.fault? text = none then some ⟨text, h⟩ else none

theorem ofText_eq_ok_iff {text : String} {name : Name kind} :
    ofText kind text = .ok name ↔ name.text = text := by
  constructor
  · intro h
    unfold ofText at h
    split at h
    · cases h
      rfl
    · cases h
  · rintro rfl
    unfold ofText
    split
    · rfl
    · rename_i h
      rw [name.valid] at h
      cases h

@[simp] theorem ofText_text (name : Name kind) : ofText kind name.text = .ok name :=
  ofText_eq_ok_iff.2 rfl

@[simp] theorem ofText?_text (name : Name kind) : ofText? kind name.text = some name := by
  simp [ofText?, name.valid]

theorem ofText?_eq_some_iff {text : String} {name : Name kind} :
    ofText? kind text = some name ↔ name.text = text := by
  constructor
  · intro h
    unfold ofText? at h
    split at h
    · cases h
      rfl
    · cases h
  · rintro rfl
    exact ofText?_text name

/-- The name that a field of a record holds; the message says what is wrong. -/
def ofJson (kind : NameKind) : Json → Except String (Name kind)
  | .str text =>
    match ofText kind text with
    | .ok name => .ok name
    | .error fault => .error (fault.message kind text)
  | value => .error (value.mismatchText "a string")

end Name

end Roster
