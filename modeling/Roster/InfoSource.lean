import Roster.Json.Basic

/-!
# Where information comes from

What is known of a manager came from nowhere, from a cache file, or from the manager itself, in this
order of freshness. New information from the manager always replaces what is held, information from
a file only fills a gap, and nothing lowers the source (`le_merge`).
-/

namespace Roster

/-- The source of what is known of a manager. -/
inductive InfoSource where
  /-- Nothing is known. -/
  | none
  /-- A cache file. -/
  | file
  /-- An answer of the manager. -/
  | live
  deriving DecidableEq, Repr, Inhabited

namespace InfoSource

/-- The word for the source. -/
def text : InfoSource → String
  | none => "none"
  | file => "file"
  | live => "live"

/-- How fresh the information of a source is. -/
def rank : InfoSource → Nat
  | none => 0
  | file => 1
  | live => 2

instance : LE InfoSource := ⟨fun a b => a.rank ≤ b.rank⟩

instance : DecidableLE InfoSource := fun a b => inferInstanceAs (Decidable (a.rank ≤ b.rank))

/-- Whether information from `incoming` may replace information held from `current`. -/
def supersedes (incoming current : InfoSource) : Bool :=
  match incoming with
  | live => true
  | file => current = none
  | none => false

/-- The source held after information from `incoming` was offered. -/
def merge (current incoming : InfoSource) : InfoSource :=
  if incoming.supersedes current then incoming else current

theorem le_merge (current incoming : InfoSource) : current ≤ merge current incoming := by
  cases current <;> cases incoming <;> decide

/-- The source named by a word. -/
def ofText? : String → Option InfoSource
  | "none" => some .none
  | "file" => some .file
  | "live" => some .live
  | _ => Option.none

/-- The message for a word that names no source. -/
def unknownText (word : String) : String :=
  "unknown variant `" ++ word ++ "`, expected one of `none`, `file`, `live`"

/-- The source that a field of a record names: by its word, or by a record with the word as its only
key and nothing under it. -/
def ofJson : Json → Except String InfoSource
  | .str word =>
    match ofText? word with
    | some source => .ok source
    | Option.none => .error (unknownText word)
  | .obj [(word, value)] =>
    match ofText? word with
    | Option.none => .error (unknownText word)
    | some source =>
      match value with
      | .null => .ok source
      | value => .error (value.mismatchText "unit")
  | .obj _ => .error "invalid value: map, expected map with a single key"
  | value => .error (value.mismatchText "string or map")

end InfoSource

end Roster
