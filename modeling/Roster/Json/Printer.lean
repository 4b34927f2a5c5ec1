import Roster.Json.Basic

/-!
# Writing structured values

Two layouts of the same notation: `compact` without any blank, and `pretty` with one item a line,
two blanks a level, and empty lists and records closed on their own line.
-/

namespace Roster.Json

/-- One character inside a written text: a quote, a backslash and the control characters are
escaped. -/
def escapedChar (c : Char) : String :=
  if c = '"' then "\\\""
  else if c = '\\' then "\\\\"
  else if c = '\x08' then "\\b"
  else if c = '\t' then "\\t"
  else if c = '\n' then "\\n"
  else if c = '\x0c' then "\\f"
  else if c = '\r' then "\\r"
  else if c.toNat < 0x20 then
    "\\u00" ++ (if c.toNat < 0x10 then "0" else "") ++ Text.hexText c.toNat
  else String.singleton c

/-- A text between quotes. -/
def textLiteral (s : String) : String :=
  "\"" ++ String.join (s.toList.map escapedChar) ++ "\""

/-- A value without parts. -/
def scalarText : Json → String
  | .null => "null"
  | .bool true => "true"
  | .bool false => "false"
  | .int n => toString n
  | .float x => x.fieldText
  | .str s => textLiteral s
  | .arr _ => "[]"
  | .obj _ => "\x7b\x7d"

mutual

/-- The notation without blanks. -/
def compact : Json → String
  | .arr items => "[" ++ ",".intercalate (compactItems items) ++ "]"
  | .obj fields => "\x7b" ++ ",".intercalate (compactFields fields) ++ "\x7d"
  | v => scalarText v

/-- The items of a list without blanks. -/
def compactItems : List Json → List String
  | [] => []
  | v :: rest => compact v :: compactItems rest

/-- The fields of a record without blanks. -/
def compactFields : List (String × Json) → List String
  | [] => []
  | (k, v) :: rest => (textLiteral k ++ ":" ++ compact v) :: compactFields rest

end

/-- The blanks in front of a line at a level. -/
def indentation (level : Nat) : String := String.ofList (List.replicate (2 * level) ' ')

/-- Parts between brackets, one a line, one level deeper than the brackets. -/
def bracketed (opening closing : String) (level : Nat) : List String → String
  | [] => opening ++ closing
  | parts =>
    let lines := parts.map fun p => "\n" ++ indentation (level + 1) ++ p
    opening ++ ",".intercalate lines ++ "\n" ++ indentation level ++ closing

mutual

/-- The notation with one part a line. -/
def prettyAt (level : Nat) : Json → String
  | .arr items => bracketed "[" "]" level (prettyItems (level + 1) items)
  | .obj fields => bracketed "\x7b" "\x7d" level (prettyFields (level + 1) fields)
  | v => scalarText v

/-- The items of a list, each with its parts at the level. -/
def prettyItems (level : Nat) : List Json → List String
  | [] => []
  | v :: rest => prettyAt level v :: prettyItems level rest

/-- The fields of a record, each with its parts at the level. -/
def prettyFields (level : Nat) : List (String × Json) → List String
  | [] => []
  | (k, v) :: rest => (textLiteral k ++ ": " ++ prettyAt level v) :: prettyFields level rest

end

/-- The notation with one part a line. -/
def pretty (v : Json) : String := prettyAt 0 v

end Roster.Json
