import Roster.Yaml.Token
import Roster.Json.Reader

/-!
# Quoted texts

Between single quotes a quote is written twice. Between double quotes a backslash begins an escape,
and in front of a line end it hides it. Gaps fold as in plain texts, but blanks in front of the quote
count.
-/

namespace Roster.Yaml.Quoted

/-- The character that an escape of two characters stands for. -/
def shortEscape? : Char → Option Char
  | '0' => some '\x00'
  | 'a' => some '\x07'
  | 'b' => some '\x08'
  | 't' => some '\t'
  | '\t' => some '\t'
  | 'n' => some '\n'
  | 'v' => some '\x0b'
  | 'f' => some '\x0c'
  | 'r' => some '\r'
  | 'e' => some '\x1b'
  | ' ' => some ' '
  | '"' => some '"'
  | '/' => some '/'
  | '\\' => some '\\'
  | 'N' => some '\u0085'
  | '_' => some '\u00a0'
  | 'L' => some '\u2028'
  | 'P' => some '\u2029'
  | _ => none

/-- How many digits of a character number an escape has. -/
def escapeDigits? : Char → Option Nat
  | 'x' => some 2
  | 'u' => some 4
  | 'U' => some 8
  | _ => none

/-- Reads the number of a character, with the given number of digits; `start` is where the text
begins. -/
def readNumber (start : Mark) (digits : Nat) (s : Source) : Except Fault Char :=
  let cs := (s.spots.take digits).map Spot.char
  match cs.mapM Json.hexDigit? with
  | none => .error ⟨.noHexDigit, s.mark, some (.escape, start)⟩
  | some values =>
    if values.length < digits then .error ⟨.noHexDigit, s.mark, some (.escape, start)⟩
    else
      let n := values.foldl (fun n v => 16 * n + v) 0
      if (0xD800 ≤ n && n ≤ 0xDFFF) || 0x10FFFF < n then
        .error ⟨.noSuchCharacter, s.mark, some (.escape, start)⟩
      else .ok (Char.ofNat n)

/-- Reads on, after some content, given with the last character first, and a gap behind it. -/
def readOn (single : Bool) (start final : Mark) (reversed : List Char) (gap : Gap) :
    List Spot → Except Fault (List Char × Source)
  | [] => .error ⟨.endInText, final, some (.quotedText, start)⟩
  | spot :: rest =>
    let here : Source := ⟨spot :: rest, final⟩
    let c := spot.char
    let before := gap.content.reverse ++ reversed
    if here.isDocumentMark then .error ⟨.documentMarkInText, spot.mark, some (.quotedText, start)⟩
    else if isGap c then readOn single start final reversed (gap.blank c) rest
    else if isBreak c then readOn single start final reversed (gap.line c) rest
    else if single && c = '\'' && (here.charAt? 1) = some '\'' then
      readOn single start final ('\'' :: before) .none (rest.drop 1)
    else if c = (if single then '\'' else '"') then .ok (before, here.next)
    else if !single && c = '\\' then
      match rest with
      | [] => .error ⟨.unknownEscape, spot.mark, some (.escape, start)⟩
      | mark :: rest =>
        if isBreak mark.char then readOn single start final before (.lines none []) rest
        else
          match shortEscape? mark.char with
          | some d => readOn single start final (d :: before) .none rest
          | none =>
            match escapeDigits? mark.char with
            | none => .error ⟨.unknownEscape, spot.mark, some (.escape, start)⟩
            | some digits =>
              match readNumber start digits ⟨rest, final⟩ with
              | .error fault => .error fault
              | .ok d => readOn single start final (d :: before) .none (rest.drop digits)
    else readOn single start final (c :: before) .none rest
termination_by spots => spots.length
decreasing_by all_goals (simp only [List.length_drop, List.length_cons]; omega)

/-- Reads a quoted text from its first quote on: its content and the source behind it. -/
def read (single : Bool) (s : Source) : Except Fault (String × Source) :=
  (readOn single s.mark s.final [] .none s.next.spots).map fun (reversed, rest) =>
    (String.ofList reversed.reverse, rest)

end Roster.Yaml.Quoted
