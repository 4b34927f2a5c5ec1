import Roster.Yaml.Scalar

/-!
# Writing texts

How a text is written as a value. A text with a line feed is written in lines, a text that would mean
something else without quotes between single quotes, and any other one as it is. Where the style that
was chosen cannot hold a text, the next one is taken: plain, single quotes, double quotes; lines give
way to double quotes at once (`styleOf`).
-/

namespace Roster.Yaml.Writer

/-- Whether a character is shown as it is between double quotes and in lines. -/
def isPrintable (c : Char) : Bool :=
  let n := c.toNat
  n = 0xA || (0x20 ≤ n && n ≤ 0x7E) || (0xA0 ≤ n && n ≤ 0xD7FF) ||
    (0xE000 ≤ n && n ≤ 0xFFFD && n ≠ 0xFEFF) || 0x10000 ≤ n

/-- The words for truth values in all versions of the format. -/
def truthWords : List String :=
  ["y", "Y", "yes", "Yes", "YES", "n", "N", "no", "No", "NO", "true", "True", "TRUE", "false", "False",
    "FALSE", "on", "On", "ON", "off", "Off", "OFF"]

/-- Whether a text would mean something else as a plain one, or look as if it did. -/
def isAmbiguous (text : String) : Bool :=
  text ∈ truthWords || Meaning.isPadded text.toList || Meaning.ofPlain text ≠ .text text

/-! ## What styles can hold -/

/-- Pairs of neighbouring characters. -/
def neighbours (cs : List Char) : List (Char × Char) := cs.zip (cs.drop 1)

/-- Whether the first character of a text, with the rest behind it, keeps it from being plain. -/
def startsBadly (c : Char) (rest : List Char) : Bool :=
  "#,[]\x7b\x7d&*!|>'\"%@`".toList.contains c ||
    ("?:-".toList.contains c && rest.head?.all fun d => isGap d || isBreak d)

/-- Whether a colon in a text ends a word or a number sign begins one, behind the first character. -/
def hasSign (cs : List Char) : Bool :=
  (neighbours cs).any (fun (a, b) => b = '#' && (isGap a || isBreak a)) ||
    (neighbours (cs.drop 1)).any (fun (a, b) => a = ':' && (isGap b || isBreak b)) ||
    (1 < cs.length && cs.getLast? = some ':')

/-- Whether a text begins like a line that begins or ends a document. -/
def startsLikeMark (cs : List Char) : Bool :=
  cs.take 3 = ['-', '-', '-'] || cs.take 3 = ['.', '.', '.']

/-- Whether a text may be written as it is. -/
def mayBePlain (cs : List Char) : Bool :=
  match cs with
  | [] => true
  | c :: rest =>
    !startsBadly c rest && !hasSign cs && !startsLikeMark cs && cs.all isPrintable &&
      !cs.any isBreak && c ≠ ' ' && cs.getLast? ≠ some ' '

/-- Whether a text may stand between single quotes: no space stands beside a line end. -/
def mayBeSingleQuoted (cs : List Char) : Bool :=
  cs.all isPrintable &&
    !(neighbours cs).any fun (a, b) => (isBreak a && b = ' ') || (a = ' ' && isBreak b)

/-- Whether a text may be written in lines: no space stands in front of a line end. -/
def mayBeLines (cs : List Char) : Bool :=
  cs.all isPrintable && cs.getLast? ≠ some ' ' &&
    !(neighbours cs).any fun (a, b) => a = ' ' && isBreak b

/-- The style in which a text is written. -/
def styleOf (text : String) : Style :=
  let cs := text.toList
  let quoted := if mayBeSingleQuoted cs then .singleQuoted else .doubleQuoted
  if text ∉ truthWords ∧ cs.contains '\n' then
    if mayBeLines cs then .literal else .doubleQuoted
  else if isAmbiguous text then quoted
  else if mayBePlain cs then .plain
  else quoted

/-! ## Writing -/

/-- The escape for a character, if it needs one. -/
def escaped (c : Char) : List Char :=
  let digits n width := Nat.toDigits 16 n |>.map Char.toUpper |> fun ds =>
    List.replicate (width - ds.length) '0' ++ ds
  match c with
  | '\x00' => ['\\', '0']
  | '\x07' => ['\\', 'a']
  | '\x08' => ['\\', 'b']
  | '\t' => ['\\', 't']
  | '\n' => ['\\', 'n']
  | '\x0b' => ['\\', 'v']
  | '\x0c' => ['\\', 'f']
  | '\r' => ['\\', 'r']
  | '\x1b' => ['\\', 'e']
  | '"' => ['\\', '"']
  | '\\' => ['\\', '\\']
  | '\u0085' => ['\\', 'N']
  | '\u2028' => ['\\', 'L']
  | '\u2029' => ['\\', 'P']
  | c =>
    let n := c.toNat
    if isPrintable c then [c]
    else if n ≤ 0xFF then '\\' :: 'x' :: digits n 2
    else if n ≤ 0xFFFF then '\\' :: 'u' :: digits n 4
    else '\\' :: 'U' :: digits n 8

/-- The characters of a text in lines that are indented by two spaces; `atStart` tells that a line
begins. Empty lines have no indentation. -/
def indented (atStart : Bool) : List Char → List Char
  | [] => []
  | c :: rest =>
    if isBreak c then c :: indented true rest
    else if atStart then ' ' :: ' ' :: c :: indented false rest
    else c :: indented false rest

/-- The signs behind the begin of a text in lines: two, if its first character would hide how far it
is indented, and what becomes of its last line ends. -/
def lineSigns (cs : List Char) : List Char :=
  let indentation := if cs.head?.any fun c => c = ' ' || isBreak c then ['2'] else []
  let ending := match cs.reverse with
    | [] => ['-']
    | [c] => if isBreak c then ['+'] else ['-']
    | c :: b :: _ => if isBreak c then (if isBreak b then ['+'] else []) else ['-']
  indentation ++ ending

/-- Whether a text is written in lines of which the last ones are empty. -/
def isOpenEnded (text : String) : Bool :=
  styleOf text = .literal && (lineSigns text.toList).contains '+'

/-- A text as a value, from behind the sign in front of it to the end of its last line. -/
def textLine (text : String) : String :=
  let cs := text.toList
  String.ofList <| match styleOf text with
  | .plain => ' ' :: cs ++ ['\n']
  | .singleQuoted =>
    let doubled := cs.flatMap fun c => if c = '\'' then ['\'', '\''] else [c]
    let ending := if cs.getLast?.any isBreak then [' ', ' '] else []
    ' ' :: '\'' :: indented false doubled ++ ending ++ ['\'', '\n']
  | .doubleQuoted => ' ' :: '"' :: cs.flatMap escaped ++ ['"', '\n']
  | .literal | .folded =>
    let ending := if cs.getLast?.any isBreak then [] else ['\n']
    ' ' :: '|' :: lineSigns cs ++ '\n' :: indented true cs ++ ending

end Roster.Yaml.Writer
