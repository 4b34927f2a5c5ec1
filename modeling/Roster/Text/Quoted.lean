import Roster.Text.Unprintable

/-!
# Quoted texts

How an error message shows a text that may hold anything: between double quotes, with a quote, a
backslash and the usual control characters after a backslash, and every other character without a
mark of its own by its number, as in `\u{200b}`. A single quote stands for itself.
-/

namespace Roster.Text

/-- The text of a number to base 16, in lower case, without leading zeros. -/
def hexText (n : Nat) : String := String.ofList (Nat.toDigits 16 n)

/-- One character inside a quoted text. -/
def quotedChar (c : Char) : String :=
  if c = '\x00' then "\\0"
  else if c = '\t' then "\\t"
  else if c = '\r' then "\\r"
  else if c = '\n' then "\\n"
  else if c = '"' then "\\\""
  else if c = '\\' then "\\\\"
  else if isUnprintable c then "\\u\x7b" ++ hexText c.toNat ++ "\x7d"
  else String.singleton c

/-- A text between double quotes. -/
def quoted (text : String) : String :=
  "\"" ++ String.join (text.toList.map quotedChar) ++ "\""

end Roster.Text
