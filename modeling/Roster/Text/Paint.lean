/-!
# Painted texts

Texts with colours for a terminal. The sign that ends a colour also ends one around it, so behind such
a sign within a painted text the colour begins again.
-/

namespace Roster.Text

/-- How a text is painted. -/
inductive Paint where
  /-- Bold. -/
  | bold
  /-- Green. -/
  | green
  /-- Yellow. -/
  | yellow
  /-- Grey. -/
  | grey
  deriving DecidableEq, Repr

namespace Paint

/-- The sign that begins a colour. -/
def start : Paint → String
  | bold => "\x1b[1m"
  | green => "\x1b[32m"
  | yellow => "\x1b[33m"
  | grey => "\x1b[90m"

/-- The sign that ends all colours. -/
def stop : String := "\x1b[0m"

/-- A text in a colour, if colours are on. -/
def apply (isOn : Bool) (paint : Paint) (text : String) : String :=
  if isOn then paint.start ++ text.replace stop (stop ++ paint.start) ++ stop else text

end Paint

end Roster.Text
