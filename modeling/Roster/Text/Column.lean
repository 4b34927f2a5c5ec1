/-!
# Columns

Fitting a text into a column of a given number of characters: padding on one side, or cutting.
-/

namespace Roster.Text

/-- Blanks that fill a text up to a number of characters. -/
def fill (columns : Nat) (text : String) : String :=
  String.ofList (List.replicate (columns - text.length) ' ')

/-- The text at the right end of a column. -/
def alignRight (columns : Nat) (text : String) : String := fill columns text ++ text

/-- The text at the left end of a column. -/
def alignLeft (columns : Nat) (text : String) : String := text ++ fill columns text

/-- The first characters of a text. -/
def cut (columns : Nat) (text : String) : String := String.ofList (text.toList.take columns)

end Roster.Text
