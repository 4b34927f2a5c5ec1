import Roster.Text.Blank
import Roster.Text.Width

/-!
# Tables

A table with round corners: a header, a rule below it, and the rows. A column is as wide as its widest
line, with a blank on either side; a cell of several lines makes its row as high as it needs.
-/

namespace Roster.Text.Table

/-- The lines of a cell. -/
def cellLines (cell : String) : List String := splitOn '\n' cell

/-- The columns that a cell takes. -/
def cellWidth (cell : String) : Nat := ((cellLines cell).map width).max?.getD 0

/-- The widths of the columns of some rows, of which none has more cells than the first. -/
def columnWidths : List (List String) → List Nat
  | [] => []
  | header :: rows =>
    rows.foldl (fun widths row => List.zipWith max widths (row.map cellWidth)) (header.map cellWidth)

/-- Some copies of a character. -/
def repeated (n : Nat) (c : Char) : String := String.ofList (List.replicate n c)

/-- A horizontal line, with the given signs at its begin, between columns and at its end. -/
def rule (left between right : String) (widths : List Nat) : String :=
  left ++ between.intercalate (widths.map fun n => repeated (n + 2) '─') ++ right

/-- A line of a cell in a column. -/
def filled (columnWidth : Nat) (line : String) : String :=
  " " ++ line ++ repeated (columnWidth - width line) ' ' ++ " "

/-- The lines of a row. -/
def rowLines (widths : List Nat) (row : List String) : List String :=
  let cells := row.map cellLines
  let height := (cells.map List.length).max?.getD 0
  (List.range height).map fun i =>
    "│" ++ "│".intercalate (List.zipWith (fun n cell => filled n (cell.getD i "")) widths cells) ++ "│"

/-- The text of a table, without a line end behind the last line. -/
def text (header : List String) (rows : List (List String)) : String :=
  let widths := columnWidths (header :: rows)
  "\n".intercalate
    ([rule "╭" "┬" "╮" widths] ++ rowLines widths header ++ [rule "├" "┼" "┤" widths] ++
      rows.flatMap (rowLines widths) ++ [rule "╰" "┴" "╯" widths])

end Roster.Text.Table
