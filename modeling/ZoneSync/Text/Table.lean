import ZoneSync.Text.Basic
import ZoneSync.Text.Columns

/-!
# Tables in boxes

Rows of cells between box characters with rounded corners. A line separates the first row from the
others. A cell of several lines makes its row as high; columns are as wide as their widest line.
-/

namespace ZoneSync.Text

/-- The four characters of a horizontal line: its ends, its filling, and its crossings. -/
structure Rule where
  left : Char
  fill : Char
  cross : Char
  right : Char

def topRule : Rule := ⟨'╭', '─', '┬', '╮'⟩

def headRule : Rule := ⟨'├', '─', '┼', '┤'⟩

def bottomRule : Rule := ⟨'╰', '─', '┴', '╯'⟩

/-- The lines of a cell. -/
def cellLines (cell : String) : List (List Char) :=
  fields '\n' cell.toList

def cellWidth (cell : String) : Nat :=
  ((cellLines cell).map columns).foldl max 0

/-- The width that each column needs. -/
def columnWidths : List (List String) → List Nat
  | [] => []
  | row :: rest =>
    let widths := columnWidths rest
    (row.zipIdx).map fun (cell, place) => max (cellWidth cell) (widths.getD place 0)

/-- A horizontal line; cells have a blank on each side. -/
def ruleLine (rule : Rule) (widths : List Nat) : List Char :=
  let parts := widths.map fun width => List.replicate (width + 2) rule.fill
  [rule.left] ++ List.intercalate [rule.cross] parts ++ [rule.right]

/-- A line of a cell, filled with blanks. -/
def padded (width : Nat) (line : List Char) : List Char :=
  [' '] ++ line ++ List.replicate (width - columns line) ' ' ++ [' ']

/-- The lines of a row. -/
def rowLines (widths : List Nat) (row : List String) : List (List Char) :=
  let cells := row.map cellLines
  let height := (cells.map List.length).foldl max 0
  (List.range height).map fun place =>
    let parts := (widths.zip cells).map fun (width, lines) => padded width (lines.getD place [])
    ['│'] ++ List.intercalate ['│'] parts ++ ['│']

/-- The table of a header and rows; it ends below its header if there are no rows. -/
def table (header : List String) (rows : List (List String)) : String :=
  let widths := columnWidths (header :: rows)
  let head := [ruleLine topRule widths] ++ rowLines widths header ++ [ruleLine headRule widths]
  let body := rows.flatMap (rowLines widths)
  let lines := if rows.isEmpty then head else head ++ body ++ [ruleLine bottomRule widths]
  String.ofList (List.intercalate ['\n'] lines)

end ZoneSync.Text
