import Workflow.Terminal.Markup
import Workflow.Terminal.Wrap

/-!
# Tables on a terminal

A table has a title, columns with headings, and rows of cells. A cell may take several lines; the
cells beside it are empty there. A table is drawn in a box with round corners. A column is as wide
as its widest line before tabs are widened, or as wide as it is said to be, and what does not fit is
broken into further lines.
-/

namespace Workflow

/-- A column of a table. -/
structure Column where
  heading : String
  /-- The cells of each line, when that does not depend on what is in the column. -/
  width : Option Nat := none
  /-- The lines of the column are cut short and never broken. -/
  whole : Bool := false
  deriving DecidableEq, Repr

namespace Column

/-- The cells of the widest line of a text. -/
def widest (s : List Char) : Nat :=
  ((Text.lines (String.ofList s)).map fun line => Terminal.width line.toList).foldl max 0

/-- The cells of each line, given what is in the column. -/
def limit (column : Column) (shown : List (List Char)) : Nat :=
  column.width.getD ((column.heading.toList :: shown).map widest |>.foldl max 0)

/-- The lines of what is in the column. -/
def wrapped (column : Column) (shown : List (List Char)) : List (List String) :=
  shown.map fun cell =>
    (Terminal.wrap (column.limit shown) column.whole cell).map String.ofList

end Column

/-- A table. -/
structure Table where
  title : String
  columns : List Column
  rows : List (List String)
  deriving DecidableEq, Repr

/-- A table as a terminal shows it: its title and the cells of every line. -/
structure ShownTable where
  title : String
  headings : List String
  rows : List (List String)
  deriving DecidableEq, Repr

namespace Table

/-- The lines of a row, given the lines of each cell. -/
def rowLines (cells : List (List String)) : List (List String) :=
  let height := (cells.map List.length).foldl max 0
  (List.range height).map fun n => cells.map fun lines => lines.getD n ""

/-- The table that a terminal shows for one whose title and cells are written with markup. -/
def render (table : Table) : Except Fault ShownTable := do
  let title ← Markup.render table.title
  let shown : List (List (List Char)) ← table.rows.mapM fun row => row.mapM Markup.plainText
  let wrapped := table.columns.zipIdx.map fun (column, n) =>
    column.wrapped (shown.map fun (row : List (List Char)) => row.getD n [])
  let rows := (List.range shown.length).flatMap fun k =>
    rowLines (wrapped.map fun cells => cells.getD k [])
  return { title, headings := table.columns.map Column.heading, rows }

end Table

namespace ShownTable

/-- The lines of the table, the headings first. -/
def lines (table : ShownTable) : List (List String) := table.headings :: table.rows

/-- The width of each column. -/
def widths (table : ShownTable) : List Nat :=
  (List.range table.headings.length).map fun n =>
    (table.lines.map fun row => Terminal.width (row.getD n "").toList).foldl max 0

/-- A text filled up with blanks. -/
def padded (width : Nat) (s : String) : String :=
  s ++ String.ofList (List.replicate (width - Terminal.width s.toList) ' ')

/-- A horizontal rule between the given corners. -/
def rule (left middle right : String) (widths : List Nat) : String :=
  let lines := widths.map fun n => String.ofList (List.replicate (n + 2) '─')
  left ++ middle.intercalate lines ++ right

/-- A row between borders. -/
def drawnRow (widths : List Nat) (row : List String) : String :=
  "│" ++ "│".intercalate (List.zipWith (fun n s => " " ++ padded n s ++ " ") widths row) ++ "│"

/-- The table as it is drawn, with its title above the middle. -/
def drawn (table : ShownTable) : List String :=
  let widths := table.widths
  let top := rule "╭" "┬" "╮" widths
  let indent := String.ofList (List.replicate ((top.length - table.title.length) / 2) ' ')
  [indent ++ table.title, top, drawnRow widths table.headings, rule "├" "┼" "┤" widths] ++
    table.rows.map (drawnRow widths) ++ [rule "╰" "┴" "╯" widths]

end ShownTable

end Workflow
