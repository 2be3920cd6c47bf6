import Outline.Report.Result
import Outline.Report.Styled

/-!
# The report as tables

Each document is announced by a rule and its path.  The findings of a document
are the rows of a table; a document without findings is said to be in order.
-/

namespace Outline.Report.Table

open Outline.Text

/-- A column of the table. -/
structure Column where
  title : String
  /-- The number of columns of the terminal for its texts. -/
  width : Nat
  /-- Whether its texts stand at the right. -/
  alignsRight : Bool := false

/-- The line of a finding, its category and what it says. -/
def tableColumns : List Column :=
  [{ title := "line", width := 4, alignsRight := true }, { title := "category", width := 16 },
    { title := "message", width := 50 }]

/-- A horizontal line of the frame. -/
def frameLine (left fill joint right : String) : String :=
  let bars := tableColumns.map fun column => String.join (List.replicate (column.width + 2) fill)
  left ++ String.intercalate joint bars ++ right ++ "\n"

/-- The text at the top of a column; it is padded to the width of the column. -/
def titleCell (column : Column) : String :=
  let spaces := String.ofList (List.replicate (column.width - column.title.length) ' ')
  Styled.write
    (Styled.run .bold " " ++ Styled.run .bold (column.title ++ spaces) ++ Styled.run .bold " ")

/-- The top of the table. -/
def header : String :=
  frameLine "┏" "━" "┳" "┓" ++ "┃" ++ String.intercalate "┃" (tableColumns.map titleCell) ++ "┃\n"
    ++ frameLine "┡" "━" "╇" "┩"

/--
One line of a cell, between two spaces; a cell may have fewer lines than its row.
A text that takes more columns than it was cut to leaves no place for the space
behind it.
-/
def cellLine (column : Column) (line : Option Styled) : String :=
  let content := line.getD []
  let aligned :=
    if column.alignsRight then content.padStart column.width else content.padEnd column.width
  let space := Styled.blankRun 1
  let shaped := Styled.shapeRuns column.width aligned.runs
  Styled.writeRuns (Styled.shapeRuns (column.width + 2) (space :: shaped ++ [space]))

/-- A row of the table, as high as its highest cell. -/
def row (texts : List String) : String :=
  let cells := tableColumns.zip texts |>.map fun (column, text) =>
    (column, (Styled.run .plain text).wrap column.width)
  let height := (cells.map fun (_, lines) => lines.length).foldl max 0
  String.join <| (List.range height).map fun place =>
    let shown := cells.map fun (column, lines) => cellLine column lines[place]?
    "│" ++ String.intercalate "│" shown ++ "│\n"

/-- The row of a finding. -/
def findingRow (finding : Finding) : String :=
  row [toString finding.lineNumber, finding.problem.category.label, finding.problem.message]

/-- The table of some findings. -/
def table (findings : List Finding) : String :=
  header ++ String.intercalate (frameLine "├" "─" "┼" "┤") (findings.map findingRow)
    ++ frameLine "└" "─" "┴" "┘"

/-- The report on one document. -/
def document (result : Result) : String :=
  let rule := Styled.run .cyan (String.ofList (List.replicate terminalWidth '-'))
  let path := Styled.run .cyan result.path.render
  let verdict :=
    if result.outcome.isClean then
      Styled.writeLines [Styled.run .green "ok"]
    else
      table result.outcome.findings
  Styled.writeLines (rule :: path.lines) ++ verdict

/-- The report on some documents. -/
def render (results : List Result) : String :=
  String.join (results.map document)

end Outline.Report.Table
