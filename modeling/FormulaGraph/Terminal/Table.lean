import FormulaGraph.Terminal.Style
import FormulaGraph.Terminal.Wrap

/-!
# Tables on a terminal

A table has a heavy frame around its heading and a light one around its rows. A column is as wide as
its widest cell, with a space on each side, as far as the terminal is wide enough. A cell has as many
lines as its text takes in the column.
-/

namespace FormulaGraph.Terminal

structure Table where
  heading : List Styled
  rows : List (List Styled)

namespace Table

def widen (widths : List Nat) (row : List Styled) : List Nat :=
  List.zipWith (fun width cell => max width cell.columnWidth) widths row

def neededWidths (t : Table) : List Nat := t.rows.foldl widen (t.heading.map Styled.columnWidth)

/-- The cells beside the columns in a line of a table: a bar on each side of a column, and a space on
each side of its text. -/
def frameWidth (columns : Nat) : Nat := 3 * columns + 1

def narrow (excess : Nat) (widths : List Nat) : List Nat :=
  let widest := widths.foldl max 0
  widths.map fun width => if width = widest then width - excess else width

/-- The widths of the columns on a terminal of a width. The widest column gives up what is beyond the
edge. -/
def widths (screen : Nat) (t : Table) : List Nat :=
  let needed := t.neededWidths
  narrow (total needed + frameWidth needed.length - screen) needed

/-- The lines of a cell with a space on each side. The runs of a line are measured one by one, which
may make more or fewer cells of it than the line has as a whole. -/
def cellLines (width : Nat) (cell : Styled) : Except Misuse (List String) := do
  let lines := cell.columnLines width
  lines.forM Styled.checkStyles
  return lines.map fun line =>
    let runs := [[' ']] ++ setRuns width line.runs ++ [[' ']]
    String.ofList (setRuns (width + 2) runs).flatten

/-- A row between bars; a cell with fewer lines than the row is filled with empty ones. -/
def rowLines (bar : String) (widths : List Nat) (row : List Styled) : Except Misuse (List String) := do
  let cells ← (List.zip widths row).mapM fun (width, cell) => do
    return (width, ← cellLines width cell)
  let height := (cells.map (·.2.length)).foldl max 1
  return (List.range height).map fun i =>
    let line := cells.map fun (width, lines) =>
      (lines[i]?).getD (String.ofList (List.replicate (width + 2) ' '))
    bar ++ bar.intercalate line ++ bar

def ruler (left fill joint right : String) (widths : List Nat) : String :=
  left ++ joint.intercalate (widths.map fun width => String.join (List.replicate (width + 2) fill)) ++ right

def toLines (screen : Nat) (t : Table) : Except Misuse (List String) := do
  let ws := t.widths screen
  let heading ← rowLines "┃" ws t.heading
  let rows ← t.rows.mapM (rowLines "│" ws)
  return ruler "┏" "━" "┳" "┓" ws :: heading ++
    ruler "┡" "━" "╇" "┩" ws :: rows.flatten ++ [ruler "└" "─" "┴" "┘" ws]

end Table
end FormulaGraph.Terminal
