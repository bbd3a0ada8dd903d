import FormulaGraph.Terminal.Line
import FormulaGraph.Text.Blank

/-!
# Text in a column

A text is fitted to a column or to the terminal by breaking its lines before words that go beyond
the edge, and by folding or cutting what is still too wide.
-/

namespace FormulaGraph.Terminal

open Text (cellWidth clusters Cluster isBlank trimEnd)

def screenWidth : Nat := 10000

/-- Characters in pieces that each end with the blanks before the next one. -/
def pieces : List Char → List (List Char)
  | [] => []
  | c :: rest =>
    match pieces rest with
    | (d :: piece) :: others =>
      if isBlank c && !isBlank d then [c] :: (d :: piece) :: others
      else (c :: d :: piece) :: others
    | others => [c] :: others

/-- The words of a line, each with the blanks behind it, and the first also with those before it. -/
def words (line : List Char) : List (List Char) :=
  match pieces line with
  | first :: second :: rest =>
    if first.all isBlank then (first ++ second) :: rest else first :: second :: rest
  | few => few

/-- Clusters in pieces that each have cells for no more than a width allows; `piece` is the first of
them so far, with `column` cells. -/
def chop (width column : Nat) (piece : List Char) : List Cluster → List (List Char)
  | [] => [piece]
  | next :: rest =>
    if width < column + next.width then piece :: chop width next.width next.chars rest
    else chop width (column + next.width) (piece ++ next.chars) rest

def chopWord (width : Nat) (word : List Char) : List (List Char) := chop width 0 [] (clusters word)

def chopped (line : List Char) (pieces : List (List Char)) : List (List Char) × List Char :=
  let front := if line.isEmpty then [] else [line]
  (front ++ pieces.dropLast, (pieces.getLast?).getD [])

/-- Words in lines, of which `line` is the first so far, with words of `column` cells. A word goes to
the next line if it would reach beyond the edge without its blanks. A word that is wider than a line
is folded into lines of its own if `folds` holds, and else stays whole. -/
def fill (folds : Bool) (width column : Nat) (line : List Char) :
    List (List Char) → List (List Char)
  | [] => [line]
  | word :: rest =>
    let needed := cellWidth (trimEnd isBlank word)
    if column + needed ≤ width then
      fill folds width (column + cellWidth word) (line ++ word) rest
    else if folds && width < needed then
      let (done, last) := chopped line (chopWord width word)
      done ++ fill folds width (cellWidth last) last rest
    else if line.isEmpty then fill folds width (cellWidth word) word rest
    else line :: fill folds width (cellWidth word) word rest

/-- The first clusters that there are cells for, as characters. A space stands for the part of a
cluster at the edge. -/
def takeCells : Nat → List Cluster → List Char
  | _, [] => []
  | 0, _ => []
  | width + 1, first :: rest =>
    if first.width ≤ width + 1 then first.chars ++ takeCells (width + 1 - first.width) rest
    else [' ']

def setCells (width : Nat) (line : List Char) : List Char :=
  if width < cellWidth line then takeCells width (clusters line)
  else line ++ List.replicate (width - cellWidth line) ' '

/-- Runs of characters brought to a width: the run that reaches beyond it is cut and is the last. -/
def cutRuns : Nat → List (List Char) → List (List Char)
  | _, [] => []
  | width, run :: rest =>
    if cellWidth run < width then run :: cutRuns (width - cellWidth run) rest
    else [setCells width run]

def runsWidth (runs : List (List Char)) : Nat := total (runs.map cellWidth)

def setRuns (width : Nat) (runs : List (List Char)) : List (List Char) :=
  if width < runsWidth runs then cutRuns width runs
  else runs ++ [List.replicate (width - runsWidth runs) ' ']

namespace Styled

def breaks (folds : Bool) (width : Nat) (line : Styled) : List Styled :=
  line.divide 0 ((fill folds width 0 [] (words line.chars)).map List.length)

def trimTo (width : Nat) (line : Styled) : Styled :=
  line.crop (max width (trimEnd isBlank line.chars).length)

/-- A line brought to the width of a column. Blanks at its end may be lost, and a line that is still
too wide is cut and ends in an ellipsis. -/
def fit (width : Nat) (line : Styled) : Styled :=
  let trimmed := line.trimTo width
  let used := cellWidth trimmed.chars
  if width < used then trimmed.withChars (setCells (width - 1) trimmed.chars ++ ['…'])
  else ⟨trimmed.chars ++ List.replicate (width - used) ' ', trimmed.spans⟩

def columnLines (width : Nat) (t : Styled) : List Styled :=
  t.lines.flatMap fun line => (line.breaks false width).map (fit width)

/-- A line that takes no more than a width. Blanks at its end may be lost, and what is still beyond
the edge is. -/
def cut (width : Nat) (line : Styled) : Styled :=
  let trimmed := line.trimTo width
  if width < cellWidth trimmed.chars then trimmed.withChars (setCells width trimmed.chars)
  else trimmed

def screenLines (width : Nat) (t : Styled) : List Styled :=
  t.lines.flatMap fun line => (line.breaks true width).map (cut width)

/-- A line as it is shown on a terminal of a width. Its runs are measured one by one. -/
def shown (width : Nat) (line : Styled) : String :=
  String.ofList (if width < runsWidth line.runs then cutRuns width line.runs else line.runs).flatten

def endsLine (c : Char) : Bool :=
  [0x0a, 0x1c, 0x1d, 0x1e, 0x85, 0x2028, 0x2029].contains c.toNat

def columnWidth (t : Styled) : Nat :=
  ((splitWhere endsLine t.chars).map cellWidth).foldl max 0

end Styled
end FormulaGraph.Terminal
