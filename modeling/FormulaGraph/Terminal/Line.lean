import FormulaGraph.Terminal.Styled

/-!
# Lines on a terminal

A text is shown line by line, and a tab reaches to the next multiple of eight cells.
-/

namespace FormulaGraph.Terminal

open Text (cellWidth)

/-- The parts of a text between certain characters; one more than it has of these. -/
def splitWhere (isEnd : Char → Bool) : List Char → List (List Char)
  | [] => [[]]
  | c :: rest =>
    if isEnd c then [] :: splitWhere isEnd rest
    else
      match splitWhere isEnd rest with
      | line :: lines => (c :: line) :: lines
      | [] => [[c]]

def tabSize : Nat := 8

/-- The parts of a line that each end with a tab, and what follows the last one. -/
def tabParts : List Char → List (List Char)
  | [] => []
  | c :: rest =>
    if c = '\t' then [c] :: tabParts rest
    else
      match tabParts rest with
      | part :: parts => (c :: part) :: parts
      | [] => [[c]]

namespace Styled

/-- A part of a line with spaces instead of the tab at its end, and the column behind it, when it
starts at `column`. The spans that reach to the tab reach over the spaces. -/
def fillTab (column : Nat) (part : Styled) : Nat × Styled :=
  match part.chars.reverse with
  | '\t' :: before =>
    let chars := before.reverse ++ [' ']
    let stop := column + cellWidth chars
    let more := (tabSize - stop % tabSize) % tabSize
    (stop + more,
      ⟨chars ++ List.replicate more ' ', part.spans.map fun s =>
        if chars.length ≤ s.stop then ⟨s.start, s.stop + more, s.style⟩ else s⟩)
  | _ => (column + cellWidth part.chars, part)

def joinFilled (column : Nat) : List Styled → Styled
  | [] => empty
  | part :: rest =>
    let (next, filled) := part.fillTab column
    filled.append (joinFilled next rest)

def expandTabs (line : Styled) : Styled :=
  if '\t' ∈ line.chars then
    joinFilled 0 (line.parts 0 0 ((tabParts line.chars).map List.length))
  else line

def lines (t : Styled) : List Styled :=
  (t.divide 1 ((splitWhere (· == '\n') t.chars).map List.length)).map expandTabs

end Styled

def unlines (lines : List String) : String := String.join (lines.map (· ++ "\n"))

end FormulaGraph.Terminal
