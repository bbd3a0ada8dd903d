import FormulaGraph.Report.Console
import FormulaGraph.Terminal.Markup
import FormulaGraph.Terminal.Table
import FormulaGraph.Terminal.Tree

/-!
# The console of a terminal

A console that prints on a terminal without colours: tags leave only what stands between them.
-/

namespace FormulaGraph.Terminal

mutual

/-- A label by its lines, at a depth of a tree, with those below it. -/
def ofLabels (depth : Nat) : LabelTree → Except Fault Tree
  | .node label below => do
    let lines ← Markup.printedLines (screenWidth - Tree.guideWidth * depth) label
    let children ← ofLabelsAll (depth + 1) below
    return .node lines children

def ofLabelsAll (depth : Nat) : List LabelTree → Except Fault (List Tree)
  | [] => .ok []
  | label :: rest => do
    let first ← ofLabels depth label
    let others ← ofLabelsAll depth rest
    return first :: others

end

def console : Console where
  escape := Markup.escape
  print markup := (Markup.printedLines screenWidth markup).map unlines
  printTree tree := (ofLabels 0 tree).map fun tree => unlines tree.lines
  printTable heading rows := do
    let cells ← rows.mapM fun row => row.mapM Markup.read
    match (Table.mk (heading.map .ofText) cells).toLines screenWidth with
    | .ok lines => return unlines lines
    | .error cause => .error (.misuse cause)

end FormulaGraph.Terminal
