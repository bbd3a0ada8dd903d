import FormulaGraph.Fault

/-!
# Consoles

Reports are written as markup, in which tags in square brackets style what stands between them. A `Console`
prints it: how tags look, where lines are broken and how trees and tables are drawn is its own affair.
-/

namespace FormulaGraph

/-- A label with those that stand below it. -/
inductive LabelTree where
  | node (label : String) (below : List LabelTree)

/-- What is printed for markup, unless it cannot be read or printed. -/
structure Console where
  /-- Markup that shows a text as it is. -/
  escape : String → String
  print : String → Except Fault String
  printTree : LabelTree → Except Fault String
  /-- A table has a heading for each column. -/
  printTable (heading : List String) (rows : List (List String)) : Except Fault String

/-- A console whose output goes through a stream. -/
def Console.onto (c : Console) (stream : String → Except Fault String) : Console where
  escape := c.escape
  print markup := c.print markup >>= stream
  printTree tree := c.printTree tree >>= stream
  printTable heading rows := c.printTable heading rows >>= stream

end FormulaGraph
