/-!
# Trees on a terminal

A tree is shown with guides that lead from a node to its children. `lines` gives the lines of a tree;
the lines of a label after its first are led past by the guide of what follows.
-/

namespace FormulaGraph.Terminal

inductive Tree where
  | node (label : List String) (children : List Tree)

namespace Tree

def branchGuide (isLast : Bool) : String := if isLast then "└── " else "├── "

def passGuide (isLast : Bool) : String := if isLast then "    " else "│   "

def guideWidth : Nat := 4

/-- Lines with one guide before the first and another before the others. -/
def guard (isLast : Bool) : List String → List String
  | [] => []
  | first :: rest => (branchGuide isLast ++ first) :: rest.map (passGuide isLast ++ ·)

mutual

def lines : Tree → List String
  | .node label children => label ++ childLines children

def childLines : List Tree → List String
  | [] => []
  | child :: rest => guard rest.isEmpty child.lines ++ childLines rest

end

end Tree
end FormulaGraph.Terminal
