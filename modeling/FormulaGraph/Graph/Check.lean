import FormulaGraph.Graph.Order

/-!
# Checking graphs

A graph is sound when exactly one node is flagged as its result, the result it names is one of its
nodes, no reference dangles, and there is no cycle. `Graph.check` lists what is wrong.
-/

namespace FormulaGraph

inductive GraphDefect where
  | noResult
  | severalResults (ids : List String)
  /-- The named result is not there. -/
  | foreignResult (id : String)
  /-- A node refers to nodes that are not there. -/
  | dangling (id : String) (missing : List String)
  | cycle
deriving DecidableEq

def GraphDefect.message : GraphDefect → String
  | .noResult => "Graph has no result node"
  | .severalResults ids => "Graph has multiple result nodes: " ++ Misuse.textsLiteral ids
  | .foreignResult id => "Result node '" ++ id ++ "' is not part of the graph"
  | .dangling id missing =>
    "Node '" ++ id ++ "' references missing nodes: " ++ Misuse.textsLiteral missing
  | .cycle => "Graph contains a cycle"

def nameCodes (name : String) : List Nat := name.toList.map Text.codeOf

/-- Names in the order of their codes. -/
def sortNames (names : List String) : List String :=
  names.mergeSort fun a b => !(nameCodes b).lex (nameCodes a)

namespace Graph

def flagged (g : Graph) : List String := ((NameMap.values g.nodes).filter Node.isResult).map Node.id

def flagDefect (g : Graph) : Option GraphDefect :=
  match g.flagged with
  | [] => some .noResult
  | [_] => none
  | ids => some (.severalResults ids)

def resultDefect (g : Graph) : Option GraphDefect :=
  match g.resultId with
  | none => none
  | some id => if g.has id then none else some (.foreignResult id)

def danglingDefect (g : Graph) (n : Node) : Option GraphDefect :=
  match n.dependencies.filter fun id => !g.has id with
  | [] => none
  | missing => some (.dangling n.id (sortNames missing))

def cycleDefect (g : Graph) : Option GraphDefect :=
  match g.order? with
  | some _ => none
  | none => some .cycle

/-- What is wrong with a graph; nothing if it is sound. -/
def check (g : Graph) : List GraphDefect :=
  g.flagDefect.toList ++ g.resultDefect.toList ++
    (NameMap.values g.nodes).filterMap g.danglingDefect ++ g.cycleDefect.toList

end Graph
end FormulaGraph
