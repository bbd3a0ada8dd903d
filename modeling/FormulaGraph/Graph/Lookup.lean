import FormulaGraph.Graph.Reach

/-!
# Queries by data

A graph may be asked for the node that a datum names. Only texts are ids; `findNode_text` and
`reachableFromDatum_text` say that a text asks for what it says.
-/

namespace FormulaGraph.Graph

def findNode (g : Graph) (name : Json) : Except Misuse (Option Node) :=
  name.name?.map (·.bind g.node?)

def nodeOf (g : Graph) (name : Json) : Except Misuse Node := do
  match ← g.findNode name with
  | some n => return n
  | none => .error (.missingNode name)

/-- The nodes that consume the node that a datum names. A graph without nodes is not searched. -/
def dependentsOf (g : Graph) (name : Json) : Except Misuse (List String) :=
  if g.nodes.isEmpty then .ok []
  else name.name?.map fun id => (id.map g.dependents).getD []

def reachableFromDatum (g : Graph) (name : Json) : Except Misuse (List String) :=
  name.name?.map fun id => (id.map g.reachableFrom).getD []

end FormulaGraph.Graph
