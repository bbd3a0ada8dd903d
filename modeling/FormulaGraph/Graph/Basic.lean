import FormulaGraph.Graph.Argument

/-!
# Queries on graphs

A graph answers by the keys of its node map; a reference to an id that is no key is dangling.
-/

namespace FormulaGraph.Graph

def keys (g : Graph) : List String := NameMap.keys g.nodes

def size (g : Graph) : Nat := g.nodes.length

def has (g : Graph) (id : String) : Bool := NameMap.has g.nodes id

def node? (g : Graph) (id : String) : Option Node := NameMap.get? g.nodes id

def node (g : Graph) (id : String) : Except Misuse Node :=
  match g.node? id with
  | some n => .ok n
  | none => .error (.missingMember id)

/-- The result node, if a result is named; it has to be there. -/
def result (g : Graph) : Except Misuse (Option Node) :=
  match g.resultId with
  | none => .ok none
  | some id => (g.node id).map some

def dependencies (g : Graph) (id : String) : Except Misuse (List String) :=
  (g.node id).map Node.dependencies

/-- The nodes that consume the node with an id, by their own ids, each once. -/
def dependents (g : Graph) (id : String) : List String :=
  ((NameMap.values g.nodes).filter fun n => n.dependencies.contains id).map Node.id |>.eraseDups

end FormulaGraph.Graph
