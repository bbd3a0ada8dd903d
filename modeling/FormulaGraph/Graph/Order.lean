import FormulaGraph.Graph.Basic

/-!
# Topological order

Nodes are put in an order in which each follows the nodes it depends on. A node is ready when all
its dependencies have been put; of the ready nodes the one that has been ready longest is next. If
nodes are left and none is ready, the graph has a cycle.
-/

namespace FormulaGraph.Graph

/-- A node that waits, with the dependencies that have not been put yet. -/
abbrev Waiting := List (String × List String)

def settle (id : String) (waiting : Waiting) : Waiting :=
  waiting.map fun (key, unmet) => (key, unmet.filter (· ≠ id))

def readyKeys (waiting : Waiting) : List String :=
  (waiting.filter fun (_, unmet) => unmet.isEmpty).map Prod.fst

def stillWaiting (waiting : Waiting) : Waiting := waiting.filter fun (_, unmet) => !unmet.isEmpty

theorem length_readyKeys_add (waiting : Waiting) :
    (readyKeys waiting).length + (stillWaiting waiting).length = waiting.length := by
  induction waiting with
  | nil => rfl
  | cons entry rest ih =>
    simp only [readyKeys, stillWaiting, List.filter_cons, List.length_map] at ih ⊢
    cases entry.2.isEmpty <;> simp <;> omega

/-- The order in which ready nodes are put, each followed in the queue by the nodes that it makes
ready, and the nodes that are left in the end. -/
def drain (ready : List String) (waiting : Waiting) : List String × Waiting :=
  match ready with
  | [] => ([], waiting)
  | id :: rest =>
    let settled := settle id waiting
    let (order, left) := drain (rest ++ readyKeys settled) (stillWaiting settled)
    (id :: order, left)
termination_by ready.length + waiting.length
decreasing_by
  have same := length_readyKeys_add (settle id waiting)
  simp only [settle, List.length_map] at same
  simp only [List.length_append, List.length_cons]
  simp only [settle]
  omega

/-- Each node with its dependencies inside the graph. -/
def internalDependencies (g : Graph) : Waiting :=
  g.nodes.map fun (key, n) => (key, n.dependencies.filter g.has)

/-- The ids of the nodes, each after the nodes it depends on; none if there is a cycle. -/
def order? (g : Graph) : Option (List String) :=
  let start := g.internalDependencies
  match drain (readyKeys start) (stillWaiting start) with
  | (order, []) => some order
  | _ => none

def topologicalOrder (g : Graph) : Except Misuse (List String) :=
  match g.order? with
  | some order => .ok order
  | none => .error .cycle

end FormulaGraph.Graph
