import FormulaGraph.Fault

/-!
# Graph documents

A graph is written as an object from the ids of its nodes to the nodes. A node has its operation and
its arguments, a description if there is one, and a flag if it is the result. References are
objects with one member for what they refer to, and one for the element that they select.
-/

namespace FormulaGraph

/-- The written form of an element reference: a position is an index, all else a label. -/
def writeElement (parameter : String) (selector : Scalar) : Json :=
  .obj [("from_parameter", .str parameter),
    (if selector.isPosition then "index" else "label", .scalar selector)]

mutual

/-- A value as a datum, if it is made of data alone. -/
def Value.datum : Value → Except Misuse Json
  | .scalar s => .ok (.scalar s)
  | .list items => (Value.datumAll items).map .arr
  | .tuple items => (Value.datumAll items).map .arr
  | .obj members => (Value.datumNamed members).map .obj
  | other => .error (.notDatum other.kind)

def Value.datumAll : List Value → Except Misuse (List Json)
  | [] => .ok []
  | item :: rest => do
    let first ← item.datum
    let others ← Value.datumAll rest
    return first :: others

def Value.datumNamed : List (String × Value) → Except Misuse (List (String × Json))
  | [] => .ok []
  | (name, value) :: rest => do
    let first ← value.datum
    let others ← Value.datumNamed rest
    return (name, first) :: others

end

def writeNodeMembers (operation arguments description : Json) (isResult : Bool) : Json :=
  .obj ([("process_id", operation), ("arguments", arguments)] ++
    (if description.isTruthy then [("description", description)] else []) ++
    (if isResult then [("result", .bool true)] else []))

mutual

/-- The written form of an argument. -/
def Value.write : Value → Except Misuse Json
  | .scalar s => .ok (.scalar s)
  | .nodeRef id => .ok (.obj [("from_node", .str id)])
  | .paramRef name => .ok (.obj [("from_parameter", .str name)])
  | .element parameter selector => .ok (writeElement parameter selector)
  | .callback g => (Graph.write g).map fun document => .obj [("process_graph", document)]
  | .tuple items => (Value.writeAll items).map .arr
  | .list items => .error (.unwritable (.list items))
  | .obj members => .error (.unwritable (.obj members))
  | .param p => .error (.unwritable (.param p))
  | .node n => .error (.unwritable (.node n))
  | .graph g => .error (.unwritable (.graph g))
  | .expr e => .error (.unwritable (.expr e))

def Value.writeAll : List Value → Except Misuse (List Json)
  | [] => .ok []
  | item :: rest => do
    let first ← item.write
    let others ← Value.writeAll rest
    return first :: others

def Value.writeNamed : List (String × Value) → Except Misuse (List (String × Json))
  | [] => .ok []
  | (name, value) :: rest => do
    let first ← value.write
    let others ← Value.writeNamed rest
    return (name, first) :: others

def Node.write : Node → Except Misuse Json
  | ⟨_, operation, arguments, description, isResult⟩ => do
    let members ← Value.writeNamed arguments
    return writeNodeMembers (← operation.datum) (.obj members) (← description.datum) isResult

def Graph.write : Graph → Except Misuse Json
  | ⟨nodes, _, _⟩ => (Graph.writeNodes nodes).map .obj

def Graph.writeNodes : List (String × Node) → Except Misuse (List (String × Json))
  | [] => .ok []
  | (id, n) :: rest => do
    let first ← Node.write n
    let others ← Graph.writeNodes rest
    return (id, first) :: others

end

end FormulaGraph
