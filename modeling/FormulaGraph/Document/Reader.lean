import FormulaGraph.Fault

/-!
# Reading graph documents

`Graph.read` reads the document of a graph, and `Value.read` the written form of an argument.
Members of a node other than those that are written are ignored. A wrapper with the document as its
only member is taken off first by `Graph.ofFile`. Names and labels may be written as any values in words;
an integer that is too long for that is misuse, and so is one in a value that is shown in a fault.
-/

namespace FormulaGraph

/-- The integer that a value stands for: a fraction is cut off, and a text is a numeral. -/
def Value.readPosition : Value → Except Misuse Int
  | .scalar (.number (.int n)) => .ok n
  | .scalar (.bool b) => .ok (if b then 1 else 0)
  | .scalar (.number (.float x)) =>
    if x.isNan then .error .undefinedInteger
    else
      match x.truncate? with
      | some n => .ok n
      | none => .error .infiniteInteger
  | .scalar (.str s) => (Number.readInt s.toList).mapError (Misuse.ofIntFault s)
  | other => .error (.notIntegral other.kind)

/-- The element reference to a parameter whose selector is written under a name, if that name is one
for selectors: the position or the label that the selector stands for. -/
def readElement? (parameter : Except Misuse String) (name : String) (position : Except Misuse Int)
    (label : Except Misuse String) : Option (Except Misuse Value) :=
  if name = "index" then some do return .element (← parameter) (.number (.int (← position)))
  else if name = "label" then some do return .element (← parameter) (.str (← label))
  else none

/-- The misuse of a value that is the written form of no argument, which is shown in it. -/
def Value.refusal (value : Value) (cause : Value → Misuse) : Misuse :=
  if value.hasText then cause value else .hugeInteger

def readDescription (members : NameMap Value) : Value :=
  (NameMap.get? members "description").getD .null

/-- Whether a node with certain members is the result; only the truth value itself says so. -/
def readFlag (members : NameMap Value) : Bool :=
  match NameMap.get? members "result" with
  | some (.scalar (.bool true)) => true
  | _ => false

/-- The graph of nodes of which at most one is flagged as result. -/
def Graph.ofNodes (nodes : NameMap Node) : Except Misuse Graph :=
  match (nodes.filter fun (_, n) => n.isResult).map Prod.fst with
  | [] => .ok ⟨nodes, none, []⟩
  | [id] => .ok ⟨nodes, some id, []⟩
  | ids => .error (.severalResults ids)

mutual

/-- The argument whose written form a value is. -/
def Value.read : Value → Except Misuse Value
  | .scalar s => .ok (.scalar s)
  | .list items => (Value.readAll items).map .tuple
  | .obj [(name, value)] =>
    if name = "from_node" then value.toText.map .nodeRef
    else if name = "from_parameter" then value.toText.map .paramRef
    else if name = "process_graph" then (Graph.ofValue value).map .callback
    else .error (Value.refusal (.obj [(name, value)]) .unknownShape)
  | .obj [(first, a), (second, b)] =>
    let found :=
      if first = "from_parameter" then readElement? a.toText second b.readPosition b.toText
      else if second = "from_parameter" then readElement? b.toText first a.readPosition a.toText
      else none
    found.getD (.error (Value.refusal (.obj [(first, a), (second, b)]) .unknownShape))
  | .obj members => .error (Value.refusal (.obj members) .unknownShape)
  | other => .error (other.refusal .unknownForm)

def Value.readAll : List Value → Except Misuse (List Value)
  | [] => .ok []
  | item :: rest => do
    let first ← Value.read item
    let others ← Value.readAll rest
    return first :: others

def Value.readNamed : List (String × Value) → Except Misuse (List (String × Value))
  | [] => .ok []
  | (name, item) :: rest => do
    let first ← Value.read item
    let others ← Value.readNamed rest
    return (name, first) :: others

/-- The arguments of a node with certain members; without a member for them there are none. -/
def Node.readArguments : List (String × Value) → Except Misuse (List (String × Value))
  | [] => .ok []
  | (name, value) :: rest =>
    if name = "arguments" then Value.readObject value else Node.readArguments rest

def Value.readObject : Value → Except Misuse (List (String × Value))
  | .obj members => Value.readNamed members
  | other => .error (.lacks other.kind "items")

def Node.ofValue (id : String) : Value → Except Misuse Node
  | .obj members =>
    match NameMap.get? members "process_id" with
    | none => .error (.malformedNode id)
    | some operation => do
      let arguments ← Node.readArguments members
      return ⟨id, operation, arguments, readDescription members, readFlag members⟩
  | _ => .error (.malformedNode id)

def Graph.readNodes : List (String × Value) → Except Misuse (List (String × Node))
  | [] => .ok []
  | (id, item) :: rest => do
    let first ← Node.ofValue id item
    let others ← Graph.readNodes rest
    return (id, first) :: others

def Graph.ofValue : Value → Except Misuse Graph
  | .obj members => (Graph.readNodes members).bind Graph.ofNodes
  | other => .error (.lacks other.kind "items")

end

def Graph.read (document : Json) : Except Misuse Graph := Graph.ofValue (.ofJson document)

def unwrapDocument : Json → Json
  | .obj [(name, document)] => if name = "process_graph" then document else .obj [(name, document)]
  | other => other

/-- The graph of a file that holds a document, in a wrapper or not. -/
def Graph.ofFile (content : String) : Except Fault Graph :=
  match Json.ofFile content with
  | .error cause => .error (.unreadable cause)
  | .ok document =>
    match Graph.read (unwrapDocument document) with
    | .ok g => .ok g
    | .error cause => .error (.misuse cause)

end FormulaGraph
