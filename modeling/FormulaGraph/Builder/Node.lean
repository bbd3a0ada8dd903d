import FormulaGraph.Builder.Basic
import FormulaGraph.Document.Writer

/-!
# Creating and marking nodes

A node is created from the arguments that a caller hands in, by name or by position, once they have
been checked against the catalog and the nodes that there are: `bindArguments` makes all the checks
and changes nothing. An id is made from the operation and the first number that gives a new one.
-/

namespace FormulaGraph

inductive ArgumentSource where
  | named (arguments : NameMap Value)
  | positional (arguments : List Value)

/-- The arguments in a value: those of a map by name, the items of a sequence by position. A text is
the sequence of its characters. -/
def Value.asArguments : Value → Except Misuse ArgumentSource
  | .obj members => .ok (.named members)
  | .list items => .ok (.positional items)
  | .tuple items => .ok (.positional items)
  | .scalar (.str s) => .ok (.positional (s.toList.map fun c => .str (String.singleton c)))
  | other => .error (.notSequence other.kind)

/-- Positional arguments under the names of formal parameters. Where two have one name, the later
argument counts, in the place of the earlier one. -/
def Operation.bind (o : Operation) (arguments : List Value) : NameMap Value :=
  NameMap.ofList (o.parameterNames.zip arguments)

def coerceNamed : NameMap Value → Except Misuse (NameMap Value)
  | [] => .ok []
  | (name, value) :: rest => do
    let first ← value.coerce
    let others ← coerceNamed rest
    return (name, first) :: others

namespace Builder

def check {α : Type} : Except Misuse α → Except Fault α
  | .ok a => .ok a
  | .error cause => .error (.misuse cause)

def refuse {α : Type} (fault : FormulaFault) : Except Fault α := .error (.formula fault)

def nameArguments (o : Operation) : ArgumentSource → Except Fault (NameMap Value)
  | .named arguments => .ok arguments
  | .positional arguments =>
    if o.arity < arguments.length then refuse (.arityViolation o.name arguments.length o.arity)
    else .ok (o.bind arguments)

/-- The first node that arguments refer to and that is not there. -/
def missingNode? (b : Builder) (arguments : NameMap Value) : Option String :=
  (arguments.flatMap fun (_, value) => value.nodeRefs).find? fun id => !b.has id

/-- The operation that a node is to invoke, and its arguments, when all checks are passed. -/
def bindArguments (b : Builder) (operation : Json) (arguments : Value) :
    Except Fault (String × NameMap Value) := do
  match ← check (b.catalog.find operation) with
  | none => refuse (.invalidOperation operation)
  | some definition =>
    let source ← check arguments.asArguments
    let named ← nameArguments definition source
    let bound ← check (coerceNamed named)
    match b.missingNode? bound with
    | some id => refuse (.unknownNode id)
    | none => return (definition.name, bound)

def makeId (operation : String) (n : Nat) : String := operation ++ Number.intText n

/-- The first number from `n` that makes a new id, within `fuel` steps. -/
def firstFree (b : Builder) (operation : String) : Nat → Nat → Nat
  | 0, n => n
  | fuel + 1, n => if b.has (makeId operation n) then firstFree b operation fuel (n + 1) else n

/-- The number that makes the next id for an operation. One of the first numbers after the last one,
one more than there are nodes, makes a new id. -/
def nextNumber (b : Builder) (operation : String) : Nat :=
  b.firstFree operation b.size ((NameMap.get? b.counters operation).getD 0 + 1)

def add (b : Builder) (n : Node) : Builder := { b with nodes := b.nodes ++ [(n.id, n)] }

def createNode (operation : Json) (arguments : Value) (id : Option String) (description : Json) :
    Build Node := fun b =>
  match b.bindArguments operation arguments with
  | .error fault => .error fault b
  | .ok (name, bound) =>
    let make (id : String) (b : Builder) : EStateM.Result Fault Builder Node :=
      let n : Node := ⟨id, .str name, bound, .ofJson description, false⟩
      .ok n ((b.add n).record (.created id name bound))
    match id with
    | some given =>
      if b.has given then .error (.formula (.duplicateNode given)) b else make given b
    | none =>
      let number := b.nextNumber name
      make (makeId name number) { b with counters := NameMap.put b.counters name number }

/-- The node that a value names. Only texts name nodes, and a value with parts not even nothing. -/
def find (b : Builder) (name : Value) : Except Fault (Option Node) :=
  match name with
  | .scalar (.str id) => .ok (b.node? id)
  | other =>
    match other.compoundKind? with
    | some kind => .error (.misuse (.compoundName kind))
    | none => .ok none

def getNode (name : Value) : Build Node := fun b =>
  match b.find name with
  | .error fault => .error fault b
  | .ok none => .error (.formula (.unknownNode name.text)) b
  | .ok (some n) => .ok n b

def setFlag (id : String) (flag : Bool) (nodes : NameMap Node) : NameMap Node :=
  nodes.map fun (key, n) => if key = id then (key, { n with isResult := flag }) else (key, n)

/-- The builder with a node as its result, and no longer with another one. -/
def mark (b : Builder) (id : String) : Builder :=
  let cleared := match b.resultId with
    | some old => if old = id then b.nodes else setFlag old false b.nodes
    | none => b.nodes
  { b with nodes := setFlag id true cleared, resultId := some id }

/-- The name of the node that a value means: a node and a reference mean the one with their id. -/
def nodeName : Value → Value
  | .node n => .str n.id
  | .nodeRef id => .str id
  | other => other

def markResult (target : Value) : Build Unit := fun b =>
  match getNode (nodeName target) b with
  | .error fault b => .error fault b
  | .ok n b => .ok () ((b.mark n.id).record (.marked n.id))

end Builder

def Builder.write (b : Builder) : Except Misuse Json := b.toGraph.write

end FormulaGraph
