import FormulaGraph.Fault

/-!
# Arguments

What a caller hands in is coerced to an argument: nodes and parameters become references, graphs
become callbacks, lists become tuples, and all that is no argument is refused. `nodeRefs` are the
references to nodes in an argument, at any depth of its tuples.
-/

namespace FormulaGraph

namespace Value

mutual

def coerce : Value → Except Misuse Value
  | .node n => .ok (.nodeRef n.id)
  | .param p => .ok (.paramRef p.name)
  | .nodeRef id => .ok (.nodeRef id)
  | .paramRef name => .ok (.paramRef name)
  | .element parameter selector => .ok (.element parameter selector)
  | .callback g => .ok (.callback g)
  | .graph g => .ok (.callback g)
  | .scalar s => .ok (.scalar s)
  | .list items => (coerceAll items).map .tuple
  | .tuple items => (coerceAll items).map .tuple
  | .obj members => .error (.unsupportedArgument (.obj members))
  | .expr e => .error (.unsupportedArgument (.expr e))

def coerceAll : List Value → Except Misuse (List Value)
  | [] => .ok []
  | item :: rest => do
    let first ← coerce item
    let others ← coerceAll rest
    return first :: others

end

mutual

/-- The nodes that an argument refers to, from left to right. Callbacks are graphs of their own, and
their references are not among them. -/
def nodeRefs : Value → List String
  | .nodeRef id => [id]
  | .tuple items => nodeRefsAll items
  | _ => []

def nodeRefsAll : List Value → List String
  | [] => []
  | item :: rest => nodeRefs item ++ nodeRefsAll rest

end

mutual

/-- Whether a value is an argument as nodes hold it. The graphs of callbacks are not looked into. -/
def isArgument : Value → Bool
  | .scalar _ | .nodeRef _ | .paramRef _ | .element .. | .callback _ => true
  | .tuple items => areArguments items
  | _ => false

def areArguments : List Value → Bool
  | [] => true
  | item :: rest => isArgument item && areArguments rest

end

def exprCompoundKind? : Expr → Option String
  | .number _ | .identifier _ => none
  | .group inner => exprCompoundKind? inner
  | .call function args => function.compoundKind?.or (argsCompoundKind? args)
  | .binary operator left right =>
    operator.compoundKind?.or ((exprCompoundKind? left).or (exprCompoundKind? right))
  | .unary operator operand => operator.compoundKind?.or (exprCompoundKind? operand)
where
  /-- The same for the arguments of a call. -/
  argsCompoundKind? : List Expr → Option String
    | [] => none
    | arg :: rest => (exprCompoundKind? arg).or (argsCompoundKind? rest)

mutual

/-- The kind of the first part of a value that keeps it from being a name. -/
def compoundKind? : Value → Option String
  | .list _ => some "list"
  | .obj _ | .graph _ | .callback _ => some "dict"
  | .tuple items => compoundKindAll? items
  | .expr e => exprCompoundKind? e
  | .scalar _ | .nodeRef _ | .paramRef _ | .element .. | .param _ | .node _ => none

def compoundKindAll? : List Value → Option String
  | [] => none
  | item :: rest => (compoundKind? item).or (compoundKindAll? rest)

end

end Value

def Node.nodeRefs (n : Node) : List String := n.arguments.flatMap fun (_, argument) => argument.nodeRefs

/-- The nodes whose output a node consumes, each once. -/
def Node.dependencies (n : Node) : List String := n.nodeRefs.eraseDups

end FormulaGraph
