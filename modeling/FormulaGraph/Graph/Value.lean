import FormulaGraph.Expr.Basic

/-!
# Values, nodes and graphs

A node invokes an operation with named arguments; a graph is a map of nodes, one of which may be
its result. An argument can hold a graph again, so the three types are defined together. `Value` is
everything that a caller may hand in as an argument; `Value.IsArgument` says which of them a node
of a finished graph has.
-/

namespace FormulaGraph

structure Parameter where
  name : String
  description : String
deriving DecidableEq, Inhabited

mutual

inductive Value where
  | scalar (value : Scalar)
  /-- A sequence as callers write it. -/
  | list (items : List Value)
  /-- A sequence as nodes hold it. -/
  | tuple (items : List Value)
  | obj (members : List (String × Value))
  /-- The output of the node with an id. -/
  | nodeRef (id : String)
  /-- The parameter with a name. -/
  | paramRef (name : String)
  /-- An element of a parameter, by position or by label. -/
  | element (parameter : String) (selector : Scalar)
  | param (parameter : Parameter)
  | node (node : Node)
  | graph (graph : Graph)
  /-- A graph that the operation runs itself. -/
  | callback (graph : Graph)
  | expr (expr : Expr)

/-- An invocation of an operation. The operation and the description of a node that was read are
whatever stood in their places. -/
structure Node where
  id : String
  operation : Value
  arguments : List (String × Value)
  description : Value
  isResult : Bool

structure Graph where
  nodes : List (String × Node)
  resultId : Option String
  parameters : List Parameter

end

deriving instance BEq for Value, Node, Graph

instance : Inhabited Value := ⟨.scalar .null⟩
instance : Inhabited Node := ⟨⟨"", default, [], default, false⟩⟩
instance : Inhabited Graph := ⟨⟨[], none, []⟩⟩

/-- Whether a selector is a position and not a label. -/
def Scalar.isPosition : Scalar → Bool
  | .number (.int _) => true
  | .bool _ => true
  | _ => false

namespace Value

@[match_pattern] abbrev null : Value := .scalar .null

@[match_pattern] abbrev str (value : String) : Value := .scalar (.str value)

@[match_pattern] abbrev number (value : Number) : Value := .scalar (.number value)

mutual

def ofJson : Json → Value
  | .scalar s => .scalar s
  | .arr items => .list (ofJsonItems items)
  | .obj members => .obj (ofJsonMembers members)

def ofJsonItems : List Json → List Value
  | [] => []
  | item :: rest => ofJson item :: ofJsonItems rest

def ofJsonMembers : List (String × Json) → List (String × Value)
  | [] => []
  | (name, value) :: rest => (name, ofJson value) :: ofJsonMembers rest

end

def kind : Value → String
  | .scalar s => s.kind
  | .list _ => "list"
  | .tuple _ => "tuple"
  | .obj _ => "dict"
  | .nodeRef _ => "NodeReference"
  | .paramRef _ => "ParameterReference"
  | .element .. => "ElementReference"
  | .param _ => "Parameter"
  | .node _ => "GraphNode"
  | .graph _ => "ProcessGraph"
  | .callback _ => "CallbackArgument"
  | .expr e => e.kind

def isLiteral : Value → Bool
  | .scalar (.str _) => false
  | .scalar _ => true
  | _ => false

def isNumber : Value → Bool
  | .scalar (.number _) => true
  | _ => false

end Value

def Parameter.literal (p : Parameter) : String :=
  "Parameter(name=" ++ Text.quoted p.name ++ ", description=" ++ Text.quoted p.description ++ ")"

/-- Items with commas between them, and one after a single item. -/
def tupleLiteral (items : List String) : String :=
  "(" ++ ", ".intercalate items ++ (if items.length = 1 then ",)" else ")")

mutual

/-- A value as a literal: its kind, and its parts by name. -/
def Value.literal : Value → String
  | .scalar s => s.literal
  | .list items => "[" ++ ", ".intercalate (Value.literals items) ++ "]"
  | .tuple items => tupleLiteral (Value.literals items)
  | .obj members => "\x7b" ++ ", ".intercalate (Value.memberLiterals members) ++ "\x7d"
  | .nodeRef id => "NodeReference(node_id=" ++ Text.quoted id ++ ")"
  | .paramRef name => "ParameterReference(name=" ++ Text.quoted name ++ ")"
  | .element parameter selector =>
    "ElementReference(parameter=" ++ Text.quoted parameter ++ ", selector=" ++ selector.literal ++ ")"
  | .param p => p.literal
  | .node n => Node.literal n
  | .graph g => Graph.literal g
  | .callback g => "CallbackArgument(graph=" ++ Graph.literal g ++ ")"
  | .expr e => e.literal

def Value.literals : List Value → List String
  | [] => []
  | item :: rest => item.literal :: Value.literals rest

def Value.memberLiterals : List (String × Value) → List String
  | [] => []
  | (name, value) :: rest => (Text.quoted name ++ ": " ++ value.literal) :: Value.memberLiterals rest

def Node.literal : Node → String
  | ⟨id, operation, arguments, description, isResult⟩ =>
    "GraphNode(id=" ++ Text.quoted id ++ ", operation=" ++ operation.literal ++
      ", arguments=\x7b" ++ ", ".intercalate (Value.memberLiterals arguments) ++ "\x7d, description=" ++
      description.literal ++ ", is_result=" ++ (Scalar.bool isResult).literal ++ ")"

def Graph.literal : Graph → String
  | ⟨nodes, resultId, parameters⟩ =>
    "ProcessGraph(nodes=\x7b" ++ ", ".intercalate (Graph.nodeLiterals nodes) ++ "\x7d, result_id=" ++
      (match resultId with
        | none => Scalar.null.literal
        | some id => Text.quoted id) ++
      ", parameters=" ++ tupleLiteral (parameters.map Parameter.literal) ++ ")"

def Graph.nodeLiterals : List (String × Node) → List String
  | [] => []
  | (id, node) :: rest => (Text.quoted id ++ ": " ++ Node.literal node) :: Graph.nodeLiterals rest

end

mutual

/-- Whether a value can be told in words: no integer in it is too long. -/
def Value.hasText : Value → Bool
  | .scalar s => s.hasText
  | .list items => Value.haveText items
  | .tuple items => Value.haveText items
  | .obj members => Value.membersHaveText members
  | .nodeRef _ | .paramRef _ | .param _ => true
  | .element _ selector => selector.hasText
  | .node n => Node.hasText n
  | .graph g => Graph.hasText g
  | .callback g => Graph.hasText g
  | .expr e => e.hasText

def Value.haveText : List Value → Bool
  | [] => true
  | item :: rest => item.hasText && Value.haveText rest

def Value.membersHaveText : List (String × Value) → Bool
  | [] => true
  | (_, value) :: rest => value.hasText && Value.membersHaveText rest

def Node.hasText : Node → Bool
  | ⟨_, operation, arguments, description, _⟩ =>
    operation.hasText && Value.membersHaveText arguments && description.hasText

def Graph.hasText : Graph → Bool
  | ⟨nodes, _, _⟩ => Graph.nodesHaveText nodes

def Graph.nodesHaveText : List (String × Node) → Bool
  | [] => true
  | (_, node) :: rest => Node.hasText node && Graph.nodesHaveText rest

end

namespace Value

/-- A value in a running text: texts and references have short forms, all else stands as its
literal. -/
def text : Value → String
  | .scalar s => s.text
  | .nodeRef id => "#" ++ id
  | .paramRef name => name
  | .element parameter selector => parameter ++ "[" ++ selector.literal ++ "]"
  | other => other.literal

end Value
end FormulaGraph
