import FormulaGraph.Builder.Node
import FormulaGraph.Expr.Tree
import FormulaGraph.Formula.Label
import FormulaGraph.Operator

/-!
# Compiling formulas

An expression is lowered into a builder: calls and operators become nodes, and all else becomes a
literal or a reference. An identifier is a keyword, the output of a node, an element of the first
parameter of the innermost scope, a parameter of a scope, or a free parameter, in this order.
-/

namespace FormulaGraph.Formula

/-- What an identifier is resolved in, besides the builder. -/
structure Context where
  /-- The scopes behind those of the builder, the innermost first. -/
  outer : List Scope
  labels : NumericLabels

def keywords : NameMap Scalar := [("true", .bool true), ("false", .bool false), ("null", .null)]

inductive IdentifierForm where
  | keyword (value : Scalar)
  /-- A number sign, and the id of a node. -/
  | node (id : String)
  /-- A dollar sign, and a label. -/
  | element (label : String)
  | plain

def identifierForm (name : String) : IdentifierForm :=
  match NameMap.get? keywords name with
  | some value => .keyword value
  | none =>
    match name.toList with
    | '#' :: rest => .node (String.ofList rest)
    | '$' :: rest => .element (String.ofList rest)
    | _ => .plain

/-- The reference to the parameter of a scope that has a name, or else to a free parameter, which is
declared when it is new. -/
def resolveParameter (ctx : Context) (name : String) : Build Value := fun b =>
  match b.scopeParameter? ctx.outer name with
  | some p => .ok (.paramRef p.name) b
  | none =>
    match Builder.declare ⟨name, ""⟩ b with
    | .ok p b => .ok (.paramRef p.name) b
    | .error fault b => .error fault b

def resolve (ctx : Context) (name : String) : Build Value := fun b =>
  match identifierForm name with
  | .keyword value => .ok (.scalar value) b
  | .node id => if b.has id then .ok (.nodeRef id) b else .error (.formula (.unknownNode id)) b
  | .element label =>
    match b.currentScope ctx.outer with
    | [] => resolveParameter ctx name b
    | first :: _ =>
      match Label.selector ctx.labels label with
      | .ok selector => .ok (.element first.name selector) b
      | .error fault => .error fault b
  | .plain => resolveParameter ctx name b

def resolveDatum (ctx : Context) (name : Json) : Build Value := fun b =>
  match name with
  | .scalar (.str s) => resolve ctx s b
  | .scalar s => .error (.misuse (.lacks s.kind "startswith")) b
  | other => .error (.misuse (.compoundName other.kind)) b

def invoke (operation : String) (arguments : Value) : Build Value := fun b =>
  match Builder.createNode (.str operation) arguments none .null b with
  | .ok n b => .ok (.nodeRef n.id) b
  | .error fault b => .error fault b

def callNode (function : Json) (arguments : List Value) : Build Value := fun b =>
  match b.catalog.find function with
  | .error cause => .error (.misuse cause) b
  | .ok none => .error (.formula (.unknownFunction function)) b
  | .ok (some definition) =>
    if definition.arity < arguments.length then
      .error (.formula (.arityViolation definition.name arguments.length definition.arity)) b
    else invoke definition.name (.list arguments) b

/-- The names of the operands of an operation, if it has two. A parameter without a name has the
name that stands for its place. -/
def operandNames? (definition : Operation) : Option (String × String) :=
  let named (p : OperationParameter) (fallback : String) : String :=
    if p.name = "" then fallback else p.name
  match definition.parameters with
  | first :: second :: _ =>
    some (named first Operator.operandNames.1, named second Operator.operandNames.2)
  | _ => none

def operatorNode (operator : Json) (left right : Value) : Build Value := fun b =>
  match Operator.find operator with
  | .error cause => .error (.misuse cause) b
  | .ok none => .error (.formula (.unsupportedOperator operator none)) b
  | .ok (some operation) =>
    match b.catalog.get? operation with
    | none => .error (.formula (.unsupportedOperator operator (some operation))) b
    | some definition =>
      match operandNames? definition with
      | none => .error (.formula (.arityViolation operation 2 definition.arity)) b
      | some (first, second) =>
        invoke operation (.obj (NameMap.ofList [(first, left), (second, right)])) b

def isMinus : Json → Bool
  | .scalar (.str s) => s = "-"
  | _ => false

/-- The negation of what an operand stands for: a number is negated, all else multiplied by minus
one. -/
def negate (operand : Value) : Build Value :=
  match operand with
  | .scalar (.number n) => pure (.number n.neg)
  | other => operatorNode (.str "*") (.number (.int (-1))) other

mutual

def lower (ctx : Context) : Expr → Build Value
  | .number n => pure (.number n)
  | .group inner => lower ctx inner
  | .identifier name => resolve ctx name
  | .call function args => do
    let values ← lowerAll ctx args
    callNode function values
  | .binary operator left right => do
    let a ← lower ctx left
    let b ← lower ctx right
    operatorNode operator a b
  | .unary operator operand => do
    let value ← lower ctx operand
    if isMinus operator then negate value else pure value

def lowerAll (ctx : Context) : List Expr → Build (List Value)
  | [] => pure []
  | arg :: rest => do
    let value ← lower ctx arg
    let values ← lowerAll ctx rest
    return value :: values

end

/-- The node that a lowered formula stands for, marked as the result if asked for; without a node,
the literal or reference itself, which cannot be the result. -/
def finish (value : Value) (mark : Bool) : Build Value :=
  match value with
  | .nodeRef id => do
    let n ← Builder.getNode (.str id)
    if mark then
      Builder.markResult (.node n)
      return .node (← Builder.getNode (.str id))
    else return .node n
  | other => if mark then throw (.formula (.nonNodeResult other)) else pure other

def compileExpr (ctx : Context) (e : Expr) (mark : Bool) : Build Value := do
  let value ← lower ctx e
  finish value mark

inductive Source where
  | expr (e : Expr)
  | datum (data : Json)
  /-- Anything else, of a kind and in words. -/
  | foreign (kind text : String)

/-- The expression of a source. An object is read as a tree; anything else is no expression. -/
def Source.parse : Source → Except Fault Source
  | .datum (.obj members) => (Expr.ofTree (.obj members)).map .expr
  | other => .ok other

def Source.text : Source → String
  | .expr e => e.literal
  | .datum data => data.text
  | .foreign _ text => text

def Source.hasText : Source → Bool
  | .expr e => e.hasText
  | .datum data => data.hasText
  | .foreign .. => true

/-- What a source is read as. It is told in words before it is compiled, so it has to have a text. -/
def Source.accept (source : Source) : Except Fault Source := do
  let parsed ← source.parse
  if parsed.hasText then return parsed else .error (.misuse .hugeInteger)

def Source.compile (ctx : Context) (mark : Bool) : Source → Build Value
  | .expr e => compileExpr ctx e mark
  | .datum data => throw (.formula (.unsupportedConstruct data.kind))
  | .foreign kind _ => throw (.formula (.unsupportedConstruct kind))

structure Options where
  /-- Whether the node of the formula becomes the result. -/
  mark : Bool
  /-- The parameters of a scope around the formula. -/
  scope : Option Scope
  labels : NumericLabels

/-- Compiles a formula, in a scope of its own if the options have parameters for one. -/
def compile (outer : List Scope) (source : Source) (options : Options) : Build Value := fun b =>
  match source.accept with
  | .error fault => .error fault b
  | .ok parsed =>
    let b := b.record (.compiling parsed.text)
    let action := parsed.compile ⟨outer, options.labels⟩ options.mark
    match options.scope with
    | none => action b
    | some scope => Builder.withScope scope action b

inductive Outcome where
  | value (value : Value)
  | failure (cause : FormulaFault)

def tryCompile (outer : List Scope) (source : Source) (options : Options) : Build Outcome := fun b =>
  match compile outer source options b with
  | .ok value b => .ok (.value value) b
  | .error (.formula cause) b => .ok (.failure cause) (b.record (.failed cause.message))
  | .error fault b => .error fault b

end FormulaGraph.Formula
