import FormulaGraph.Formula.Compile
import FormulaGraph.Proofs.Expr.Induction
import FormulaGraph.Proofs.Graph.Valuation

/-!
# The meaning of an expression

`Expr.meaning` evaluates an expression without a graph: a call applies an operation to its arguments
under the names of the formal parameters, an operator applies its operation to its two operands, and
the minus sign negates a number and multiplies all else by minus one.
-/

namespace FormulaGraph

variable {D : Type}

/-- The formal parameters of each operation have names, no two of them the same. -/
def Catalog.NamesFormals (c : Catalog) : Prop :=
  ∀ o ∈ c.definitions, o.parameterNames.Nodup ∧ "" ∉ o.parameterNames

instance (c : Catalog) : Decidable c.NamesFormals :=
  inferInstanceAs (Decidable (∀ o ∈ c.definitions, o.parameterNames.Nodup ∧ "" ∉ o.parameterNames))

/-- What an expression is evaluated in. -/
structure Setting (D : Type) where
  catalog : Catalog
  /-- The visible scopes, the innermost first. -/
  scopes : List Scope
  labels : NumericLabels
  node : String → D

/-- The setting of expressions that are lowered into a builder. -/
def Builder.setting (b : Builder) (ctx : Formula.Context) (node : String → D) : Setting D :=
  ⟨b.catalog, b.scopes ++ ctx.outer, ctx.labels, node⟩

namespace Interpretation

/-- The meaning of a dollar sign and a label: an element of the first parameter of the innermost
scope, or else the parameter of that name. -/
def element? (I : Interpretation D) (σ : Setting D) (name label : String) : Option D :=
  match σ.scopes.head?.getD [] with
  | [] => some (I.parameter name)
  | first :: _ =>
    match Label.selector σ.labels label with
    | .ok selector => some (I.element first.name selector)
    | .error _ => none

def identifier (I : Interpretation D) (σ : Setting D) (name : String) : Option D :=
  if name = "true" then some (I.literal (.bool true))
  else if name = "false" then some (I.literal (.bool false))
  else if name = "null" then some (I.literal .null)
  else
    match name.toList with
    | '#' :: id => some (σ.node (String.ofList id))
    | '$' :: label => I.element? σ name (String.ofList label)
    | _ => some (I.parameter name)

def call (I : Interpretation D) (σ : Setting D) (function : Json) (arguments : List D) : Option D :=
  match function with
  | .scalar (.str name) => do
    let definition ← σ.catalog.get? name
    if definition.arity < arguments.length then none
    else some (I.operation name (definition.parameterNames.zip arguments))
  | _ => none

def operator (I : Interpretation D) (σ : Setting D) (symbol : Json) (left right : D) : Option D :=
  match symbol with
  | .scalar (.str s) => do
    let operation ← Operator.operation? s
    let definition ← σ.catalog.get? operation
    match definition.parameterNames with
    | first :: second :: _ => some (I.operation operation [(first, left), (second, right)])
    | _ => none
  | _ => none

end Interpretation

namespace Expr

/-- The number that an expression is, up to groups and signs. -/
def constant? : Expr → Option Number
  | .number n => some n
  | .group inner => constant? inner
  | .unary operator operand =>
    match operator with
    | .scalar (.str "-") => (constant? operand).map Number.neg
    | _ => constant? operand
  | .identifier _ | .call .. | .binary .. => none

mutual

/-- The meaning of an expression, if it has one. -/
def meaning (I : Interpretation D) (σ : Setting D) : Expr → Option D
  | .number n => some (I.literal (.number n))
  | .group inner => meaning I σ inner
  | .identifier name => I.identifier σ name
  | .call function args => do
    let values ← meanings I σ args
    I.call σ function values
  | .binary operator left right => do
    let a ← meaning I σ left
    let b ← meaning I σ right
    I.operator σ operator a b
  | .unary operator operand =>
    match operator with
    | .scalar (.str "-") =>
      match constant? operand with
      | some n => some (I.literal (.number n.neg))
      | none => do
        let a ← meaning I σ operand
        I.operator σ (.str "*") (I.literal (.number (.int (-1)))) a
    | _ => meaning I σ operand

def meanings (I : Interpretation D) (σ : Setting D) : List Expr → Option (List D)
  | [] => some []
  | arg :: rest => do
    let first ← meaning I σ arg
    let others ← meanings I σ rest
    return first :: others

end

/-- The nodes that an identifier names. -/
def identifierNodeIds (name : String) : List String :=
  match name.toList with
  | '#' :: id => [String.ofList id]
  | _ => []

mutual

def nodeIds : Expr → List String
  | .number _ => []
  | .identifier name => identifierNodeIds name
  | .group inner => nodeIds inner
  | .call _ args => nodeIdsAll args
  | .binary _ left right => nodeIds left ++ nodeIds right
  | .unary _ operand => nodeIds operand

def nodeIdsAll : List Expr → List String
  | [] => []
  | arg :: rest => nodeIds arg ++ nodeIdsAll rest

end

theorem constant?_unary_of_ne {operator : Json} (other : operator ≠ .str "-") (operand : Expr) :
    constant? (.unary operator operand) = constant? operand := by
  rw [constant?]
  exact other

theorem meaning_unary_of_ne {operator : Json} (other : operator ≠ .str "-") (I : Interpretation D)
    (σ : Setting D) (operand : Expr) : meaning I σ (.unary operator operand) = meaning I σ operand := by
  rw [meaning]
  exact other

/-- The meaning of an expression depends only on the nodes that it names. -/
theorem meaning_congr {I : Interpretation D} {σ : Setting D} {node : String → D} {e : Expr}
    (same : ∀ id ∈ e.nodeIds, σ.node id = node id) :
    e.meaning I σ = e.meaning I { σ with node := node } := by
  induction e using Expr.induct with
  | number n => rfl
  | identifier name =>
    simp only [nodeIds, identifierNodeIds] at same
    simp only [meaning, Interpretation.identifier]
    congr 3
    split
    · rename_i id text
      rw [text] at same
      rw [same (String.ofList id) (by simp)]
    · rfl
    · rfl
  | group inner ih =>
    rw [meaning, meaning]
    exact ih same
  | call function args ih =>
    have each : meanings I σ args = meanings I { σ with node := node } args := by
      rw [nodeIds] at same
      clear function
      induction args with
      | nil => rfl
      | cons arg rest later =>
        rw [nodeIdsAll] at same
        rw [meanings, meanings, ih arg List.mem_cons_self fun id inside => same id (by simp [inside]),
          later (fun arg member => ih arg (List.mem_cons_of_mem _ member))
            fun id inside => same id (by simp [inside])]
    rw [meaning, meaning, each]
    rfl
  | binary operator left right ihl ihr =>
    rw [nodeIds] at same
    rw [meaning, meaning, ihl fun id inside => same id (by simp [inside]),
      ihr fun id inside => same id (by simp [inside])]
    rfl
  | unary operator operand ih =>
    have inner := ih same
    by_cases minus : operator = .str "-"
    · subst minus
      rw [meaning, meaning, inner]
      rfl
    · rw [meaning_unary_of_ne minus, meaning_unary_of_ne minus, inner]

end Expr
end FormulaGraph
