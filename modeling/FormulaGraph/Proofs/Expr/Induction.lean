import FormulaGraph.Expr.Basic

/-!
# Induction on expressions

`Expr.induct` has one case for each kind of expression; the case of a call has all arguments at
hand.
-/

namespace FormulaGraph

/-- What holds of an expression as soon as it holds of its parts holds of every expression. -/
theorem Expr.induct {P : Expr → Prop} (number : ∀ n, P (.number n))
    (identifier : ∀ name, P (.identifier name)) (group : ∀ inner, P inner → P (.group inner))
    (call : ∀ function args, (∀ arg ∈ args, P arg) → P (.call function args))
    (binary : ∀ operator left right, P left → P right → P (.binary operator left right))
    (unary : ∀ operator operand, P operand → P (.unary operator operand)) (e : Expr) : P e := by
  have again (part : Expr) (_ : sizeOf part < sizeOf e) : P part :=
    Expr.induct number identifier group call binary unary part
  match e with
  | .number n => exact number n
  | .identifier name => exact identifier name
  | .group inner => exact group inner (again inner (by simp))
  | .call function args =>
    refine call function args fun arg member => again arg ?_
    have small := List.sizeOf_lt_of_mem member
    simp only [Expr.call.sizeOf_spec]
    omega
  | .binary operator left right =>
    refine binary operator left right (again left ?_) (again right ?_)
    all_goals simp only [Expr.binary.sizeOf_spec]; omega
  | .unary operator operand =>
    refine unary operator operand (again operand ?_)
    simp only [Expr.unary.sizeOf_spec]
    omega
termination_by sizeOf e

end FormulaGraph
