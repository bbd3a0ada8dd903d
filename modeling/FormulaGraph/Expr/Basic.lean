import FormulaGraph.Json.Basic

/-!
# Expressions

A formula is a tree of numbers, identifiers, groups, function calls and operators. The names of
functions and operators are whatever datum the formula's reader found; only texts name anything.
-/

namespace FormulaGraph

inductive Expr where
  | number (value : Number)
  | identifier (name : String)
  /-- An expression in parentheses. -/
  | group (inner : Expr)
  | call (function : Json) (args : List Expr)
  | binary (operator : Json) (left right : Expr)
  | unary (operator : Json) (operand : Expr)
deriving Inhabited, BEq

namespace Expr

def kind : Expr → String
  | .number _ => "Number"
  | .identifier _ => "Identifier"
  | .group _ => "Group"
  | .call .. => "FunctionCall"
  | .binary .. => "Binary"
  | .unary .. => "Unary"

mutual

/-- An expression as a literal: its kind, and its parts by name. -/
def literal : Expr → String
  | .number n => "Number(value=" ++ n.text ++ ")"
  | .identifier name => "Identifier(name=" ++ Text.quoted name ++ ")"
  | .group inner => "Group(expression=" ++ inner.literal ++ ")"
  | .call function args =>
    "FunctionCall(name=" ++ function.literal ++ ", args=(" ++ literalArgs args ++
      (if args.length = 1 then ",))" else "))")
  | .binary operator left right =>
    "Binary(operator=" ++ operator.literal ++ ", left=" ++ left.literal ++ ", right=" ++
      right.literal ++ ")"
  | .unary operator operand =>
    "Unary(operator=" ++ operator.literal ++ ", operand=" ++ operand.literal ++ ")"

def literalArgs : List Expr → String
  | [] => ""
  | [arg] => arg.literal
  | arg :: rest => arg.literal ++ ", " ++ literalArgs rest

end

mutual

def hasText : Expr → Bool
  | .number n => n.hasText
  | .identifier _ => true
  | .group inner => inner.hasText
  | .call function args => function.hasText && argsHaveText args
  | .binary operator left right => operator.hasText && left.hasText && right.hasText
  | .unary operator operand => operator.hasText && operand.hasText

def argsHaveText : List Expr → Bool
  | [] => true
  | arg :: rest => arg.hasText && argsHaveText rest

end

end Expr
end FormulaGraph
