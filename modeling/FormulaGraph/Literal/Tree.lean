import FormulaGraph.Literal.Fault

/-!
# Expression trees of a literal

`Tree` is an expression as far as a literal is concerned: the forms that a literal may have are kept
in full, and of the others only what tells them apart. `Tree.label` names the form.
-/

namespace FormulaGraph.Literal

inductive BinaryOp where
  | plus
  | minus
  | other

inductive UnaryOp where
  | plus
  | minus
  | other

/-- A number as it is written: an integer, or the kind of another one. -/
inductive Figure where
  | integer (n : Nat)
  | real
  | imaginary

inductive Tree where
  | name (id : String)
  | number (figure : Figure)
  /-- A text or bytes. -/
  | text
  /-- A text with expressions in it. -/
  | formatted
  | truth (value : Bool)
  | nothing
  | dots
  | tuple (members : List Tree)
  | set (members : List Tree)
  /-- Keys and values; an entry without a key unpacks its value. -/
  | dictionary (entries : List (Option Tree × Tree))
  | starred (operand : Tree)
  /-- A call, with its keyword arguments told apart by whether they unpack a value. -/
  | call (function : Tree) (positional : List Tree) (unpacked : List Bool)
  | member (object : Tree)
  | unary (op : UnaryOp) (operand : Tree)
  | binary (op : BinaryOp) (left right : Tree)
  /-- A chain of truth operators. -/
  | boolean
  /-- A comparison, and whether its first operator asks for membership. -/
  | comparison (left : Tree) (membership : Bool)
  | conditional
  | function
  | generator
  | setBuilder
  | dictionaryBuilder
  | yielded
  | awaited
  | assigned

namespace Tree

def label : Tree → String
  | .name _ => "name"
  | .number _ | .text => "literal"
  | .formatted => "f-string expression"
  | .truth value => if value then "True" else "False"
  | .nothing => "None"
  | .dots => "ellipsis"
  | .tuple _ => "tuple"
  | .set _ => "set display"
  | .dictionary _ => "dict literal"
  | .starred _ => "starred"
  | .call _ _ _ => "function call"
  | .member _ => "attribute"
  | .unary _ _ | .binary _ _ _ | .boolean => "expression"
  | .comparison _ _ => "comparison"
  | .conditional => "conditional expression"
  | .function => "lambda"
  | .generator => "generator expression"
  | .setBuilder => "set comprehension"
  | .dictionaryBuilder => "dict comprehension"
  | .yielded => "yield expression"
  | .awaited => "await expression"
  | .assigned => "named expression"

mutual

/-- The part of a loop's target that cannot be assigned to. What asks for membership is a target
and the values that it takes. -/
def refusedTarget? : Tree → Option Tree
  | .tuple members => refusedTargets? members
  | .starred operand => operand.refusedTarget?
  | .comparison left membership => if membership then left.refusedTarget? else none
  | .name _ | .member _ => none
  | other => some other

def refusedTargets? : List Tree → Option Tree
  | [] => none
  | target :: rest =>
    match target.refusedTarget? with
    | some part => some part
    | none => refusedTargets? rest

end

def name? : Tree → Option String
  | .name id => some id
  | _ => none

end Tree
end FormulaGraph.Literal
