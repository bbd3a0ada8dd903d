import FormulaGraph.Literal.Parse

/-!
# The value of a literal

A literal is made of numbers, texts, truth values, tuples, sets and dictionaries; a number may have
a sign, and an imaginary one may be added to another. `Tree.evaluate` gives what matters of the
value and refuses an expression that is none of this. Members of sets and keys of dictionaries must not be
sets or dictionaries themselves, also not within tuples.
-/

namespace FormulaGraph.Literal

/-- What matters of a value. -/
inductive Value where
  | integer (n : Int)
  | real
  | imaginary
  /-- Another value; if it cannot be a member or a key, the kind that is to blame is known. -/
  | other (unhashable : Option String)

namespace Value

/-- The kind of value that is to blame if a value cannot be a member or a key. -/
def unhashable? : Value → Option String
  | .other kind => kind
  | _ => none

def requireHashable (v : Value) : Except ValueFault Unit :=
  match v.unhashable? with
  | some kind => .error (.unhashable kind)
  | none => .ok ()

def tuple (members : List Value) : Value := .other (members.findSome? unhashable?)

/-- The first integer, regardless of its sign, that is nearer to no finite floating-point number. -/
def integerLimit : Nat := Nat.pow 2 1024 - Nat.pow 2 970

def addImaginary : Value → Value → Except ValueFault Value
  | .integer n, .imaginary =>
    if integerLimit ≤ n.natAbs then .error .overflow else .ok .imaginary
  | .real, .imaginary => .ok .imaginary
  | _, _ => .error .computed

end Value

namespace Tree

def number? : Tree → Except ValueFault Value
  | .number (.integer n) => .ok (.integer n)
  | .number .real => .ok .real
  | .number .imaginary => .ok .imaginary
  | _ => .error .computed

def signedNumber? : Tree → Except ValueFault Value
  | .unary .other _ => .error .computed
  | .unary .minus operand => do
    match ← operand.number? with
    | .integer n => return .integer (-n)
    | value => return value
  | .unary .plus operand => operand.number?
  | tree => tree.number?

mutual

def evaluate : Tree → Except ValueFault Value
  | .text | .truth _ | .nothing | .dots => .ok (.other none)
  | .tuple members => (evaluateAll members).map Value.tuple
  | .set members => do
    evaluateMembers members
    return .other (some "set")
  | .dictionary entries => do
    evaluateEntries entries
    return .other (some "dict")
  | .call (.name "set") [] [] => .ok (.other (some "set"))
  | .binary .other _ _ => .error .computed
  | .binary _ left right => do
    let left ← left.signedNumber?
    left.addImaginary (← right.number?)
  | tree => tree.signedNumber?

def evaluateAll : List Tree → Except ValueFault (List Value)
  | [] => .ok []
  | tree :: rest => do
    let value ← tree.evaluate
    return value :: (← evaluateAll rest)

def evaluateMembers : List Tree → Except ValueFault Unit
  | [] => .ok ()
  | tree :: rest => do
    (← tree.evaluate).requireHashable
    evaluateMembers rest

def evaluateEntries : List (Option Tree × Tree) → Except ValueFault Unit
  | [] => .ok ()
  | (none, _) :: _ => .error .unpacking
  | (some key, value) :: rest => do
    let key ← key.evaluate
    let _ ← value.evaluate
    key.requireHashable
    evaluateEntries rest

end

end Tree

def check (text : String) : Except Fault Unit := do
  let tree ← parse text.toList
  let _ ← tree.evaluate.mapError Fault.value

end FormulaGraph.Literal
