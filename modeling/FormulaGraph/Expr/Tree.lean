import FormulaGraph.Fault

/-!
# Expression trees as data

A tree is written as an object with one member, whose name is the tag of the node and whose value is
its body. `Expr.ofTree` reads a tree: a number may be a token, an identifier is any datum in words,
and the other bodies hold trees again. A tree that is malformed is shown in its fault; one that cannot
be shown, because an integer in it is too long, is itself misuse. `ofMember_eq` says that a member is
looked up by its name.
-/

namespace FormulaGraph

namespace Json

def member (datum : Json) (name : String) : Except Misuse Json :=
  match datum with
  | .obj members =>
    match NameMap.get? members name with
    | some value => .ok value
    | none => .error (.missingMember name)
  | .arr _ => .error .arrayByName
  | .scalar (.str _) => .error .textByName
  | .scalar s => .error (.noParts s.kind)

end Json

/-- The number that a datum stands for: itself, or the token that it is in words. -/
def Number.ofJson (datum : Json) : Except Misuse Number :=
  match datum with
  | .scalar (.number n) => .ok n
  | other => do
    let token := Text.trim (← other.toText)
    match Number.read? token with
    | some n => .ok n
    | none => .error (.badNumber token)

namespace Expr

def liftMisuse {α : Type} : Except Misuse α → Except Fault α
  | .ok a => .ok a
  | .error cause => .error (.misuse cause)

def malformed (datum : Json) (reason : TreeFault) : Fault :=
  if datum.hasText then .formula (.malformedTree datum reason) else .misuse .hugeInteger

/-- A body's misuse becomes the fault of the tree node that it belongs to. -/
def blame (datum : Json) (tag : String) : Except Fault Expr → Except Fault Expr
  | .error (.misuse cause) => .error (malformed datum (.body tag cause))
  | other => other

def notSingle (datum : Json) : Fault := malformed datum .notSingle

mutual

def ofTree : Json → Except Fault Expr
  | .obj [(tag, body)] =>
    blame (.obj [(tag, body)]) tag <|
      if tag = "Number" then (liftMisuse (Number.ofJson body)).map .number
      else if tag = "Identifier" then (liftMisuse body.toText).map .identifier
      else if tag = "Expression" then (ofTree body).map .group
      else if tag = "FunctionCall" then do
        let function ← liftMisuse (body.member "name")
        let args ← ofArgs body
        return .call function args
      else if tag = "Binary" then do
        let operator ← liftMisuse (body.member "operator")
        let left ← ofPart "left" body
        let right ← ofPart "right" body
        return .binary operator left right
      else if tag = "Unary" then do
        let operator ← liftMisuse (body.member "operator")
        let operand ← ofPart "expression" body
        return .unary operator operand
      else .error (.formula (.unsupportedConstruct tag))
  | other => .error (notSingle other)

def ofPart (name : String) : Json → Except Fault Expr
  | .obj members => ofMember name members
  | other => (liftMisuse (other.member name)).bind fun _ => .error (notSingle other)

def ofMember (name : String) : List (String × Json) → Except Fault Expr
  | [] => .error (.misuse (.missingMember name))
  | (key, value) :: rest => if key = name then ofTree value else ofMember name rest

/-- The arguments in the body of a call; without a member for them there are none. -/
def ofArgs : Json → Except Fault (List Expr)
  | .obj members => ofArgsMember members
  | other => .error (.misuse (.lacks other.kind "get"))

def ofArgsMember : List (String × Json) → Except Fault (List Expr)
  | [] => .ok []
  | (key, value) :: rest => if key = "args" then ofSequence value else ofArgsMember rest

/-- The trees of a sequence. A text is the sequence of its characters and an object that of its
names; as neither is a tree, only the empty ones are sequences of trees. -/
def ofSequence : Json → Except Fault (List Expr)
  | .arr items => ofItems items
  | .scalar (.str s) =>
    match s.toList with
    | [] => .ok []
    | c :: _ => .error (notSingle (.str (String.singleton c)))
  | .obj [] => .ok []
  | .obj ((name, _) :: _) => .error (notSingle (.str name))
  | .scalar s => .error (.misuse (.notSequence s.kind))

def ofItems : List Json → Except Fault (List Expr)
  | [] => .ok []
  | item :: rest => do
    let first ← ofTree item
    let others ← ofItems rest
    return first :: others

end

theorem ofMember_eq (name : String) (members : List (String × Json)) :
    ofMember name members =
      match NameMap.get? members name with
      | some value => ofTree value
      | none => .error (.misuse (.missingMember name)) := by
  induction members with
  | nil => rfl
  | cons entry rest ih =>
    obtain ⟨key, value⟩ := entry
    by_cases same : key = name
    · simp [ofMember, NameMap.get?, same]
    · simp [ofMember, NameMap.get?, same, ih]

theorem ofArgsMember_eq (members : List (String × Json)) :
    ofArgsMember members =
      match NameMap.get? members "args" with
      | some value => ofSequence value
      | none => .ok [] := by
  induction members with
  | nil => rfl
  | cons entry rest ih =>
    obtain ⟨key, value⟩ := entry
    by_cases same : key = "args"
    · simp [ofArgsMember, NameMap.get?, same]
    · simp [ofArgsMember, NameMap.get?, same, ih]

end Expr
end FormulaGraph
