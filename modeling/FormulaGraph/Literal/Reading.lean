import FormulaGraph.Literal.Token
import FormulaGraph.Literal.Tree
import Std.Data.HashMap

/-!
# Reading tokens

A `Reading` takes tokens from a source at a position and gives a result, or finds that what it looks
for is not there, or stops for good. Of several readings the first that finds something counts. What
a rule has found at a position is kept, so that no rule is applied twice at one.
-/

namespace FormulaGraph.Literal

inductive Rule where
  | expression
  | starExpression
  | disjunction
  | conjunction
  | inversion
  | bitOr
  | bitXor
  | bitAnd
  | shift
  | sum
  | term
  | factor
  | awaited
  | primary
  | strings
  | arguments
  | starTarget
  | plainTarget
  | targetPrimary
  | namedBlame
deriving DecidableEq, Hashable

inductive Halt where
  /-- A token is asked for, and there is no further one. -/
  | missing
  /-- A fault has been found; how many tokens had been asked for is known. -/
  | fault (cause : Fault) (reached : Nat)

/-- What a reading works with: the tokens, and whether it looks for the causes of faults. -/
structure Context where
  source : Source
  explains : Bool

/-- The state of a reading: the position in the source, how many tokens have been asked for, and
what rules have found, with the position behind it. -/
structure Progress where
  position : Nat
  reached : Nat
  known : Std.HashMap (Rule × Nat) (Option (Tree × Nat))

def Reading (α : Type) : Type := Context → Progress → Except Halt (Option α × Progress)

namespace Reading

variable {α β : Type}

def found (a : α) : Reading α := fun _ s => .ok (some a, s)

def absent : Reading α := fun _ s => .ok (none, s)

def next (r : Reading α) (f : α → Reading β) : Reading β := fun c s =>
  match r c s with
  | .ok (some a, s) => f a c s
  | .ok (none, s) => .ok (none, s)
  | .error halt => .error halt

instance : Monad Reading where
  pure := found
  bind := next

def refuse (cause : Fault) : Reading α := fun _ s => .error (.fault cause s.reached)

/-- Tries a reading; if it finds nothing, the position is as before. -/
def attempt (r : Reading α) : Reading (Option α) := fun c s =>
  match r c s with
  | .ok (some a, after) => .ok (some (some a), after)
  | .ok (none, after) => .ok (some none, { after with position := s.position })
  | .error halt => .error halt

/-- Reads with one step if another finds something, and goes on from there, or else with a third. -/
def branch (r : Reading α) (yes : α → Reading β) (no : Reading β) : Reading β := do
  match ← attempt r with
  | some a => yes a
  | none => no

def either (r other : Reading α) : Reading α := branch r found other

def first : List (Reading α) → Reading α
  | [] => absent
  | r :: rest => either r (first rest)

/-- Looks whether a reading finds something, and stays where it is. -/
def ahead (r : Reading α) : Reading Unit := fun c s =>
  match r c s with
  | .ok (a, after) => .ok (a.map fun _ => (), { after with position := s.position })
  | .error halt => .error halt

def notAhead (r : Reading α) : Reading Unit := fun c s =>
  match r c s with
  | .ok (a, after) =>
    .ok (if a.isSome then none else some (), { after with position := s.position })
  | .error halt => .error halt

/-- Reads as often as something is found, but not more often than the fuel says. -/
def repeated (r : Reading α) : Nat → Reading (List α)
  | 0 => found []
  | fuel + 1 =>
    branch r (fun a => do
      let rest ← repeated r fuel
      return a :: rest) (found [])

/-- Reads as often as something is found. What is found must hold a token. -/
def many (r : Reading α) : Reading (List α) := fun c s =>
  repeated r (c.source.tokens.size + 1) c s

def several (r : Reading α) : Reading (List α) := do
  let a ← r
  let rest ← many r
  return a :: rest

def accept (test : Token → Bool) : Reading Token := fun c s =>
  match c.source.tokens[s.position]? with
  | none => .error .missing
  | some token =>
    let s := { s with reached := max s.reached (s.position + 1) }
    if test token then .ok (some token, { s with position := s.position + 1 })
    else .ok (none, s)

def sign (text : String) : Reading Unit := do
  let _ ← accept (·.text == text)

def last : Reading Token := fun c s =>
  match c.source.tokens[s.position - 1]? with
  | some token => .ok (some token, s)
  | none => .ok (none, s)

def listed (r : Reading α) : Reading (List α) := do
  let a ← r
  let rest ← many (do
    sign ","
    r)
  return a :: rest

def explaining (explains : Bool) (r : Reading α) : Reading α := fun c s =>
  r { c with explains } s

/-- A reading that is done only while the causes of faults are looked for. -/
def ifExplaining (r : Reading α) : Reading α := fun c s =>
  if c.explains then r c s else .ok (none, s)

/-- Looks for the first of some faulty forms. If one is there, it is refused, unless it turns out to
be right; then, and if there is none, nothing is found. -/
def blame (forms : List (Reading (Option GrammarFault))) : Reading α := do
  match ← first forms with
  | some cause => refuse (.parse (.grammar cause))
  | none => absent

/-- The result of a rule at a position, which is kept. -/
def keep (rule : Rule) (r : Reading Tree) : Reading Tree := fun c s =>
  let key := (rule, s.position)
  match s.known[key]? with
  | some (some (tree, after)) => .ok (some tree, { s with position := after })
  | some none => .ok (none, s)
  | none =>
    match r c s with
    | .ok (result, s) =>
      .ok (result, { s with known := s.known.insert key (result.map (·, s.position)) })
    | .error halt => .error halt

end Reading
end FormulaGraph.Literal
