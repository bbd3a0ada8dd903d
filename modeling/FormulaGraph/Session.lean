import FormulaGraph.Formula.Compile

/-!
# Sessions

A session holds builders, each of which may have an earlier one as its parent. An action on a builder
changes that builder alone; the scopes of its ancestors are visible to it, and are not changed.
-/

namespace FormulaGraph

/-- Builders by their places. -/
structure Session where
  builders : List Builder

namespace Session

def start (catalog : Catalog) : Session := ⟨[Builder.empty catalog none]⟩

def builder? (s : Session) (place : Nat) : Option Builder := s.builders[place]?

/-- The scopes that are visible in the builder at a place: its own, and behind them those that are
visible in its parent. -/
def scopesAt (s : Session) (place : Nat) : List Scope :=
  match s.builders[place]? with
  | none => []
  | some b =>
    b.scopes ++
      match b.parent with
      | none => []
      | some parent => if parent < place then scopesAt s parent else []
termination_by place

def outerScopes (s : Session) (place : Nat) : List Scope :=
  match (s.builders[place]?).bind Builder.parent with
  | none => []
  | some parent => if parent < place then s.scopesAt parent else []

/-- Runs an action on the builder at a place, which sees the scopes of its ancestors. -/
def run {α : Type} (s : Session) (place : Nat) (action : List Scope → Build α) :
    Option (Except Fault α × Session) :=
  (s.builders[place]?).map fun b =>
    match action (s.outerScopes place) b with
    | .ok value b => (.ok value, ⟨s.builders.set place b⟩)
    | .error fault b => (.error fault, ⟨s.builders.set place b⟩)

/-- The session with one more builder, a child of the one at a place, for a callback graph with a
scope or without. -/
def addChild (s : Session) (parent : Nat) (scope : Option Scope) : Session :=
  match s.builders[parent]? with
  | none => s
  | some b =>
    let child := Builder.empty b.catalog (some parent)
    let child := match scope with
      | none => child
      | some scope =>
        match Builder.pushScope scope child with
        | .ok _ child => child
        | .error _ child => child
    ⟨s.builders ++ [child]⟩

def lastPlace (s : Session) : Nat := s.builders.length - 1

end Session
end FormulaGraph
