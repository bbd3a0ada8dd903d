import FormulaGraph.Event
import FormulaGraph.Catalog.Basic
import FormulaGraph.Graph.Basic

/-!
# Builders

A builder holds a graph in progress: its nodes, its free parameters, the active callback scopes and
what has been done. A builder of a callback graph has a parent, whose scopes it sees behind its own;
they are handed to the actions that look for parameters as the `outer` scopes.
-/

namespace FormulaGraph

/-- The parameters of a callback, visible while the scope is active. -/
abbrev Scope := List Parameter

structure Builder where
  catalog : Catalog
  /-- The builder whose node receives this graph, by its place in the session. -/
  parent : Option Nat
  /-- Nodes by id, in the order of their creation. -/
  nodes : NameMap Node
  /-- Free parameters, in the order of their declaration. -/
  parameters : List Parameter
  /-- Active scopes, the innermost first. -/
  scopes : List Scope
  /-- For each operation the last number that an id was made with. -/
  counters : NameMap Nat
  resultId : Option String
  /-- What has been done, oldest first. -/
  journal : List Event
deriving Inhabited

/-- An action on a builder. What it has done before it fails stays done. -/
abbrev Build := EStateM Fault Builder

namespace Builder

def empty (catalog : Catalog) (parent : Option Nat) : Builder where
  catalog := catalog
  parent := parent
  nodes := []
  parameters := []
  scopes := []
  counters := []
  resultId := none
  journal := []

def has (b : Builder) (id : String) : Bool := NameMap.has b.nodes id

def node? (b : Builder) (id : String) : Option Node := NameMap.get? b.nodes id

def size (b : Builder) : Nat := b.nodes.length

def depth (b : Builder) : Nat := b.scopes.length

def record (b : Builder) (event : Event) : Builder := { b with journal := b.journal ++ [event] }

def toGraph (b : Builder) : Graph := ⟨b.nodes, b.resultId, b.parameters⟩

/-! ### Scopes -/

/-- The scopes that are visible, the innermost first. -/
def visible (b : Builder) (outer : List Scope) : List Scope := b.scopes ++ outer

/-- The parameters of the innermost visible scope; none if no scope is active. -/
def currentScope (b : Builder) (outer : List Scope) : Scope := ((b.visible outer).head?).getD []

/-- The parameter with a name in the innermost visible scope that has one. -/
def scopeParameter? (b : Builder) (outer : List Scope) (name : String) : Option Parameter :=
  (b.visible outer).findSome? fun scope => scope.find? fun p => p.name = name

def findScopeParameter (b : Builder) (outer : List Scope) (name : Json) : Option Parameter :=
  match name with
  | .scalar (.str s) => b.scopeParameter? outer s
  | _ => none

def pushScope (scope : Scope) : Build Unit := fun b =>
  let entered := { b with scopes := scope :: b.scopes }
  .ok () (entered.record (.entered (scope.map (·.name)) entered.depth))

def popScope : Build Scope := fun b =>
  match b.scopes with
  | [] => .error (.misuse .noScope) b
  | scope :: rest =>
    let left := { b with scopes := rest }
    .ok scope (left.record (.left (scope.map (·.name)) left.depth))

/-- An action inside a scope, which is left whether the action fails or not. -/
def withScope {α : Type} (scope : Scope) (action : Build α) : Build α := fun b =>
  match pushScope scope b with
  | .error fault b => .error fault b
  | .ok _ b =>
    match action b with
    | .ok value b =>
      match popScope b with
      | .ok _ b => .ok value b
      | .error fault b => .error fault b
    | .error fault b =>
      match popScope b with
      | .ok _ b => .error fault b
      | .error second b => .error second b

/-! ### Free parameters -/

def parameter? (b : Builder) (name : String) : Option Parameter :=
  b.parameters.find? fun p => p.name = name

/-- Declares a free parameter, and gives the one that has its name: the first that was declared. -/
def declare (parameter : Parameter) : Build Parameter := fun b =>
  match b.parameter? parameter.name with
  | some existing => .ok existing b
  | none =>
    let declared := { b with parameters := b.parameters ++ [parameter] }
    .ok parameter (declared.record (.declared parameter.name))

end Builder
end FormulaGraph
