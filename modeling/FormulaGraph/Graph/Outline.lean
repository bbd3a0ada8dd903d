import FormulaGraph.Document.Writer
import FormulaGraph.Graph.Basic

/-!
# Outlines of graphs

The outline of a graph is the tree of what its result needs. The first time that a node occurs its
arguments stand below it, and after that only a mark, so every graph has an outline, also one with
cycles. An argument that refers to a node of the graph has the node below it; any other argument is
shown in a line.
-/

namespace FormulaGraph

inductive ShownArgument where
  /-- A reference to a node that is not in the graph. -/
  | node (id : String)
  /-- A callback, by the number of its nodes. -/
  | callback (size : Nat)
  /-- Any other argument, in its written form. -/
  | written (document : Json)

inductive Outline where
  /-- A node with its arguments. -/
  | node (id operation : String) (arguments : List Outline)
  /-- A node that has been shown before. -/
  | again (id operation : String)
  /-- An argument with the node that it refers to. -/
  | link (name : String) (target : Outline)
  /-- An argument by itself. -/
  | leaf (name : String) (argument : ShownArgument)

namespace Outline

/-- How an argument is shown by itself. A written form without a text cannot be shown. -/
def showArgument : Value → Except Misuse ShownArgument
  | .nodeRef id => .ok (.node id)
  | .callback g => .ok (.callback g.size)
  | other => do
    let document ← other.write
    if document.hasText then return .written document else throw .hugeInteger

/-- The node of the graph that an argument refers to. -/
def target? (g : Graph) : Value → Option String
  | .nodeRef id => if g.has id then some id else none
  | _ => none

/-- The name of an operation, which has to be a text to be shown. -/
def operationName : Value → Except Misuse String
  | .scalar (.str s) => .ok s
  | other => .error (.notText other.kind)

/-- The outline below a key, and the ids that have been shown then. Each call within another one has
one more id shown, so the number of nodes is a bound for their depth. -/
def expand (g : Graph) : Nat → List String → String → Except Misuse (Outline × List String)
  | 0, seen, key => .ok (.again key "", seen)
  | fuel + 1, seen, key => do
    let n ← g.node key
    let operation ← operationName n.operation
    if n.id ∈ seen then return (.again n.id operation, seen)
    else
      let (shown, seen) ← n.arguments.foldlM (fun (shown, seen) (name, value) => do
          match target? g value with
          | some id =>
            let (part, seen) ← expand g fuel seen id
            return (shown ++ [.link name part], seen)
          | none => return (shown ++ [.leaf name (← showArgument value)], seen))
        (([] : List Outline), n.id :: seen)
      return (.node n.id operation shown, seen)

end Outline

def Graph.outline (g : Graph) : Except Misuse (Option Outline) :=
  match g.resultId with
  | none => .ok none
  | some key => (Outline.expand g (g.size + 1) [] key).map fun (part, _) => some part

end FormulaGraph
