import FormulaGraph.Proofs.Graph.Argument

/-!
# The leaves of values

What a value is coerced to can be said of its leaves, the parts of it that are no sequences, from left to
right: the first leaf of a kind that no node can have is refused, and without one the nodes and node
references among the leaves are the references of the argument.
-/

namespace FormulaGraph.Value

mutual

def leaves : Value → List Value
  | .list items => leavesAll items
  | .tuple items => leavesAll items
  | leaf => [leaf]

def leavesAll : List Value → List Value
  | [] => []
  | item :: rest => leaves item ++ leavesAll rest

end

theorem leavesAll_eq (items : List Value) : leavesAll items = items.flatMap leaves := by
  induction items with
  | nil => rfl
  | cons item rest ih => rw [leavesAll, ih, List.flatMap_cons]

def isSupported : Value → Bool
  | .scalar _ | .nodeRef _ | .paramRef _ | .element .. | .callback _ => true
  | .node _ | .param _ | .graph _ => true
  | _ => false

def nodeId? : Value → Option String
  | .nodeRef id => some id
  | .node n => some n.id
  | _ => none

mutual

/-- A value with its leaves coerced; those that cannot be stay as they are. -/
def argument : Value → Value
  | .node n => .nodeRef n.id
  | .param p => .paramRef p.name
  | .graph g => .callback g
  | .list items => .tuple (argumentAll items)
  | .tuple items => .tuple (argumentAll items)
  | other => other

def argumentAll : List Value → List Value
  | [] => []
  | item :: rest => argument item :: argumentAll rest

end

/-! ### Coercion -/

/-- A result, unless there is a leaf that is refused. -/
def unlessRefused {α : Type} (leaf? : Option Value) (a : α) : Except Misuse α :=
  match leaf? with
  | some leaf => .error (.unsupportedArgument leaf)
  | none => .ok a

theorem unlessRefused_ok {α : Type} {leaf? : Option Value} {a c : α} (h : unlessRefused leaf? a = .ok c) :
    a = c := by
  cases leaf? with
  | some leaf => cases h
  | none => exact Except.ok.inj h

theorem unlessRefused_cons {α β : Type} (first later : Option Value) (f : α → β) (a : α) (rest : List β) :
    (do
      let head ← unlessRefused first a
      let others ← unlessRefused later rest
      return f head :: others) = unlessRefused (first.or later) (f a :: rest) := by
  cases first with
  | some leaf => rfl
  | none => cases later <;> rfl

def refusedLeaf? (leaves : List Value) : Option Value := leaves.find? fun leaf => !leaf.isSupported

theorem refusedLeaf?_append (first later : List Value) :
    refusedLeaf? (first ++ later) = (refusedLeaf? first).or (refusedLeaf? later) :=
  List.find?_append

theorem coerceAll_eq {items : List Value}
    (each : ∀ item ∈ items, item.coerce = unlessRefused (refusedLeaf? item.leaves) item.argument) :
    coerceAll items = unlessRefused (refusedLeaf? (leavesAll items)) (argumentAll items) := by
  induction items with
  | nil => rfl
  | cons item rest ih =>
    rw [coerceAll, each item List.mem_cons_self, ih fun item member => each item (List.mem_cons_of_mem _ member),
      leavesAll, refusedLeaf?_append, argumentAll]
    exact unlessRefused_cons _ _ id _ _

/-- A value is coerced unless one of its leaves is refused, and then the first one is. -/
theorem coerce_eq (v : Value) : v.coerce = unlessRefused (refusedLeaf? v.leaves) v.argument := by
  induction v using Value.induct with
  | list items ih | tuple items ih =>
    rw [coerce, coerceAll_eq ih, leaves, argument]
    cases refusedLeaf? (leavesAll items) <;> rfl
  | scalar | nodeRef | paramRef | element | param | node | graph | callback | obj | expr => rfl

/-! ### References -/

theorem nodeRefsAll_argumentAll {items : List Value}
    (each : ∀ item ∈ items, item.argument.nodeRefs = item.leaves.filterMap nodeId?) :
    nodeRefsAll (argumentAll items) = (leavesAll items).filterMap nodeId? := by
  induction items with
  | nil => rfl
  | cons item rest ih =>
    rw [argumentAll, nodeRefsAll, each item List.mem_cons_self,
      ih fun item member => each item (List.mem_cons_of_mem _ member), leavesAll, List.filterMap_append]

theorem nodeRefs_argument (v : Value) : v.argument.nodeRefs = v.leaves.filterMap nodeId? := by
  induction v using Value.induct with
  | list items ih | tuple items ih => rw [argument, nodeRefs, nodeRefsAll_argumentAll ih, leaves]
  | scalar | nodeRef | paramRef | element | param | node | graph | callback | obj | expr => rfl

end FormulaGraph.Value
