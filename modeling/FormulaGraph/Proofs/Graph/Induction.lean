import FormulaGraph.Graph.Value

/-!
# Induction on values

Values hold values in sequences and objects, and in the arguments of the nodes of a graph. The one
principle `Value.induct` goes into all of these.
-/

namespace FormulaGraph

def Node.values (n : Node) : List Value := n.arguments.map Prod.snd

def Graph.values (g : Graph) : List Value := g.nodes.flatMap fun entry => entry.2.values

theorem Node.sizeOf_values_lt {n : Node} {value : Value} (member : value ∈ n.values) :
    sizeOf value < sizeOf n := by
  obtain ⟨⟨name, argument⟩, present, rfl⟩ := List.mem_map.mp member
  have small := List.sizeOf_lt_of_mem present
  cases n with
  | mk id operation arguments description isResult =>
    simp only [Prod.mk.sizeOf_spec, Node.mk.sizeOf_spec] at small ⊢
    omega

theorem Graph.sizeOf_values_lt {g : Graph} {value : Value} (member : value ∈ g.values) :
    sizeOf value < sizeOf g := by
  obtain ⟨⟨id, n⟩, present, inside⟩ := List.mem_flatMap.mp member
  have small := List.sizeOf_lt_of_mem present
  have smaller := Node.sizeOf_values_lt inside
  cases g with
  | mk nodes resultId parameters =>
    simp only [Prod.mk.sizeOf_spec, Graph.mk.sizeOf_spec] at small smaller ⊢
    omega

/-- What holds of a value as soon as it holds of its parts holds of every value. -/
theorem Value.induct {P : Value → Prop} (scalar : ∀ s, P (.scalar s))
    (list : ∀ items, (∀ item ∈ items, P item) → P (.list items))
    (tuple : ∀ items, (∀ item ∈ items, P item) → P (.tuple items))
    (obj : ∀ members, (∀ member ∈ members, P member.2) → P (.obj members))
    (nodeRef : ∀ id, P (.nodeRef id)) (paramRef : ∀ name, P (.paramRef name))
    (element : ∀ parameter selector, P (.element parameter selector))
    (param : ∀ p, P (.param p)) (node : ∀ n, (∀ value ∈ n.values, P value) → P (.node n))
    (graph : ∀ g, (∀ value ∈ g.values, P value) → P (.graph g))
    (callback : ∀ g, (∀ value ∈ g.values, P value) → P (.callback g))
    (expr : ∀ e, P (.expr e)) (v : Value) : P v := by
  have again (value : Value) (_ : sizeOf value < sizeOf v) : P value :=
    Value.induct scalar list tuple obj nodeRef paramRef element param node graph callback expr value
  match v with
  | .scalar s => exact scalar s
  | .list items =>
    refine list items fun item member => again item ?_
    have small := List.sizeOf_lt_of_mem member
    simp only [Value.list.sizeOf_spec]
    omega
  | .tuple items =>
    refine tuple items fun item member => again item ?_
    have small := List.sizeOf_lt_of_mem member
    simp only [Value.tuple.sizeOf_spec]
    omega
  | .obj members =>
    refine obj members fun (name, value) member => again value ?_
    have small := List.sizeOf_lt_of_mem member
    simp only [Value.obj.sizeOf_spec, Prod.mk.sizeOf_spec] at small ⊢
    omega
  | .nodeRef id => exact nodeRef id
  | .paramRef name => exact paramRef name
  | .element parameter selector => exact element parameter selector
  | .param p => exact param p
  | .node n =>
    refine node n fun value member => again value ?_
    have small := Node.sizeOf_values_lt member
    simp only [Value.node.sizeOf_spec]
    omega
  | .graph g =>
    refine graph g fun value member => again value ?_
    have small := Graph.sizeOf_values_lt member
    simp only [Value.graph.sizeOf_spec]
    omega
  | .callback g =>
    refine callback g fun value member => again value ?_
    have small := Graph.sizeOf_values_lt member
    simp only [Value.callback.sizeOf_spec]
    omega
  | .expr e => exact expr e
termination_by sizeOf v

end FormulaGraph
