import FormulaGraph.Proofs.Builder.WellFormed
import Mathlib.Logic.Function.Basic

/-!
# What the nodes of a graph compute

An `Interpretation` says what operations do and what stands for literals and parameters, in any domain.
The value of a node is its operation applied to the values of its arguments by name: `Solves` says
so of all nodes at once. Where references lead backwards there is exactly one solution, `valuation`,
which goes through the nodes in the order of their creation.
-/

namespace FormulaGraph

variable {D : Type}

/-- What operations, parameters and literals mean, in a domain of the reader's choice. -/
structure Interpretation (D : Type) where
  /-- An operation gives a value for its arguments by name. -/
  operation : String → NameMap D → D
  literal : Scalar → D
  parameter : String → D
  element : String → Scalar → D
  tuple : List D → D
  /-- What is not computed from parts: graphs that an operation runs itself, and nodes that are not
  there. -/
  whole : Value → D

namespace Interpretation

mutual

/-- The value of an argument, where nodes have the values of `env`. -/
def value (I : Interpretation D) (env : String → D) : Value → D
  | .scalar s => I.literal s
  | .nodeRef id => env id
  | .paramRef name => I.parameter name
  | .element parameter selector => I.element parameter selector
  | .tuple items => I.tuple (values I env items)
  | other => I.whole other

def values (I : Interpretation D) (env : String → D) : List Value → List D
  | [] => []
  | item :: rest => value I env item :: values I env rest

end

def node (I : Interpretation D) (env : String → D) (n : Node) : D :=
  I.operation n.operation.text (NameMap.mapValues (I.value env) n.arguments)

/-- Every node has the value that its arguments give it. -/
def Solves (I : Interpretation D) (env : String → D) (nodes : NameMap Node) : Prop :=
  ∀ entry ∈ nodes, env entry.1 = I.node env entry.2

/-- The values of the nodes, computed in the order of their creation. -/
def valuation (I : Interpretation D) (nodes : NameMap Node) : String → D :=
  nodes.foldl (fun env entry => Function.update env entry.1 (I.node env entry.2))
    fun id => I.whole (.nodeRef id)

variable {I : Interpretation D} {env env' : String → D}

theorem values_eq (I : Interpretation D) (env : String → D) (items : List Value) :
    I.values env items = items.map (I.value env) := by
  induction items with
  | nil => rfl
  | cons item rest ih => rw [values, ih, List.map_cons]

theorem node_eq {n : Node} {name : String} (operation : n.operation = .str name) :
    I.node env n = I.operation name (NameMap.mapValues (I.value env) n.arguments) := by
  rw [node, operation]
  rfl

theorem value_congr {v : Value} (same : ∀ id ∈ v.nodeRefs, env id = env' id) :
    I.value env v = I.value env' v := by
  induction v using Value.induct with
  | nodeRef id => exact same id (by simp [Value.nodeRefs])
  | tuple items ih =>
    rw [Value.nodeRefs, Value.nodeRefsAll_eq] at same
    simp only [value, values_eq]
    congr 1
    refine List.map_congr_left fun item member => ih item member fun id inside => ?_
    exact same id (List.mem_flatMap.mpr ⟨item, member, inside⟩)
  | scalar | paramRef | element | list | obj | param | node | graph | callback | expr => rfl

theorem node_congr {n : Node} (same : ∀ id ∈ n.nodeRefs, env id = env' id) :
    I.node env n = I.node env' n := by
  simp only [node, NameMap.mapValues]
  congr 1
  refine List.map_congr_left fun argument member => ?_
  congr 1
  refine value_congr fun id inside => same id ?_
  exact List.mem_flatMap.mpr ⟨argument, member, inside⟩

theorem Solves.left {nodes added : NameMap Node} (solved : I.Solves env (nodes ++ added)) :
    I.Solves env nodes :=
  fun entry member => solved entry (List.mem_append_left _ member)

theorem valuation_append_singleton (nodes : NameMap Node) (id : String) (n : Node) :
    I.valuation (nodes ++ [(id, n)]) =
      Function.update (I.valuation nodes) id (I.node (I.valuation nodes) n) := by
  simp only [valuation, List.foldl_append, List.foldl_cons, List.foldl_nil]

theorem refs_of_backward {nodes : NameMap Node} {id : String} {n : Node}
    (backward : Backward (nodes ++ [(id, n)])) : ∀ ref ∈ n.nodeRefs, ref ∈ NameMap.keys nodes :=
  backward nodes id n [] rfl

theorem refs_mem_of_backward {nodes : NameMap Node} (backward : Backward nodes) {entry : String × Node}
    (member : entry ∈ nodes) {ref : String} (inside : ref ∈ entry.2.nodeRefs) :
    ref ∈ NameMap.keys nodes := by
  obtain ⟨before, after, rfl⟩ := List.append_of_mem member
  have earlier := backward before entry.1 entry.2 after rfl ref inside
  rw [NameMap.keys_append]
  exact List.mem_append_left _ earlier

theorem valuation_solves {nodes : NameMap Node} (distinct : (NameMap.keys nodes).Nodup)
    (backward : Backward nodes) : I.Solves (I.valuation nodes) nodes := by
  induction nodes using List.reverseRecOn with
  | nil => simp [Solves]
  | append_singleton nodes last ih =>
    obtain ⟨id, n⟩ := last
    rw [NameMap.keys_append, List.nodup_append] at distinct
    obtain ⟨early, _, apart⟩ := distinct
    -- the new value changes no value that an older node, or the new one, reads
    have kept : ∀ ref ∈ NameMap.keys nodes,
        I.valuation nodes ref = I.valuation (nodes ++ [(id, n)]) ref := by
      intro ref known
      have different : ref ≠ id := apart ref known id (by simp [NameMap.keys])
      rw [valuation_append_singleton, Function.update_of_ne different]
    intro entry member
    rcases List.mem_append.mp member with old | new
    · have solved := ih early backward.left entry old
      rw [← kept entry.1 (NameMap.mem_keys old), solved]
      exact node_congr fun ref inside => kept ref (refs_mem_of_backward backward.left old inside)
    · obtain rfl := List.mem_singleton.mp new
      rw [← node_congr fun ref inside => kept ref (refs_of_backward backward ref inside)]
      rw [valuation_append_singleton, Function.update_self]

theorem eq_valuation_of_solves {nodes : NameMap Node} (backward : Backward nodes)
    (solved : I.Solves env nodes) {id : String} (present : id ∈ NameMap.keys nodes) :
    env id = I.valuation nodes id := by
  induction nodes using List.reverseRecOn generalizing id with
  | nil => simp [NameMap.keys] at present
  | append_singleton nodes last ih =>
    obtain ⟨key, n⟩ := last
    have before {ref : String} (known : ref ∈ NameMap.keys nodes) : env ref = I.valuation nodes ref :=
      ih backward.left solved.left known
    rw [valuation_append_singleton]
    by_cases same : id = key
    · subst same
      rw [Function.update_self, solved (id, n) (by simp)]
      exact node_congr fun ref inside => before (refs_of_backward backward ref inside)
    · have known : id ∈ NameMap.keys nodes := by
        rw [NameMap.keys_append, List.mem_append] at present
        rcases present with old | new
        · exact old
        · exact absurd (List.mem_singleton.mp new) same
      rw [Function.update_of_ne same, before known]

end Interpretation
end FormulaGraph
