import FormulaGraph.Proofs.Document.RoundTrip
import FormulaGraph.Proofs.Document.Written
import FormulaGraph.Proofs.Graph.Leaves

/-!
# What coercion comes to

A value is coerced exactly if all its leaves are of kinds that nodes can have. The result is an argument, which
is coerced to itself and has the references of the value; it has a written form as soon as the graphs of its
callbacks have documents.
-/

namespace FormulaGraph.Value

theorem coerce_eq_error {v : Value} {cause : Misuse} :
    v.coerce = .error cause ↔ ∃ leaf, refusedLeaf? v.leaves = some leaf ∧ cause = .unsupportedArgument leaf := by
  rw [coerce_eq]
  cases refusedLeaf? v.leaves with
  | some leaf => simp [unlessRefused, eq_comm]
  | none => simp [unlessRefused]

theorem exists_refusedLeaf_iff {leaves : List Value} :
    (∃ leaf, refusedLeaf? leaves = some leaf) ↔ ∃ leaf ∈ leaves, leaf.isSupported = false := by
  rw [← Option.isSome_iff_exists, refusedLeaf?, List.find?_isSome]
  simp only [Bool.not_eq_true']

theorem nodeRefs_of_coerce {v a : Value} (h : v.coerce = .ok a) : a.nodeRefs = v.leaves.filterMap nodeId? := by
  rw [coerce_eq] at h
  rw [← unlessRefused_ok h, nodeRefs_argument]

/-- An argument has a written form exactly if the graphs of its callbacks have documents. -/
theorem writable_iff {a : Value} (argument : a.isArgument = true) :
    a.Writable ↔ ∀ g ∈ a.callbacks, ∃ document, g.write = .ok document := by
  induction a using Value.induct with
  | scalar | nodeRef | paramRef | element => exact ⟨fun _ => by simp [callbacks], fun _ => ⟨_, rfl⟩⟩
  | tuple items ih =>
    rw [callbacks, callbacksAll_eq, List.forall_mem_flatMap]
    refine exists_map_ok.trans (writeAll_itemwise.exists_ok_iff.trans ?_)
    exact forall₂_congr fun item member => ih item member (areArguments_iff.mp argument item member)
  | callback g =>
    rw [callbacks, List.forall_mem_singleton]
    exact exists_map_ok
  | list | obj | param | node | graph | expr => cases argument

/-- What a value was coerced to, with nodes in the graphs of its callbacks that hold data and such arguments. -/
inductive Coerced : Value → Prop where
  | intro {v a : Value} (coerced : v.coerce = .ok a)
      (data : ∀ g ∈ a.callbacks, ∀ entry ∈ g.nodes, entry.2.HoldsData)
      (inner : ∀ g ∈ a.callbacks, ∀ value ∈ g.values, Coerced value) : Coerced a

theorem Coerced.writable {a : Value} (coerced : a.Coerced) : a.Writable := by
  induction coerced with
  | intro coerced data _ ih =>
    refine (writable_iff (isArgument_of_coerce coerced)).mpr fun g inside => ?_
    exact (Graph.exists_write_iff (data g inside)).mpr (ih g inside)

/-- Coercion fails exactly if a part that is no sequence is of a kind that no node can have, and refuses the
first such part. What it comes to otherwise is an argument, which it leaves as it is; this has a written form if
its callbacks have such arguments, and refers to the nodes that the value has or refers to outside of the graphs
of callbacks, in their order and as often. -/
theorem coerce_projects (v : Value) :
    ((∃ cause, v.coerce = .error cause) ↔ ∃ leaf ∈ v.leaves, leaf.isSupported = false) ∧
    (∀ cause, v.coerce = .error cause ↔
      ∃ leaf, refusedLeaf? v.leaves = some leaf ∧ cause = .unsupportedArgument leaf) ∧
    ∀ a, v.coerce = .ok a →
      a.isArgument = true ∧ a.coerce = .ok a ∧
      ((∀ g ∈ a.callbacks, (∀ entry ∈ g.nodes, entry.2.HoldsData) ∧ ∀ value ∈ g.values, value.Coerced) →
        a.Writable) ∧
      a.nodeRefs = v.leaves.filterMap nodeId? := by
  refine ⟨?_, fun cause => coerce_eq_error, fun a h => ?_⟩
  · rw [← exists_refusedLeaf_iff]
    simp only [coerce_eq_error]
    constructor
    · rintro ⟨_, leaf, found, rfl⟩
      exact ⟨leaf, found⟩
    · rintro ⟨leaf, found⟩
      exact ⟨_, leaf, found, rfl⟩
  · have argument := isArgument_of_coerce h
    refine ⟨argument, coerce_of_isArgument argument, fun nested => ?_, nodeRefs_of_coerce h⟩
    exact (Coerced.intro h (fun g inside => (nested g inside).1) fun g inside => (nested g inside).2).writable

def mixedValues : Value :=
  .list [.node ⟨"a", .str "load", [("id", .nodeRef "z")], .null, false⟩,
    .tuple [.param ⟨"x", ""⟩, .nodeRef "b", .list []],
    .graph ⟨[("add1", ⟨"add1", .str "add", [("x", .nodeRef "c")], .null, true⟩)], some "add1", []⟩,
    .node ⟨"a", .str "load", [], .null, false⟩, .str "text"]

theorem coerced_nodeRef (id : String) : (nodeRef id).Coerced := by
  refine .intro (v := .nodeRef id) rfl ?_ ?_ <;> simp [callbacks]

theorem coerce_mixedValues :
    (∃ a, mixedValues.coerce = .ok a ∧ a.coerce = .ok a ∧ a.Writable ∧ a.nodeRefs = ["a", "b", "a"]) ∧
    ∃ cause, (tuple [mixedValues, .obj []]).coerce = .error cause := by
  constructor
  · obtain ⟨_, again, written, refs⟩ := (coerce_projects mixedValues).2.2 _ rfl
    refine ⟨_, rfl, again, written ?_, refs⟩
    intro g inside
    obtain rfl := List.mem_singleton.mp inside
    constructor
    · simp only [List.forall_mem_singleton]
      exact Node.holdsData_of_texts ..
    · intro value member
      obtain rfl : value = .nodeRef "c" := List.mem_singleton.mp member
      exact coerced_nodeRef "c"
  · refine (coerce_projects _).1.mpr ⟨.obj [], ?_, rfl⟩
    simp [leaves, leavesAll]

end FormulaGraph.Value
