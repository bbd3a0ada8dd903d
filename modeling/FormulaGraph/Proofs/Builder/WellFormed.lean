import FormulaGraph.Proofs.Builder.Creation
import FormulaGraph.Proofs.Builder.Marking

/-!
# Well-formed builders

`WellFormed` is what every builder is and stays: its nodes stand under their own ids, each once;
they invoke operations of the catalog; their references lead backwards, to nodes created before; and
the one flagged node is the result. Each action on a builder keeps it.
-/

namespace FormulaGraph

/-- Every node refers only to nodes that stand before it. -/
def Backward (nodes : NameMap Node) : Prop :=
  ∀ before id n after, nodes = before ++ (id, n) :: after →
    ∀ ref ∈ n.nodeRefs, ref ∈ NameMap.keys before

theorem backward_nil : Backward [] := by
  intro before id n after split
  simp at split

theorem backward_append_singleton {nodes : NameMap Node} {id : String} {n : Node}
    (backward : Backward nodes) (refs : ∀ ref ∈ n.nodeRefs, ref ∈ NameMap.keys nodes) :
    Backward (nodes ++ [(id, n)]) := by
  intro before other m after split ref inside
  rcases List.eq_nil_or_concat after with rfl | ⟨later, last, rfl⟩
  · obtain ⟨rfl, same⟩ := List.append_inj' split rfl
    obtain ⟨rfl, rfl⟩ := Prod.mk.inj (List.singleton_inj.mp same)
    exact refs ref inside
  · have longer : nodes ++ [(id, n)] = (before ++ (other, m) :: later) ++ [last] := by
      rw [split, List.concat_eq_append, List.append_assoc, List.cons_append]
    obtain ⟨earlier, _⟩ := List.append_inj' longer rfl
    exact backward before other m later earlier ref inside

theorem Backward.left {nodes added : NameMap Node} (backward : Backward (nodes ++ added)) :
    Backward nodes := by
  intro before id n after split
  exact backward before id n (after ++ added) (by rw [split, List.append_assoc, List.cons_append])

namespace Builder

theorem backward_flagOnly {nodes : NameMap Node} (id : String) (backward : Backward nodes) :
    Backward (flagOnly id nodes) := by
  intro before other n after split ref inside
  obtain ⟨first, second, whole, left, right⟩ := List.map_eq_append_iff.mp split
  obtain ⟨old, rest, begun, head, _⟩ := List.map_eq_cons_iff.mp right
  obtain ⟨_, rfl⟩ := Prod.mk.inj head
  rw [← left]
  have known := backward first old.1 old.2 rest (by rw [whole, begun]) ref inside
  rwa [← keys_flagOnly id first] at known

/-- What every builder is and stays. -/
structure WellFormed (b : Builder) : Prop where
  keyed : ∀ entry ∈ b.nodes, entry.2.id = entry.1
  distinct : (NameMap.keys b.nodes).Nodup
  offered : ∀ entry ∈ b.nodes, ∃ name, entry.2.operation = .str name ∧ b.catalog.has name = true
  described : ∀ entry ∈ b.nodes, ∃ datum, entry.2.description = .ofJson datum
  arguments : ∀ entry ∈ b.nodes, ∀ argument ∈ entry.2.arguments, argument.2.isArgument = true
  backward : Backward b.nodes
  /-- The flag and the id of the result say the same. -/
  flagged : ∀ entry ∈ b.nodes, entry.2.isResult = true ↔ b.resultId = some entry.1
  marked : ∀ id, b.resultId = some id → b.has id = true

theorem WellFormed.congr {b b' : Builder} (h : WellFormed b) (nodes : b'.nodes = b.nodes)
    (catalog : b'.catalog = b.catalog) (result : b'.resultId = b.resultId) : WellFormed b' := by
  obtain ⟨keyed, distinct, offered, described, arguments, backward, flagged, marked⟩ := h
  simp only [has] at marked
  constructor <;> simp only [has, nodes, catalog, result] <;> assumption

theorem wellFormed_empty (catalog : Catalog) (parent : Option Nat) :
    WellFormed (empty catalog parent) where
  keyed := by simp [empty]
  distinct := by simp [empty, NameMap.keys]
  offered := by simp [empty]
  described := by simp [empty]
  arguments := by simp [empty]
  backward := backward_nil
  flagged := by simp [empty]
  marked := by simp [empty]

theorem WellFormed.record {b : Builder} (h : WellFormed b) (event : Event) :
    WellFormed (b.record event) :=
  h.congr rfl rfl rfl

theorem WellFormed.add {b : Builder} (h : WellFormed b) {n : Node} {name : String} {datum : Json}
    (fresh : b.has n.id = false) (operation : n.operation = .str name)
    (offered : b.catalog.has name = true) (description : n.description = .ofJson datum)
    (arguments : ∀ argument ∈ n.arguments, argument.2.isArgument = true)
    (refs : ∀ ref ∈ n.nodeRefs, b.has ref = true) (plain : n.isResult = false) :
    WellFormed (b.add n) := by
  have absent : n.id ∉ NameMap.keys b.nodes := by
    intro member
    rw [has, NameMap.has_iff.mpr member] at fresh
    cases fresh
  have each {P : String × Node → Prop} (old : ∀ entry ∈ b.nodes, P entry) (new : P (n.id, n)) :
      ∀ entry ∈ (b.add n).nodes, P entry := by
    intro entry member
    rcases List.mem_append.mp member with before | last
    · exact old entry before
    · rw [List.mem_singleton.mp last]
      exact new
  constructor
  case keyed => exact each h.keyed rfl
  case distinct =>
    rw [Builder.add, NameMap.keys_append, List.nodup_append]
    refine ⟨h.distinct, by simp [NameMap.keys], ?_⟩
    intro key member other single
    obtain rfl : other = n.id := by simpa [NameMap.keys] using single
    exact fun same => absent (same ▸ member)
  case offered => exact each h.offered ⟨name, operation, offered⟩
  case described => exact each h.described ⟨datum, description⟩
  case arguments => exact each h.arguments arguments
  case backward =>
    apply backward_append_singleton h.backward
    intro ref inside
    exact NameMap.has_iff.mp (refs ref inside)
  case flagged =>
    apply each h.flagged
    constructor
    · intro on
      rw [plain] at on
      cases on
    · intro result
      have taken := h.marked n.id result
      rw [fresh] at taken
      cases taken
  case marked =>
    intro id result
    have before := NameMap.has_iff.mp (h.marked id result)
    apply NameMap.has_iff.mpr
    rw [Builder.add, NameMap.keys_append]
    exact List.mem_append_left _ before

theorem WellFormed.mark {b : Builder} (h : WellFormed b) {id : String} (present : b.has id = true) :
    WellFormed (b.mark id) := by
  have nodes := mark_nodes id h.flagged
  have each {P Q : String × Node → Prop} (old : ∀ entry ∈ b.nodes, P entry)
      (same : ∀ entry ∈ b.nodes, P entry →
        Q (entry.1, { entry.2 with isResult := decide (entry.1 = id) })) :
      ∀ entry ∈ (b.mark id).nodes, Q entry := by
    intro entry member
    rw [nodes] at member
    obtain ⟨before, known, rfl⟩ := mem_flagOnly.mp member
    exact same before known (old before known)
  have keys : NameMap.keys (b.mark id).nodes = NameMap.keys b.nodes := by
    rw [nodes, keys_flagOnly]
  constructor
  case keyed => exact each h.keyed fun _ _ same => same
  case distinct =>
    rw [keys]
    exact h.distinct
  case offered => exact each h.offered fun _ _ same => same
  case described => exact each h.described fun _ _ same => same
  case arguments => exact each h.arguments fun _ _ same => same
  case backward =>
    rw [nodes]
    exact backward_flagOnly id h.backward
  case flagged =>
    refine each h.flagged fun entry _ _ => ?_
    simp only [Builder.mark, decide_eq_true_eq, Option.some.injEq]
    exact eq_comm
  case marked =>
    intro other result
    obtain rfl : id = other := by simpa [Builder.mark] using result
    rw [has, NameMap.has_iff, keys]
    exact NameMap.has_iff.mp present

end Builder
end FormulaGraph
