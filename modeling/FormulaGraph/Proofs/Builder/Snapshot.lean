import FormulaGraph.Graph.Check
import FormulaGraph.Proofs.Builder.WellFormed
import FormulaGraph.Proofs.Graph.Order

/-!
# The graph of a well-formed builder

Its references lead backwards, so the place of a node is a rank, and there is an order. The flagged
node is the result, so a check finds nothing but that there may be no result yet.
-/

namespace FormulaGraph.Builder

theorem mem_keys_of_nodeRefs {b : Builder} (h : WellFormed b) {entry : String × Node}
    (member : entry ∈ b.nodes) {ref : String} (inside : ref ∈ entry.2.nodeRefs) :
    ref ∈ NameMap.keys b.nodes := by
  obtain ⟨before, after, split⟩ := List.append_of_mem member
  have known := h.backward before entry.1 entry.2 after split ref inside
  rw [split, NameMap.keys_append]
  exact List.mem_append_left _ known

/-- A node stands behind the nodes that it refers to. -/
theorem idxOf_lt_of_nodeRefs {b : Builder} (h : WellFormed b) {entry : String × Node}
    (member : entry ∈ b.nodes) {ref : String} (inside : ref ∈ entry.2.nodeRefs) :
    (NameMap.keys b.nodes).idxOf ref < (NameMap.keys b.nodes).idxOf entry.1 := by
  obtain ⟨before, after, split⟩ := List.append_of_mem member
  have known := h.backward before entry.1 entry.2 after split ref inside
  have keys := congrArg NameMap.keys split
  rw [NameMap.keys_append] at keys
  exact idxOf_lt_of_mem_before h.distinct keys known

theorem exists_order {b : Builder} (h : WellFormed b) : ∃ order, b.toGraph.order? = some order := by
  apply Graph.exists_order_of_rank fun id => (NameMap.keys b.nodes).idxOf id
  intro entry member d inside
  obtain ⟨⟨key, n⟩, present, rfl⟩ := List.mem_map.mp member
  have listed := (List.mem_filter.mp inside).1
  rw [Node.dependencies, List.mem_eraseDups] at listed
  exact idxOf_lt_of_nodeRefs h present listed

theorem keys_flagged {b : Builder} (h : WellFormed b) :
    (b.nodes.filter fun entry => entry.2.isResult).map Prod.fst = b.resultId.toList := by
  cases result : b.resultId with
  | none =>
    have unflagged : b.nodes.filter (fun entry => entry.2.isResult) = [] := by
      rw [List.filter_eq_nil_iff]
      intro entry member on
      have same := (h.flagged entry member).mp on
      rw [result] at same
      cases same
    rw [unflagged]
    rfl
  | some id =>
    have byKey : b.nodes.filter (fun entry => entry.2.isResult) =
        b.nodes.filter ((fun key => key == id) ∘ Prod.fst) := by
      apply List.filter_congr
      intro entry member
      rw [Bool.eq_iff_iff, h.flagged entry member, result, Option.some.injEq, Function.comp_apply,
        beq_iff_eq, eq_comm]
    have present : id ∈ NameMap.keys b.nodes := NameMap.has_iff.mp (h.marked id result)
    rw [byKey, ← List.filter_map]
    change (NameMap.keys b.nodes).filter (fun key => key == id) = [id]
    rw [List.filter_beq, List.count_eq_one_of_mem h.distinct present]
    rfl

theorem flagged_toGraph {b : Builder} (h : WellFormed b) : b.toGraph.flagged = b.resultId.toList := by
  rw [← keys_flagged h]
  simp only [Graph.flagged, toGraph, NameMap.values, List.filter_map, List.map_map]
  apply List.map_congr_left
  intro entry member
  exact h.keyed entry (List.mem_filter.mp member).1

/-- A check finds at most that there is no result. -/
theorem check_toGraph {b : Builder} (h : WellFormed b) :
    b.toGraph.check = match b.resultId with
      | some _ => []
      | none => [.noResult] := by
  have dangling : (NameMap.values b.toGraph.nodes).filterMap b.toGraph.danglingDefect = [] := by
    rw [List.filterMap_eq_nil_iff]
    intro n member
    obtain ⟨entry, present, rfl⟩ := List.mem_map.mp member
    have inside : entry.2.dependencies.filter (fun id => !b.toGraph.has id) = [] := by
      rw [List.filter_eq_nil_iff]
      intro id listed
      rw [Node.dependencies, List.mem_eraseDups] at listed
      have there : b.toGraph.has id = true :=
        NameMap.has_iff.mpr (mem_keys_of_nodeRefs h present listed)
      simp [there]
    rw [Graph.danglingDefect, inside]
  obtain ⟨order, ordered⟩ := exists_order h
  have cycle : b.toGraph.cycleDefect = none := by rw [Graph.cycleDefect, ordered]
  have named : b.toGraph.resultDefect = none := by
    unfold Graph.resultDefect
    cases result : b.toGraph.resultId with
    | none => rfl
    | some id =>
      have there : b.toGraph.has id = true := h.marked id result
      simp only [there, if_true]
  rw [Graph.check, dangling, cycle, named, Graph.flagDefect, flagged_toGraph h]
  cases b.resultId <;> rfl

end FormulaGraph.Builder
