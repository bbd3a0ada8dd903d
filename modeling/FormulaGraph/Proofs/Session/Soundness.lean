import FormulaGraph.Proofs.Builder.Snapshot
import FormulaGraph.Proofs.Session.WellFormed

/-!
# Graphs that are built are sound

Whatever is asked of builders, in any order, and whatever of it fails: their graphs have no cycle and no
dangling reference, and a check finds nothing but that there may be no result.
-/

namespace FormulaGraph.Session

/-- In every builder that is reached each key is the id of its node, nodes invoke operations of the
catalog, and references lead to nodes created before; so the graph has an order, and the only defect it
may have is to be without a result. -/
theorem reachable_graph_sound {s : Session} (reachable : s.Reachable) {place : Nat} {b : Builder}
    (found : s.builder? place = some b) :
    (NameMap.keys b.nodes).Nodup ∧
    (∀ id n, (id, n) ∈ b.nodes → n.id = id) ∧
    (∀ id n, (id, n) ∈ b.nodes → ∃ name, n.operation = .str name ∧ b.catalog.has name = true) ∧
    Backward b.nodes ∧
    (∃ order, b.toGraph.topologicalOrder = .ok order) ∧
    b.toGraph.check.map GraphDefect.message = match b.resultId with
      | some _ => []
      | none => ["Graph has no result node"] := by
  have h := Builder.Reachable.wellFormed ⟨s, place, reachable, found⟩
  obtain ⟨order, ordered⟩ := Builder.exists_order h
  refine ⟨h.distinct, fun id n member => h.keyed _ member, fun id n member => h.offered _ member,
    h.backward, ⟨order, by rw [Graph.topologicalOrder, ordered]⟩, ?_⟩
  rw [Builder.check_toGraph h]
  cases b.resultId <;> rfl

theorem sample_graph_sound : ∃ b, sample.builder? 0 = some b ∧
    NameMap.keys b.nodes = ["add2", "reduce1", "add1", "multiply1"] ∧ Backward b.nodes ∧
    (∃ order, b.toGraph.topologicalOrder = .ok order) ∧
    b.toGraph.check.map GraphDefect.message = [] := by
  obtain ⟨b, found, same⟩ := Option.map_eq_some_iff.mp sample_first
  obtain ⟨keys, result⟩ := Prod.mk.inj same
  obtain ⟨_, _, _, backward, order, defects⟩ := reachable_graph_sound sample_reachable found
  rw [result] at defects
  exact ⟨b, found, keys, backward, order, defects⟩

end FormulaGraph.Session
