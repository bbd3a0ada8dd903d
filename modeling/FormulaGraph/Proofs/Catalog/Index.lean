import FormulaGraph.Catalog.Basic
import FormulaGraph.Proofs.NameMap

/-!
# The index of a catalog

The definition that counts for a name is one that is listed, and it has that name.
-/

namespace FormulaGraph.Catalog

theorem mem_index {c : Catalog} {name : String} {o : Operation} (member : (name, o) ∈ c.index) :
    o ∈ c.operations ∧ o.name = name := by
  rw [c.index_eq] at member
  obtain ⟨listed, present, same⟩ := List.mem_map.mp (NameMap.mem_of_mem_ofList member)
  obtain ⟨rfl, rfl⟩ := Prod.mk.inj same
  exact ⟨present, rfl⟩

theorem name_of_get? {c : Catalog} {name : String} {o : Operation} (found : c.get? name = some o) :
    o.name = name :=
  (mem_index (NameMap.mem_of_get? found)).2

theorem find_text (c : Catalog) (name : String) : c.find (.str name) = .ok (c.get? name) := rfl

theorem mem_definitions_of_get? {c : Catalog} {name : String} {o : Operation}
    (found : c.get? name = some o) : o ∈ c.definitions :=
  List.mem_map_of_mem (NameMap.mem_of_get? found)

theorem has_of_get? {c : Catalog} {name : String} {o : Operation} (found : c.get? name = some o) :
    c.has name = true := by
  change (c.get? name).isSome = true
  rw [found]
  rfl

theorem find_eq_some {c : Catalog} {name : Json} {o : Operation} (found : c.find name = .ok (some o)) :
    name = .str o.name ∧ c.get? o.name = some o := by
  match name with
  | .scalar (.str s) =>
    have hit : c.get? s = some o := Except.ok.inj found
    rw [name_of_get? hit]
    exact ⟨rfl, hit⟩
  | .scalar .null | .scalar (.bool _) | .scalar (.number _) =>
    cases Except.ok.inj found
  | .arr _ | .obj _ => cases found

end FormulaGraph.Catalog
