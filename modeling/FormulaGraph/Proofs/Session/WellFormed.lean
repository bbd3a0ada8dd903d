import FormulaGraph.Proofs.Session.Reachable

/-!
# Builders that can be reached are well-formed

Every change of a builder keeps `Builder.WellFormed`, so it holds of every builder of every session
that can be reached.
-/

namespace FormulaGraph

open Build

namespace Builder

theorem wellFormed_createNode {b : Builder} (h : WellFormed b) (operation : Json) (arguments : Value)
    (id : Option String) (description : Json) :
    WellFormed ((createNode operation arguments id description).final b) := by
  rcases createNode_cases operation arguments id description b with
    ⟨fault, failed⟩ | ⟨name, bound, key, counters, checked, fresh, created⟩
  · rw [final_of_error failed]
    exact h
  · rw [final_of_ok created]
    obtain ⟨definition, _, _, offered, _, _, _, coerced, known⟩ := bindArguments_ok checked
    have counted : WellFormed { b with counters := counters } := h.congr rfl rfl rfl
    apply WellFormed.record
    have each := isArgument_of_coerceNamed coerced
    refine counted.add fresh rfl (Catalog.has_of_get? offered) rfl each ?_ rfl
    intro ref inside
    obtain ⟨entry, member, found⟩ := List.mem_flatMap.mp inside
    exact missingNode?_eq_none.mp known entry member ref found

theorem wellFormed_markResult {b : Builder} (h : WellFormed b) (target : Value) :
    WellFormed ((markResult target).final b) := by
  rcases markResult_cases target b with ⟨fault, failed⟩ | ⟨id, n, _, found, marked⟩
  · rw [final_of_error failed]
    exact h
  · rw [final_of_ok marked]
    have member := NameMap.mem_of_get? found
    apply WellFormed.record
    apply h.mark
    rw [h.keyed _ member]
    exact NameMap.has_iff.mpr (NameMap.mem_keys member)

theorem wellFormed_declare {b : Builder} (h : WellFormed b) (parameter : Parameter) :
    WellFormed ((declare parameter).final b) := by
  unfold final declare
  cases b.parameter? parameter.name with
  | some existing => exact h
  | none => exact h.congr rfl rfl rfl

theorem wellFormed_popScope {b : Builder} (h : WellFormed b) : WellFormed (popScope.final b) := by
  unfold final popScope
  cases b.scopes with
  | nil => exact h
  | cons scope rest => exact h.congr rfl rfl rfl

theorem conduct_wellFormed : Conduct fun b b' => WellFormed b → WellFormed b' where
  refl := fun _ h => h
  trans := fun _ _ _ first second h => second (first h)
  declare := fun parameter _ h => wellFormed_declare h parameter
  create := fun operation arguments id description _ h =>
    wellFormed_createNode h operation arguments id description
  mark := fun target _ h => wellFormed_markResult h target
  push := fun _ _ h => h.congr rfl rfl rfl
  pop := fun _ h => wellFormed_popScope h
  record := fun event _ h => h.record event

/-- A builder that is reached in some session. -/
def Reachable (b : Builder) : Prop := ∃ s place, Session.Reachable s ∧ s.builder? place = some b

theorem Reachable.empty (catalog : Catalog) : Reachable (.empty catalog none) :=
  ⟨_, 0, Session.Reachable.start.playAll [.begin catalog none], rfl⟩

theorem Reachable.of_conduct {P : Builder → Prop} (empty : ∀ catalog parent, P (Builder.empty catalog parent))
    (conduct : Conduct fun b b' => P b → P b') {b : Builder} (reachable : Reachable b) : P b := by
  obtain ⟨s, place, reached, found⟩ := reachable
  exact reached.forall_builders empty conduct b (List.mem_of_getElem? found)

theorem Reachable.wellFormed {b : Builder} (reachable : Reachable b) : WellFormed b :=
  reachable.of_conduct wellFormed_empty conduct_wellFormed

end Builder
end FormulaGraph
