import FormulaGraph.Proofs.Builder.Creation
import FormulaGraph.Proofs.Formula.Conduct

/-!
# Builders that grow

Lowering adds nodes and free parameters at the end and changes nothing else: the scopes, the result and
the nodes that were there stay as they are.
-/

namespace FormulaGraph

open Build

namespace Builder

/-- A builder with more nodes, none of them flagged, and more free parameters. -/
structure Extends (b b' : Builder) : Prop where
  catalog : b'.catalog = b.catalog
  parent : b'.parent = b.parent
  scopes : b'.scopes = b.scopes
  result : b'.resultId = b.resultId
  nodes : ∃ added, b'.nodes = b.nodes ++ added ∧ ∀ entry ∈ added, entry.2.isResult = false
  parameters : ∃ declared, b'.parameters = b.parameters ++ declared

theorem Extends.refl (b : Builder) : Extends b b where
  catalog := rfl
  parent := rfl
  scopes := rfl
  result := rfl
  nodes := ⟨[], by simp, by simp⟩
  parameters := ⟨[], by simp⟩

theorem Extends.trans {a b c : Builder} (first : Extends a b) (second : Extends b c) :
    Extends a c where
  catalog := second.catalog.trans first.catalog
  parent := second.parent.trans first.parent
  scopes := second.scopes.trans first.scopes
  result := second.result.trans first.result
  nodes := by
    obtain ⟨early, before, earlyPlain⟩ := first.nodes
    obtain ⟨late, after, latePlain⟩ := second.nodes
    refine ⟨early ++ late, by rw [after, before, List.append_assoc], ?_⟩
    intro entry member
    rcases List.mem_append.mp member with old | new
    · exact earlyPlain entry old
    · exact latePlain entry new
  parameters := by
    obtain ⟨early, before⟩ := first.parameters
    obtain ⟨late, after⟩ := second.parameters
    exact ⟨early ++ late, by rw [after, before, List.append_assoc]⟩

theorem Extends.has {b b' : Builder} (grown : Extends b b') {id : String} (present : b.has id = true) :
    b'.has id = true := by
  obtain ⟨added, nodes, _⟩ := grown.nodes
  rw [Builder.has, NameMap.has_iff] at present ⊢
  rw [nodes, NameMap.keys_append]
  exact List.mem_append_left _ present

theorem extends_grown (b : Builder) (counters : NameMap Nat) {n : Node} (name : String)
    (plain : n.isResult = false) : Extends b (b.grown counters n name) where
  catalog := rfl
  parent := rfl
  scopes := rfl
  result := rfl
  nodes := ⟨[(n.id, n)], rfl, by simpa using plain⟩
  parameters := ⟨[], by simp [grown, add, record]⟩

theorem growth_extends : Growth Extends where
  refl := Extends.refl
  trans := fun _ _ _ => Extends.trans
  declare := by
    intro parameter b
    unfold final declare
    cases b.parameter? parameter.name with
    | some existing => exact Extends.refl b
    | none =>
      exact ⟨rfl, rfl, rfl, rfl, ⟨[], by simp [record], by simp⟩, ⟨[parameter], rfl⟩⟩
  create := by
    intro operation arguments id description b
    rcases createNode_cases operation arguments id description b with
      ⟨fault, failed⟩ | ⟨name, bound, key, counters, _, _, created⟩
    · rw [final_of_error failed]
      exact Extends.refl b
    · rw [final_of_ok created]
      exact extends_grown b counters name rfl

theorem extends_lower (ctx : Formula.Context) (e : Expr) (b : Builder) :
    Extends b ((Formula.lower ctx e).final b) :=
  growth_extends.lower ctx e b

end Builder
end FormulaGraph
