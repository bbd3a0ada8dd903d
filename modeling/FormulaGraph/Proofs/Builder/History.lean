import FormulaGraph.Proofs.Builder.Extends
import FormulaGraph.Proofs.Builder.Marking

/-!
# What a builder keeps

A builder never takes back what it holds. Its nodes stay in their places with all but their flags, its
free parameters stay as they were declared, and new ones come behind them, under names of their own.
-/

namespace FormulaGraph

open Build

namespace Builder

structure Continues (b b' : Builder) : Prop where
  catalog : b'.catalog = b.catalog
  parent : b'.parent = b.parent
  nodes : NameMap.mapValues Node.unflagged b.nodes <+: NameMap.mapValues Node.unflagged b'.nodes
  parameters : b.parameters <+: b'.parameters
  names : (b.parameters.map (·.name)).Nodup → (b'.parameters.map (·.name)).Nodup

theorem Continues.congr {b b' : Builder} (catalog : b'.catalog = b.catalog) (parent : b'.parent = b.parent)
    (nodes : NameMap.mapValues Node.unflagged b'.nodes = NameMap.mapValues Node.unflagged b.nodes)
    (parameters : b'.parameters = b.parameters) : Continues b b' where
  catalog := catalog
  parent := parent
  nodes := nodes ▸ List.prefix_rfl
  parameters := parameters ▸ List.prefix_rfl
  names := parameters ▸ id

theorem Continues.refl (b : Builder) : Continues b b := .congr rfl rfl rfl rfl

theorem Continues.trans {a b c : Builder} (first : Continues a b) (second : Continues b c) :
    Continues a c where
  catalog := second.catalog.trans first.catalog
  parent := second.parent.trans first.parent
  nodes := first.nodes.trans second.nodes
  parameters := first.parameters.trans second.parameters
  names := second.names ∘ first.names

theorem continues_grown (b : Builder) (counters : NameMap Nat) (n : Node) (name : String) :
    Continues b (b.grown counters n name) where
  catalog := rfl
  parent := rfl
  nodes := by
    rw [NameMap.mapValues, NameMap.mapValues, grown, record, add, List.map_append]
    exact List.prefix_append _ _
  parameters := List.prefix_rfl
  names := id

theorem continues_declare (parameter : Parameter) (b : Builder) :
    Continues b ((declare parameter).final b) := by
  unfold final declare
  cases known : b.parameter? parameter.name with
  | some existing => exact .refl b
  | none =>
    have fresh : parameter.name ∉ b.parameters.map (·.name) := by
      simpa [parameter?] using known
    refine ⟨rfl, rfl, List.prefix_rfl, List.prefix_append _ _, fun distinct => ?_⟩
    simp only [record, List.map_append, List.map_cons, List.map_nil, List.nodup_append]
    refine ⟨distinct, by simp, ?_⟩
    intro name member other single
    rw [List.mem_singleton.mp single]
    exact fun same => fresh (same ▸ member)

theorem unflagged_setFlag (id : String) (flag : Bool) (nodes : NameMap Node) :
    NameMap.mapValues Node.unflagged (setFlag id flag nodes) = NameMap.mapValues Node.unflagged nodes := by
  rw [setFlag_eq, NameMap.mapValues, List.map_map]
  rfl

theorem continues_mark (b : Builder) (id : String) : Continues b (b.mark id) := by
  refine .congr rfl rfl ?_ rfl
  unfold mark
  dsimp only
  rw [unflagged_setFlag]
  split
  · split
    · rfl
    · exact unflagged_setFlag _ _ _
  · rfl

theorem conduct_continues : Conduct Continues where
  refl := Continues.refl
  trans := fun _ _ _ => Continues.trans
  declare := continues_declare
  create := by
    intro operation arguments id description b
    rcases createNode_cases operation arguments id description b with
      ⟨fault, failed⟩ | ⟨name, bound, key, counters, _, _, created⟩
    · rw [final_of_error failed]
      exact .refl b
    · rw [final_of_ok created]
      exact continues_grown b counters _ name
  mark := by
    intro target b
    rcases markResult_cases target b with ⟨fault, failed⟩ | ⟨id, n, _, _, marked⟩
    · rw [final_of_error failed]
      exact .refl b
    · rw [final_of_ok marked]
      exact (continues_mark b n.id).trans (.congr rfl rfl rfl rfl)
  push := fun _ _ => .congr rfl rfl rfl rfl
  pop := by
    intro b
    unfold final popScope
    cases b.scopes with
    | nil => exact .refl b
    | cons scope rest => exact .congr rfl rfl rfl rfl
  record := fun _ _ => .congr rfl rfl rfl rfl

namespace Continues

variable {b b' : Builder} (continued : Continues b b')

include continued

theorem keys : NameMap.keys b.nodes <+: NameMap.keys b'.nodes := by
  have names := continued.nodes.map Prod.fst
  simpa only [← NameMap.keys.eq_1, NameMap.keys_mapValues] using names

theorem has {id : String} (present : b.has id = true) : b'.has id = true :=
  NameMap.has_iff.mpr (continued.keys.subset (NameMap.has_iff.mp present))

/-- A node is found again under its id, changed in nothing but its flag. -/
theorem node? {id : String} {n : Node} (found : b.node? id = some n) :
    ∃ flag, b'.node? id = some { n with isResult := flag } := by
  obtain ⟨added, nodes⟩ := continued.nodes
  have plain : (b'.node? id).map Node.unflagged = some n.unflagged := by
    rw [Builder.node?, ← NameMap.get?_mapValues, ← nodes, NameMap.get?_append, NameMap.get?_mapValues,
      ← Builder.node?, found, Option.map_some, Option.some_or]
  obtain ⟨m, there, same⟩ := Option.map_eq_some_iff.mp plain
  refine ⟨m.isResult, there.trans ?_⟩
  obtain ⟨_, _, _, _, _⟩ := m
  obtain ⟨_, _, _, _, _⟩ := n
  simp only [Node.unflagged, Node.mk.injEq] at same
  obtain ⟨rfl, rfl, rfl, rfl, _⟩ := same
  rfl

/-- An id that is given to a node is none that a node had before. -/
theorem fresh (distinct : (NameMap.keys b'.nodes).Nodup) :
    ∀ entry ∈ b'.nodes.drop b.nodes.length, b.has entry.1 = false := by
  intro entry new
  obtain ⟨added, keys⟩ := continued.keys
  have behind : entry.1 ∈ added := by
    have inside : entry.1 ∈ (NameMap.keys b'.nodes).drop b.nodes.length := by
      rw [NameMap.keys, ← List.map_drop]
      exact List.mem_map_of_mem new
    rw [← keys] at inside
    simpa [NameMap.keys] using inside
  rw [← keys, List.nodup_append] at distinct
  rw [Bool.eq_false_iff]
  intro taken
  exact distinct.2.2 _ (NameMap.has_iff.mp taken) _ behind rfl

end Continues

end Builder
end FormulaGraph
