import FormulaGraph.Graph.Check

/-!
# Closed graphs

A graph is closed if a check finds no reference that leads out of it and no cycle, whatever it finds of
its result. That is to say that all references lead to nodes of the graph, and that there is an
order.
-/

namespace FormulaGraph.Graph

variable {g : Graph}

theorem mem_check {defect : GraphDefect} :
    defect ∈ g.check ↔ g.flagDefect = some defect ∨ g.resultDefect = some defect ∨
      (∃ n ∈ NameMap.values g.nodes, g.danglingDefect n = some defect) ∨
      g.cycleDefect = some defect := by
  simp only [check, List.mem_append, Option.mem_toList, List.mem_filterMap, or_assoc]

/-- No reference dangles, and there is no cycle. -/
structure Closed (g : Graph) : Prop where
  joined : ∀ id missing, GraphDefect.dangling id missing ∉ g.check
  acyclic : GraphDefect.cycle ∉ g.check

theorem danglingDefect_eq_none {n : Node} :
    g.danglingDefect n = none ↔ ∀ d ∈ n.nodeRefs, g.has d = true := by
  have all : n.dependencies.filter (fun id => !g.has id) = [] ↔ ∀ d ∈ n.nodeRefs, g.has d = true := by
    simp [Node.dependencies, List.filter_eq_nil_iff]
  rw [← all, danglingDefect]
  cases n.dependencies.filter fun id => !g.has id <;> simp

theorem eq_dangling_of_danglingDefect {n : Node} {defect : GraphDefect}
    (found : g.danglingDefect n = some defect) : ∃ missing, defect = .dangling n.id missing := by
  unfold danglingDefect at found
  split at found
  · cases found
  · exact ⟨_, (Option.some.inj found).symm⟩

theorem ne_of_result_defect {defect : GraphDefect}
    (found : g.flagDefect = some defect ∨ g.resultDefect = some defect) :
    (∀ id missing, defect ≠ .dangling id missing) ∧ defect ≠ .cycle := by
  unfold flagDefect resultDefect at found
  constructor
  · rintro id missing rfl
    rcases found with found | found <;> split at found <;> simp_all
  · rintro rfl
    rcases found with found | found <;> split at found <;> simp_all

theorem cycleDefect_eq_some {defect : GraphDefect} :
    g.cycleDefect = some defect ↔ g.order? = none ∧ defect = .cycle := by
  unfold cycleDefect
  cases g.order? <;> simp [eq_comm]

theorem dangling_mem_check {id : String} {missing : List String} :
    GraphDefect.dangling id missing ∈ g.check ↔
      ∃ n ∈ NameMap.values g.nodes, g.danglingDefect n = some (.dangling id missing) := by
  rw [mem_check, cycleDefect_eq_some]
  constructor
  · rintro (flag | result | dangling | ⟨_, same⟩)
    · exact absurd rfl ((ne_of_result_defect (.inl flag)).1 id missing)
    · exact absurd rfl ((ne_of_result_defect (.inr result)).1 id missing)
    · exact dangling
    · cases same
  · exact fun dangling => .inr (.inr (.inl dangling))

theorem cycle_mem_check : GraphDefect.cycle ∈ g.check ↔ g.order? = none := by
  rw [mem_check, cycleDefect_eq_some]
  constructor
  · rintro (flag | result | ⟨n, _, dangling⟩ | ⟨stuck, _⟩)
    · exact absurd rfl (ne_of_result_defect (.inl flag)).2
    · exact absurd rfl (ne_of_result_defect (.inr result)).2
    · obtain ⟨missing, same⟩ := eq_dangling_of_danglingDefect dangling
      cases same
    · exact stuck
  · exact fun stuck => .inr (.inr (.inr ⟨stuck, rfl⟩))

theorem closed_iff :
    g.Closed ↔ (∀ n ∈ NameMap.values g.nodes, ∀ d ∈ n.nodeRefs, g.has d = true) ∧
      ∃ order, g.order? = some order := by
  constructor
  · intro closed
    constructor
    · intro n member
      rw [← danglingDefect_eq_none, Option.eq_none_iff_forall_ne_some]
      intro defect found
      obtain ⟨missing, rfl⟩ := eq_dangling_of_danglingDefect found
      exact closed.joined n.id missing (dangling_mem_check.mpr ⟨n, member, found⟩)
    · exact Option.ne_none_iff_exists'.mp fun none => closed.acyclic (cycle_mem_check.mpr none)
  · rintro ⟨known, order, ordered⟩
    constructor
    case joined =>
      intro id missing defect
      obtain ⟨n, member, found⟩ := dangling_mem_check.mp defect
      rw [danglingDefect_eq_none.mpr (known n member)] at found
      cases found
    case acyclic =>
      intro defect
      rw [cycle_mem_check, ordered] at defect
      cases defect

end FormulaGraph.Graph
