import FormulaGraph.Builder.Node

/-!
# Marking a node

`mark_nodes` says what marking does to nodes of which only the result is flagged: afterwards the
node with the new id is flagged, and no other. `markResult_cases` says when that happens.
-/

namespace FormulaGraph

def Node.unflagged (n : Node) : Node := { n with isResult := false }

namespace Builder

/-- The nodes with the one under an id flagged, and no other. -/
def flagOnly (id : String) (nodes : NameMap Node) : NameMap Node :=
  nodes.map fun entry => (entry.1, { entry.2 with isResult := decide (entry.1 = id) })

theorem keys_flagOnly (id : String) (nodes : NameMap Node) :
    NameMap.keys (flagOnly id nodes) = NameMap.keys nodes := by
  simp [flagOnly, NameMap.keys]

theorem mem_flagOnly {id : String} {nodes : NameMap Node} {entry : String × Node} :
    entry ∈ flagOnly id nodes ↔
      ∃ old ∈ nodes, entry = (old.1, { old.2 with isResult := decide (old.1 = id) }) := by
  simp only [flagOnly, List.mem_map]
  constructor
  · rintro ⟨old, member, rfl⟩
    exact ⟨old, member, rfl⟩
  · rintro ⟨old, member, rfl⟩
    exact ⟨old, member, rfl⟩

theorem unflagged_flagOnly (id : String) (nodes : NameMap Node) :
    NameMap.mapValues Node.unflagged (flagOnly id nodes) = NameMap.mapValues Node.unflagged nodes := by
  rw [NameMap.mapValues, flagOnly, List.map_map]
  rfl

theorem setFlag_eq (id : String) (flag : Bool) (nodes : NameMap Node) :
    setFlag id flag nodes = nodes.map fun entry =>
      (entry.1, { entry.2 with isResult := if entry.1 = id then flag else entry.2.isResult }) := by
  apply List.map_congr_left
  rintro ⟨key, ⟨_, _, _, _, _⟩⟩ _
  by_cases same : key = id <;> simp [same]

/-- Where only the result is flagged, the flag moves to the marked node. -/
theorem mark_nodes {b : Builder} (id : String)
    (flagged : ∀ entry ∈ b.nodes, entry.2.isResult = true ↔ b.resultId = some entry.1) :
    (b.mark id).nodes = flagOnly id b.nodes := by
  have moved : ∀ entry ∈ b.nodes, entry.1 ≠ id → b.resultId ≠ some entry.1 →
      entry.2.isResult = decide (entry.1 = id) := by
    intro entry member other notResult
    have off : entry.2.isResult = false := by
      rw [Bool.eq_false_iff]
      exact fun on => notResult ((flagged entry member).mp on)
    rw [off, decide_eq_false other]
  simp only [mark, flagOnly]
  cases result : b.resultId with
  | none =>
    simp only [setFlag_eq]
    apply List.map_congr_left
    intro entry member
    by_cases same : entry.1 = id
    · simp [same]
    · rw [if_neg same, moved entry member same (by simp [result])]
  | some old =>
    by_cases again : old = id
    · simp only [again, if_true, setFlag_eq]
      apply List.map_congr_left
      intro entry member
      by_cases same : entry.1 = id
      · simp [same]
      · have apart : b.resultId ≠ some entry.1 := by
          rw [result, again]
          exact fun equal => same (Option.some.inj equal).symm
        rw [if_neg same, moved entry member same apart]
    · simp only [again, if_false, setFlag_eq, List.map_map]
      apply List.map_congr_left
      intro entry member
      simp only [Function.comp_apply]
      by_cases same : entry.1 = id
      · simp [same]
      · by_cases cleared : entry.1 = old
        · simp [cleared, again]
        · have apart : b.resultId ≠ some entry.1 := by
            rw [result]
            exact fun equal => cleared (Option.some.inj equal).symm
          rw [if_neg same, if_neg cleared, moved entry member same apart]

/-- Marking fails and changes nothing, or marks the node that is named. -/
theorem markResult_cases (target : Value) (b : Builder) :
    (∃ fault, markResult target b = .error fault b) ∨
    ∃ id n, nodeName target = .str id ∧ b.node? id = some n ∧
      markResult target b = .ok () ((b.mark n.id).record (.marked n.id)) := by
  unfold markResult getNode
  cases found : b.find (nodeName target) with
  | error fault => exact Or.inl ⟨fault, rfl⟩
  | ok result =>
    cases result with
    | none => exact Or.inl ⟨_, rfl⟩
    | some n =>
      refine Or.inr ?_
      unfold find at found
      split at found
      · rename_i id same
        exact ⟨id, n, same, Except.ok.inj found, rfl⟩
      · split at found
        · cases found
        · cases found

end Builder
end FormulaGraph
