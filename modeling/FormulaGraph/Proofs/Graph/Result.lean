import FormulaGraph.Proofs.Builder.Snapshot
import FormulaGraph.Proofs.Document.Portable
import FormulaGraph.Proofs.Graph.Closed
import FormulaGraph.Proofs.Graph.Cycle
import FormulaGraph.Proofs.Session.WellFormed

/-!
# The result of a graph without defects

A check finds nothing just if one node is flagged as result, the result that is named is there if there is
one, and the graph is closed. It does not compare the name with the flag: they agree in the graphs that were
read or that builders hold, but a graph that is put together in another way may name no result, or a node
that is not flagged.
-/

namespace FormulaGraph.Graph

variable {g : Graph} {id key d : String} {n : Node}

theorem flagDefect_eq_none : g.flagDefect = none ↔ ∃ id, g.flagged = [id] := by
  unfold flagDefect
  split
  · rename_i empty
    simp [empty]
  · rename_i id one
    simp [one]
  · rename_i ids none many
    simp only [reduceCtorEq, false_iff, not_exists]
    exact many

theorem resultDefect_eq_none : g.resultDefect = none ↔ ∀ id, g.resultId = some id → g.has id = true := by
  unfold resultDefect
  cases g.resultId <;> simp

theorem cycleDefect_eq_none : g.cycleDefect = none ↔ ∃ order, g.order? = some order := by
  unfold cycleDefect
  cases g.order? <;> simp

theorem check_eq_nil_iff :
    g.check = [] ↔
      (∃ id, g.flagged = [id]) ∧ (∀ id, g.resultId = some id → g.has id = true) ∧ g.Closed := by
  have joined : (NameMap.values g.nodes).filterMap g.danglingDefect = [] ↔
      ∀ n ∈ NameMap.values g.nodes, ∀ d ∈ n.nodeRefs, g.has d = true := by
    simp only [List.filterMap_eq_nil_iff, danglingDefect_eq_none]
  simp only [check, List.append_eq_nil_iff, Option.toList_eq_nil_iff, and_assoc]
  rw [flagDefect_eq_none, resultDefect_eq_none, joined, cycleDefect_eq_none, closed_iff]

/-- The node under an id is flagged as result, and no other one is. -/
structure OnlyFlagged (g : Graph) (id : String) (n : Node) : Prop where
  found : g.node? id = some n
  flagged : n.isResult = true
  only : ∀ other m, g.node? other = some m → m.isResult = true → other = id

theorem exists_onlyFlagged (distinct : g.keys.Nodup) (keyed : ∀ entry ∈ g.nodes, entry.2.id = entry.1)
    (one : g.flagged = [id]) : ∃ n, g.OnlyFlagged id n := by
  rw [flagged, List.map_eq_singleton_iff] at one
  obtain ⟨n, single, rfl⟩ := one
  have marked (m : Node) : m ∈ (NameMap.values g.nodes).filter Node.isResult ↔ m = n := by
    rw [single, List.mem_singleton]
  obtain ⟨listed, flag⟩ := List.mem_filter.mp ((marked n).mpr rfl)
  obtain ⟨⟨key, m⟩, member, rfl⟩ := List.mem_map.mp listed
  have own : m.id = key := keyed _ member
  rw [own]
  refine ⟨m, NameMap.get?_of_mem distinct member, flag, fun other o found on => ?_⟩
  have present := NameMap.mem_of_get? found
  have listed : o ∈ NameMap.values g.nodes := List.mem_map.mpr ⟨_, present, rfl⟩
  obtain rfl : o = m := (marked o).mp (List.mem_filter.mpr ⟨listed, on⟩)
  have same : o.id = other := keyed _ present
  rw [← same, own]

theorem OnlyFlagged.isResult_iff (one : g.OnlyFlagged id n) {m : Node} (found : g.node? key = some m) :
    m.isResult = true ↔ key = id := by
  constructor
  · exact one.only key m found
  · rintro rfl
    rw [Option.some.inj (found.symm.trans one.found), one.flagged]

theorem Closed.mem_reachableFromResult (closed : g.Closed) (reached : key ∈ g.reachableFromResult)
    (found : g.node? key = some n) (needed : d ∈ n.dependencies) : d ∈ g.reachableFromResult := by
  have listed : n ∈ NameMap.values g.nodes := List.mem_map.mpr ⟨_, NameMap.mem_of_get? found, rfl⟩
  have known : g.has d = true := (closed_iff.mp closed).1 n listed d (List.mem_eraseDups.mp needed)
  have paths := (reachable_iff_path g).2.2
  obtain ⟨id, named, present, path⟩ := (paths key).mp reached
  exact (paths d).mpr ⟨id, named, present, path.tail ⟨n, found, needed, known⟩⟩

/-- A graph that was read, or that a builder holds. -/
def Handled (g : Graph) : Prop :=
  (∃ document, Graph.read document = .ok g) ∨ ∃ b : Builder, b.Reachable ∧ b.toGraph = g

theorem Handled.keys_flagged (handled : g.Handled) :
    (g.nodes.filter fun entry => entry.2.isResult).map Prod.fst = g.resultId.toList := by
  rcases handled with ⟨document, read⟩ | ⟨b, reachable, rfl⟩
  · exact (portable_of_read read).regular.flagged
  · exact Builder.keys_flagged reachable.wellFormed

theorem Handled.resultId_eq (handled : g.Handled) (one : g.OnlyFlagged id n) : g.resultId = some id := by
  have member := NameMap.mem_of_get? one.found
  have flagged : id ∈ (g.nodes.filter fun entry => entry.2.isResult).map Prod.fst :=
    List.mem_map.mpr ⟨_, List.mem_filter.mpr ⟨member, one.flagged⟩, rfl⟩
  rwa [handled.keys_flagged, Option.mem_toList] at flagged

/-- Where a check finds nothing, one node is flagged, there is an order, and what is reached from the result
is closed under dependencies. What is named as the result is that node, or another one, or nothing; in a
graph that was read or that a builder holds it is that node, which is then reached from the result. -/
theorem result_of_check (distinct : g.keys.Nodup) (keyed : ∀ entry ∈ g.nodes, entry.2.id = entry.1)
    (sound : g.check = []) :
    ∃ id n, g.OnlyFlagged id n ∧
      (∃ order, g.topologicalOrder = .ok order) ∧
      (∀ key m, key ∈ g.reachableFromResult → g.node? key = some m →
        ∀ d ∈ m.dependencies, d ∈ g.reachableFromResult) ∧
      (g.resultId = none ∧ g.result = .ok none ∧ g.reachableFromResult = [] ∨
        ∃ key m, g.resultId = some key ∧ g.node? key = some m ∧ g.result = .ok (some m) ∧
          key ∈ g.reachableFromResult ∧ (m.isResult = true ↔ key = id)) ∧
      (g.Handled → g.resultId = some id ∧ g.result = .ok (some n) ∧ id ∈ g.reachableFromResult) := by
  obtain ⟨⟨id, flagged⟩, named, closed⟩ := check_eq_nil_iff.mp sound
  obtain ⟨n, one⟩ := exists_onlyFlagged distinct keyed flagged
  obtain ⟨order, ordered⟩ := (closed_iff.mp closed).2
  have result {key : String} {m : Node} (given : g.resultId = some key) (found : g.node? key = some m) :
      g.result = .ok (some m) ∧ key ∈ g.reachableFromResult := by
    constructor
    · simp only [Graph.result, given, node, found, Except.map]
    · exact ((reachable_iff_path g).2.2 key).mpr ⟨key, given, named key given, .refl⟩
  refine ⟨id, n, one, ⟨order, topologicalOrder_eq_ok.mpr ordered⟩,
    fun key m reached found d needed => closed.mem_reachableFromResult reached found needed, ?_, fun handled => ?_⟩
  · cases given : g.resultId with
    | none => exact Or.inl ⟨rfl, by rw [Graph.result, given], by rw [reachableFromResult, given]⟩
    | some key =>
      obtain ⟨m, found⟩ := has_iff_exists.mp (named key given)
      obtain ⟨whole, reached⟩ := result given found
      exact Or.inr ⟨key, m, rfl, found, whole, reached, one.isResult_iff found⟩
  · have given := handled.resultId_eq one
    exact ⟨given, result given one.found⟩

def diamondDocument : Json :=
  .obj
    [("a", .obj [("process_id", .str "pi"), ("arguments", .obj [])]),
      ("b", .obj [("process_id", .str "sqrt"), ("arguments", .obj [("x", .obj [("from_node", .str "a")])])]),
      ("c", .obj [("process_id", .str "sum"), ("result", .bool true), ("arguments", .obj
        [("data", .arr [.obj [("from_node", .str "a")], .obj [("from_node", .str "b")]])])])]

def diamond : Graph where
  nodes :=
    [("a", ⟨"a", .str "pi", [], .null, false⟩),
      ("b", ⟨"b", .str "sqrt", [("x", .nodeRef "a")], .null, false⟩),
      ("c", ⟨"c", .str "sum", [("data", .tuple [.nodeRef "a", .nodeRef "b"])], .null, true⟩)]
  resultId := some "c"
  parameters := []

theorem diamond_result : Graph.read diamondDocument = .ok diamond ∧ diamond.check = [] ∧
    (∃ n, diamond.OnlyFlagged "c" n ∧ diamond.result = .ok (some n)) ∧
    "c" ∈ diamond.reachableFromResult ∧ "a" ∈ diamond.reachableFromResult ∧
    ∃ order, diamond.topologicalOrder = .ok order := by
  have read : Graph.read diamondDocument = .ok diamond := rfl
  have sound : diamond.check = [] := by decide +kernel
  obtain ⟨id, n, one, ordered, closed, _, handled⟩ := result_of_check (by decide) (by decide) sound
  obtain ⟨named, result, reached⟩ := handled (Or.inl ⟨_, read⟩)
  obtain rfl : "c" = id := Option.some.inj named
  exact ⟨read, sound, ⟨n, one, result⟩, reached, closed "c" _ reached rfl "a" (by decide), ordered⟩

/-- The flagged node is not named as the result, and a check finds nothing. -/
theorem unnamed_result_unnoticed : ∃ g : Graph, g.keys.Nodup ∧ (∀ entry ∈ g.nodes, entry.2.id = entry.1) ∧
    g.check = [] ∧ g.flagged = ["a"] ∧ g.resultId = none ∧ g.result = .ok none ∧
    g.reachableFromResult = [] :=
  ⟨⟨[("a", ⟨"a", .str "pi", [], .null, true⟩)], none, []⟩, by decide, by decide, by decide +kernel, rfl, rfl,
    rfl, rfl⟩

end FormulaGraph.Graph
