import FormulaGraph.Graph.Reach
import Mathlib.Logic.Relation

/-!
# What a search reaches

A key depends on another one if the node under it refers to that one. A search comes to what is visited
already and to all that the pending ids lead to: this holds at every step as long as what the visited keys
depend on is visited or pending. So the nodes that are reached from a node are those that it leads to,
whatever cycles and dangling references there are.
-/

namespace FormulaGraph.Graph

open Relation

variable {g : Graph} {visited pending rest : List String} {id key d : String} {n : Node}

/-- The node under a key refers to another key of the graph. -/
def DependsOn (g : Graph) (key d : String) : Prop :=
  ∃ n, g.node? key = some n ∧ d ∈ n.dependencies ∧ g.has d = true

/-- From one key to another one there is a path of dependencies, which may be empty. -/
def LeadsTo (g : Graph) (id key : String) : Prop := g.has id = true ∧ ReflTransGen g.DependsOn id key

theorem has_iff_exists : g.has id = true ↔ ∃ n, g.node? id = some n := Option.isSome_iff_exists

theorem not_has_of_node?_eq_none (absent : g.node? id = none) : ¬ g.has id = true := by
  intro present
  obtain ⟨n, found⟩ := has_iff_exists.mp present
  rw [absent] at found
  cases found

theorem DependsOn.has_left (needed : g.DependsOn key d) : g.has key = true := by
  obtain ⟨n, found, _, _⟩ := needed
  exact has_iff_exists.mpr ⟨n, found⟩

theorem DependsOn.has_right (needed : g.DependsOn key d) : g.has d = true := by
  obtain ⟨_, _, _, present⟩ := needed
  exact present

theorem LeadsTo.has_right (leads : g.LeadsTo id key) : g.has key = true := by
  obtain ⟨present, path⟩ := leads
  rcases path.cases_tail with rfl | ⟨_, _, needed⟩
  · exact present
  · exact needed.has_right

/-! ### Steps of the search -/

theorem reach_of_visited (seen : id ∈ visited) : g.reach visited (id :: rest) = g.reach visited rest := by
  rw [reach, dif_pos (by simpa using seen)]

theorem reach_of_dangling (fresh : id ∉ visited) (absent : g.node? id = none) :
    g.reach visited (id :: rest) = g.reach visited rest := by
  rw [reach, dif_neg (by simpa using fresh)]
  split
  · rfl
  · rename_i found
    rw [absent] at found
    cases found

theorem reach_of_found (fresh : id ∉ visited) (found : g.node? id = some n) :
    g.reach visited (id :: rest) = g.reach (id :: visited) (n.dependencies ++ rest) := by
  rw [reach, dif_neg (by simpa using fresh)]
  split
  · rename_i absent
    rw [found] at absent
    cases absent
  · rename_i m again
    rw [Option.some.inj (found.symm.trans again)]

theorem nodup_reach (distinct : visited.Nodup) : (g.reach visited pending).Nodup := by
  induction visited, pending using reach.induct g with
  | case1 visited => rwa [reach]
  | case2 visited id rest seen ih =>
    rw [reach_of_visited (by simpa using seen)]
    exact ih distinct
  | case3 visited id rest fresh absent ih =>
    rw [reach_of_dangling (by simpa using fresh) absent]
    exact ih distinct
  | case4 visited id rest fresh n found ih =>
    have fresh : id ∉ visited := by simpa using fresh
    rw [reach_of_found fresh found]
    exact ih (List.nodup_cons.mpr ⟨fresh, distinct⟩)

/-! ### What has been visited -/

/-- What a visited key depends on has been visited, or is still to be looked at. -/
def Frontier (g : Graph) (visited pending : List String) : Prop :=
  ∀ key ∈ visited, ∀ d, g.DependsOn key d → d ∈ visited ∨ d ∈ pending

theorem Frontier.of_visited (frontier : g.Frontier visited (id :: rest)) (seen : id ∈ visited) :
    g.Frontier visited rest := by
  intro key member d needed
  rcases frontier key member d needed with before | later
  · exact Or.inl before
  · rcases List.mem_cons.mp later with rfl | later
    · exact Or.inl seen
    · exact Or.inr later

theorem Frontier.of_dangling (frontier : g.Frontier visited (id :: rest)) (absent : g.node? id = none) :
    g.Frontier visited rest := by
  intro key member d needed
  rcases frontier key member d needed with before | later
  · exact Or.inl before
  · rcases List.mem_cons.mp later with rfl | later
    · exact absurd needed.has_right (not_has_of_node?_eq_none absent)
    · exact Or.inr later

theorem Frontier.of_found (frontier : g.Frontier visited (id :: rest)) (found : g.node? id = some n) :
    g.Frontier (id :: visited) (n.dependencies ++ rest) := by
  intro key member d needed
  rcases List.mem_cons.mp member with rfl | member
  · obtain ⟨m, again, inside, _⟩ := needed
    obtain rfl := Option.some.inj (found.symm.trans again)
    exact Or.inr (List.mem_append_left _ inside)
  · rcases frontier key member d needed with before | later
    · exact Or.inl (List.mem_cons_of_mem _ before)
    · rcases List.mem_cons.mp later with rfl | later
      · exact Or.inl List.mem_cons_self
      · exact Or.inr (List.mem_append_right _ later)

/-- A path from a visited key stays among the visited ones, or leaves them through a pending one. -/
theorem Frontier.exit (frontier : g.Frontier visited pending) (seen : id ∈ visited)
    (path : ReflTransGen g.DependsOn id key) :
    key ∈ visited ∨ ∃ p ∈ pending, g.LeadsTo p key := by
  induction path with
  | refl => exact Or.inl seen
  | tail _ needed ih =>
    rcases ih with inside | ⟨p, waits, present, before⟩
    · rcases frontier _ inside _ needed with again | waits
      · exact Or.inl again
      · exact Or.inr ⟨_, waits, needed.has_right, .refl⟩
    · exact Or.inr ⟨p, waits, present, before.tail needed⟩

theorem leadsTo_iff_of_found (found : g.node? id = some n) :
    g.LeadsTo id key ↔ key = id ∨ ∃ d ∈ n.dependencies, g.LeadsTo d key := by
  constructor
  · rintro ⟨_, path⟩
    rcases path.cases_head with rfl | ⟨d, ⟨m, again, inside, present⟩, later⟩
    · exact Or.inl rfl
    · obtain rfl := Option.some.inj (found.symm.trans again)
      exact Or.inr ⟨d, inside, present, later⟩
  · have here : g.has id = true := has_iff_exists.mpr ⟨n, found⟩
    rintro (rfl | ⟨d, inside, present, later⟩)
    · exact ⟨here, .refl⟩
    · exact ⟨here, .head ⟨n, found, inside, present⟩ later⟩

/-- A search ends with what was visited and what the pending ids lead to. -/
theorem mem_reach_iff (frontier : g.Frontier visited pending) :
    key ∈ g.reach visited pending ↔ key ∈ visited ∨ ∃ id ∈ pending, g.LeadsTo id key := by
  -- by the steps of the search: to pass over a pending id loses nothing, by what the frontier says of it
  induction visited, pending using reach.induct g with
  | case1 visited => simp [reach]
  | case2 visited id rest seen ih =>
    have seen : id ∈ visited := by simpa using seen
    have frontier := frontier.of_visited seen
    rw [reach_of_visited seen, ih frontier]
    simp only [List.mem_cons, exists_eq_or_imp]
    constructor
    · exact Or.imp_right Or.inr
    · rintro (before | ⟨_, path⟩ | later)
      · exact Or.inl before
      · exact frontier.exit seen path
      · exact Or.inr later
  | case3 visited id rest fresh absent ih =>
    have nowhere : ¬ g.LeadsTo id key := by
      rintro ⟨present, _⟩
      exact not_has_of_node?_eq_none absent present
    rw [reach_of_dangling (by simpa using fresh) absent, ih (frontier.of_dangling absent)]
    simp only [List.mem_cons, exists_eq_or_imp, nowhere, false_or]
  | case4 visited id rest fresh n found ih =>
    rw [reach_of_found (by simpa using fresh) found, ih (frontier.of_found found)]
    simp only [List.mem_cons, List.mem_append, or_and_right, exists_or, exists_eq_left,
      leadsTo_iff_of_found found, or_assoc, or_left_comm]

theorem mem_reachableFrom_iff : key ∈ g.reachableFrom id ↔ g.LeadsTo id key := by
  have frontier : g.Frontier [] [id] := by
    intro key member
    cases member
  rw [reachableFrom, mem_reach_iff frontier]
  simp

/-- From an id of any graph exactly those keys are reached to which a path of dependencies leads from it,
each once; from an id that is no key there is none. What contributes to the result is reached from it. -/
theorem reachable_iff_path (g : Graph) :
    (∀ id key, key ∈ g.reachableFrom id ↔ g.has id = true ∧ ReflTransGen g.DependsOn id key) ∧
    (∀ id, (g.reachableFrom id).Nodup) ∧
    ∀ key, key ∈ g.reachableFromResult ↔
      ∃ id, g.resultId = some id ∧ g.has id = true ∧ ReflTransGen g.DependsOn id key := by
  refine ⟨fun id key => mem_reachableFrom_iff, fun id => nodup_reach List.nodup_nil, fun key => ?_⟩
  unfold reachableFromResult
  cases named : g.resultId with
  | none => simp
  | some id =>
    rw [mem_reachableFrom_iff]
    simp [LeadsTo]

end FormulaGraph.Graph
