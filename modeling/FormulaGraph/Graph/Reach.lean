import FormulaGraph.Graph.Basic

/-!
# Reachability

The nodes that a node needs are found by a search that visits each key once: `reach` keeps the
visited keys and those still to be looked at. Each step either visits a new key or shortens the
list, so the search ends on every graph, whatever its cycles.
-/

namespace FormulaGraph.Graph

def unvisited (g : Graph) (visited : List String) : List String :=
  g.keys.filter fun key => !visited.contains key

theorem length_unvisited_cons_lt {g : Graph} {visited : List String} {key : String} {n : Node}
    (found : g.node? key = some n) (fresh : visited.contains key = false) :
    (g.unvisited (key :: visited)).length < (g.unvisited visited).length := by
  have member : key ∈ g.unvisited visited := by
    rw [unvisited, List.mem_filter]
    refine ⟨?_, by rw [fresh]; rfl⟩
    have present := NameMap.mem_of_get? found
    exact List.mem_map.mpr ⟨(key, n), present, rfl⟩
  have fewer : g.unvisited (key :: visited) = (g.unvisited visited).filter fun other => other ≠ key := by
    rw [unvisited, unvisited, List.filter_filter]
    apply List.filter_congr
    intro other _
    by_cases same : other = key <;> simp [same]
  rw [fewer, List.length_filter_lt_length_iff_exists]
  exact ⟨key, member, by simp⟩

/-- The visited keys after a search from the ids in `pending`. -/
def reach (g : Graph) (visited pending : List String) : List String :=
  match pending with
  | [] => visited
  | id :: rest =>
    if _fresh : visited.contains id = true then reach g visited rest
    else
      match _found : g.node? id with
      | none => reach g visited rest
      | some n => reach g (id :: visited) (n.dependencies ++ rest)
termination_by ((g.unvisited visited).length, pending.length)
decreasing_by
  · exact Prod.Lex.right _ (by simp)
  · exact Prod.Lex.right _ (by simp)
  · exact Prod.Lex.left _ _ (length_unvisited_cons_lt _found (by simpa using _fresh))

/-- The node with an id and all nodes that it needs, directly or through others. -/
def reachableFrom (g : Graph) (id : String) : List String := g.reach [] [id]

def reachableFromResult (g : Graph) : List String :=
  match g.resultId with
  | none => []
  | some id => g.reachableFrom id

end FormulaGraph.Graph
