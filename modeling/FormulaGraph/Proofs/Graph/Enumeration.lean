import FormulaGraph.Proofs.Graph.Counting
import FormulaGraph.Proofs.Graph.Cycle
import FormulaGraph.Proofs.Graph.Names
import Mathlib.Data.List.Permutation

/-!
# Sets in any order

What a node depends on is a set, and a set may be gone through in any order, which need not be the same from one
run to the next. Here the queries on a graph go through such sets as an `Enumeration` says: the nodes that
another one holds up are listed set by set, a search stacks what it still has to look at, and names that are
missing are collected. The answers are those of the queries that go through lists, so they depend on no
enumeration: `Graph.queries_by_enumeration`.
-/

namespace FormulaGraph

/-- An order in which to go through the sets of names that belong to the nodes under some keys. -/
structure Enumeration where
  list : String → List String → List String
  perm : ∀ key names, (list key names).Perm names

namespace Enumeration

variable (e : Enumeration) {key d : String} {names : List String}

theorem mem_list : d ∈ e.list key names ↔ d ∈ names := (e.perm key names).mem_iff

theorem nodup_list (distinct : names.Nodup) : (e.list key names).Nodup := (e.perm key names).nodup_iff.mpr distinct

theorem list_eq_nil : e.list key names = [] ↔ names = [] := by
  rw [← List.length_eq_zero_iff, (e.perm key names).length_eq, List.length_eq_zero_iff]

end Enumeration

namespace Graph

variable {g : Graph} {e : Enumeration}

/-! ### The order -/

def listed (lists : NameMap (List String)) (d : String) : List String := (NameMap.get? lists d).getD []

def enlist (key : String) (names : List String) (lists : NameMap (List String)) : NameMap (List String) :=
  names.foldl (fun lists d => NameMap.put lists d (listed lists d ++ [key])) lists

/-- For each node those that wait for it, set by set. -/
def followersBy (e : Enumeration) (waiting : Waiting) : NameMap (List String) :=
  waiting.foldl (fun lists (key, unmet) => enlist key (e.list key unmet) lists) []

/-- The ids of the nodes, each after the nodes it depends on, by counting. -/
def orderBy (e : Enumeration) (g : Graph) : Except Misuse (List String) :=
  let counts := NameMap.mapValues List.length g.internalDependencies
  let queue := NameMap.keys (counts.filter fun (_, count) => count = 0)
  let order := putAll (listed (followersBy e g.internalDependencies)) counts queue
  if order.length = counts.length then .ok order else .error .cycle

theorem listed_enlist {names : List String} (distinct : names.Nodup) (key d : String)
    (lists : NameMap (List String)) :
    listed (enlist key names lists) d = listed lists d ++ if d ∈ names then [key] else [] := by
  induction names generalizing lists with
  | nil => simp [enlist]
  | cons name rest ih =>
    obtain ⟨fresh, distinct⟩ := List.nodup_cons.mp distinct
    have later := ih distinct (NameMap.put lists name (listed lists name ++ [key]))
    rw [enlist, List.foldl_cons, ← enlist, later]
    by_cases same : d = name
    · subst same
      rw [if_neg fresh, if_pos List.mem_cons_self, List.append_nil, listed, NameMap.get?_put_self]
      rfl
    · rw [listed, NameMap.get?_put_of_ne _ _ same, ← listed]
      simp only [List.mem_cons, same, false_or]

/-- The nodes that wait for another one are listed in the order of the graph, whatever the sets are gone through
in. -/
theorem listed_followersBy (e : Enumeration) {waiting : Waiting} (once : ∀ entry ∈ waiting, entry.2.Nodup)
    (d : String) :
    listed (followersBy e waiting) d = NameMap.keys (waiting.filter fun entry => entry.2.contains d) := by
  have onto (lists : NameMap (List String)) :
      listed (waiting.foldl (fun lists (key, unmet) => enlist key (e.list key unmet) lists) lists) d =
        listed lists d ++ NameMap.keys (waiting.filter fun entry => entry.2.contains d) := by
    induction waiting generalizing lists with
    | nil => simp [NameMap.keys]
    | cons entry rest ih =>
      obtain ⟨here, there⟩ := List.forall_mem_cons.mp once
      rw [List.foldl_cons, ih there, listed_enlist (e.nodup_list here), List.append_assoc]
      refine congrArg _ ?_
      by_cases inside : d ∈ entry.2
      · rw [if_pos (e.mem_list.mpr inside), List.filter_cons_of_pos (by simpa using inside)]
        rfl
      · rw [if_neg (mt e.mem_list.mp inside), List.filter_cons_of_neg (by simpa using inside)]
        rfl
  exact onto []

theorem nodup_dependencies (n : Node) : n.dependencies.Nodup := by
  -- the names without repetitions are those of a map in which each of them has an entry
  have named : NameMap.keys (n.nodeRefs.map fun id => (id, ())) = n.nodeRefs := by
    rw [NameMap.keys, List.map_map]
    exact List.map_id _
  have once := NameMap.nodup_keys_ofList (n.nodeRefs.map fun id => (id, ()))
  rwa [NameMap.keys_ofList, named] at once

theorem nodup_internalDependencies (g : Graph) : ∀ entry ∈ g.internalDependencies, entry.2.Nodup := by
  intro entry member
  obtain ⟨⟨key, n⟩, _, rfl⟩ := List.mem_map.mp member
  exact (nodup_dependencies n).filter _

theorem tracks_internalDependencies (distinct : g.keys.Nodup) (e : Enumeration) :
    Tracks (listed (followersBy e g.internalDependencies)) (readyKeys g.internalDependencies)
      (stillWaiting g.internalDependencies) (NameMap.mapValues List.length g.internalDependencies) where
  distinct := by
    rw [(readyKeys_append_perm _).nodup_iff, keys_internalDependencies]
    exact distinct
  blocked := fun entry member => (mem_stillWaiting.mp member).2
  once := fun entry member => g.nodup_internalDependencies entry (mem_stillWaiting.mp member).1
  counted := by
    intro entry member
    have present := (mem_stillWaiting.mp member).1
    rw [NameMap.get?_mapValues, NameMap.get?_of_mem (keys_internalDependencies g ▸ distinct) present]
    rfl
  followed := by
    intro d _
    rw [listed_followersBy e g.nodup_internalDependencies, stillWaiting, List.filter_filter]
    refine congrArg _ (List.filter_congr fun entry _ => ?_)
    cases inside : entry.2.contains d with
    | false => rfl
    | true =>
      have waits : entry.2 ≠ [] := List.ne_nil_of_mem (by simpa using inside)
      simp [waits]

theorem orderBy_eq (distinct : g.keys.Nodup) (e : Enumeration) : g.orderBy e = g.topologicalOrder := by
  let start := g.internalDependencies
  have queue : NameMap.keys ((NameMap.mapValues List.length start).filter fun (_, count) => count = 0) =
      readyKeys start := by
    rw [NameMap.mapValues, List.filter_map, NameMap.keys, List.map_map, readyKeys]
    refine congrArg _ (List.filter_congr fun entry _ => ?_)
    rw [Bool.eq_iff_iff]
    exact decide_eq_true_iff.trans List.isEmpty_iff_length_eq_zero.symm
  have size : (NameMap.mapValues List.length start).length = start.length := List.length_map _
  have all := (drain_perm (readyKeys start) (stillWaiting start)).length_eq
  have parts := length_readyKeys_add start
  simp only [List.length_append, NameMap.keys, List.length_map] at all
  unfold orderBy topologicalOrder order?
  dsimp only
  rw [queue, size, putAll_eq_drain (tracks_internalDependencies distinct e)]
  cases result : drain (readyKeys start) (stillWaiting start) with
  | mk order left =>
    -- as many nodes are put as there are just if none is left
    rw [result] at all
    cases left with
    | nil =>
      have whole : order.length = start.length := by
        change order.length + 0 = _ at all
        omega
      exact if_pos whole
    | cons entry rest =>
      have short : order.length ≠ start.length := by
        change order.length + (rest.length + 1) = _ at all
        omega
      exact if_neg short

/-! ### The search -/

/-- The visited keys after a search from the ids on a stack, on which a set is put name by name. -/
def searchBy (e : Enumeration) (g : Graph) (visited stack : List String) : List String :=
  match stack with
  | [] => visited
  | id :: rest =>
    if _fresh : visited.contains id = true then searchBy e g visited rest
    else
      match _found : g.node? id with
      | none => searchBy e g visited rest
      | some n => searchBy e g (id :: visited) ((e.list id n.dependencies).reverse ++ rest)
termination_by ((g.unvisited visited).length, stack.length)
decreasing_by
  · exact Prod.Lex.right _ (by simp)
  · exact Prod.Lex.right _ (by simp)
  · exact Prod.Lex.left _ _ (length_unvisited_cons_lt _found (by simpa using _fresh))

/-- The node with an id and all nodes that it needs, by a stack. -/
def reachBy (e : Enumeration) (g : Graph) (id : String) : List String := g.searchBy e [] [id]

theorem mem_searchBy_iff {visited stack : List String} {key : String} (frontier : g.Frontier visited stack) :
    key ∈ g.searchBy e visited stack ↔ key ∈ g.reach visited stack := by
  fun_induction searchBy e g visited stack with
  | case1 visited => rw [reach]
  | case2 visited id rest seen ih =>
    have seen : id ∈ visited := by simpa using seen
    rw [ih (frontier.of_visited seen), reach_of_visited seen]
  | case3 visited id rest fresh absent ih =>
    rw [ih (frontier.of_dangling absent), reach_of_dangling (by simpa using fresh) absent]
  | case4 visited id rest fresh n found ih =>
    -- what is reached from the names on the stack does not depend on their order
    have same (d : String) :
        d ∈ (e.list id n.dependencies).reverse ++ rest ↔ d ∈ n.dependencies ++ rest := by
      rw [List.mem_append, List.mem_append, List.mem_reverse, e.mem_list]
    have onward := frontier.of_found found
    have stacked : g.Frontier (id :: visited) ((e.list id n.dependencies).reverse ++ rest) :=
      fun key member d needed => (onward key member d needed).imp_right (same d).mpr
    rw [ih stacked, reach_of_found (by simpa using fresh) found, mem_reach_iff stacked, mem_reach_iff onward]
    simp only [same]

theorem mem_reachBy_iff {id key : String} : key ∈ g.reachBy e id ↔ key ∈ g.reachableFrom id := by
  refine mem_searchBy_iff fun key member => ?_
  cases member

/-! ### The check -/

def danglingBy (e : Enumeration) (g : Graph) (entry : String × Node) : Option GraphDefect :=
  match e.list entry.1 (entry.2.dependencies.filter fun id => !g.has id) with
  | [] => none
  | missing => some (.dangling entry.2.id (sortNames missing))

def checkBy (e : Enumeration) (g : Graph) : List GraphDefect :=
  g.flagDefect.toList ++ g.resultDefect.toList ++ g.nodes.filterMap (g.danglingBy e) ++
    match g.orderBy e with
    | .ok _ => []
    | .error _ => [.cycle]

theorem danglingBy_eq (e : Enumeration) (entry : String × Node) : g.danglingBy e entry = g.danglingDefect entry.2 := by
  have sorted := sortNames_eq_of_perm (e.perm entry.1 (entry.2.dependencies.filter fun id => !g.has id))
  unfold danglingBy danglingDefect
  generalize missing : (entry.2.dependencies.filter fun id => !g.has id) = names at sorted ⊢
  cases names with
  | nil => rw [e.list_eq_nil.mpr rfl]
  | cons name rest =>
    split
    · rename_i nothing
      cases e.list_eq_nil.mp nothing
    · rw [sorted]

theorem checkBy_eq (distinct : g.keys.Nodup) (e : Enumeration) : g.checkBy e = g.check := by
  have dangling : g.nodes.filterMap (g.danglingBy e) = (NameMap.values g.nodes).filterMap g.danglingDefect := by
    rw [NameMap.values, List.filterMap_map]
    exact List.filterMap_congr fun entry _ => danglingBy_eq e entry
  rw [checkBy, check, dangling, orderBy_eq distinct, topologicalOrder, cycleDefect]
  cases g.order? <;> rfl

/-- However the sets of dependencies are gone through, a graph has the same order or none, the same nodes are
reached from an id, and the same is wrong with it: each time what it is for lists. -/
theorem queries_by_enumeration (distinct : g.keys.Nodup) (e₁ e₂ : Enumeration) :
    (g.orderBy e₁ = g.orderBy e₂ ∧ (∀ id key, key ∈ g.reachBy e₁ id ↔ key ∈ g.reachBy e₂ id) ∧
      g.checkBy e₁ = g.checkBy e₂) ∧
    g.orderBy e₁ = g.topologicalOrder ∧ (∀ id key, key ∈ g.reachBy e₁ id ↔ key ∈ g.reachableFrom id) ∧
      g.checkBy e₁ = g.check := by
  refine ⟨⟨?_, fun id key => ?_, ?_⟩, orderBy_eq distinct e₁, fun id key => mem_reachBy_iff, checkBy_eq distinct e₁⟩
  · rw [orderBy_eq distinct, orderBy_eq distinct]
  · rw [mem_reachBy_iff, mem_reachBy_iff]
  · rw [checkBy_eq distinct, checkBy_eq distinct]

def fork : Graph where
  nodes :=
    [("c", ⟨"c", .str "sum", [("data", .tuple [.nodeRef "a", .nodeRef "b", .nodeRef "z", .nodeRef "y"])], .null,
      true⟩),
    ("b", ⟨"b", .str "pi", [], .null, false⟩),
    ("a", ⟨"a", .str "e", [], .null, false⟩)]
  resultId := some "c"
  parameters := []

/-- Forwards and backwards the search comes to the nodes in different orders, and to the same ones. -/
theorem fork_by_enumeration : ∃ forwards backwards : Enumeration,
    fork.reachBy forwards "c" = ["a", "b", "c"] ∧ fork.reachBy backwards "c" = ["b", "a", "c"] ∧
    (∀ key, key ∈ fork.reachBy forwards "c" ↔ key ∈ fork.reachBy backwards "c") ∧
    fork.orderBy forwards = fork.orderBy backwards ∧ fork.orderBy forwards = .ok ["b", "a", "c"] ∧
    fork.checkBy forwards = fork.checkBy backwards ∧ fork.checkBy forwards = [.dangling "c" ["y", "z"]] := by
  let forwards : Enumeration := ⟨fun _ names => names, fun _ _ => .refl _⟩
  let backwards : Enumeration := ⟨fun _ names => names.reverse, fun _ names => names.reverse_perm⟩
  obtain ⟨⟨orders, reached, checks⟩, order, _, check⟩ :=
    queries_by_enumeration (g := fork) (by decide) forwards backwards
  have ordered : fork.topologicalOrder = .ok ["b", "a", "c"] := by
    rw [topologicalOrder_eq_ok]
    decide +kernel
  have checked : fork.check = [.dangling "c" ["y", "z"]] := by cbv
  exact ⟨forwards, backwards, by cbv, by cbv, reached "c", orders, order.trans ordered,
    checks, check.trans checked⟩

end Graph
end FormulaGraph
