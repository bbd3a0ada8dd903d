import FormulaGraph.Proofs.Graph.Order

/-!
# What an order is

The search puts what was ready or waiting, and leaves the rest: nothing is lost and nothing is put
twice. A node that had to wait is put after all that it waited for. So an order of a graph is an
arrangement of its keys in which each node stands after its dependencies inside the graph.
-/

namespace FormulaGraph.Graph

theorem readyKeys_append_perm (waiting : Waiting) :
    (readyKeys waiting ++ NameMap.keys (stillWaiting waiting)).Perm (NameMap.keys waiting) := by
  rw [readyKeys, stillWaiting, NameMap.keys, ← List.map_append]
  exact (List.filter_append_perm (fun entry => entry.2.isEmpty) waiting).map Prod.fst

theorem keys_settle (id : String) (waiting : Waiting) :
    NameMap.keys (settle id waiting) = NameMap.keys waiting := by
  rw [NameMap.keys, settle, List.map_map]
  rfl

/-- What a step of the search makes ready or leaves waiting is what was waiting before it. -/
theorem step_perm (id : String) (rest : List String) (waiting : Waiting) :
    (rest ++ readyKeys (settle id waiting) ++
      NameMap.keys (stillWaiting (settle id waiting))).Perm (rest ++ NameMap.keys waiting) := by
  rw [List.append_assoc, ← keys_settle id waiting]
  exact (readyKeys_append_perm _).append_left rest

theorem drain_perm (ready : List String) (waiting : Waiting) :
    ((drain ready waiting).1 ++ NameMap.keys (drain ready waiting).2).Perm
      (ready ++ NameMap.keys waiting) := by
  induction ready, waiting using drain.induct with
  | case1 waiting =>
    rw [drain]
  | case2 waiting id rest settled _ _ _ ih =>
    rw [drain]
    exact (ih.trans (step_perm id rest waiting)).cons id

/-- What waited is put after all that it waited for. -/
theorem mem_before_of_drain {ready : List String} {waiting : Waiting}
    (distinct : (ready ++ NameMap.keys waiting).Nodup) {before after : List String} {key : String}
    (split : (drain ready waiting).1 = before ++ key :: after) {unmet : List String}
    (waits : (key, unmet) ∈ waiting) : ∀ d ∈ unmet, d ∈ before := by
  -- the nodes that are ready are none of those that wait, before and after each step
  induction ready, waiting using drain.induct generalizing before unmet with
  | case1 waiting =>
    rw [drain] at split
    simp at split
  | case2 waiting id rest settled _ _ _ ih =>
    rw [drain] at split
    simp only [List.cons_append, List.nodup_cons] at distinct
    rcases List.cons_eq_append_iff.mp split with ⟨_, first⟩ | ⟨earlier, rfl, later⟩
    · obtain ⟨rfl, _⟩ := List.cons.inj first
      exact absurd (List.mem_append_right _ (NameMap.mem_keys waits)) distinct.1
    · intro d inside
      by_cases same : d = id
      · exact same ▸ List.mem_cons_self
      · have kept : d ∈ unmet.filter (· ≠ id) := List.mem_filter.mpr ⟨inside, by simpa using same⟩
        have settled : (key, unmet.filter (· ≠ id)) ∈ settle id waiting :=
          mem_settle.mpr ⟨unmet, waits, rfl⟩
        have still := mem_stillWaiting.mpr ⟨settled, List.ne_nil_of_mem kept⟩
        have apart := (step_perm id rest waiting).nodup_iff.mpr distinct.2
        exact List.mem_cons_of_mem _ (ih apart later still d kept)

theorem keys_internalDependencies (g : Graph) : NameMap.keys g.internalDependencies = g.keys := by
  rw [NameMap.keys, internalDependencies, List.map_map]
  rfl

theorem drain_of_order? {g : Graph} {order : List String} (found : g.order? = some order) :
    drain (readyKeys g.internalDependencies) (stillWaiting g.internalDependencies) = (order, []) := by
  unfold order? at found
  dsimp only at found
  split at found
  · rename_i result
    cases found
    exact result
  · cases found

/-- An order puts every key, and each as often as the graph has it. -/
theorem order?_perm {g : Graph} {order : List String} (found : g.order? = some order) :
    order.Perm g.keys := by
  have all := drain_perm (readyKeys g.internalDependencies) (stillWaiting g.internalDependencies)
  rw [drain_of_order? found] at all
  have start := readyKeys_append_perm g.internalDependencies
  rw [keys_internalDependencies] at start
  simpa [NameMap.keys] using all.trans start

/-- In an order a node stands after the nodes of the graph that it refers to. -/
theorem mem_before_of_order? {g : Graph} (distinct : g.keys.Nodup) {order : List String}
    (found : g.order? = some order) {before after : List String} {key : String}
    (split : order = before ++ key :: after) {n : Node} (member : (key, n) ∈ g.nodes) :
    ∀ d ∈ n.nodeRefs, g.has d = true → d ∈ before := by
  intro d inside present
  have needed : d ∈ n.dependencies.filter g.has :=
    List.mem_filter.mpr ⟨List.mem_eraseDups.mpr inside, present⟩
  have listed : (key, n.dependencies.filter g.has) ∈ g.internalDependencies :=
    List.mem_map.mpr ⟨(key, n), member, rfl⟩
  have waits := mem_stillWaiting.mpr ⟨listed, List.ne_nil_of_mem needed⟩
  have start := readyKeys_append_perm g.internalDependencies
  rw [keys_internalDependencies] at start
  have put := (congrArg Prod.fst (drain_of_order? found)).trans split
  exact mem_before_of_drain (start.nodup_iff.mpr distinct) put waits d needed

end FormulaGraph.Graph
