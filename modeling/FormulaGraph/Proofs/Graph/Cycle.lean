import FormulaGraph.Proofs.Graph.Reach
import FormulaGraph.Proofs.Graph.Sorting
import Mathlib.Data.List.Perm.Subperm

/-!
# Orders and cycles

In an order each key has a lower place than the keys that depend on it, so no key depends on itself by
any number of steps. In a graph without cycles a key reaches all that its dependencies reach, and itself
besides: the number of keys that it reaches is a rank, so there is an order.
-/

namespace FormulaGraph.Graph

open Relation

variable {g : Graph} {order : List String} {key d : String}

def Cyclic (g : Graph) : Prop := ∃ key, TransGen g.DependsOn key key

/-! ### Without a cycle there is an order -/

/-- Without a cycle a key reaches more keys than what it depends on. -/
theorem length_reachableFrom_lt (acyclic : ¬ g.Cyclic) (needed : g.DependsOn key d) :
    (g.reachableFrom d).length < (g.reachableFrom key).length := by
  have fresh : key ∉ g.reachableFrom d := by
    intro back
    obtain ⟨_, path⟩ := mem_reachableFrom_iff.mp back
    exact acyclic ⟨key, TransGen.head' needed path⟩
  have distinct : (key :: g.reachableFrom d).Nodup :=
    List.nodup_cons.mpr ⟨fresh, nodup_reach List.nodup_nil⟩
  have inside : key :: g.reachableFrom d ⊆ g.reachableFrom key := by
    intro reached member
    rw [mem_reachableFrom_iff]
    rcases List.mem_cons.mp member with rfl | later
    · exact ⟨needed.has_left, .refl⟩
    · obtain ⟨_, path⟩ := mem_reachableFrom_iff.mp later
      exact ⟨needed.has_left, .head needed path⟩
  exact (distinct.subperm inside).length_le

theorem exists_order_of_acyclic (distinct : g.keys.Nodup) (acyclic : ¬ g.Cyclic) :
    ∃ order, g.order? = some order := by
  apply exists_order_of_rank fun key => (g.reachableFrom key).length
  intro entry member d inside
  obtain ⟨⟨key, n⟩, present, rfl⟩ := List.mem_map.mp member
  obtain ⟨listed, known⟩ := List.mem_filter.mp inside
  have found : g.node? key = some n := NameMap.get?_of_mem distinct present
  exact length_reachableFrom_lt acyclic ⟨n, found, listed, known⟩

/-! ### With an order there is no cycle -/

theorem idxOf_lt_of_order? (distinct : g.keys.Nodup) (found : g.order? = some order)
    (needed : g.DependsOn key d) : order.idxOf d < order.idxOf key := by
  have arranged := order?_perm found
  have put : key ∈ order := arranged.mem_iff.mpr (NameMap.has_iff.mp needed.has_left)
  obtain ⟨before, after, split⟩ := List.append_of_mem put
  obtain ⟨n, here, listed, known⟩ := needed
  have earlier : d ∈ before :=
    mem_before_of_order? distinct found split (NameMap.mem_of_get? here) d (List.mem_eraseDups.mp listed) known
  exact idxOf_lt_of_mem_before (arranged.nodup_iff.mpr distinct) split earlier

theorem idxOf_lt_of_path (distinct : g.keys.Nodup) (found : g.order? = some order)
    (path : TransGen g.DependsOn key d) : order.idxOf d < order.idxOf key := by
  induction path with
  | single needed => exact idxOf_lt_of_order? distinct found needed
  | tail _ needed ih => exact Nat.lt_trans (idxOf_lt_of_order? distinct found needed) ih

theorem acyclic_of_order? (distinct : g.keys.Nodup) (found : g.order? = some order) : ¬ g.Cyclic := by
  rintro ⟨key, path⟩
  exact Nat.lt_irrefl _ (idxOf_lt_of_path distinct found path)

theorem topologicalOrder_eq_ok : g.topologicalOrder = .ok order ↔ g.order? = some order := by
  unfold topologicalOrder
  cases g.order? <;> simp

theorem topologicalOrder_eq_error : g.topologicalOrder = .error .cycle ↔ g.order? = none := by
  unfold topologicalOrder
  cases g.order? <;> simp

/-- The nodes of a graph cannot be ordered just if there is a cycle among its keys. If there is none, the
order has every key once, each behind the keys that its node depends on; dangling references count for
nothing. -/
theorem topologicalOrder_by_cycle (distinct : g.keys.Nodup) :
    (g.topologicalOrder = .error .cycle ↔ ∃ key, TransGen g.DependsOn key key) ∧
    ((¬ ∃ key, TransGen g.DependsOn key key) → ∃ order, g.topologicalOrder = .ok order ∧
      order.Nodup ∧ (∀ key, key ∈ order ↔ g.has key = true) ∧
      ∀ key d, g.DependsOn key d → order.idxOf d < order.idxOf key) := by
  constructor
  · rw [topologicalOrder_eq_error]
    constructor
    · intro none
      by_contra acyclic
      obtain ⟨order, found⟩ := exists_order_of_acyclic distinct acyclic
      rw [none] at found
      cases found
    · intro cyclic
      cases found : g.order? with
      | none => rfl
      | some order => exact absurd cyclic (acyclic_of_order? distinct found)
  · intro acyclic
    obtain ⟨order, found⟩ := exists_order_of_acyclic distinct acyclic
    have arranged := order?_perm found
    refine ⟨order, topologicalOrder_eq_ok.mpr found, arranged.nodup_iff.mpr distinct, fun key => ?_,
      fun key d needed => idxOf_lt_of_order? distinct found needed⟩
    exact arranged.mem_iff.trans NameMap.has_iff.symm

/-- Three nodes in a row, of which the last one refers to an id. The second is kept under a key that is not
its own id. -/
def chain (last : String) : Graph where
  nodes :=
    [("a", ⟨"a", .str "add", [("x", .tuple [.null, .nodeRef "b"]), ("y", .nodeRef "b")], .null, true⟩),
    ("b", ⟨"a", .str "add", [("x", .nodeRef "c"), ("y", .nodeRef "nowhere")], .null, false⟩),
    ("c", ⟨"c", .str "absolute", [("x", .nodeRef last)], .null, false⟩)]
  resultId := some "a"
  parameters := []

theorem chain_ordered_when_open :
    (chain "a").topologicalOrder = .error .cycle ∧
    ∃ order, (chain "d").topologicalOrder = .ok order ∧ order.Nodup ∧
      order.idxOf "c" < order.idxOf "b" ∧ order.idxOf "b" < order.idxOf "a" := by
  have first (last : String) : (chain last).DependsOn "a" "b" := ⟨_, rfl, by decide, rfl⟩
  have second (last : String) : (chain last).DependsOn "b" "c" := ⟨_, rfl, by decide, rfl⟩
  constructor
  · have third : (chain "a").DependsOn "c" "a" := ⟨_, rfl, by decide, rfl⟩
    exact (topologicalOrder_by_cycle (by decide)).1.mpr
      ⟨"a", .tail (.tail (.single (first "a")) (second "a")) third⟩
  · have ordered : (chain "d").topologicalOrder = .ok ["c", "b", "a"] := by
      rw [topologicalOrder_eq_ok]
      decide +kernel
    have acyclic : ¬ ∃ key, TransGen (chain "d").DependsOn key key := by
      intro cyclic
      have refused := (topologicalOrder_by_cycle (by decide)).1.mpr cyclic
      rw [ordered] at refused
      cases refused
    obtain ⟨order, found, distinct, _, behind⟩ := (topologicalOrder_by_cycle (by decide)).2 acyclic
    exact ⟨order, found, distinct, behind _ _ (second "d"), behind _ _ (first "d")⟩

end FormulaGraph.Graph
