import FormulaGraph.Proofs.Formula.Faults
import FormulaGraph.Proofs.Builder.Snapshot
import FormulaGraph.Proofs.Graph.Cycle

/-!
# Every node of a formula is consumed once

Of the nodes that a formula without other nodes is lowered to, each is an operand of exactly one of the
others, and only the last one is what the formula comes to: the references in the new nodes, with those of
the lowered value, are the new ids, each once. So nothing is computed in vain or twice, and the result of a
graph that has been made by one formula needs all of its nodes.
-/

namespace FormulaGraph

open Build Relation
open scoped List

def references (nodes : NameMap Node) : List String := nodes.flatMap fun entry => entry.2.nodeRefs

theorem references_append (nodes added : NameMap Node) :
    references (nodes ++ added) = references nodes ++ references added :=
  List.flatMap_append

theorem references_unflagged (nodes : NameMap Node) :
    references (NameMap.mapValues Node.unflagged nodes) = references nodes := by
  rw [references, references, NameMap.mapValues, List.flatMap_map]
  rfl

/-- Each of some nodes is referred to once, by another one of them or from outside. -/
def Consumed (outside : List String) (added : NameMap Node) : Prop :=
  outside ++ references added ~ NameMap.keys added

namespace Consumed

variable {xs ys : List String} {early late : NameMap Node} {n : Node}

theorem nil : Consumed [] [] := List.Perm.refl []

theorem append (first : Consumed xs early) (second : Consumed ys late) :
    Consumed (xs ++ ys) (early ++ late) := by
  have shuffled : ys ++ (references early ++ references late) ~
      references early ++ (ys ++ references late) := by
    rw [← List.append_assoc, ← List.append_assoc]
    exact List.perm_append_comm.append_right _
  calc xs ++ ys ++ references (early ++ late)
      _ = xs ++ (ys ++ (references early ++ references late)) := by
        rw [references_append, List.append_assoc]
      _ ~ xs ++ (references early ++ (ys ++ references late)) := shuffled.append_left xs
      _ = (xs ++ references early) ++ (ys ++ references late) := (List.append_assoc ..).symm
      _ ~ NameMap.keys early ++ NameMap.keys late := List.Perm.append first second
      _ = NameMap.keys (early ++ late) := (NameMap.keys_append early late).symm

theorem congr (consumed : Consumed xs early)
    (same : NameMap.mapValues Node.unflagged late = NameMap.mapValues Node.unflagged early) :
    Consumed xs late := by
  have keys : NameMap.keys late = NameMap.keys early := by
    simpa only [NameMap.keys_mapValues] using congrArg NameMap.keys same
  have refs : references late = references early := by
    simpa only [references_unflagged] using congrArg references same
  rw [Consumed, keys, refs]
  exact consumed

/-- A node takes over the references from outside, and is the only one that is referred to from there. -/
theorem node (consumed : Consumed xs early) (refs : n.nodeRefs = xs) :
    Consumed [n.id] (early ++ [(n.id, n)]) := by
  have last : references [(n.id, n)] = xs := by
    rw [← refs]
    exact List.append_nil _
  have inner : references early ++ xs ~ NameMap.keys early := List.perm_append_comm.trans consumed
  rw [Consumed, references_append, NameMap.keys_append, last]
  exact List.perm_append_comm.trans (inner.append_right [n.id])

end Consumed

namespace Formula

variable {ctx : Context} {b b' c : Builder} {v : Value} {xs ys : List String}

/-- What a lowering adds is consumed, with some references from outside. -/
def AddsConsumed (b b' : Builder) (outside : List String) : Prop :=
  ∃ added, b'.nodes = b.nodes ++ added ∧ Consumed outside added

theorem AddsConsumed.nothing (nodes : b'.nodes = b.nodes) : AddsConsumed b b' [] :=
  ⟨[], by rw [nodes, List.append_nil], .nil⟩

theorem AddsConsumed.trans (first : AddsConsumed b b' xs) (second : AddsConsumed b' c ys) :
    AddsConsumed b c (xs ++ ys) := by
  obtain ⟨early, nodes, consumed⟩ := first
  obtain ⟨late, nodes', consumed'⟩ := second
  exact ⟨early ++ late, by rw [nodes', nodes, List.append_assoc], consumed.append consumed'⟩

theorem AddsConsumed.node (before : AddsConsumed b b' xs) {n : Node} (nodes : c.nodes = b'.nodes ++ [(n.id, n)])
    (refs : n.nodeRefs = xs) : AddsConsumed b c [n.id] := by
  obtain ⟨early, nodes', consumed⟩ := before
  exact ⟨early ++ [(n.id, n)], by rw [nodes, nodes', List.append_assoc], consumed.node refs⟩

/-! ### References of new nodes -/

theorem nodeRefs_of_resolve {name : String} (nameless : Expr.identifierNodeIds name = [])
    (resolved : resolve ctx name b = .ok v b') : v.nodeRefs = [] := by
  rcases resolve_ok resolved with ⟨value, _, rfl⟩ | ⟨id, form, _, rfl⟩ |
    ⟨_, _, _, _, _, _, _, rfl⟩ | ⟨_, rfl⟩
  · rfl
  · exact absurd nameless (nodeIds_of_form form)
  · rfl
  · rfl

theorem nodeRefs_zip {n : Node} {names : List String} {values : List Value}
    (arguments : n.arguments = names.zip values) (enough : values.length ≤ names.length) :
    n.nodeRefs = values.flatMap Value.nodeRefs := by
  have second : (names.zip values).map Prod.snd = values := List.map_snd_zip enough
  calc n.nodeRefs
      _ = (names.zip values).flatMap fun entry => entry.2.nodeRefs := by rw [Node.nodeRefs, arguments]
      _ = ((names.zip values).map Prod.snd).flatMap Value.nodeRefs := (List.flatMap_map ..).symm
      _ = values.flatMap Value.nodeRefs := by rw [second]

theorem consumed_of_lower (named : b.catalog.NamesFormals) {e : Expr} (nameless : e.nodeIds = [])
    (lowered : lower ctx e b = .ok v b') : AddsConsumed b b' v.nodeRefs := by
  let P (e : Expr) (b : Builder) (v : Value) (b' : Builder) : Prop :=
    b.catalog.NamesFormals → e.nodeIds = [] → AddsConsumed b b' v.nodeRefs
  let Q (args : List Expr) (b : Builder) (values : List Value) (b' : Builder) : Prop :=
    b.catalog.NamesFormals → Expr.nodeIdsAll args = [] → AddsConsumed b b' (values.flatMap Value.nodeRefs)
  refine lower_ok_induct (P := P) (Q := Q) ?number ?identifier ?group ?nil ?cons ?call ?binary ?unary
    ?folded ?negated lowered named nameless
  case number => exact fun n b named nameless => .nothing rfl
  case identifier =>
    intro name b v b' resolved named nameless
    rw [nodeRefs_of_resolve nameless resolved]
    exact .nothing (nodes_of_resolve resolved)
  case group => exact fun inner b v b' lowered ih => ih
  case nil => exact fun b named nameless => .nothing rfl
  case cons =>
    intro arg rest b v c values b' first second ih later named nameless
    obtain ⟨here, there⟩ := List.append_eq_nil_iff.mp nameless
    have catalog := (extends_of_lower first).catalog
    exact (ih named here).trans (later (by rwa [catalog]) there)
  case call =>
    intro function args b values c v b' each created ih named nameless
    have catalog := (extends_of_lowerAll each).catalog
    obtain ⟨n, definition, rfl, nodes, _, _, few, _, arguments⟩ :=
      callNode_node (by rwa [catalog]) (isArgument_of_lowerAll each) created
    have enough : values.length ≤ definition.parameterNames.length := by
      rw [Operation.parameterNames, List.length_map]
      exact Nat.not_lt.mp few
    exact (ih named nameless).node nodes (nodeRefs_zip arguments enough)
  case binary =>
    intro operator left right b u c v d w b' first second created ihl ihr named nameless
    obtain ⟨here, there⟩ := List.append_eq_nil_iff.mp nameless
    have before := extends_of_lower first
    have after := extends_of_lower second
    obtain ⟨n, _, _, _, x, y, _, rfl, nodes, _, _, _, _, _, arguments⟩ :=
      operatorNode_node (by rwa [after.catalog, before.catalog]) (isArgument_of_lower first)
        (isArgument_of_lower second) created
    have refs : n.nodeRefs = u.nodeRefs ++ v.nodeRefs := by
      simp [Node.nodeRefs, arguments]
    exact ((ihl named here).trans (ihr (by rwa [before.catalog]) there)).node nodes refs
  case unary => exact fun operator operand b v b' other lowered ih => ih
  case folded => exact fun operand b n b' lowered ih => ih
  case negated =>
    intro operand b v c w b' other first created ih named nameless
    have catalog := (extends_of_lower first).catalog
    obtain ⟨n, _, _, _, x, y, _, rfl, nodes, _, _, _, _, _, arguments⟩ :=
      operatorNode_node (by rwa [catalog]) rfl (isArgument_of_lower first) created
    have refs : n.nodeRefs = v.nodeRefs := by
      simp [Node.nodeRefs, arguments, Value.nodeRefs]
    exact (ih named nameless).node nodes refs

/-! ### Compiling -/

theorem consumed_of_compileExpr (h : b.WellFormed) (named : b.catalog.NamesFormals) {e : Expr}
    (nameless : e.nodeIds = []) {mark : Bool} {n : Node}
    (compiled : compileExpr ctx e mark b = .ok (.node n) c) :
    Consumed [n.id] (c.nodes.drop b.nodes.length) := by
  obtain ⟨v, d, lowered, finished⟩ := bind_ok compiled
  obtain ⟨added, nodes, consumed⟩ := consumed_of_lower named nameless lowered
  rcases nodeRef_or_not v with ⟨id, rfl⟩ | other
  · have sound := Builder.conduct_wellFormed.lower ctx e b h
    rw [final_of_ok lowered] at sound
    obtain ⟨m, member⟩ := NameMap.exists_of_mem_keys (consumed.subset List.mem_cons_self)
    have present : (id, m) ∈ d.nodes := by
      rw [nodes]
      exact List.mem_append_right _ member
    have plain : m.isResult = false := by
      obtain ⟨added', nodes', plain⟩ := (extends_of_lower lowered).nodes
      rw [nodes, List.append_cancel_left_eq] at nodes'
      exact plain _ (nodes' ▸ member)
    obtain ⟨c', done, kept, _⟩ := finish_nodeRef sound (NameMap.get?_of_mem sound.distinct present) plain mark
    rw [done] at finished
    cases finished
    have same : m.id = id := sound.keyed _ present
    rw [show ({ m with isResult := mark } : Node).id = id from same]
    refine consumed.congr ?_
    have behind : d.nodes.drop b.nodes.length = added := by rw [nodes, List.drop_left]
    rw [← behind, NameMap.mapValues, NameMap.mapValues, List.map_drop, List.map_drop]
    exact congrArg (List.drop b.nodes.length) kept
  · -- without a reference to a node the value itself is given, and no node is an argument
    have argument := isArgument_of_lower lowered
    rw [finish_of_other other] at finished
    split at finished
    · cases finished
    · obtain ⟨rfl, _⟩ := pure_ok finished
      cases argument

theorem consumed_of_compile (h : b.WellFormed) (named : b.catalog.NamesFormals) {source : Source} {e : Expr}
    (read : source.parse = .ok (.expr e)) (nameless : e.nodeIds = []) {outer : List Scope} {options : Options}
    {n : Node} (compiled : compile outer source options b = .ok (.node n) b') :
    Consumed [n.id] (b'.nodes.drop b.nodes.length) := by
  obtain ⟨start, nodes, catalog, result, succeeds, _⟩ := run_of_compile h (accept_of_compile read compiled) outer options
  obtain ⟨c, ran, kept⟩ := succeeds _ b' compiled
  rw [kept, ← nodes]
  exact consumed_of_compileExpr (h.congr nodes catalog result) (by rwa [catalog]) nameless ran

end Formula

/-! ### The graph -/

namespace Consumed

variable {b : Builder} {id key : String} {added : NameMap Node}

theorem count (consumed : Consumed [id] added) (distinct : (NameMap.keys added).Nodup) :
    id ∈ NameMap.keys added ∧ (references added).count id = 0 ∧
      ∀ key ∈ NameMap.keys added, key ≠ id → (references added).count key = 1 := by
  have counts (key : String) : ([id] ++ references added).count key = (NameMap.keys added).count key :=
    consumed.count_eq key
  have present : id ∈ NameMap.keys added := consumed.subset List.mem_cons_self
  refine ⟨present, ?_, fun key member other => ?_⟩
  · have once := counts id
    rw [List.count_eq_one_of_mem distinct present] at once
    simpa using once
  · have once := counts key
    rw [List.count_eq_one_of_mem distinct member] at once
    simpa [other.symm] using once

/-- A node that is not referred to from outside is referred to by another one. -/
theorem consumer (consumed : Consumed [id] added) (member : key ∈ NameMap.keys added) (other : key ≠ id) :
    ∃ entry ∈ added, key ∈ entry.2.nodeRefs := by
  rcases List.mem_cons.mp (consumed.symm.subset member) with same | inside
  · exact absurd same other
  · exact List.mem_flatMap.mp inside

/-- The one node that is referred to from outside leads to all others: the consumers of a node stand behind
it, so they are met before the nodes are at an end. -/
theorem leadsTo (consumed : Consumed [id] added) (h : b.WellFormed) (listed : added ⊆ b.nodes)
    (member : key ∈ NameMap.keys added) : b.toGraph.LeadsTo id key := by
  have inside {key : String} (member : key ∈ NameMap.keys added) : key ∈ NameMap.keys b.nodes := by
    obtain ⟨n, present⟩ := NameMap.exists_of_mem_keys member
    exact NameMap.mem_keys (listed present)
  refine ⟨NameMap.has_iff.mpr (inside (consumed.subset List.mem_cons_self)), ?_⟩
  induction places : (NameMap.keys b.nodes).length - (NameMap.keys b.nodes).idxOf key
    using Nat.strong_induction_on generalizing key with
  | _ places ih =>
    subst places
    by_cases other : key = id
    · subst other
      exact .refl
    · obtain ⟨⟨consumer, n⟩, present, refers⟩ := consumed.consumer member other
      have later := Builder.idxOf_lt_of_nodeRefs h (listed present) refers
      have bound := List.idxOf_lt_length_of_mem (inside member)
      dsimp only at later
      have found : b.toGraph.node? consumer = some n := NameMap.get?_of_mem h.distinct (listed present)
      refine .tail (ih _ (by omega) (NameMap.mem_keys present) rfl) ⟨n, found, ?_, ?_⟩
      · exact List.mem_eraseDups.mpr refers
      · exact NameMap.has_iff.mpr (inside member)

/-- Where there are no other nodes, the node that is referred to from outside is the last in every order. -/
theorem order_ends (consumed : Consumed [id] b.nodes) (h : b.WellFormed) {order : List String}
    (ordered : b.toGraph.order? = some order) : ∃ before, order = before ++ [id] := by
  have perm : order ~ NameMap.keys b.nodes := Graph.order?_perm ordered
  have present : id ∈ order := perm.symm.subset (consumed.subset List.mem_cons_self)
  rcases List.eq_nil_or_concat order with rfl | ⟨before, last, rfl⟩
  · cases present
  · rw [List.concat_eq_append] at ordered perm ⊢
    by_cases other : last = id
    · exact ⟨before, by rw [other]⟩
    · -- else a consumer of the last node stands before it, and behind it as well
      have listed : last ∈ NameMap.keys b.nodes := perm.subset (by simp)
      obtain ⟨⟨consumer, n⟩, member, refers⟩ := consumed.consumer listed other
      have placed : consumer ∈ before ++ [last] := perm.symm.subset (NameMap.mem_keys member)
      obtain ⟨front, after, split⟩ := List.append_of_mem placed
      have keyed : b.toGraph.keys.Nodup := h.distinct
      have early := Graph.mem_before_of_order? keyed ordered split member last refers
        (NameMap.has_iff.mpr listed)
      have late : last ∈ consumer :: after := by
        have ends := congrArg List.getLast? split
        rw [List.getLast?_concat, List.getLast?_append_cons] at ends
        exact List.mem_of_getLast? ends.symm
      have distinct := perm.symm.nodup h.distinct
      rw [split, List.nodup_append] at distinct
      exact absurd rfl (distinct.2.2 last early last late)

end Consumed

open Formula

/-- Of the nodes that a formula without other nodes adds, each but the one it comes to is an operand once, and
this one never; it needs all of them. So a graph that has been made by one formula is needed by its result as a
whole, is ordered with the result at its end, and has no defects. -/
theorem Builder.Reachable.compile_consumes {b : Builder} (reachable : b.Reachable)
    (named : b.catalog.NamesFormals) {source : Source} {e : Expr} (read : source.parse = .ok (.expr e))
    (nameless : e.nodeIds = []) {outer : List Scope} {options : Options} {n : Node} {b' : Builder}
    (compiled : compile outer source options b = .ok (.node n) b') :
    ∃ added, b'.nodes.drop b.nodes.length = added ∧ n.id ∈ NameMap.keys added ∧
      (references added).count n.id = 0 ∧
      (∀ key ∈ NameMap.keys added, key ≠ n.id → (references added).count key = 1) ∧
      (∀ key ∈ NameMap.keys added, key ∈ b'.toGraph.reachableFrom n.id) ∧
      (b.nodes = [] → options.mark = true → b'.resultId = some n.id ∧
        (∀ key, key ∈ b'.toGraph.reachableFromResult ↔ b'.has key = true) ∧
        (∃ before, b'.toGraph.topologicalOrder = .ok (before ++ [n.id])) ∧ b'.toGraph.check = []) := by
  have sound := conduct_wellFormed.compile outer source options b reachable.wellFormed
  rw [final_of_ok compiled] at sound
  have consumed := consumed_of_compile reachable.wellFormed named read nameless compiled
  have listed : b'.nodes.drop b.nodes.length ⊆ b'.nodes := List.drop_subset _ _
  have distinct : (NameMap.keys (b'.nodes.drop b.nodes.length)).Nodup :=
    sound.distinct.sublist ((List.drop_sublist _ _).map _)
  obtain ⟨present, never, once⟩ := consumed.count distinct
  refine ⟨_, rfl, present, never, once, fun key member => ?_, fun fresh marked => ?_⟩
  · exact Graph.mem_reachableFrom_iff.mpr (consumed.leadsTo sound listed member)
  · have settled := settled_compile reachable.wellFormed outer source options
    rw [compiled, marked] at settled
    obtain ⟨_, ⟨unmarked, _⟩ | ⟨_, m, same, result, _⟩⟩ := settled
    · cases unmarked
    cases same
    rw [fresh, List.length_nil, List.drop_zero] at consumed
    obtain ⟨order, ordered⟩ := exists_order sound
    obtain ⟨before, rfl⟩ := consumed.order_ends sound ordered
    refine ⟨result, fun key => ?_, ⟨before, Graph.topologicalOrder_eq_ok.mpr ordered⟩, ?_⟩
    · have from_ : b'.toGraph.reachableFromResult = b'.toGraph.reachableFrom n.id := by
        rw [Graph.reachableFromResult, show b'.toGraph.resultId = some n.id from result]
      rw [from_, Graph.mem_reachableFrom_iff]
      constructor
      · exact Graph.LeadsTo.has_right
      · exact fun there => consumed.leadsTo sound (List.Subset.refl _) (NameMap.has_iff.mp there)
    · rw [check_toGraph sound, result]

theorem sumOfProducts_compile_consumes : ∃ b n b', b.Reachable ∧ b.catalog.NamesFormals ∧ sumOfProducts.nodeIds = [] ∧
    compile [] (.expr sumOfProducts) ⟨true, none, .index⟩ b = .ok (.node n) b' ∧
    NameMap.keys b'.nodes = ["multiply1", "multiply2", "add1"] ∧ n.id = "add1" ∧
    (references b'.nodes).count "multiply1" = 1 ∧ (references b'.nodes).count "multiply2" = 1 ∧
    (∃ before, b'.toGraph.topologicalOrder = .ok (before ++ ["add1"])) ∧ b'.toGraph.check = [] := by
  have reachable : (Builder.empty Session.sampleCatalog none).Reachable :=
    ⟨_, 0, Session.Reachable.start.playAll [.begin Session.sampleCatalog none], rfl⟩
  have named : (Builder.empty Session.sampleCatalog none).catalog.NamesFormals := by decide +kernel
  have nameless : sumOfProducts.nodeIds = [] := by decide
  obtain ⟨n, b', compiled, keys, id⟩ : ∃ n b',
      compile [] (.expr sumOfProducts) ⟨true, none, .index⟩ (.empty Session.sampleCatalog none) = .ok (.node n) b' ∧
      NameMap.keys b'.nodes = ["multiply1", "multiply2", "add1"] ∧ n.id = "add1" :=
    ⟨_, _, rfl, rfl, rfl⟩
  obtain ⟨added, rfl, _, _, once, _, alone⟩ := reachable.compile_consumes named rfl nameless compiled
  rw [show (Builder.empty Session.sampleCatalog none).nodes = [] from rfl, List.length_nil, List.drop_zero,
    keys, id] at once
  rw [id] at alone
  obtain ⟨_, _, last, sound⟩ := alone rfl rfl
  exact ⟨_, n, b', reachable, named, nameless, compiled, keys, id, once _ (by decide) (by decide),
    once _ (by decide) (by decide), last, sound⟩

end FormulaGraph
