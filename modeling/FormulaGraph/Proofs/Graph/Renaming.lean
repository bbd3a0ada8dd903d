import FormulaGraph.Proofs.Graph.Argument
import FormulaGraph.Proofs.NameMap
import Mathlib.Data.List.Nodup

/-!
# Nodes under other ids

Nodes that refer only to each other can be given other ids. `Copies` says that one list of nodes is
another one of which each id is replaced by the id that stands in its place; copies can be put behind
one another, and nodes that are alike can be put behind copies.
-/

namespace FormulaGraph

namespace Value

variable {ρ τ : String → String}

mutual

/-- An argument with other ids in its references. Callbacks are graphs of their own. -/
def rename (ρ : String → String) : Value → Value
  | .nodeRef id => .nodeRef (ρ id)
  | .tuple items => .tuple (renameAll ρ items)
  | other => other

def renameAll (ρ : String → String) : List Value → List Value
  | [] => []
  | item :: rest => rename ρ item :: renameAll ρ rest

end

theorem renameAll_eq (ρ : String → String) (items : List Value) :
    renameAll ρ items = items.map (rename ρ) := by
  induction items with
  | nil => rfl
  | cons item rest ih => rw [renameAll, ih, List.map_cons]

theorem isArgument_rename (ρ : String → String) (v : Value) : (v.rename ρ).isArgument = v.isArgument := by
  induction v using Value.induct with
  | tuple items ih =>
    rw [rename, isArgument, isArgument, Bool.eq_iff_iff, areArguments_iff, areArguments_iff, renameAll_eq]
    simp only [List.forall_mem_map]
    exact forall₂_congr fun item member => by rw [ih item member]
  | scalar | list | obj | nodeRef | paramRef | element | param | node | graph | callback | expr =>
    simp only [rename, isArgument]

theorem nodeRefs_rename (ρ : String → String) (v : Value) : (v.rename ρ).nodeRefs = v.nodeRefs.map ρ := by
  induction v using Value.induct with
  | tuple items ih =>
    rw [rename, nodeRefs, nodeRefs, nodeRefsAll_eq, nodeRefsAll_eq, renameAll_eq, List.flatMap_map,
      List.map_flatMap]
    exact List.flatMap_congr ih
  | scalar | list | obj | nodeRef | paramRef | element | param | node | graph | callback | expr =>
    simp only [rename, nodeRefs, List.map_nil, List.map_cons]

theorem rename_id (v : Value) : v.rename id = v := by
  induction v using Value.induct with
  | tuple items ih =>
    rw [rename, renameAll_eq, Value.tuple.injEq]
    exact (List.map_congr_left ih).trans (List.map_id' items)
  | scalar | list | obj | nodeRef | paramRef | element | param | node | graph | callback | expr =>
    simp only [rename, id_eq]

theorem rename_congr {v : Value} (same : ∀ id ∈ v.nodeRefs, ρ id = τ id) : v.rename ρ = v.rename τ := by
  induction v using Value.induct with
  | tuple items ih =>
    rw [nodeRefs, nodeRefsAll_eq] at same
    rw [rename, rename, renameAll_eq, renameAll_eq, Value.tuple.injEq]
    refine List.map_congr_left fun item member => ih item member fun id inside => ?_
    exact same id (List.mem_flatMap.mpr ⟨item, member, inside⟩)
  | nodeRef id => rw [rename, rename, same id (by simp [nodeRefs])]
  | scalar | list | obj | paramRef | element | param | node | graph | callback | expr =>
    simp only [rename]

theorem rename_of_nodeRefs {v : Value} (none : v.nodeRefs = []) : v.rename ρ = v := by
  rw [rename_congr (τ := id) (by simp [none]), rename_id]

end Value

namespace Node

variable {ρ τ : String → String}

def rename (ρ : String → String) (n : Node) : Node :=
  { n with id := ρ n.id, arguments := NameMap.mapValues (Value.rename ρ) n.arguments }

theorem arguments_rename_congr {n : Node} (same : ∀ id ∈ n.nodeRefs, ρ id = τ id) :
    NameMap.mapValues (Value.rename ρ) n.arguments = NameMap.mapValues (Value.rename τ) n.arguments := by
  refine List.map_congr_left fun entry member => ?_
  obtain ⟨name, argument⟩ := entry
  have alike : argument.rename ρ = argument.rename τ := Value.rename_congr fun id inside =>
    same id (List.mem_flatMap.mpr ⟨(name, argument), member, inside⟩)
  exact congrArg (Prod.mk name) alike

theorem rename_congr {n : Node} (own : ρ n.id = τ n.id) (same : ∀ id ∈ n.nodeRefs, ρ id = τ id) :
    n.rename ρ = n.rename τ := by
  rw [rename, rename, own, arguments_rename_congr same]

end Node

/-- Nodes by id with other ids, also in their references. -/
def renameNodes (ρ : String → String) (nodes : NameMap Node) : NameMap Node :=
  nodes.map fun entry => (ρ entry.1, entry.2.rename ρ)

/-- Nodes stand under their own ids, each once, and refer only to each other. -/
structure SelfContained (nodes : NameMap Node) : Prop where
  keyed : ∀ entry ∈ nodes, entry.2.id = entry.1
  distinct : (NameMap.keys nodes).Nodup
  inside : ∀ entry ∈ nodes, ∀ id ∈ entry.2.nodeRefs, id ∈ NameMap.keys nodes

theorem renameNodes_congr {ρ τ : String → String} {nodes : NameMap Node} (contained : SelfContained nodes)
    (same : ∀ id ∈ NameMap.keys nodes, ρ id = τ id) : renameNodes ρ nodes = renameNodes τ nodes := by
  refine List.map_congr_left fun entry member => ?_
  have here := same entry.1 (NameMap.mem_keys member)
  have own : ρ entry.2.id = τ entry.2.id := by rw [contained.keyed entry member, here]
  rw [here, Node.rename_congr own fun id found => same id (contained.inside entry member id found)]

/-! ### Ids by their places -/

/-- The id that stands among the second nodes where an id first stands among the first ones. -/
def correspond (xs ys : NameMap Node) (id : String) : String :=
  (NameMap.get? ((NameMap.keys xs).zip (NameMap.keys ys)) id).getD id

section Correspond

variable {xs ys : NameMap Node} {id : String}

theorem get?_zip_eq_none {first second : List String} (absent : id ∉ first) :
    NameMap.get? (first.zip second) id = none :=
  NameMap.get?_eq_none_iff.mpr fun listed =>
    absent ((NameMap.keys_zip_sublist first second).subset listed)

theorem exists_get?_zip {first second : List String} (same : first.length = second.length)
    (present : id ∈ first) : ∃ target, NameMap.get? (first.zip second) id = some target := by
  have keys : NameMap.keys (first.zip second) = first := List.map_fst_zip (by omega)
  exact Option.isSome_iff_exists.mp (NameMap.has_iff.mpr (keys.symm ▸ present))

theorem correspond_mem (same : (NameMap.keys xs).length = (NameMap.keys ys).length)
    (present : id ∈ NameMap.keys xs) : correspond xs ys id ∈ NameMap.keys ys := by
  obtain ⟨target, found⟩ := exists_get?_zip same present
  rw [correspond, found]
  exact (List.of_mem_zip (NameMap.mem_of_get? found)).2

variable (xs' ys' : NameMap Node) (same : (NameMap.keys xs).length = (NameMap.keys ys).length)

include same

theorem correspond_append_of_mem (present : id ∈ NameMap.keys xs) :
    correspond (xs ++ xs') (ys ++ ys') id = correspond xs ys id := by
  obtain ⟨target, found⟩ := exists_get?_zip same present
  rw [correspond, correspond, NameMap.keys_append, NameMap.keys_append, List.zip_append same,
    NameMap.get?_append, found, Option.some_or]

theorem correspond_append_of_not_mem (absent : id ∉ NameMap.keys xs) :
    correspond (xs ++ xs') (ys ++ ys') id = correspond xs' ys' id := by
  rw [correspond, correspond, NameMap.keys_append, NameMap.keys_append, List.zip_append same,
    NameMap.get?_append, get?_zip_eq_none absent, Option.none_or]

theorem correspond_snoc (n m : Node) (id' : String) (absent : id ∉ NameMap.keys xs) :
    correspond (xs ++ [(id, n)]) (ys ++ [(id', m)]) id = id' := by
  rw [correspond_append_of_not_mem _ _ same absent]
  simp [correspond, NameMap.get?, NameMap.keys]

end Correspond

/-! ### Copies -/

namespace SelfContained

theorem append {nodes later : NameMap Node} (first : SelfContained nodes) (second : SelfContained later)
    (apart : (NameMap.keys nodes).Disjoint (NameMap.keys later)) : SelfContained (nodes ++ later) where
  keyed := List.forall_mem_append.mpr ⟨first.keyed, second.keyed⟩
  distinct := by
    rw [NameMap.keys_append]
    exact List.Nodup.append first.distinct second.distinct apart
  inside := by
    rw [NameMap.keys_append, List.forall_mem_append]
    constructor
    · exact fun entry member id found => List.mem_append_left _ (first.inside entry member id found)
    · exact fun entry member id found => List.mem_append_right _ (second.inside entry member id found)

theorem snoc {nodes : NameMap Node} (contained : SelfContained nodes) {n : Node}
    (fresh : n.id ∉ NameMap.keys nodes) (refs : ∀ id ∈ n.nodeRefs, id ∈ NameMap.keys nodes) :
    SelfContained (nodes ++ [(n.id, n)]) where
  keyed := List.forall_mem_append.mpr ⟨contained.keyed, by simp⟩
  distinct := by
    rw [NameMap.keys_append]
    exact List.Nodup.append contained.distinct (List.nodup_singleton _) (List.disjoint_singleton.mpr fresh)
  inside := by
    rw [NameMap.keys_append, List.forall_mem_append]
    constructor
    · exact fun entry member id found => List.mem_append_left _ (contained.inside entry member id found)
    · intro entry member id found
      rw [List.mem_singleton.mp member] at found
      exact List.mem_append_left _ (refs id found)

end SelfContained

/-- The second nodes are the first ones under other ids, place by place. -/
structure Copies (xs ys : NameMap Node) : Prop where
  contained : SelfContained xs
  distinct : (NameMap.keys ys).Nodup
  renamed : ys = renameNodes (correspond xs ys) xs

/-- The second argument is the first one, which refers to nodes in a list, for the copies of these. -/
structure Value.Copies (xs ys : NameMap Node) (v w : Value) : Prop where
  argument : v.isArgument = true
  single : v.nodeRefs = [] ∨ ∃ id, v = .nodeRef id
  inside : ∀ id ∈ v.nodeRefs, id ∈ NameMap.keys xs
  renamed : w = v.rename (correspond xs ys)

namespace Copies

variable {xs ys xs' ys' : NameMap Node}

theorem nil : Copies [] [] where
  contained := ⟨by simp, by simp [NameMap.keys], by simp⟩
  distinct := by simp [NameMap.keys]
  renamed := rfl

theorem length_eq (copies : Copies xs ys) : (NameMap.keys xs).length = (NameMap.keys ys).length := by
  have same := congrArg List.length copies.renamed
  simpa [renameNodes, NameMap.keys] using same.symm

theorem mem (copies : Copies xs ys) {id : String} {n : Node} (member : (id, n) ∈ xs) :
    (correspond xs ys id, n.rename (correspond xs ys)) ∈ ys := by
  have image : (correspond xs ys id, n.rename (correspond xs ys)) ∈ renameNodes (correspond xs ys) xs :=
    List.mem_map_of_mem member
  rwa [← copies.renamed] at image

/-- The first nodes are renamed as before when more nodes follow. -/
theorem renamed_append (copies : Copies xs ys) :
    ys = renameNodes (correspond (xs ++ xs') (ys ++ ys')) xs := by
  refine copies.renamed.trans (renameNodes_congr copies.contained fun id present => ?_)
  exact (correspond_append_of_mem _ _ copies.length_eq present).symm

theorem append (first : Copies xs ys) (second : Copies xs' ys')
    (apart : (NameMap.keys xs).Disjoint (NameMap.keys xs'))
    (apart' : (NameMap.keys ys).Disjoint (NameMap.keys ys')) : Copies (xs ++ xs') (ys ++ ys') where
  contained := first.contained.append second.contained apart
  distinct := by
    rw [NameMap.keys_append]
    exact List.Nodup.append first.distinct second.distinct apart'
  renamed := by
    have later : ys' = renameNodes (correspond (xs ++ xs') (ys ++ ys')) xs' := by
      refine second.renamed.trans (renameNodes_congr second.contained fun id present => ?_)
      exact (correspond_append_of_not_mem _ _ first.length_eq fun old => apart old present).symm
    rw [renameNodes, List.map_append]
    exact congrArg₂ _ first.renamed_append later

/-- A node that refers to some nodes and one that refers to their copies are copies as well. -/
theorem snoc (copies : Copies xs ys) {n m : Node} (refs : ∀ id ∈ n.nodeRefs, id ∈ NameMap.keys xs)
    (fresh : n.id ∉ NameMap.keys xs) (fresh' : m.id ∉ NameMap.keys ys)
    (same : m = ⟨m.id, n.operation,
      NameMap.mapValues (Value.rename (correspond xs ys)) n.arguments,
      n.description, n.isResult⟩) : Copies (xs ++ [(n.id, n)]) (ys ++ [(m.id, m)]) where
  contained := copies.contained.snoc fresh refs
  distinct := by
    rw [NameMap.keys_append]
    exact List.Nodup.append copies.distinct (List.nodup_singleton _) (List.disjoint_singleton.mpr fresh')
  renamed := by
    have own := correspond_snoc copies.length_eq n m m.id fresh
    have arguments := Node.arguments_rename_congr fun id found =>
      correspond_append_of_mem [(n.id, n)] [(m.id, m)] copies.length_eq (refs id found)
    have last : m = n.rename (correspond (xs ++ [(n.id, n)]) (ys ++ [(m.id, m)])) := by
      rw [Node.rename, own, arguments]
      exact same
    rw [renameNodes, List.map_append]
    refine congrArg₂ _ copies.renamed_append (congrArg (fun entry => [entry]) ?_)
    exact Prod.ext own.symm last

end Copies

namespace Value.Copies

variable {xs ys xs' ys' : NameMap Node} {v w : Value}

theorem argument' (matched : Copies xs ys v w) : w.isArgument = true := by
  rw [matched.renamed, isArgument_rename, matched.argument]

theorem inside' (matched : Copies xs ys v w)
    (same : (NameMap.keys xs).length = (NameMap.keys ys).length) :
    ∀ id ∈ w.nodeRefs, id ∈ NameMap.keys ys := by
  intro id found
  rw [matched.renamed, nodeRefs_rename] at found
  obtain ⟨old, inside, rfl⟩ := List.mem_map.mp found
  exact correspond_mem same (matched.inside old inside)

theorem of_forall₂ {values values' : List Value} (matched : List.Forall₂ (Copies xs ys) values values') :
    (∀ v ∈ values, Copies xs ys v (v.rename (correspond xs ys))) ∧
      values' = values.map (rename (correspond xs ys)) := by
  induction matched with
  | nil => simp
  | cons first _ ih =>
    obtain ⟨each, rfl⟩ := ih
    obtain rfl := first.renamed
    exact ⟨List.forall_mem_cons.mpr ⟨first, each⟩, rfl⟩

theorem append_right (matched : Copies xs ys v w)
    (same : (NameMap.keys xs).length = (NameMap.keys ys).length) (xs' ys' : NameMap Node) :
    Copies (xs ++ xs') (ys ++ ys') v w where
  argument := matched.argument
  single := matched.single
  inside := by
    intro id found
    rw [NameMap.keys_append]
    exact List.mem_append_left _ (matched.inside id found)
  renamed := by
    refine matched.renamed.trans (rename_congr fun id found => ?_)
    exact (correspond_append_of_mem _ _ same (matched.inside id found)).symm

theorem append_left (matched : Copies xs' ys' v w)
    (same : (NameMap.keys xs).length = (NameMap.keys ys).length)
    (apart : (NameMap.keys xs).Disjoint (NameMap.keys xs')) : Copies (xs ++ xs') (ys ++ ys') v w where
  argument := matched.argument
  single := matched.single
  inside := by
    intro id found
    rw [NameMap.keys_append]
    exact List.mem_append_right _ (matched.inside id found)
  renamed := by
    refine matched.renamed.trans (rename_congr fun id found => ?_)
    exact (correspond_append_of_not_mem _ _ same fun old => apart old (matched.inside id found)).symm

end Value.Copies
end FormulaGraph
