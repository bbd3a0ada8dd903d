import FormulaGraph.Proofs.Builder.Snapshot
import FormulaGraph.Proofs.Document.Portable
import FormulaGraph.Proofs.Graph.Closed
import FormulaGraph.Proofs.Graph.Sorting
import FormulaGraph.Proofs.Session.WellFormed

/-!
# The graphs that a builder can make

A builder makes a graph if requests for nodes, whatever they ask for and whichever of them fail, leave
it with the nodes of the graph. References of a builder lead backwards, so what it makes is closed. A
closed graph has an order, and in that order each of its nodes can be asked for as it is: all that it
refers to is there by then.
-/

namespace FormulaGraph

open Build

/-- What is asked of a builder that is to create a node. -/
structure Creation where
  operation : Json
  arguments : Value
  id : Option String
  description : Json

def Creation.perform (c : Creation) : Build Node :=
  Builder.createNode c.operation c.arguments c.id c.description

/-- A builder after requests for nodes, each of which may have failed. -/
def Builder.attempt (b : Builder) (creations : List Creation) : Builder :=
  creations.foldl (fun b c => c.perform.final b) b

namespace Node

/-- The request for a node as it is, with its own id. -/
def creation (n : Node) : Creation where
  operation := n.operation.datum.toOption.getD .null
  arguments := .obj n.arguments
  id := some n.id
  description := n.description.datum.toOption.getD .null

/-- Two nodes are the same but for their flags and the order of their arguments. -/
structure Agrees (m n : Node) : Prop where
  id : m.id = n.id
  operation : m.operation = n.operation
  arguments : m.arguments.Perm n.arguments
  description : m.description = n.description

theorem agrees_unflagged (n : Node) : n.unflagged.Agrees n := ⟨rfl, rfl, .refl _, rfl⟩

theorem Agrees.mem_nodeRefs {m n : Node} (same : m.Agrees n) {d : String} (inside : d ∈ n.nodeRefs) :
    d ∈ m.nodeRefs := by
  obtain ⟨entry, member, found⟩ := List.mem_flatMap.mp inside
  exact List.mem_flatMap.mpr ⟨entry, same.arguments.mem_iff.mpr member, found⟩

end Node

/-- Under each id there are the same nodes, or none. -/
def SameNodes (made nodes : NameMap Node) : Prop :=
  ∀ id, Option.Rel Node.Agrees (NameMap.get? made id) (NameMap.get? nodes id)

/-- Nodes stand under their own ids, each once, invoke operations of a catalog, and have arguments. -/
structure Fits (catalog : Catalog) (nodes : NameMap Node) : Prop where
  keyed : ∀ entry ∈ nodes, entry.2.id = entry.1
  distinct : (NameMap.keys nodes).Nodup
  offered : ∀ entry ∈ nodes, ∃ name, entry.2.operation = .str name ∧ catalog.has name = true
  described : ∀ entry ∈ nodes, ∃ datum, entry.2.description = .ofJson datum
  arguments : ∀ entry ∈ nodes, ∀ argument ∈ entry.2.arguments, argument.2.isArgument = true

/-! ### What is made is closed -/

namespace Builder

theorem wellFormed_attempt {b : Builder} (h : WellFormed b) (creations : List Creation) :
    WellFormed (b.attempt creations) := by
  induction creations generalizing b with
  | nil => exact h
  | cons c rest ih =>
    exact ih (wellFormed_createNode h c.operation c.arguments c.id c.description)

/-- A node of a graph that a builder holds refers to nodes of the graph that stand before it in the
builder. -/
theorem idxOf_lt_of_same {b : Builder} (h : WellFormed b) {g : Graph} (distinct : g.keys.Nodup)
    (same : SameNodes b.nodes g.nodes) {id : String} {n : Node} (member : (id, n) ∈ g.nodes) {d : String}
    (inside : d ∈ n.nodeRefs) :
    g.has d = true ∧ (NameMap.keys b.nodes).idxOf d < (NameMap.keys b.nodes).idxOf id := by
  have here := same id
  rw [NameMap.get?_of_mem distinct member] at here
  cases made : NameMap.get? b.nodes id with
  | none =>
    rw [made] at here
    cases here
  | some m =>
    rw [made] at here
    obtain ⟨agrees⟩ := here
    have held := NameMap.mem_of_get? made
    have referred := agrees.mem_nodeRefs inside
    refine ⟨?_, idxOf_lt_of_nodeRefs h held referred⟩
    have present := NameMap.has_iff.mpr (mem_keys_of_nodeRefs h held referred)
    have there := same d
    rw [NameMap.has, Option.isSome_iff_exists] at present
    obtain ⟨target, found⟩ := present
    rw [found] at there
    cases kept : NameMap.get? g.nodes d with
    | none =>
      rw [kept] at there
      cases there
    | some _ => rw [Graph.has, NameMap.has, kept, Option.isSome_some]

theorem closed_of_same {b : Builder} (h : WellFormed b) {g : Graph} (distinct : g.keys.Nodup)
    (same : SameNodes b.nodes g.nodes) : g.Closed := by
  rw [Graph.closed_iff]
  constructor
  · intro n member d inside
    obtain ⟨⟨id, _⟩, present, rfl⟩ := List.mem_map.mp member
    exact (idxOf_lt_of_same h distinct same present inside).1
  · apply Graph.exists_order_of_rank fun id => (NameMap.keys b.nodes).idxOf id
    intro entry member d inside
    obtain ⟨⟨key, n⟩, present, rfl⟩ := List.mem_map.mp member
    have listed := (List.mem_filter.mp inside).1
    rw [Node.dependencies, List.mem_eraseDups] at listed
    exact (idxOf_lt_of_same h distinct same present listed).2

/-! ### What is closed is made -/

/-- A node that fits is created as it is once all that it refers to is there. -/
theorem perform_creation {b : Builder} {id : String} {n : Node} {nodes : NameMap Node}
    (fits : Fits b.catalog nodes) (member : (id, n) ∈ nodes) (plain : n.isResult = false)
    (fresh : b.has id = false) (known : ∀ d ∈ n.nodeRefs, b.has d = true) :
    ∃ after, n.creation.perform b = .ok n after ∧ after.catalog = b.catalog ∧
      after.nodes = b.nodes ++ [(id, n)] := by
  obtain ⟨name, operation, listed⟩ := fits.offered _ member
  obtain ⟨description, described⟩ := fits.described _ member
  obtain ⟨definition, offered⟩ := Option.isSome_iff_exists.mp listed
  have keyed : n.id = id := fits.keyed _ member
  have bound := bindArguments_of_isArgument offered (fits.arguments _ member) fun entry present d inside =>
    known d (List.mem_flatMap.mpr ⟨entry, present, inside⟩)
  obtain ⟨own, invoked, arguments, text, flag⟩ := n
  dsimp only at operation described plain keyed bound
  subst operation described plain keyed
  refine ⟨b.grown b.counters ⟨own, .str name, arguments, .ofJson description, false⟩ name, ?_, rfl, rfl⟩
  have given : (⟨own, .str name, arguments, .ofJson description, false⟩ : Node).creation =
      ⟨.str name, .obj arguments, some own, description⟩ := by
    simp only [Node.creation, Value.datum_ofJson]
    rfl
  rw [given, Creation.perform, createNode, bound]
  simp only [fresh]
  rfl

/-- Nodes that fit and refer backwards are all created, as they are and in their order. -/
theorem perform_creations {b : Builder} {nodes : NameMap Node}
    (fits : Fits b.catalog (b.nodes ++ nodes)) (backward : Backward (b.nodes ++ nodes))
    (plain : ∀ entry ∈ nodes, entry.2.isResult = false) :
    ∃ after, ((NameMap.values nodes).map Node.creation).mapM Creation.perform b =
      .ok (NameMap.values nodes) after ∧ after.nodes = b.nodes ++ nodes := by
  induction nodes generalizing b with
  | nil => exact ⟨b, rfl, by simp⟩
  | cons entry rest ih =>
    obtain ⟨id, n⟩ := entry
    have known : ∀ d ∈ n.nodeRefs, b.has d = true := fun d inside =>
      NameMap.has_iff.mpr (backward b.nodes id n rest rfl d inside)
    have fresh : b.has id = false := by
      have apart := fits.distinct
      rw [NameMap.keys_append, List.nodup_append] at apart
      rw [Bool.eq_false_iff, ne_eq, has, NameMap.has_iff]
      exact fun taken => apart.2.2 id taken id List.mem_cons_self rfl
    obtain ⟨middle, created, catalog, nodes⟩ := perform_creation fits
      (List.mem_append_right _ List.mem_cons_self) (plain _ List.mem_cons_self) fresh known
    have again : b.nodes ++ (id, n) :: rest = middle.nodes ++ rest := by simp [nodes]
    rw [again] at fits backward ⊢
    rw [← catalog] at fits
    obtain ⟨after, others, final⟩ := ih fits backward fun entry member =>
      plain entry (List.mem_cons_of_mem _ member)
    refine ⟨after, ?_, final⟩
    simp only [NameMap.values, List.map_cons, List.mapM_cons] at others ⊢
    rw [bind_of_ok _ created, bind_of_ok _ others]
    rfl

end Builder

namespace Graph

def creations (g : Graph) (order : List String) : List Creation :=
  order.filterMap fun id => (g.node? id).map Node.creation

def arrange (g : Graph) (order : List String) : NameMap Node :=
  order.filterMap fun id => (g.node? id).map fun n => (id, n.unflagged)

theorem creations_eq (g : Graph) (order : List String) :
    g.creations order = (NameMap.values (g.arrange order)).map Node.creation := by
  simp only [creations, arrange, NameMap.values, List.map_filterMap, Option.map_map]
  rfl

theorem mem_arrange {g : Graph} {order : List String} {entry : String × Node} :
    entry ∈ g.arrange order ↔ ∃ n, entry.1 ∈ order ∧ g.node? entry.1 = some n ∧ entry.2 = n.unflagged := by
  simp only [arrange, List.mem_filterMap, Option.map_eq_some_iff]
  constructor
  · rintro ⟨id, listed, n, found, rfl⟩
    exact ⟨n, listed, found, rfl⟩
  · rintro ⟨n, listed, found, same⟩
    exact ⟨entry.1, listed, n, found, by rw [← same]⟩

theorem keys_arrange {g : Graph} {order : List String} (inside : ∀ id ∈ order, g.has id = true) :
    NameMap.keys (g.arrange order) = order := by
  induction order with
  | nil => rfl
  | cons id rest ih =>
    obtain ⟨n, found⟩ := Option.isSome_iff_exists.mp (inside id List.mem_cons_self)
    have here : g.node? id = some n := found
    have later := ih fun other member => inside other (List.mem_cons_of_mem _ member)
    simp only [arrange, NameMap.keys] at later ⊢
    rw [List.filterMap_cons_some (by rw [here]; rfl), List.map_cons, later]

variable {catalog : Catalog} {g : Graph} {order : List String}

theorem has_of_perm (arranged : order.Perm g.keys) : ∀ id ∈ order, g.has id = true := by
  intro id member
  exact NameMap.has_iff.mpr (arranged.mem_iff.mp member)

theorem get?_arrange (arranged : order.Perm g.keys) (distinct : g.keys.Nodup) (id : String) :
    NameMap.get? (g.arrange order) id = (g.node? id).map Node.unflagged := by
  have keys := keys_arrange (has_of_perm arranged)
  cases found : g.node? id with
  | none =>
    rw [node?, NameMap.get?_eq_none_iff] at found
    rw [Option.map_none, NameMap.get?_eq_none_iff, keys]
    exact fun listed => found (arranged.mem_iff.mp listed)
  | some n =>
    have listed := arranged.mem_iff.mpr (NameMap.mem_keys (NameMap.mem_of_get? found))
    apply NameMap.get?_of_mem
    · rw [keys]
      exact arranged.nodup_iff.mpr distinct
    · exact mem_arrange.mpr ⟨n, listed, found, rfl⟩

theorem fits_arrange (fits : Fits catalog g.nodes) (arranged : order.Perm g.keys) :
    Fits catalog (g.arrange order) := by
  have each {P : String × Node → Prop} (all : ∀ entry ∈ g.nodes, P (entry.1, entry.2.unflagged)) :
      ∀ entry ∈ g.arrange order, P entry := by
    rintro ⟨id, m⟩ member
    obtain ⟨n, _, found, rfl⟩ := mem_arrange.mp member
    exact all _ (NameMap.mem_of_get? found)
  constructor
  case keyed => exact each fits.keyed
  case distinct =>
    rw [keys_arrange (has_of_perm arranged)]
    exact arranged.nodup_iff.mpr fits.distinct
  case offered => exact each fits.offered
  case described => exact each fits.described
  case arguments => exact each fits.arguments

/-- In an order of a closed graph references lead backwards. -/
theorem backward_arrange (closed : g.Closed) (distinct : g.keys.Nodup)
    (found : g.order? = some order) : Backward (g.arrange order) := by
  intro before id m after split d inside
  have keys := keys_arrange (has_of_perm (order?_perm found))
  rw [split, NameMap.keys_append] at keys
  have member : (id, m) ∈ g.arrange order := by
    rw [split]
    exact List.mem_append_right _ List.mem_cons_self
  obtain ⟨n, _, here, same⟩ := mem_arrange.mp member
  have refs : d ∈ n.nodeRefs := by
    rw [show m = n.unflagged from same] at inside
    exact inside
  have held := NameMap.mem_of_get? here
  have known := (closed_iff.mp closed).1 n (List.mem_map_of_mem held) d refs
  exact mem_before_of_order? distinct found keys.symm held d refs known

/-- A closed graph is made by requests for its nodes, as they are, in the order that it gives. -/
theorem made_of_closed (parent : Option Nat) (fits : Fits catalog g.nodes) (closed : g.Closed) :
    ∃ order b, g.topologicalOrder = .ok order ∧
      (g.creations order).mapM Creation.perform (Builder.empty catalog parent) =
        .ok (NameMap.values b.nodes) b ∧
      NameMap.keys b.nodes = order ∧ ∀ id, b.node? id = (g.node? id).map Node.unflagged := by
  obtain ⟨order, found⟩ := (closed_iff.mp closed).2
  have arranged := order?_perm found
  have plain : ∀ entry ∈ g.arrange order, entry.2.isResult = false := by
    intro entry member
    obtain ⟨n, _, _, same⟩ := mem_arrange.mp member
    rw [same]
    rfl
  let empty := Builder.empty catalog parent
  have fit : Fits empty.catalog (empty.nodes ++ g.arrange order) := fits_arrange fits arranged
  obtain ⟨b, created, nodes⟩ := Builder.perform_creations fit
    (backward_arrange closed fits.distinct found) plain
  have nodes : b.nodes = g.arrange order := nodes
  refine ⟨order, b, by rw [topologicalOrder, found], ?_, ?_, ?_⟩
  · rw [creations_eq, created, nodes]
  · rw [nodes, keys_arrange (has_of_perm arranged)]
  · intro id
    rw [Builder.node?, nodes, get?_arrange arranged fits.distinct]

end Graph

theorem sameNodes_of_unflagged {made nodes : NameMap Node}
    (same : ∀ id, NameMap.get? made id = (NameMap.get? nodes id).map Node.unflagged) :
    SameNodes made nodes := by
  intro id
  rw [same id]
  cases NameMap.get? nodes id with
  | none => exact .none
  | some n => exact .some n.agrees_unflagged

namespace Builder

theorem attempt_of_ok {b after : Builder} {creations : List Creation} {made : List Node}
    (created : creations.mapM Creation.perform b = .ok made after) : b.attempt creations = after := by
  induction creations generalizing b made with
  | nil =>
    cases created
    rfl
  | cons c rest ih =>
    rw [List.mapM_cons] at created
    obtain ⟨n, middle, first, created⟩ := bind_ok created
    obtain ⟨others, last, later, created⟩ := bind_ok created
    obtain ⟨_, rfl⟩ := pure_ok created
    rw [attempt, List.foldl_cons, final_of_ok first]
    exact ih later

end Builder

/-- A graph over a catalog is closed if and only if requests for nodes make it of nothing; and if it is,
then the requests for its nodes as they are, in the order that it gives, all succeed and make it. -/
theorem Graph.closed_iff_made {catalog : Catalog} (parent : Option Nat) {g : Graph}
    (fits : Fits catalog g.nodes) :
    (g.Closed ↔
      ∃ requests, SameNodes ((Builder.empty catalog parent).attempt requests).nodes g.nodes) ∧
    (g.Closed → ∃ order b, g.topologicalOrder = .ok order ∧
      (g.creations order).mapM Creation.perform (Builder.empty catalog parent) =
        .ok (NameMap.values b.nodes) b ∧
      NameMap.keys b.nodes = order ∧ ∀ id, b.node? id = (g.node? id).map Node.unflagged) := by
  refine ⟨⟨?_, ?_⟩, made_of_closed parent fits⟩
  · intro closed
    obtain ⟨order, b, _, created, _, same⟩ := made_of_closed parent fits closed
    refine ⟨g.creations order, ?_⟩
    rw [Builder.attempt_of_ok created]
    exact sameNodes_of_unflagged same
  · rintro ⟨requests, same⟩
    have h := Builder.wellFormed_attempt (Builder.wellFormed_empty catalog parent) requests
    exact Builder.closed_of_same h fits.distinct same

def Graph.inverted : Graph where
  nodes :=
    [("sum", ⟨"sum", .str "add", [("x", .tuple [.nodeRef "product", .null]), ("y", .callback default)],
      .null, true⟩),
    ("product", ⟨"product", .str "multiply", [("x", .number (.int 2)), ("y", .paramRef "p")],
      .str "twice", false⟩)]
  resultId := some "sum"
  parameters := []

theorem Graph.inverted_made : ∃ b, inverted.keys = ["sum", "product"] ∧
    (inverted.creations ["product", "sum"]).mapM Creation.perform (.empty Session.sampleCatalog none) =
      .ok (NameMap.values b.nodes) b ∧
    NameMap.keys b.nodes = ["product", "sum"] ∧
    ∀ id, b.node? id = (inverted.node? id).map Node.unflagged := by
  have fits : Fits Session.sampleCatalog inverted.nodes := by
    constructor
    case keyed => decide
    case distinct => decide
    case offered => simp [inverted]; decide
    case described =>
      simp only [inverted, List.forall_mem_cons]
      exact ⟨⟨.null, rfl⟩, ⟨.str "twice", rfl⟩, by simp⟩
    case arguments => decide
  have sound : inverted.check = [] := by decide +kernel
  have ordered : inverted.order? = some ["product", "sum"] := by decide +kernel
  have closed : inverted.Closed := ⟨by simp [sound], by simp [sound]⟩
  obtain ⟨order, b, found, created, keys, nodes⟩ := (closed_iff_made none fits).2 closed
  rw [topologicalOrder, ordered] at found
  obtain rfl := Except.ok.inj found
  exact ⟨b, rfl, created, keys, nodes⟩

end FormulaGraph
