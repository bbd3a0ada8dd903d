import FormulaGraph.Proofs.Builder.Contract
import FormulaGraph.Proofs.Session.WellFormed

/-!
# Nodes of other builders

A node that is handed in as an argument becomes a reference to its id, at any depth of sequences. Whose
node it was is forgotten: one of another builder is refused if its id is not taken, and otherwise it is the
builder's own node under that id that the new node consumes.
-/

namespace FormulaGraph

/-- A node is among the parts of a value, at any depth of its sequences. -/
inductive Value.Holds (n : Node) : Value → Prop where
  | node : Holds n (.node n)
  | list {items : List Value} {item : Value} (member : item ∈ items) (inside : Holds n item) :
      Holds n (.list items)
  | tuple {items : List Value} {item : Value} (member : item ∈ items) (inside : Holds n item) :
      Holds n (.tuple items)

theorem Value.Holds.mem_leaves {n : Node} {v : Value} (holds : v.Holds n) : .node n ∈ v.leaves := by
  induction holds with
  | node => exact List.mem_singleton_self _
  | list member _ ih | tuple member _ ih =>
    rw [leaves, leavesAll_eq]
    exact List.mem_flatMap.mpr ⟨_, member, ih⟩

namespace Builder

variable {b : Builder} {operation : Json} {arguments : Value} {named bound : NameMap Value} {n : Node}

/-- The arguments of a call by the names of the formal parameters, before they are coerced. -/
def namedArguments (b : Builder) (operation : Json) (arguments : Value) : Except Fault (NameMap Value) := do
  match ← check (b.catalog.find operation) with
  | none => refuse (.invalidOperation operation)
  | some definition => nameArguments definition (← check arguments.asArguments)

theorem source_of_named (comes : b.namedArguments operation arguments = .ok named) :
    ∃ name definition source, operation = .str name ∧ b.catalog.get? name = some definition ∧
      arguments.asArguments = .ok source ∧ nameArguments definition source = .ok named := by
  unfold namedArguments at comes
  obtain ⟨found, looked, comes⟩ := bind_eq_ok.mp comes
  cases found with
  | none => cases comes
  | some definition =>
    obtain ⟨source, given, naming⟩ := bind_eq_ok.mp comes
    obtain ⟨text, offered⟩ := Catalog.find_eq_some (check_ok looked)
    exact ⟨definition.name, definition, source, text, offered, check_ok given, naming⟩

theorem coerced_of_bindArguments (comes : b.namedArguments operation arguments = .ok named) {name : String}
    (checked : b.bindArguments operation arguments = .ok (name, bound)) :
    coerceNamed named = .ok bound ∧ b.missingNode? bound = none := by
  obtain ⟨title, definition, source, rfl, offered, given, naming⟩ := source_of_named comes
  rw [bindArguments_of_named offered given naming] at checked
  obtain ⟨again, coerced, checked⟩ := bind_eq_ok.mp checked
  cases missing : b.missingNode? again with
  | some id =>
    rw [missing] at checked
    cases checked
  | none =>
    rw [missing] at checked
    obtain ⟨_, rfl⟩ := Prod.mk.inj (Except.ok.inj checked)
    exact ⟨check_ok coerced, missing⟩

/-- Coerced arguments refer to the nodes that were in them by their ids. -/
theorem mem_nodeRefs_of_named (coerced : coerceNamed named = .ok bound)
    (handed : ∃ argument ∈ named, argument.2.Holds n) : ∃ entry ∈ bound, n.id ∈ entry.2.nodeRefs := by
  obtain ⟨argument, member, holds⟩ := handed
  rw [coerceNamed_eq] at coerced
  obtain rfl := Value.unlessRefused_ok coerced
  refine ⟨_, List.mem_map.mpr ⟨argument, member, rfl⟩, ?_⟩
  rw [Value.nodeRefs_argument]
  exact List.mem_filterMap.mpr ⟨.node n, holds.mem_leaves, rfl⟩

/-- A node whose id is not taken is refused: as unknown, or because what is handed in with it is no argument. -/
theorem bindArguments_of_absent (comes : b.namedArguments operation arguments = .ok named)
    (handed : ∃ argument ∈ named, argument.2.Holds n) (absent : b.has n.id = false) :
    ∃ fault, b.bindArguments operation arguments = .error fault ∧
      ∀ bound, coerceNamed named = .ok bound →
        ∃ missing, b.missingNode? bound = some missing ∧ fault = .formula (.unknownNode missing) := by
  obtain ⟨name, definition, source, rfl, offered, given, naming⟩ := source_of_named comes
  rw [bindArguments_of_named offered given naming]
  cases coerced : coerceNamed named with
  | error cause =>
    refine ⟨.misuse cause, rfl, ?_⟩
    intro bound none
    cases none
  | ok bound =>
    obtain ⟨entry, inside, refers⟩ := mem_nodeRefs_of_named coerced handed
    cases missing : b.missingNode? bound with
    | none =>
      have known := missingNode?_eq_none.mp missing entry inside n.id refers
      rw [absent] at known
      cases known
    | some id =>
      refine ⟨.formula (.unknownNode id), ?_, ?_⟩
      · simp only [check, bind, Except.bind, missing]
        rfl
      · intro other again
        obtain rfl := Except.ok.inj again
        exact ⟨id, missing, rfl⟩

end Builder

namespace Session

open Builder

theorem play_createNode_of_error {s : Session} {place : Nat} {b : Builder} (found : s.builder? place = some b)
    {operation : Json} {arguments : Value} {fault : Fault}
    (refused : b.bindArguments operation arguments = .error fault) (id : Option String) (description : Json) :
    s.play (.ask place (.createNode operation arguments id description)) = (some fault, s) := by
  have failed : (Request.createNode operation arguments id description).perform (s.outerScopes place) b =
      .error fault b := by
    have stopped : createNode operation arguments id description b = .error fault b := by
      rw [createNode, refused]
    simp only [Request.perform, Functor.map, EStateM.map, stopped]
  have same : s.builders.set place b = s.builders := by
    obtain ⟨inside, here⟩ := List.getElem?_eq_some_iff.mp found
    rw [← here, List.set_getElem_self]
  rw [play, run_of_error found failed, same]

/-- When a node of any builder of a session is handed in to another builder, at any depth, it is its id that
counts. If the other builder has no node under that id, the request fails and changes nothing, with the
first missing node as the fault as soon as all that was handed in are arguments; so if a node is created,
the builder has a node of its own under that id, and this is what the new node refers to. -/
theorem Reachable.foreign_node_by_id {s : Session} (reachable : s.Reachable) {place other : Nat}
    {b c : Builder} (found : s.builder? place = some b) (there : s.builder? other = some c) {key : String}
    {n : Node} (owned : c.node? key = some n) {operation : Json} {arguments : Value} {named : NameMap Value}
    (comes : b.namedArguments operation arguments = .ok named)
    (handed : ∃ argument ∈ named, argument.2.Holds n) (id : Option String) (description : Json) :
    (b.has key = false → ∃ fault,
      s.play (.ask place (.createNode operation arguments id description)) = (some fault, s) ∧
      ∀ bound, coerceNamed named = .ok bound →
        ∃ missing, b.missingNode? bound = some missing ∧ fault = .formula (.unknownNode missing)) ∧
    ∀ m b', createNode operation arguments id description b = .ok m b' →
      b.has key = true ∧ key ∈ m.nodeRefs := by
  have h : c.WellFormed := Builder.Reachable.wellFormed ⟨s, other, reachable, there⟩
  have keyed : n.id = key := h.keyed (key, n) (NameMap.mem_of_get? owned)
  subst keyed
  constructor
  · intro absent
    obtain ⟨fault, refused, unknown⟩ := bindArguments_of_absent comes handed absent
    exact ⟨fault, play_createNode_of_error found refused id description, unknown⟩
  · intro m b' created
    rcases createNode_cases operation arguments id description b with ⟨fault, failed⟩ | made
    · rw [failed] at created
      cases created
    · obtain ⟨name, bound, fresh, counters, checked, _, made⟩ := made
      rw [made] at created
      cases created
      obtain ⟨coerced, present⟩ := coerced_of_bindArguments comes checked
      obtain ⟨entry, inside, refers⟩ := mem_nodeRefs_of_named coerced handed
      have known := missingNode?_eq_none.mp present entry inside n.id refers
      exact ⟨known, List.mem_flatMap.mpr ⟨entry, inside, refers⟩⟩

/-- A builder with one node, and a builder for a callback of it, which has one node as well. -/
def twoBuilders (parentId childId : Option String) : Session :=
  (⟨[]⟩ : Session).playAll
    [.begin sampleCatalog none,
      .ask 0 (.createNode (.str "add") (.list [.str "p", .str "q"]) parentId .null),
      .callback 0 (some [⟨"x", ""⟩]),
      .ask 1 (.createNode (.str "add") (.list [.paramRef "x"]) childId .null)]

/-- A request for a product, with a node handed in inside of two sequences. -/
def productOf (n : Node) : Request :=
  .createNode (.str "multiply") (.list [.list [.null, .tuple [.node n]], .paramRef "p"]) none .null

theorem apart_refused : ∃ b c n,
    (twoBuilders (some "sum") none).builder? 0 = some b ∧
    (twoBuilders (some "sum") none).builder? 1 = some c ∧ c.node? "add1" = some n ∧
    (twoBuilders (some "sum") none).play (.ask 0 (productOf n)) =
      (some (.formula (.unknownNode "add1")), twoBuilders (some "sum") none) := by
  obtain ⟨b, c, n, found, there, owned, absent, offered, named, first⟩ : ∃ b c n,
      (twoBuilders (some "sum") none).builder? 0 = some b ∧
      (twoBuilders (some "sum") none).builder? 1 = some c ∧ c.node? "add1" = some n ∧
      b.has "add1" = false ∧ b.catalog = sampleCatalog ∧ n.id = "add1" ∧
      b.missingNode? [("x", .tuple [.null, .tuple [.nodeRef "add1"]]), ("y", .paramRef "p")] = some "add1" :=
    ⟨_, _, _, rfl, rfl, rfl, rfl, rfl, rfl, rfl⟩
  have comes : b.namedArguments (.str "multiply") (.list [.list [.null, .tuple [.node n]], .paramRef "p"]) =
      .ok [("x", .list [.null, .tuple [.node n]]), ("y", .paramRef "p")] := by
    rw [namedArguments, offered]
    rfl
  have handed : ∃ argument ∈ [("x", Value.list [.null, .tuple [.node n]]), ("y", .paramRef "p")],
      argument.2.Holds n :=
    ⟨_, List.mem_cons_self, .list (.tail _ List.mem_cons_self) (.tuple List.mem_cons_self .node)⟩
  have reached : (twoBuilders (some "sum") none).Reachable := Reachable.start.playAll _
  obtain ⟨fault, refused, unknown⟩ :=
    (reached.foreign_node_by_id found there owned comes handed none .null).1 absent
  obtain ⟨missing, same, rfl⟩ := unknown [("x", .tuple [.null, .tuple [.nodeRef n.id]]), ("y", .paramRef "p")] rfl
  rw [named, first] at same
  obtain rfl := Option.some.inj same
  exact ⟨b, c, n, found, there, owned, refused⟩

/-- Both builders have a node with the first id that is made for a sum. When that of the callback is handed
in to the builder around it, a node is created, and it is the other sum that the new node refers to. -/
theorem twin_taken_for_own : ∃ b c n own s b' m,
    (twoBuilders none none).Reachable ∧
    (twoBuilders none none).builder? 0 = some b ∧ (twoBuilders none none).builder? 1 = some c ∧
    c.node? "add1" = some n ∧ b.node? "add1" = some own ∧ n ≠ own ∧
    (twoBuilders none none).play (.ask 0 (productOf n)) = (none, s) ∧ s.builder? 0 = some b' ∧
    b'.node? "multiply1" = some m ∧ m.nodeRefs = ["add1"] ∧ b'.node? "add1" = some own := by
  obtain ⟨b, c, n, own, s, b', m, found, there, owned, twin, fewer, more, played, later, created, refers, kept⟩ :
      ∃ b c n own s b' m,
      (twoBuilders none none).builder? 0 = some b ∧ (twoBuilders none none).builder? 1 = some c ∧
      c.node? "add1" = some n ∧ b.node? "add1" = some own ∧ n.arguments.length = 1 ∧ own.arguments.length = 2 ∧
      (twoBuilders none none).play (.ask 0 (productOf n)) = (none, s) ∧ s.builder? 0 = some b' ∧
      b'.node? "multiply1" = some m ∧ m.nodeRefs = ["add1"] ∧ b'.node? "add1" = some own :=
    ⟨_, _, _, _, _, _, _, rfl, rfl, rfl, rfl, rfl, rfl, rfl, rfl, rfl, rfl, rfl⟩
  have different : n ≠ own := by
    rintro rfl
    rw [fewer] at more
    cases more
  exact ⟨b, c, n, own, s, b', m, Reachable.start.playAll _, found, there, owned, twin, different, played, later,
    created, refers, kept⟩

end Session
end FormulaGraph
