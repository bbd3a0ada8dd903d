import FormulaGraph.Builder.Node
import FormulaGraph.Proofs.Builder.Snapshot
import FormulaGraph.Proofs.Document.Portable
import FormulaGraph.Proofs.Session.WellFormed

/-!
# Reading what was written

A portable graph has a document, and reading it gives the graph back in its normal form: without its
free parameters, and without descriptions that say nothing, in all callbacks as well. The graphs that
builders hold are portable as far as the callbacks that they were given are snapshots or were read.
-/

namespace FormulaGraph

mutual

def Value.normalize : Value → Value
  | .tuple items => .tuple (Value.normalizeAll items)
  | .callback g => .callback (Graph.normalize g)
  | other => other

def Value.normalizeAll : List Value → List Value
  | [] => []
  | item :: rest => Value.normalize item :: Value.normalizeAll rest

def Value.normalizeNamed : List (String × Value) → List (String × Value)
  | [] => []
  | (name, value) :: rest => (name, Value.normalize value) :: Value.normalizeNamed rest

def Node.normalize : Node → Node
  | ⟨id, operation, arguments, description, isResult⟩ =>
    ⟨id, operation, Value.normalizeNamed arguments, if description.isTruthy then description else .null,
      isResult⟩

/-- A graph in normal form: it has no free parameters. -/
def Graph.normalize : Graph → Graph
  | ⟨nodes, resultId, _⟩ => ⟨Graph.normalizeNodes nodes, resultId, []⟩

def Graph.normalizeNodes : List (String × Node) → List (String × Node)
  | [] => []
  | (id, n) :: rest => (id, Node.normalize n) :: Graph.normalizeNodes rest

end

theorem Graph.flagged_normalizeNodes (nodes : NameMap Node) :
    ((normalizeNodes nodes).filter fun entry => entry.2.isResult).map Prod.fst =
      (nodes.filter fun entry => entry.2.isResult).map Prod.fst := by
  induction nodes with
  | nil => rfl
  | cons entry rest ih =>
    obtain ⟨key, id, operation, arguments, description, isResult⟩ := entry
    rw [normalizeNodes, Node.normalize]
    cases isResult with
    | true => simpa using ih
    | false => simpa using ih

/-! ### Round trips -/

/-- An argument is read back, in normal form, from its written form. -/
def Value.RoundTrips (v : Value) : Prop :=
  ∃ written, v.write = .ok written ∧ Value.read (.ofJson written) = .ok v.normalize

theorem roundTrips_all {items : List Value} (each : ∀ item ∈ items, item.RoundTrips) :
    ∃ written, Value.writeAll items = .ok written ∧
      Value.readAll (Value.ofJsonItems written) = .ok (Value.normalizeAll items) := by
  induction items with
  | nil => exact ⟨[], rfl, rfl⟩
  | cons item rest ih =>
    obtain ⟨first, written, read⟩ := each item List.mem_cons_self
    obtain ⟨others, writtenAll, readAll⟩ :=
      ih fun item member => each item (List.mem_cons_of_mem _ member)
    refine ⟨first :: others, cons_eq_ok.mpr ⟨first, others, written, writtenAll, rfl⟩, ?_⟩
    exact cons_eq_ok.mpr ⟨_, _, read, readAll, rfl⟩

theorem roundTrips_named {arguments : NameMap Value}
    (each : ∀ argument ∈ arguments, argument.2.RoundTrips) :
    ∃ written, Value.writeNamed arguments = .ok written ∧
      Value.readNamed (Value.ofJsonMembers written) = .ok (Value.normalizeNamed arguments) := by
  induction arguments with
  | nil => exact ⟨[], rfl, rfl⟩
  | cons argument rest ih =>
    obtain ⟨first, written, read⟩ := each argument List.mem_cons_self
    obtain ⟨others, writtenAll, readAll⟩ :=
      ih fun argument member => each argument (List.mem_cons_of_mem _ member)
    refine ⟨(argument.1, first) :: others,
      cons_eq_ok.mpr ⟨first, others, written, writtenAll, rfl⟩, ?_⟩
    exact cons_eq_ok.mpr ⟨_, _, read, readAll, rfl⟩

theorem ofValue_writeNodeMembers (id : String) (operation description : Json) (isResult : Bool)
    (members : NameMap Json) :
    Node.ofValue id (.ofJson (writeNodeMembers operation (.obj members) description isResult)) =
      (Value.readNamed (Value.ofJsonMembers members)).map fun arguments =>
        ⟨id, .ofJson operation, arguments, if description.isTruthy then .ofJson description else .null, isResult⟩ := by
  unfold writeNodeMembers
  cases description.isTruthy with
  | true | false =>
    cases isResult with
    | true | false =>
      change (Value.readNamed (Value.ofJsonMembers members) >>= fun _ => _) = _
      cases Value.readNamed (Value.ofJsonMembers members) <;> rfl

theorem roundTrips_node {n : Node} (data : n.HoldsData) (each : ∀ value ∈ n.values, value.RoundTrips) :
    ∃ written, n.write = .ok written ∧ Node.ofValue n.id (.ofJson written) = .ok n.normalize := by
  obtain ⟨id, operation, arguments, description, isResult⟩ := n
  obtain ⟨⟨operation, rfl⟩, ⟨description, rfl⟩⟩ := data
  obtain ⟨members, written, read⟩ :=
    roundTrips_named fun argument member => each argument.2 (List.mem_map_of_mem member)
  refine ⟨writeNodeMembers operation (.obj members) description isResult, ?_, ?_⟩
  · rw [Node.write]
    simp only [written, Value.datum_ofJson]
    rfl
  · rw [Node.normalize, Value.isTruthy_ofJson, ofValue_writeNodeMembers, read]
    rfl

theorem roundTrips_nodes {nodes : NameMap Node} (keyed : ∀ entry ∈ nodes, entry.2.id = entry.1)
    (data : ∀ entry ∈ nodes, entry.2.HoldsData)
    (each : ∀ entry ∈ nodes, ∀ value ∈ entry.2.values, value.RoundTrips) :
    ∃ written, Graph.writeNodes nodes = .ok written ∧
      Graph.readNodes (Value.ofJsonMembers written) = .ok (Graph.normalizeNodes nodes) := by
  induction nodes with
  | nil => exact ⟨[], rfl, rfl⟩
  | cons entry rest ih =>
    have here := List.mem_cons_self (a := entry) (l := rest)
    obtain ⟨first, written, read⟩ := roundTrips_node (data entry here) (each entry here)
    obtain ⟨others, writtenAll, readAll⟩ :=
      ih (fun entry member => keyed entry (List.mem_cons_of_mem _ member))
        (fun entry member => data entry (List.mem_cons_of_mem _ member))
        (fun entry member => each entry (List.mem_cons_of_mem _ member))
    rw [keyed entry here] at read
    refine ⟨(entry.1, first) :: others,
      cons_eq_ok.mpr ⟨first, others, written, writtenAll, rfl⟩, ?_⟩
    exact cons_eq_ok.mpr ⟨_, _, read, readAll, rfl⟩

theorem roundTrips_graph {g : Graph} (regular : g.Regular) (each : ∀ value ∈ g.values, value.RoundTrips) :
    ∃ written, g.write = .ok written ∧ Graph.ofValue (.ofJson written) = .ok g.normalize := by
  obtain ⟨nodes, resultId, parameters⟩ := g
  obtain ⟨keyed, data, flagged⟩ := regular
  obtain ⟨members, written, read⟩ := roundTrips_nodes keyed data fun entry member value inside =>
    each value (List.mem_flatMap.mpr ⟨entry, member, inside⟩)
  refine ⟨.obj members, map_eq_ok.mpr ⟨members, written, rfl⟩, ?_⟩
  refine bind_eq_ok.mpr ⟨_, read, Graph.ofNodes_eq_ok.mpr ⟨resultId, rfl, ?_⟩⟩
  rw [Graph.flagged_normalizeNodes]
  exact flagged

theorem Value.Portable.roundTrips {v : Value} (portable : v.Portable) : v.RoundTrips := by
  induction portable with
  | scalar s => exact ⟨.scalar s, rfl, rfl⟩
  | nodeRef id => exact ⟨.obj [("from_node", .str id)], rfl, rfl⟩
  | paramRef name => exact ⟨.obj [("from_parameter", .str name)], rfl, rfl⟩
  | position parameter n =>
    exact ⟨.obj [("from_parameter", .str parameter), ("index", .int n)], rfl, rfl⟩
  | label parameter label =>
    exact ⟨.obj [("from_parameter", .str parameter), ("label", .str label)], rfl, rfl⟩
  | tuple _ ih =>
    obtain ⟨written, all, read⟩ := roundTrips_all ih
    exact ⟨.arr written, map_eq_ok.mpr ⟨written, all, rfl⟩, map_eq_ok.mpr ⟨_, read, rfl⟩⟩
  | callback regular _ ih =>
    obtain ⟨document, written, read⟩ := roundTrips_graph regular ih
    refine ⟨.obj [("process_graph", document)], map_eq_ok.mpr ⟨document, written, rfl⟩, ?_⟩
    exact map_eq_ok.mpr ⟨_, read, rfl⟩

theorem Graph.Portable.read_write {g : Graph} (portable : g.Portable) :
    ∃ document, g.write = .ok document ∧ Graph.read document = .ok g.normalize :=
  roundTrips_graph portable.regular fun value inside => (portable.arguments value inside).roundTrips

/-! ### The graphs of builders -/

namespace Value

mutual

def callbacks : Value → List Graph
  | .callback g => [g]
  | .tuple items => callbacksAll items
  | _ => []

def callbacksAll : List Value → List Graph
  | [] => []
  | item :: rest => callbacks item ++ callbacksAll rest

end

mutual

def selectors : Value → List Scalar
  | .element _ selector => [selector]
  | .tuple items => selectorsAll items
  | _ => []

def selectorsAll : List Value → List Scalar
  | [] => []
  | item :: rest => selectors item ++ selectorsAll rest

end

theorem callbacksAll_eq (items : List Value) : callbacksAll items = items.flatMap callbacks := by
  induction items with
  | nil => rfl
  | cons item rest ih => rw [callbacksAll, ih, List.flatMap_cons]

theorem selectorsAll_eq (items : List Value) : selectorsAll items = items.flatMap selectors := by
  induction items with
  | nil => rfl
  | cons item rest ih => rw [selectorsAll, ih, List.flatMap_cons]

end Value

def Scalar.isSelector : Scalar → Bool
  | .number (.int _) | .str _ => true
  | _ => false

def Graph.callbacks (g : Graph) : List Graph := g.values.flatMap Value.callbacks

def Graph.selectors (g : Graph) : List Scalar := g.values.flatMap Value.selectors

/-- A graph that was read, or that a builder held at some time, with callbacks that are such graphs
again. -/
inductive Graph.Sourced : Graph → Prop where
  | read {document : Json} {g : Graph} (read : Graph.read document = .ok g) : Sourced g
  | snapshot {b : Builder} (reachable : b.Reachable) (callbacks : ∀ g ∈ b.toGraph.callbacks, Sourced g)
      (selectors : ∀ s ∈ b.toGraph.selectors, s.isSelector = true) : Sourced b.toGraph

/-- What a node can hold has a written form as far as its callbacks and selectors have one. -/
theorem Value.portable_of_isArgument {v : Value} (argument : v.isArgument = true)
    (callbacks : ∀ g ∈ v.callbacks, g.Portable) (selectors : ∀ s ∈ v.selectors, s.isSelector = true) :
    v.Portable := by
  induction v using Value.induct with
  | scalar s => exact .scalar s
  | nodeRef id => exact .nodeRef id
  | paramRef name => exact .paramRef name
  | element parameter selector =>
    have valid := selectors selector (by simp [Value.selectors])
    match selector with
    | .number (.int n) => exact .position parameter n
    | .str label => exact .label parameter label
    | .null | .bool _ | .number (.float _) => cases valid
  | tuple items ih =>
    rw [Value.callbacks, Value.callbacksAll_eq] at callbacks
    rw [Value.selectors, Value.selectorsAll_eq] at selectors
    refine .tuple fun item member => ih item member ?_ ?_ ?_
    · exact Value.areArguments_iff.mp argument item member
    · exact fun g inside => callbacks g (List.mem_flatMap.mpr ⟨item, member, inside⟩)
    · exact fun s inside => selectors s (List.mem_flatMap.mpr ⟨item, member, inside⟩)
  | callback g =>
    have portable := callbacks g (by simp [Value.callbacks])
    exact .callback portable.regular portable.arguments
  | list | obj | param | node | graph | expr => cases argument

theorem Builder.WellFormed.portable {b : Builder} (h : b.WellFormed)
    (callbacks : ∀ g ∈ b.toGraph.callbacks, g.Portable)
    (selectors : ∀ s ∈ b.toGraph.selectors, s.isSelector = true) : b.toGraph.Portable where
  regular := by
    refine ⟨h.keyed, fun entry member => ⟨?_, h.described entry member⟩, Builder.keys_flagged h⟩
    obtain ⟨name, operation, _⟩ := h.offered entry member
    exact ⟨.str name, operation⟩
  arguments := by
    intro value inside
    refine Value.portable_of_isArgument ?_ ?_ ?_
    · obtain ⟨entry, member, found⟩ := List.mem_flatMap.mp inside
      obtain ⟨argument, present, rfl⟩ := List.mem_map.mp found
      exact h.arguments entry member argument present
    · exact fun g part => callbacks g (List.mem_flatMap.mpr ⟨value, inside, part⟩)
    · exact fun s part => selectors s (List.mem_flatMap.mpr ⟨value, inside, part⟩)

theorem Graph.Sourced.portable {g : Graph} (sourced : g.Sourced) : g.Portable := by
  induction sourced with
  | read read => exact Graph.portable_of_read read
  | snapshot reachable _ selectors ih => exact reachable.wellFormed.portable ih selectors

/-- The graph that a builder holds has a document, and reading it gives the graph back in normal form,
where the graphs of callbacks were read or held by builders themselves, at any depth, and elements are
selected by positions or labels. -/
theorem Builder.Reachable.reads_back {b : Builder} (reachable : b.Reachable)
    (callbacks : ∀ g ∈ b.toGraph.callbacks, g.Sourced)
    (selectors : ∀ s ∈ b.toGraph.selectors, s.isSelector = true) :
    ∃ document, b.write = .ok document ∧ Graph.read document = .ok b.toGraph.normalize :=
  (reachable.wellFormed.portable (fun g inside => (callbacks g inside).portable) selectors).read_write

/-- Whether a graph is the sum of the first two elements of its parameter. -/
def Graph.isSampleSum : Graph → Bool
  | ⟨[("add1", ⟨"add1", .str "add", [("x", .element "data" (.number (.int 0))),
      ("y", .element "data" (.number (.int 1)))], .null, true⟩)], some "add1", []⟩ => true
  | _ => false

theorem Graph.eq_of_isSampleSum {g h : Graph} (first : g.isSampleSum = true)
    (second : h.isSampleSum = true) : g = h := by
  unfold isSampleSum at first second
  split at first
  · split at second
    · rfl
    · cases second
  · cases first

theorem sample_reads_back : ∃ b document, Session.sample.builder? 0 = some b ∧
    b.toGraph.callbacks.length = 1 ∧ (∀ g ∈ b.toGraph.callbacks, g.Sourced) ∧
    b.write = .ok document ∧ Graph.read document = .ok b.toGraph.normalize := by
  have conditions : ((Session.sampleCallback.builder? 1).any fun c =>
      c.toGraph.isSampleSum && c.toGraph.callbacks.isEmpty &&
        c.toGraph.selectors.all Scalar.isSelector) = true ∧
      ((Session.sample.builder? 0).any fun b => b.toGraph.callbacks.all Graph.isSampleSum &&
        b.toGraph.callbacks.length == 1 && b.toGraph.selectors.all Scalar.isSelector) = true := by
    decide +kernel
  simp only [Option.any_eq_true, Bool.and_eq_true, List.isEmpty_iff, List.all_eq_true,
    beq_iff_eq] at conditions
  obtain ⟨⟨c, there, ⟨sum, none⟩, places⟩, b, found, ⟨sums, one⟩, selectors⟩ := conditions
  have reached : c.Reachable := ⟨_, 1, Session.Reachable.start.playAll _, there⟩
  have snapshot : c.toGraph.Sourced := .snapshot reached (by simp [none]) places
  have sourced : ∀ g ∈ b.toGraph.callbacks, g.Sourced := by
    intro g inside
    rw [← Graph.eq_of_isSampleSum sum (sums g inside)]
    exact snapshot
  obtain ⟨document, written, read⟩ := Builder.Reachable.reads_back
    ⟨Session.sample, 0, Session.sample_reachable, found⟩ sourced selectors
  exact ⟨b, document, found, one, sourced, written, read⟩

end FormulaGraph
