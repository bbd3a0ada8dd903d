import FormulaGraph.Document.Reader
import FormulaGraph.Document.Writer
import FormulaGraph.Proofs.Graph.Argument
import FormulaGraph.Proofs.Json.Induction
import FormulaGraph.Proofs.NameMap

/-!
# Graphs that can be written

A graph is `Portable` if its nodes stand under their own ids, its flags name its result, all that its
nodes hold besides their arguments is data, and its arguments are made of what has a written form;
the graphs of its callbacks are portable again. Every graph that was read is `Loaded`: it is portable,
and neither it nor a graph of its callbacks has free parameters.
-/

namespace FormulaGraph

namespace Value

theorem ofJsonMembers_eq (members : NameMap Json) :
    ofJsonMembers members = NameMap.mapValues ofJson members := by
  induction members with
  | nil => rfl
  | cons entry rest ih => rw [ofJsonMembers, ih]; rfl

theorem datumAll_ofJsonItems {items : List Json}
    (each : ∀ item ∈ items, (ofJson item).datum = .ok item) :
    datumAll (ofJsonItems items) = .ok items := by
  induction items with
  | nil => rfl
  | cons item rest ih =>
    rw [ofJsonItems, datumAll, each item List.mem_cons_self,
      ih fun item member => each item (List.mem_cons_of_mem _ member)]
    rfl

theorem datumNamed_ofJsonMembers {members : NameMap Json}
    (each : ∀ member ∈ members, (ofJson member.2).datum = .ok member.2) :
    datumNamed (ofJsonMembers members) = .ok members := by
  induction members with
  | nil => rfl
  | cons entry rest ih =>
    rw [ofJsonMembers, datumNamed, each entry List.mem_cons_self,
      ih fun member present => each member (List.mem_cons_of_mem _ present)]
    rfl

theorem datum_ofJson (datum : Json) : (ofJson datum).datum = .ok datum := by
  induction datum using Json.induct with
  | scalar s => rfl
  | arr items ih => rw [ofJson, Value.datum, datumAll_ofJsonItems ih]; rfl
  | obj members ih => rw [ofJson, Value.datum, datumNamed_ofJsonMembers ih]; rfl

/-- Whether a value counts as present: not null, false, zero or empty. -/
def isTruthy : Value → Bool
  | .scalar s => s.isTruthy
  | .list items | .tuple items => !items.isEmpty
  | .obj members => !members.isEmpty
  | .graph ⟨nodes, _, _⟩ => !nodes.isEmpty
  | _ => true

theorem isTruthy_ofJson (datum : Json) : (ofJson datum).isTruthy = datum.isTruthy := by
  cases datum with
  | scalar s => rfl
  | arr items => cases items <;> rfl
  | obj members => cases members <;> rfl

end Value

/-- Besides its arguments a node holds data. -/
def Node.HoldsData (n : Node) : Prop :=
  (∃ operation, n.operation = .ofJson operation) ∧ ∃ description, n.description = .ofJson description

/-- Nodes stand under their own ids and hold data, and the only flag is that of the result. -/
structure Graph.Regular (g : Graph) : Prop where
  keyed : ∀ entry ∈ g.nodes, entry.2.id = entry.1
  data : ∀ entry ∈ g.nodes, entry.2.HoldsData
  flagged : (g.nodes.filter fun entry => entry.2.isResult).map Prod.fst = g.resultId.toList

/-- An argument that has a written form, with the graphs of its callbacks. -/
inductive Value.Portable : Value → Prop where
  | scalar (s : Scalar) : Portable (.scalar s)
  | nodeRef (id : String) : Portable (.nodeRef id)
  | paramRef (name : String) : Portable (.paramRef name)
  | position (parameter : String) (n : Int) : Portable (.element parameter (.number (.int n)))
  | label (parameter label : String) : Portable (.element parameter (.str label))
  | tuple {items : List Value} (each : ∀ item ∈ items, Portable item) : Portable (.tuple items)
  | callback {g : Graph} (regular : g.Regular) (each : ∀ value ∈ g.values, Portable value) :
      Portable (.callback g)

structure Graph.Portable (g : Graph) : Prop where
  regular : g.Regular
  arguments : ∀ value ∈ g.values, value.Portable

inductive Value.Loaded : Value → Prop where
  | scalar (s : Scalar) : Loaded (.scalar s)
  | nodeRef (id : String) : Loaded (.nodeRef id)
  | paramRef (name : String) : Loaded (.paramRef name)
  | position (parameter : String) (n : Int) : Loaded (.element parameter (.number (.int n)))
  | label (parameter label : String) : Loaded (.element parameter (.str label))
  | tuple {items : List Value} (each : ∀ item ∈ items, Loaded item) : Loaded (.tuple items)
  | callback {g : Graph} (regular : g.Regular) (free : g.parameters = [])
      (each : ∀ value ∈ g.values, Loaded value) : Loaded (.callback g)

structure Node.Loaded (id : String) (n : Node) : Prop where
  keyed : n.id = id
  data : n.HoldsData
  arguments : ∀ value ∈ n.values, value.Loaded

structure Graph.Loaded (g : Graph) : Prop where
  regular : g.Regular
  free : g.parameters = []
  arguments : ∀ value ∈ g.values, value.Loaded

theorem Value.Loaded.portable {v : Value} (loaded : v.Loaded) : v.Portable := by
  induction loaded with
  | scalar s => exact .scalar s
  | nodeRef id => exact .nodeRef id
  | paramRef name => exact .paramRef name
  | position parameter n => exact .position parameter n
  | label parameter label => exact .label parameter label
  | tuple _ ih => exact .tuple ih
  | callback regular _ _ ih => exact .callback regular ih

theorem Graph.Loaded.portable {g : Graph} (loaded : g.Loaded) : g.Portable :=
  ⟨loaded.regular, fun value inside => (loaded.arguments value inside).portable⟩

theorem Graph.loaded_of_nodes {nodes : NameMap Node} {resultId : Option String}
    (each : ∀ entry ∈ nodes, entry.2.Loaded entry.1)
    (flagged : (nodes.filter fun entry => entry.2.isResult).map Prod.fst = resultId.toList) :
    Graph.Loaded ⟨nodes, resultId, []⟩ where
  regular :=
    ⟨fun entry member => (each entry member).keyed, fun entry member => (each entry member).data, flagged⟩
  free := rfl
  arguments := by
    intro value inside
    obtain ⟨entry, member, found⟩ := List.mem_flatMap.mp inside
    exact (each entry member).arguments value found

theorem Graph.ofNodes_eq_ok {nodes : NameMap Node} {g : Graph} :
    ofNodes nodes = .ok g ↔ ∃ resultId, g = ⟨nodes, resultId, []⟩ ∧
      (nodes.filter fun entry => entry.2.isResult).map Prod.fst = resultId.toList := by
  unfold ofNodes
  split
  · rename_i none
    rw [none]
    constructor
    · intro h
      exact ⟨_, (Except.ok.inj h).symm, rfl⟩
    · rintro ⟨resultId, rfl, same⟩
      rw [Option.toList_eq_nil_iff.mp same.symm]
  · rename_i id one
    rw [one]
    constructor
    · intro h
      exact ⟨_, (Except.ok.inj h).symm, rfl⟩
    · rintro ⟨resultId, rfl, same⟩
      rw [Option.toList_eq_singleton_iff.mp same.symm]
  · rename_i none one
    constructor
    · intro h
      cases h
    · rintro ⟨_ | id, _, same⟩
      · exact (none same).elim
      · exact (one id same).elim

/-! ### What is read -/

structure Json.ReadsLoaded (datum : Json) : Prop where
  argument : ∀ a, Value.read (.ofJson datum) = .ok a → a.Loaded
  object : ∀ bound, Value.readObject (.ofJson datum) = .ok bound → ∀ entry ∈ bound, entry.2.Loaded
  node : ∀ id n, Node.ofValue id (.ofJson datum) = .ok n → n.Loaded id
  graph : ∀ g, Graph.ofValue (.ofJson datum) = .ok g → g.Loaded

theorem readAll_itemwise :
    Itemwise (fun datum => Value.read (.ofJson datum)) (fun _ a => a)
      (fun data => Value.readAll (Value.ofJsonItems data)) :=
  ⟨rfl, fun _ _ => rfl⟩

theorem readNamed_itemwise :
    Itemwise (fun member : String × Json => Value.read (.ofJson member.2)) (fun member a => (member.1, a))
      (fun members => Value.readNamed (Value.ofJsonMembers members)) :=
  ⟨rfl, fun _ _ => rfl⟩

theorem readNodes_itemwise :
    Itemwise (fun member : String × Json => Node.ofValue member.1 (.ofJson member.2))
      (fun member n => (member.1, n)) (fun members => Graph.readNodes (Value.ofJsonMembers members)) :=
  ⟨rfl, fun _ _ => rfl⟩

theorem loaded_of_readAll {items : List Json} (each : ∀ item ∈ items, item.ReadsLoaded)
    {out : List Value} (read : Value.readAll (Value.ofJsonItems items) = .ok out) :
    ∀ value ∈ out, value.Loaded :=
  readAll_itemwise.forall_of_ok (fun item member => (each item member).argument) read

theorem loaded_of_readNamed {members : NameMap Json} (each : ∀ member ∈ members, member.2.ReadsLoaded)
    {out : NameMap Value} (read : Value.readNamed (Value.ofJsonMembers members) = .ok out) :
    ∀ entry ∈ out, entry.2.Loaded :=
  readNamed_itemwise.forall_of_ok (P := fun entry => entry.2.Loaded)
    (fun member present => (each member present).argument) read

theorem loaded_of_readNodes {members : NameMap Json} (each : ∀ member ∈ members, member.2.ReadsLoaded)
    {out : NameMap Node} (read : Graph.readNodes (Value.ofJsonMembers members) = .ok out) :
    ∀ entry ∈ out, entry.2.Loaded entry.1 :=
  readNodes_itemwise.forall_of_ok (P := fun entry => entry.2.Loaded entry.1)
    (fun member present => (each member present).node member.1) read

theorem readArguments_eq (members : NameMap Json) :
    Node.readArguments (Value.ofJsonMembers members) =
      match NameMap.get? members "arguments" with
      | none => .ok []
      | some given => Value.readObject (.ofJson given) := by
  induction members with
  | nil => rfl
  | cons member rest ih =>
    obtain ⟨name, given⟩ := member
    rw [Value.ofJsonMembers, Node.readArguments, NameMap.get?]
    by_cases named : name = "arguments"
    · simp only [named, if_true]
    · simp only [named, if_false, ih]

theorem loaded_of_readArguments {members : NameMap Json}
    (each : ∀ member ∈ members, member.2.ReadsLoaded) {out : NameMap Value}
    (read : Node.readArguments (Value.ofJsonMembers members) = .ok out) :
    ∀ entry ∈ out, entry.2.Loaded := by
  rw [readArguments_eq] at read
  split at read
  · cases read
    simp
  · rename_i given found
    exact (each _ (NameMap.mem_of_get? found)).object _ read

theorem holdsData_of_members {members : NameMap Json} {id : String} {operation : Value}
    {arguments : NameMap Value}
    (given : NameMap.get? (Value.ofJsonMembers members) "process_id" = some operation) :
    Node.HoldsData ⟨id, operation, arguments, readDescription (Value.ofJsonMembers members),
      readFlag (Value.ofJsonMembers members)⟩ := by
  rw [Value.ofJsonMembers_eq, NameMap.get?_mapValues, Option.map_eq_some_iff] at given
  obtain ⟨datum, _, same⟩ := given
  refine ⟨⟨datum, same.symm⟩, ?_⟩
  unfold readDescription
  rw [Value.ofJsonMembers_eq, NameMap.get?_mapValues]
  cases NameMap.get? members "description" with
  | none => exact ⟨.null, rfl⟩
  | some description => exact ⟨description, rfl⟩

theorem loaded_of_readElement {name : String} {parameter label : Except Misuse String}
    {position : Except Misuse Int} {a : Value} (read : readElement? parameter name position label = some (.ok a)) :
    a.Loaded := by
  unfold readElement? at read
  split at read
  · obtain ⟨p, _, read⟩ := bind_eq_ok.mp (Option.some.inj read)
    obtain ⟨n, _, read⟩ := bind_eq_ok.mp read
    cases read
    exact .position p n
  · split at read
    · obtain ⟨p, _, read⟩ := bind_eq_ok.mp (Option.some.inj read)
      obtain ⟨l, _, read⟩ := bind_eq_ok.mp read
      cases read
      exact .label p l
    · cases read

theorem loaded_of_read_obj {members : NameMap Json}
    (each : ∀ member ∈ members, member.2.ReadsLoaded) {a : Value}
    (read : Value.read (.ofJson (.obj members)) = .ok a) : a.Loaded := by
  match members with
  | [] => cases read
  | [(name, value)] =>
    simp only [Value.ofJson, Value.ofJsonMembers, Value.read] at read
    split at read
    · obtain ⟨id, _, rfl⟩ := map_eq_ok.mp read
      exact .nodeRef id
    · split at read
      · obtain ⟨p, _, rfl⟩ := map_eq_ok.mp read
        exact .paramRef p
      · split at read
        · obtain ⟨g, graph, rfl⟩ := map_eq_ok.mp read
          have loaded := (each (name, value) List.mem_cons_self).graph g graph
          exact .callback loaded.regular loaded.free loaded.arguments
        · cases read
  | [(first, one), (second, two)] =>
    simp only [Value.ofJson, Value.ofJsonMembers, Value.read] at read
    rw [Option.getD_eq_iff] at read
    rcases read with found | ⟨_, failed⟩
    · split at found
      · exact loaded_of_readElement found
      · split at found
        · exact loaded_of_readElement found
        · cases found
    · cases failed
  | _ :: _ :: _ :: _ => cases read

/-- The parts of a datum may be read as arguments, as nodes or as graphs; by induction all of these are
loaded. -/
theorem Json.readsLoaded (datum : Json) : datum.ReadsLoaded := by
  -- between a graph and its arguments stand three levels of data, and one step goes down only one
  induction datum using Json.induct with
  | scalar s =>
    constructor
    case argument =>
      intro a read
      cases read
      exact .scalar s
    case object => nofun
    case node => nofun
    case graph => nofun
  | arr items ih =>
    constructor
    case argument =>
      intro a read
      rw [Value.ofJson, Value.read, map_eq_ok] at read
      obtain ⟨out, all, rfl⟩ := read
      exact .tuple (loaded_of_readAll ih all)
    case object => nofun
    case node => nofun
    case graph => nofun
  | obj members ih =>
    constructor
    case argument => exact fun a read => loaded_of_read_obj ih read
    case object =>
      intro bound read
      exact loaded_of_readNamed ih read
    case node =>
      intro id n read
      rw [Value.ofJson, Node.ofValue] at read
      split at read
      · cases read
      · rename_i operation given
        obtain ⟨arguments, all, read⟩ := bind_eq_ok.mp read
        cases read
        refine ⟨rfl, holdsData_of_members given, ?_⟩
        intro value inside
        obtain ⟨entry, member, rfl⟩ := List.mem_map.mp inside
        exact loaded_of_readArguments ih all entry member
    case graph =>
      intro g read
      rw [Value.ofJson, Graph.ofValue] at read
      obtain ⟨nodes, all, read⟩ := bind_eq_ok.mp read
      obtain ⟨resultId, rfl, flagged⟩ := Graph.ofNodes_eq_ok.mp read
      exact Graph.loaded_of_nodes (loaded_of_readNodes ih all) flagged

theorem Graph.loaded_of_read {document : Json} {g : Graph} (read : Graph.read document = .ok g) :
    g.Loaded :=
  document.readsLoaded.graph g read

theorem Graph.portable_of_read {document : Json} {g : Graph} (read : Graph.read document = .ok g) :
    g.Portable :=
  (Graph.loaded_of_read read).portable

end FormulaGraph
