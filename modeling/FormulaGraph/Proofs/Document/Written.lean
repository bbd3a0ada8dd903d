import FormulaGraph.Proofs.Document.Portable
import FormulaGraph.Proofs.Number.Limit

/-!
# When a graph has a document

A graph whose nodes hold data has a document exactly if all arguments of its nodes have a written form.
The document has the nodes in their order, and the flag of the result where a node is flagged. What is written
has a text just if what it stands for has one: a description that is left out hides no integer.
-/

namespace FormulaGraph

def Value.Writable (v : Value) : Prop := ∃ datum, v.write = .ok datum

theorem writeAll_itemwise : Itemwise Value.write (fun _ datum => datum) Value.writeAll :=
  ⟨rfl, fun _ _ => rfl⟩

theorem writeNamed_itemwise :
    Itemwise (fun argument : String × Value => argument.2.write) (fun argument datum => (argument.1, datum))
      Value.writeNamed :=
  ⟨rfl, fun _ _ => rfl⟩

theorem writeNodes_itemwise :
    Itemwise (fun entry : String × Node => entry.2.write) (fun entry datum => (entry.1, datum)) Graph.writeNodes :=
  ⟨rfl, fun _ _ => rfl⟩

def Json.resultFlag? : Json → Option Json
  | .obj members => NameMap.get? members "result"
  | _ => none

theorem resultFlag?_writeNodeMembers (operation arguments description : Json) (isResult : Bool) :
    (writeNodeMembers operation arguments description isResult).resultFlag? =
      if isResult then some (.bool true) else none := by
  unfold writeNodeMembers Json.resultFlag?
  cases description.isTruthy with
  | true | false =>
    cases isResult with
    | true | false => simp [NameMap.get?]

namespace Node

theorem write_eq_ok {n : Node} {written : Json} :
    n.write = .ok written ↔ ∃ members operation description, Value.writeNamed n.arguments = .ok members ∧
      n.operation.datum = .ok operation ∧ n.description.datum = .ok description ∧
      written = writeNodeMembers operation (.obj members) description n.isResult := by
  obtain ⟨id, operation, arguments, description, isResult⟩ := n
  rw [write]
  constructor
  · intro h
    obtain ⟨members, named, h⟩ := bind_eq_ok.mp h
    obtain ⟨first, operation, h⟩ := bind_eq_ok.mp h
    obtain ⟨second, description, h⟩ := bind_eq_ok.mp h
    exact ⟨members, first, second, named, operation, description, (Except.ok.inj h).symm⟩
  · rintro ⟨members, first, second, named, operation, description, rfl⟩
    refine bind_eq_ok.mpr ⟨members, named, bind_eq_ok.mpr ⟨first, operation, ?_⟩⟩
    exact bind_eq_ok.mpr ⟨second, description, rfl⟩

theorem exists_write_iff {n : Node} (data : n.HoldsData) :
    (∃ written, n.write = .ok written) ↔ ∀ value ∈ n.values, value.Writable := by
  obtain ⟨id, operation, arguments, description, isResult⟩ := n
  obtain ⟨⟨operation, rfl⟩, ⟨description, rfl⟩⟩ := data
  have byValue : (∀ value ∈ Node.values ⟨id, .ofJson operation, arguments, .ofJson description, isResult⟩,
      value.Writable) ↔ ∀ argument ∈ arguments, argument.2.Writable := by
    simp only [values, List.forall_mem_map]
  rw [byValue]
  refine Iff.trans ?_ writeNamed_itemwise.exists_ok_iff
  simp only [write_eq_ok]
  constructor
  · rintro ⟨_, members, _, _, named, _⟩
    exact ⟨members, named⟩
  · rintro ⟨members, named⟩
    exact ⟨_, members, operation, description, named, Value.datum_ofJson _, Value.datum_ofJson _, rfl⟩

theorem resultFlag?_of_write {n : Node} {written : Json} (h : n.write = .ok written) :
    written.resultFlag? = if n.isResult then some (.bool true) else none := by
  obtain ⟨members, operation, description, _, _, _, rfl⟩ := write_eq_ok.mp h
  exact resultFlag?_writeNodeMembers operation (.obj members) description n.isResult

theorem holdsData_of_texts (id operation : String) (arguments : NameMap Value) (isResult : Bool) :
    HoldsData ⟨id, .str operation, arguments, .null, isResult⟩ :=
  ⟨⟨.str operation, rfl⟩, ⟨.null, rfl⟩⟩

end Node

namespace Graph

theorem forall₂_writeNodes {nodes : NameMap Node} {members : NameMap Json}
    (h : writeNodes nodes = .ok members) :
    List.Forall₂ (fun entry member => member.1 = entry.1 ∧ entry.2.write = .ok member.2) nodes members :=
  writeNodes_itemwise.named_eq_ok_iff.mp h

theorem write_eq_ok {g : Graph} {document : Json} :
    g.write = .ok document ↔ ∃ members, writeNodes g.nodes = .ok members ∧ .obj members = document := by
  obtain ⟨nodes, resultId, parameters⟩ := g
  exact map_eq_ok

/-- A graph has a document exactly if the arguments of its nodes have written forms. -/
theorem exists_write_iff {g : Graph} (data : ∀ entry ∈ g.nodes, entry.2.HoldsData) :
    (∃ document, g.write = .ok document) ↔ ∀ value ∈ g.values, value.Writable := by
  have written : (∃ document, g.write = .ok document) ↔ ∃ members, writeNodes g.nodes = .ok members := by
    cases g
    exact exists_map_ok
  rw [written, writeNodes_itemwise.exists_ok_iff]
  constructor
  · intro each value inside
    obtain ⟨entry, member, found⟩ := List.mem_flatMap.mp inside
    exact (Node.exists_write_iff (data entry member)).mp (each entry member) value found
  · intro each entry member
    refine (Node.exists_write_iff (data entry member)).mpr fun value inside => ?_
    exact each value (List.mem_flatMap.mpr ⟨entry, member, inside⟩)

end Graph

/-- An argument of a kind that nodes can have, with nodes in the graphs of its callbacks that hold data and such
arguments again. -/
inductive Value.Finished : Value → Prop where
  | scalar (s : Scalar) : Finished (.scalar s)
  | nodeRef (id : String) : Finished (.nodeRef id)
  | paramRef (name : String) : Finished (.paramRef name)
  | element (parameter : String) (selector : Scalar) : Finished (.element parameter selector)
  | tuple {items : List Value} (each : ∀ item ∈ items, Finished item) : Finished (.tuple items)
  | callback {g : Graph} (data : ∀ entry ∈ g.nodes, entry.2.HoldsData)
      (each : ∀ value ∈ g.values, Finished value) : Finished (.callback g)

theorem Value.Finished.writable {v : Value} (finished : v.Finished) : v.Writable := by
  induction finished with
  | scalar | nodeRef | paramRef | element => exact ⟨_, rfl⟩
  | tuple _ ih =>
    exact exists_map_ok.mpr (writeAll_itemwise.exists_ok_iff.mpr ih)
  | callback data _ ih =>
    exact exists_map_ok.mpr ((Graph.exists_write_iff data).mpr ih)

/-! ### Written forms in words -/

theorem Json.hasText_of_not_isTruthy {datum : Json} (absent : datum.isTruthy = false) : datum.hasText = true := by
  cases datum with
  | scalar s =>
    match s with
    | .null | .bool _ | .str _ | .number (.float _) => rfl
    | .number (.int n) =>
      have zero : n = 0 := by simpa [isTruthy, Scalar.isTruthy, Number.isZero] using absent
      rw [zero]
      rfl
  | arr items =>
    have none : items = [] := by simpa [isTruthy] using absent
    rw [none]
    rfl
  | obj members =>
    have none : members = [] := by simpa [isTruthy] using absent
    rw [none]
    rfl

theorem hasText_writeNodeMembers (operation arguments description : Json) (isResult : Bool) :
    (writeNodeMembers operation arguments description isResult).hasText =
      (operation.hasText && arguments.hasText && description.hasText) := by
  unfold writeNodeMembers
  have flag : (Scalar.bool true).hasText = true := rfl
  cases given : description.isTruthy with
  | true =>
    cases isResult with
    | true | false => simp [Json.hasText, Json.membersHaveText, flag, Bool.and_assoc]
  | false =>
    cases isResult with
    | true | false =>
      simp [Json.hasText, Json.membersHaveText, flag, Json.hasText_of_not_isTruthy given]

theorem hasText_writeElement (parameter : String) (selector : Scalar) :
    (writeElement parameter selector).hasText = selector.hasText := by
  have name : (Scalar.str parameter).hasText = true := rfl
  simp [writeElement, Json.hasText, Json.membersHaveText, name]

def Value.Worded (v : Value) : Prop := ∀ datum, v.write = .ok datum → datum.hasText = v.hasText

theorem Node.hasText_of_write {n : Node} {written : Json} (data : n.HoldsData)
    (each : ∀ value ∈ n.values, value.Worded) (h : n.write = .ok written) : written.hasText = n.hasText := by
  obtain ⟨members, operation, description, named, first, second, rfl⟩ := write_eq_ok.mp h
  obtain ⟨id, head, arguments, last, isResult⟩ := n
  obtain ⟨⟨_, rfl⟩, ⟨_, rfl⟩⟩ := data
  obtain rfl := Except.ok.inj ((Value.datum_ofJson _).symm.trans first)
  obtain rfl := Except.ok.inj ((Value.datum_ofJson _).symm.trans second)
  have same : Json.membersHaveText members = Value.membersHaveText arguments := by
    rw [Json.membersHaveText_eq, Value.membersHaveText_eq]
    exact writeNamed_itemwise.all_eq (fun argument member => each _ (List.mem_map_of_mem member)) named
  rw [hasText_writeNodeMembers, Node.hasText, Json.hasText, same, Value.hasText_ofJson, Value.hasText_ofJson]

theorem Graph.hasText_of_write {g : Graph} {document : Json} (data : ∀ entry ∈ g.nodes, entry.2.HoldsData)
    (each : ∀ value ∈ g.values, value.Worded) (h : g.write = .ok document) : document.hasText = g.hasText := by
  obtain ⟨members, all, rfl⟩ := write_eq_ok.mp h
  have node : ∀ entry ∈ g.nodes, ∀ written, entry.2.write = .ok written → written.hasText = entry.2.hasText :=
    fun entry member written => Node.hasText_of_write (data entry member) fun value inside =>
      each value (List.mem_flatMap.mpr ⟨entry, member, inside⟩)
  have same := writeNodes_itemwise.all_eq (q := fun member => member.2.hasText) node all
  obtain ⟨nodes, _, _⟩ := g
  rw [Json.hasText, Json.membersHaveText_eq, same, Graph.hasText, Graph.nodesHaveText_eq]

theorem Value.Portable.worded {v : Value} (portable : v.Portable) : v.Worded := by
  induction portable with
  | scalar | nodeRef | paramRef =>
    intro datum written
    cases written
    rfl
  | position | label =>
    intro datum written
    cases written
    exact hasText_writeElement _ _
  | tuple _ ih =>
    intro datum written
    obtain ⟨data, all, rfl⟩ := map_eq_ok.mp written
    rw [Json.hasText, Json.haveText_eq, Value.hasText, Value.haveText_eq]
    exact writeAll_itemwise.all_eq ih all
  | @callback g regular _ ih =>
    intro datum written
    obtain ⟨document, whole, rfl⟩ := map_eq_ok.mp written
    have same := Graph.hasText_of_write regular.data ih whole
    simp [Json.hasText, Json.membersHaveText, Value.hasText, same]

end FormulaGraph
