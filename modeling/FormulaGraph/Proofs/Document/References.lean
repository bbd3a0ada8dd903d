import FormulaGraph.Expr.Tree
import FormulaGraph.Graph.Basic
import FormulaGraph.Proofs.Document.RoundTrip
import FormulaGraph.Proofs.Document.Written

/-!
# References in documents

The references of an argument stand in its written form in the same order, and what is read from there has them
again: `Value.nodeRefs_write`, `Value.nodeRefs_read_write`. So a document shows which nodes a node consumes, and
tells the same as the graph that was written and the graph that is read.
-/

namespace FormulaGraph

namespace Json

mutual

/-- The ids in the objects with the one member `from_node`, from left to right. The objects with the one member
`process_graph` are not gone into. -/
def nodeRefs : Json → List String
  | .scalar _ => []
  | .arr items => nodeRefsAll items
  | .obj [(name, content)] =>
    if name = "from_node" then [content.text]
    else if name = "process_graph" then []
    else nodeRefs content
  | .obj members => nodeRefsNamed members

def nodeRefsAll : List Json → List String
  | [] => []
  | item :: rest => nodeRefs item ++ nodeRefsAll rest

def nodeRefsNamed : List (String × Json) → List String
  | [] => []
  | (_, content) :: rest => nodeRefs content ++ nodeRefsNamed rest

end

theorem nodeRefsAll_eq (items : List Json) : nodeRefsAll items = items.flatMap nodeRefs := by
  induction items with
  | nil => rfl
  | cons item rest ih => rw [nodeRefsAll, ih, List.flatMap_cons]

/-- The references in the arguments of a written node. The names of arguments are no tags. -/
def argumentRefs : Json → List String
  | .obj arguments => arguments.flatMap fun argument => argument.2.nodeRefs
  | _ => []

/-- The nodes that the node under an id consumes, each once, as its document shows them. -/
def dependencies (document : Json) (id : String) : Except Misuse (List String) := do
  let written ← document.member id
  let arguments ← written.member "arguments"
  return arguments.argumentRefs.eraseDups

end Json

/-! ### Lists side by side -/

section

variable {α β γ : Type} {R : α → β → Prop} {xs : List α} {ys : List β}

theorem flatMap_eq_of_forall₂ {f : α → List γ} {g : β → List γ} (related : List.Forall₂ R xs ys)
    (each : ∀ x ∈ xs, ∀ y, R x y → g y = f x) : ys.flatMap g = xs.flatMap f := by
  induction related with
  | nil => rfl
  | cons here _ ih =>
    rw [List.flatMap_cons, List.flatMap_cons, each _ List.mem_cons_self _ here,
      ih fun x member => each x (List.mem_cons_of_mem _ member)]

theorem forall_mem_iff_of_forall₂ {p : α → Prop} {q : β → Prop} (related : List.Forall₂ R xs ys)
    (each : ∀ x ∈ xs, ∀ y, R x y → (q y ↔ p x)) : (∀ y ∈ ys, q y) ↔ ∀ x ∈ xs, p x := by
  induction related with
  | nil => simp
  | cons here _ ih =>
    rw [List.forall_mem_cons, List.forall_mem_cons, each _ List.mem_cons_self _ here,
      ih fun x member => each x (List.mem_cons_of_mem _ member)]

theorem forall₂_comp {S : β → γ → Prop} {zs : List γ} (first : List.Forall₂ R xs ys)
    (second : List.Forall₂ S ys zs) : List.Forall₂ (fun x z => ∃ y, R x y ∧ S y z) xs zs := by
  induction first generalizing zs with
  | nil =>
    cases second
    exact .nil
  | cons here _ ih =>
    cases second with
    | cons there later => exact .cons ⟨_, here, there⟩ (ih later)

end

/-! ### References that are written and read -/

theorem Value.nodeRefs_write {v : Value} {datum : Json} (written : v.write = .ok datum) :
    datum.nodeRefs = v.nodeRefs := by
  induction v using Value.induct generalizing datum with
  | scalar | nodeRef | paramRef =>
    cases written
    rfl
  | element parameter selector =>
    cases written
    rfl
  | tuple items ih =>
    obtain ⟨data, all, rfl⟩ := map_eq_ok.mp written
    rw [Json.nodeRefs, Json.nodeRefsAll_eq, nodeRefs, nodeRefsAll_eq]
    refine flatMap_eq_of_forall₂ (writeAll_itemwise.eq_ok_iff.mp all) fun item member datum related => ?_
    obtain ⟨_, written, rfl⟩ := related
    exact ih item member written
  | callback g =>
    obtain ⟨document, _, rfl⟩ := map_eq_ok.mp written
    rfl
  | list | obj | param | node | graph | expr => cases written

/-- Whatever selects an element, a position or a label is read where it was written. -/
theorem Value.exists_read_writeElement (parameter : String) (selector : Scalar) :
    ∃ other, Value.read (.ofJson (writeElement parameter selector)) = .ok (.element parameter other) := by
  match selector with
  | .number (.int n) => exact ⟨.number (.int n), rfl⟩
  | .bool b => exact ⟨.number (.int (if b then 1 else 0)), rfl⟩
  | .null => exact ⟨.str Scalar.null.text, rfl⟩
  | .number (.float x) => exact ⟨.str (Scalar.number (.float x)).text, rfl⟩
  | .str label => exact ⟨.str label, rfl⟩

theorem Value.nodeRefs_read_write {v a : Value} {datum : Json} (written : v.write = .ok datum)
    (read : Value.read (.ofJson datum) = .ok a) : a.nodeRefs = v.nodeRefs := by
  induction v using Value.induct generalizing datum a with
  | scalar | nodeRef | paramRef =>
    cases written
    cases read
    rfl
  | element parameter selector =>
    cases written
    obtain ⟨other, same⟩ := exists_read_writeElement parameter selector
    cases same.symm.trans read
    rfl
  | tuple items ih =>
    obtain ⟨data, all, rfl⟩ := map_eq_ok.mp written
    obtain ⟨out, again, rfl⟩ := map_eq_ok.mp read
    rw [nodeRefs, nodeRefs, nodeRefsAll_eq, nodeRefsAll_eq]
    have related := forall₂_comp (writeAll_itemwise.eq_ok_iff.mp all) (readAll_itemwise.eq_ok_iff.mp again)
    refine flatMap_eq_of_forall₂ related fun item member a related => ?_
    obtain ⟨_, ⟨datum, written, rfl⟩, _, read, rfl⟩ := related
    exact ih item member written read
  | callback g =>
    obtain ⟨document, _, rfl⟩ := map_eq_ok.mp written
    obtain ⟨h, _, rfl⟩ := map_eq_ok.mp read
    rfl
  | list | obj | param | node | graph | expr => cases written

theorem Json.argumentRefs_write {arguments : NameMap Value} {members : NameMap Json}
    (written : Value.writeNamed arguments = .ok members) :
    (Json.obj members).argumentRefs = arguments.flatMap fun argument => argument.2.nodeRefs :=
  flatMap_eq_of_forall₂ (writeNamed_itemwise.named_eq_ok_iff.mp written) fun _ _ _ related =>
    Value.nodeRefs_write related.2

/-- What the second node, read from the written form of the first, has in common with it. -/
structure Node.Reread (n m : Node) : Prop where
  isResult : m.isResult = n.isResult
  nodeRefs : m.nodeRefs = n.nodeRefs

namespace Node

variable {n m : Node} {written : Json}

theorem reread_of_write {id : String} (write : n.write = .ok written)
    (read : Node.ofValue id (.ofJson written) = .ok m) : n.Reread m := by
  obtain ⟨members, operation, description, named, _, _, rfl⟩ := write_eq_ok.mp write
  rw [ofValue_writeNodeMembers] at read
  obtain ⟨arguments, again, rfl⟩ := map_eq_ok.mp read
  refine ⟨rfl, ?_⟩
  have related := forall₂_comp (writeNamed_itemwise.named_eq_ok_iff.mp named)
    (readNamed_itemwise.named_eq_ok_iff.mp again)
  refine flatMap_eq_of_forall₂ related fun argument _ other related => ?_
  obtain ⟨member, ⟨_, written⟩, _, read⟩ := related
  exact Value.nodeRefs_read_write written read

end Node

namespace Graph

variable {g h : Graph} {document : Json}

theorem dependencies_write (written : g.write = .ok document) (id : String) :
    document.dependencies id = g.dependencies id := by
  obtain ⟨members, nodes, rfl⟩ := write_eq_ok.mp written
  rw [Json.dependencies, dependencies, node, node?, Json.member]
  have related := NameMap.get?_of_forall₂ (R := fun (n : Node) (datum : Json) => n.write = .ok datum)
    (forall₂_writeNodes nodes) id
  rcases related with ⟨none, none'⟩ | ⟨n, datum, some, some', write⟩
  · rw [none, none']
    rfl
  · obtain ⟨arguments, operation, description, named, _, _, rfl⟩ := Node.write_eq_ok.mp write
    rw [some, some']
    exact congrArg (fun refs => Except.ok refs.eraseDups) (Json.argumentRefs_write named)

theorem forall₂_read_write {nodes : NameMap Node} {members : NameMap Json}
    (written : writeNodes g.nodes = .ok members) (read : readNodes (Value.ofJsonMembers members) = .ok nodes) :
    List.Forall₂ (fun entry entry' => entry'.1 = entry.1 ∧ entry.2.Reread entry'.2) g.nodes nodes := by
  refine (forall₂_comp (forall₂_writeNodes written) (readNodes_itemwise.named_eq_ok_iff.mp read)).imp ?_
  rintro entry entry' ⟨member, ⟨key, write⟩, key', read⟩
  exact ⟨key'.trans key, Node.reread_of_write write read⟩

theorem dependencies_read_write (written : g.write = .ok document) (read : Graph.read document = .ok h)
    (id : String) : h.dependencies id = g.dependencies id := by
  obtain ⟨members, nodes, rfl⟩ := write_eq_ok.mp written
  obtain ⟨again, all, read⟩ := bind_eq_ok.mp read
  obtain ⟨resultId, rfl, _⟩ := ofNodes_eq_ok.mp read
  rw [dependencies, dependencies, node, node, node?, node?]
  have related := NameMap.get?_of_forall₂ (R := Node.Reread) (forall₂_read_write nodes all) id
  rcases related with ⟨none, none'⟩ | ⟨n, m, some, some', again⟩
  · rw [none, none']
  · rw [some, some']
    exact congrArg (fun refs => Except.ok refs.eraseDups) again.nodeRefs

end Graph

/-! ### Documents that can be read -/

/-- At most one node is flagged as the result, in the graphs of callbacks as well. -/
inductive Graph.Unambiguous : Graph → Prop where
  | intro {g : Graph} (single : (g.nodes.filter fun entry => entry.2.isResult).length ≤ 1)
      (inner : ∀ c ∈ g.callbacks, Unambiguous c) : Unambiguous g

theorem Graph.unambiguous_iff {g : Graph} :
    g.Unambiguous ↔ (g.nodes.filter fun entry => entry.2.isResult).length ≤ 1 ∧
      ∀ value ∈ g.values, ∀ c ∈ value.callbacks, c.Unambiguous := by
  have within : (∀ c ∈ g.callbacks, c.Unambiguous) ↔ ∀ value ∈ g.values, ∀ c ∈ value.callbacks, c.Unambiguous :=
    List.forall_mem_flatMap
  rw [← within]
  constructor
  · rintro ⟨single, inner⟩
    exact ⟨single, inner⟩
  · rintro ⟨single, inner⟩
    exact ⟨single, inner⟩

/-- The written form of an argument can be read exactly if the graphs of its callbacks leave no doubt about
their results. -/
def Value.ReadsIfUnambiguous (v : Value) : Prop :=
  ∀ datum, v.write = .ok datum →
    ((∃ a, Value.read (.ofJson datum) = .ok a) ↔ ∀ c ∈ v.callbacks, c.Unambiguous)

theorem Graph.exists_ofNodes_iff {nodes : NameMap Node} :
    (∃ g, ofNodes nodes = .ok g) ↔ (nodes.filter fun entry => entry.2.isResult).length ≤ 1 := by
  simp only [ofNodes_eq_ok]
  generalize flagged : nodes.filter (fun entry => entry.2.isResult) = entries
  match entries with
  | [] => exact ⟨fun _ => by simp, fun _ => ⟨_, none, rfl, rfl⟩⟩
  | [entry] => exact ⟨fun _ => by simp, fun _ => ⟨_, some entry.1, rfl, rfl⟩⟩
  | _ :: _ :: _ =>
    constructor
    · rintro ⟨_, resultId, _, same⟩
      cases resultId <;> simp at same
    · intro few
      simp at few

theorem Node.exists_read_iff {n : Node} {written : Json} {id : String} (write : n.write = .ok written)
    (each : ∀ value ∈ n.values, value.ReadsIfUnambiguous) :
    (∃ m, Node.ofValue id (.ofJson written) = .ok m) ↔ ∀ value ∈ n.values, ∀ c ∈ value.callbacks, c.Unambiguous := by
  obtain ⟨members, operation, description, named, _, _, rfl⟩ := write_eq_ok.mp write
  rw [ofValue_writeNodeMembers, exists_map_ok, values, List.forall_mem_map]
  calc (∃ arguments, Value.readNamed (Value.ofJsonMembers members) = .ok arguments)
    _ ↔ ∀ member ∈ members, ∃ a, Value.read (.ofJson member.2) = .ok a := readNamed_itemwise.exists_ok_iff
    _ ↔ ∀ argument ∈ n.arguments, ∀ c ∈ argument.2.callbacks, c.Unambiguous :=
      forall_mem_iff_of_forall₂ (writeNamed_itemwise.named_eq_ok_iff.mp named) fun argument inside member related =>
        each argument.2 (List.mem_map_of_mem inside) member.2 related.2

theorem Graph.exists_read_iff {g : Graph} {document : Json} (written : g.write = .ok document)
    (each : ∀ value ∈ g.values, value.ReadsIfUnambiguous) :
    (∃ h, Graph.read document = .ok h) ↔ g.Unambiguous := by
  obtain ⟨members, nodes, rfl⟩ := write_eq_ok.mp written
  have readable : (∃ again, readNodes (Value.ofJsonMembers members) = .ok again) ↔
      ∀ value ∈ g.values, ∀ c ∈ value.callbacks, c.Unambiguous := by
    rw [values, List.forall_mem_flatMap]
    refine readNodes_itemwise.exists_ok_iff.trans ?_
    refine forall_mem_iff_of_forall₂ (forall₂_writeNodes nodes) fun entry inside member related => ?_
    exact Node.exists_read_iff related.2 fun value part => each value (List.mem_flatMap.mpr ⟨entry, inside, part⟩)
  have flags (again : NameMap Node) (all : readNodes (Value.ofJsonMembers members) = .ok again) :
      (again.filter fun entry => entry.2.isResult).length = (g.nodes.filter fun entry => entry.2.isResult).length := by
    have same : ∀ entry entry' : String × Node, entry'.1 = entry.1 ∧ entry.2.Reread entry'.2 →
        (entry.2.isResult = true ↔ entry'.2.isResult = true) := by
      rintro entry entry' ⟨_, again⟩
      rw [again.isResult]
    exact (List.rel_filter (@same) (forall₂_read_write nodes all)).length_eq.symm
  rw [unambiguous_iff, ← readable]
  constructor
  · rintro ⟨h, read⟩
    obtain ⟨again, all, read⟩ := bind_eq_ok.mp read
    exact ⟨flags again all ▸ exists_ofNodes_iff.mp ⟨h, read⟩, again, all⟩
  · rintro ⟨single, again, all⟩
    obtain ⟨h, read⟩ := exists_ofNodes_iff.mpr (flags again all ▸ single)
    exact ⟨h, bind_eq_ok.mpr ⟨again, all, read⟩⟩

theorem Value.readsIfUnambiguous (v : Value) : v.ReadsIfUnambiguous := by
  induction v using Value.induct with
  | scalar | nodeRef | paramRef =>
    intro datum written
    cases written
    exact ⟨fun _ => by simp [callbacks], fun _ => ⟨_, rfl⟩⟩
  | element parameter selector =>
    intro datum written
    cases written
    obtain ⟨other, read⟩ := exists_read_writeElement parameter selector
    exact ⟨fun _ => by simp [callbacks], fun _ => ⟨_, read⟩⟩
  | tuple items ih =>
    intro datum written
    obtain ⟨data, all, rfl⟩ := map_eq_ok.mp written
    rw [callbacks, callbacksAll_eq, List.forall_mem_flatMap]
    refine exists_map_ok.trans (readAll_itemwise.exists_ok_iff.trans ?_)
    refine forall_mem_iff_of_forall₂ (writeAll_itemwise.eq_ok_iff.mp all) fun item inside datum related => ?_
    obtain ⟨_, written, rfl⟩ := related
    exact ih item inside datum written
  | callback g ih =>
    intro datum written
    obtain ⟨document, inner, rfl⟩ := map_eq_ok.mp written
    rw [callbacks, List.forall_mem_singleton]
    exact exists_map_ok.trans (Graph.exists_read_iff inner ih)
  | list | obj | param | node | graph | expr =>
    intro datum written
    cases written

/-- The references of an argument are met in its written form from left to right, as often as there. So a graph
whose arguments have written forms, the document of it, and the graph that is read from the document, if it can
be read, have the same dependencies for every id. -/
theorem dependencies_agree :
    (∀ v : Value, v.Finished → v.Writable) ∧
    (∀ (v : Value) (datum : Json), v.write = .ok datum → datum.nodeRefs = v.nodeRefs) ∧
    ∀ g : Graph, (∀ entry ∈ g.nodes, entry.2.HoldsData) → (∀ value ∈ g.values, value.Writable) →
      ∃ document, g.write = .ok document ∧
        (∀ id, document.dependencies id = g.dependencies id) ∧
        ((∃ h, Graph.read document = .ok h) ↔ g.Unambiguous) ∧
        ∀ h, Graph.read document = .ok h → ∀ id, h.dependencies id = g.dependencies id := by
  refine ⟨fun v finished => finished.writable, fun v datum => Value.nodeRefs_write, fun g data arguments => ?_⟩
  obtain ⟨document, written⟩ := (Graph.exists_write_iff data).mpr arguments
  refine ⟨document, written, Graph.dependencies_write written, ?_, ?_⟩
  · exact Graph.exists_read_iff written fun value _ => value.readsIfUnambiguous
  · exact fun h read => Graph.dependencies_read_write written read

def nestedReferences : Value :=
  .tuple [.nodeRef "a", .tuple [.nodeRef "b", .nodeRef "a", .number (.int 1)],
    .callback ⟨[("add1", ⟨"add1", .str "add", [("x", .nodeRef "c")], .null, true⟩)], some "add1", []⟩]

def nestedGraph : Graph :=
  ⟨[("sum1", ⟨"sum1", .str "sum", [("data", nestedReferences), ("from_node", .str "d")], .null, true⟩)],
    some "sum1", []⟩

theorem nestedReferences_finished : nestedReferences.Finished := by
  refine .tuple ?_
  simp only [List.forall_mem_cons]
  refine ⟨.nodeRef "a", .tuple ?_, .callback ?_ ?_, by simp⟩
  · simp only [List.forall_mem_cons]
    exact ⟨.nodeRef "b", .nodeRef "a", .scalar _, by simp⟩
  · simp only [List.forall_mem_cons]
    exact ⟨Node.holdsData_of_texts .., by simp⟩
  · intro value inside
    obtain rfl : value = .nodeRef "c" := by simpa [Graph.values, Node.values] using inside
    exact .nodeRef "c"

theorem nestedGraph_unambiguous : nestedGraph.Unambiguous := by
  refine .intro (by decide) fun c inside => ?_
  have inner : nestedGraph.callbacks =
      [⟨[("add1", ⟨"add1", .str "add", [("x", .nodeRef "c")], .null, true⟩)], some "add1", []⟩] := rfl
  rw [inner, List.mem_singleton] at inside
  subst inside
  exact .intro (by decide) (by simp [Graph.callbacks, Graph.values, Node.values, Value.callbacks])

theorem nestedGraph_dependencies :
    (∃ datum, nestedReferences.write = .ok datum ∧ datum.nodeRefs = ["a", "b", "a"]) ∧
    ∃ document h, nestedGraph.write = .ok document ∧ Graph.read document = .ok h ∧
      nestedGraph.dependencies "sum1" = .ok ["a", "b"] ∧ document.dependencies "sum1" = .ok ["a", "b"] ∧
      h.dependencies "sum1" = .ok ["a", "b"] ∧ document.dependencies "add1" = .error (.missingMember "add1") := by
  obtain ⟨writable, refs, graphs⟩ := dependencies_agree
  obtain ⟨datum, written⟩ := writable nestedReferences nestedReferences_finished
  obtain ⟨document, writtenGraph, shown, readable, again⟩ := graphs nestedGraph
    (by simp only [nestedGraph, List.forall_mem_cons]; exact ⟨Node.holdsData_of_texts .., by simp⟩)
    (by
      simp only [Graph.values, Node.values, nestedGraph, List.flatMap_cons, List.flatMap_nil, List.map_cons,
        List.map_nil, List.append_nil, List.forall_mem_cons]
      exact ⟨⟨datum, written⟩, ⟨.str "d", rfl⟩, by simp⟩)
  obtain ⟨h, read⟩ := readable.mpr nestedGraph_unambiguous
  have consumed : nestedGraph.dependencies "sum1" = .ok ["a", "b"] := rfl
  exact ⟨⟨datum, written, refs _ _ written⟩, document, h, writtenGraph, read, consumed,
    (shown "sum1").trans consumed, (again h read "sum1").trans consumed, shown "add1"⟩

end FormulaGraph
