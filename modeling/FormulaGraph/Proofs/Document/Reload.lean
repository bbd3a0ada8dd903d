import FormulaGraph.Graph.Basic
import FormulaGraph.Proofs.Document.RoundTrip

/-!
# Reading what was read before

A graph that was read has a document, and that document is read as the same graph, except that each
description that says nothing is null from then on, in the graphs of callbacks as well. The document is not
changed by being read and written any more.
-/

namespace FormulaGraph

mutual

/-- An argument where the descriptions that say nothing are null, in the graphs of its callbacks. -/
def Value.tidy : Value → Value
  | .tuple items => .tuple (Value.tidyAll items)
  | .callback g => .callback (Graph.tidy g)
  | other => other

def Value.tidyAll : List Value → List Value
  | [] => []
  | item :: rest => Value.tidy item :: Value.tidyAll rest

def Value.tidyNamed : List (String × Value) → List (String × Value)
  | [] => []
  | (name, value) :: rest => (name, Value.tidy value) :: Value.tidyNamed rest

/-- A node where a description that says nothing is null. -/
def Node.tidy : Node → Node
  | ⟨id, operation, arguments, description, isResult⟩ =>
    ⟨id, operation, Value.tidyNamed arguments, if description.isTruthy then description else .null, isResult⟩

/-- A graph where the descriptions that say nothing are null, and all else is as it was. -/
def Graph.tidy : Graph → Graph
  | ⟨nodes, resultId, parameters⟩ => ⟨Graph.tidyNodes nodes, resultId, parameters⟩

def Graph.tidyNodes : List (String × Node) → List (String × Node)
  | [] => []
  | (id, n) :: rest => (id, Node.tidy n) :: Graph.tidyNodes rest

end

/-! ### What stays -/

namespace Value

theorem tidyAll_eq (items : List Value) : tidyAll items = items.map tidy := by
  induction items with
  | nil => rfl
  | cons item rest ih => rw [tidyAll, ih, List.map_cons]

theorem tidyNamed_eq (arguments : NameMap Value) : tidyNamed arguments = NameMap.mapValues tidy arguments := by
  induction arguments with
  | nil => rfl
  | cons argument rest ih =>
    rw [tidyNamed, ih]
    rfl

theorem nodeRefs_tidy (v : Value) : v.tidy.nodeRefs = v.nodeRefs := by
  induction v using Value.induct with
  | tuple items ih =>
    rw [tidy, nodeRefs, nodeRefs, nodeRefsAll_eq, nodeRefsAll_eq, tidyAll_eq, List.flatMap_map]
    exact List.flatMap_congr ih
  | scalar | list | obj | nodeRef | paramRef | element | param | node | graph | callback | expr =>
    simp only [tidy, nodeRefs]

end Value

theorem Node.dependencies_tidy (n : Node) : n.tidy.dependencies = n.dependencies := by
  obtain ⟨id, operation, arguments, description, isResult⟩ := n
  simp only [dependencies, nodeRefs, tidy, Value.tidyNamed_eq, NameMap.mapValues, List.flatMap_map,
    Value.nodeRefs_tidy]

namespace Graph

theorem tidyNodes_eq (nodes : NameMap Node) : tidyNodes nodes = NameMap.mapValues Node.tidy nodes := by
  induction nodes with
  | nil => rfl
  | cons entry rest ih =>
    rw [tidyNodes, ih]
    rfl

theorem nodes_tidy (g : Graph) : g.tidy.nodes = NameMap.mapValues Node.tidy g.nodes := by
  obtain ⟨nodes, resultId, parameters⟩ := g
  rw [tidy, tidyNodes_eq]

theorem resultId_tidy (g : Graph) : g.tidy.resultId = g.resultId := by
  obtain ⟨nodes, resultId, parameters⟩ := g
  rw [tidy]

theorem keys_tidy (g : Graph) : g.tidy.keys = g.keys := by
  rw [keys, nodes_tidy, NameMap.keys_mapValues]
  rfl

theorem node?_tidy (g : Graph) (id : String) : g.tidy.node? id = (g.node? id).map Node.tidy := by
  rw [node?, nodes_tidy, NameMap.get?_mapValues]
  rfl

theorem dependencies_tidy (g : Graph) (id : String) : g.tidy.dependencies id = g.dependencies id := by
  unfold dependencies node
  rw [node?_tidy]
  cases g.node? id with
  | none => rfl
  | some n => exact congrArg Except.ok n.dependencies_tidy

end Graph

/-! ### What is written -/

theorem writeNodeMembers_null {description : Json} (falsy : description.isTruthy = false)
    (operation arguments : Json) (isResult : Bool) :
    writeNodeMembers operation arguments .null isResult =
      writeNodeMembers operation arguments description isResult := by
  unfold writeNodeMembers
  rw [falsy]
  rfl

theorem writeAll_tidyAll {items : List Value} (each : ∀ item ∈ items, item.tidy.write = item.write) :
    Value.writeAll (Value.tidyAll items) = Value.writeAll items := by
  induction items with
  | nil => rfl
  | cons item rest ih =>
    rw [Value.tidyAll, Value.writeAll, Value.writeAll, each item List.mem_cons_self,
      ih fun item member => each item (List.mem_cons_of_mem _ member)]

theorem writeNamed_tidyNamed {arguments : NameMap Value}
    (each : ∀ argument ∈ arguments, argument.2.tidy.write = argument.2.write) :
    Value.writeNamed (Value.tidyNamed arguments) = Value.writeNamed arguments := by
  induction arguments with
  | nil => rfl
  | cons argument rest ih =>
    rw [Value.tidyNamed, Value.writeNamed, Value.writeNamed, each argument List.mem_cons_self,
      ih fun argument member => each argument (List.mem_cons_of_mem _ member)]

theorem Node.write_tidy {n : Node} (data : n.HoldsData)
    (each : ∀ value ∈ n.values, value.tidy.write = value.write) : n.tidy.write = n.write := by
  obtain ⟨id, operation, arguments, description, isResult⟩ := n
  obtain ⟨⟨operation, rfl⟩, ⟨description, rfl⟩⟩ := data
  have named := writeNamed_tidyNamed fun argument member => each argument.2 (List.mem_map_of_mem member)
  rw [tidy, write, write, named, Value.isTruthy_ofJson]
  cases truthy : description.isTruthy with
  | true => rfl
  | false =>
    simp only [Bool.false_eq_true, if_false, Value.datum_ofJson]
    cases Value.writeNamed arguments with
    | error cause => rfl
    | ok members =>
      exact congrArg Except.ok (writeNodeMembers_null truthy operation (.obj members) isResult)

theorem writeNodes_tidyNodes {nodes : NameMap Node} (data : ∀ entry ∈ nodes, entry.2.HoldsData)
    (each : ∀ entry ∈ nodes, ∀ value ∈ entry.2.values, value.tidy.write = value.write) :
    Graph.writeNodes (Graph.tidyNodes nodes) = Graph.writeNodes nodes := by
  induction nodes with
  | nil => rfl
  | cons entry rest ih =>
    have here := List.mem_cons_self (a := entry) (l := rest)
    rw [Graph.tidyNodes, Graph.writeNodes, Graph.writeNodes,
      Node.write_tidy (data entry here) (each entry here),
      ih (fun entry member => data entry (List.mem_cons_of_mem _ member))
        (fun entry member => each entry (List.mem_cons_of_mem _ member))]

theorem Graph.write_tidy_of_values {g : Graph} (regular : g.Regular)
    (each : ∀ value ∈ g.values, value.tidy.write = value.write) : g.tidy.write = g.write := by
  obtain ⟨nodes, resultId, parameters⟩ := g
  rw [tidy, write, write, writeNodes_tidyNodes regular.data fun entry member value inside =>
    each value (List.mem_flatMap.mpr ⟨entry, member, inside⟩)]

theorem Value.Loaded.write_tidy {v : Value} (loaded : v.Loaded) : v.tidy.write = v.write := by
  induction loaded with
  | tuple _ ih => rw [Value.tidy, Value.write, Value.write, writeAll_tidyAll ih]
  | callback regular _ _ ih =>
    rw [Value.tidy, Value.write, Value.write, Graph.write_tidy_of_values regular ih]
  | scalar | nodeRef | paramRef | position | label => rfl

theorem Graph.Loaded.write_tidy {g : Graph} (loaded : g.Loaded) : g.tidy.write = g.write :=
  Graph.write_tidy_of_values loaded.regular fun value inside => (loaded.arguments value inside).write_tidy

/-! ### What is read -/

theorem normalizeAll_eq_tidyAll {items : List Value} (each : ∀ item ∈ items, item.normalize = item.tidy) :
    Value.normalizeAll items = Value.tidyAll items := by
  induction items with
  | nil => rfl
  | cons item rest ih =>
    rw [Value.normalizeAll, Value.tidyAll, each item List.mem_cons_self,
      ih fun item member => each item (List.mem_cons_of_mem _ member)]

theorem normalizeNamed_eq_tidyNamed {arguments : NameMap Value}
    (each : ∀ argument ∈ arguments, argument.2.normalize = argument.2.tidy) :
    Value.normalizeNamed arguments = Value.tidyNamed arguments := by
  induction arguments with
  | nil => rfl
  | cons argument rest ih =>
    rw [Value.normalizeNamed, Value.tidyNamed, each argument List.mem_cons_self,
      ih fun argument member => each argument (List.mem_cons_of_mem _ member)]

theorem normalizeNodes_eq_tidyNodes {nodes : NameMap Node}
    (each : ∀ entry ∈ nodes, ∀ value ∈ entry.2.values, value.normalize = value.tidy) :
    Graph.normalizeNodes nodes = Graph.tidyNodes nodes := by
  induction nodes with
  | nil => rfl
  | cons entry rest ih =>
    obtain ⟨key, id, operation, arguments, description, isResult⟩ := entry
    have arguments := normalizeNamed_eq_tidyNamed fun argument member =>
      each _ List.mem_cons_self argument.2 (List.mem_map_of_mem member)
    rw [Graph.normalizeNodes, Graph.tidyNodes, Node.normalize, Node.tidy, arguments,
      ih fun entry member => each entry (List.mem_cons_of_mem _ member)]

theorem Graph.normalize_eq_tidy_of_values {g : Graph} (free : g.parameters = [])
    (each : ∀ value ∈ g.values, value.normalize = value.tidy) : g.normalize = g.tidy := by
  obtain ⟨nodes, resultId, parameters⟩ := g
  obtain rfl : parameters = [] := free
  rw [normalize, tidy, normalizeNodes_eq_tidyNodes fun entry member value inside =>
    each value (List.mem_flatMap.mpr ⟨entry, member, inside⟩)]

/-- No graph that was read has free parameters to lose, so its normal form has its descriptions tidied
and nothing else changed. -/
theorem Value.Loaded.normalize_eq_tidy {v : Value} (loaded : v.Loaded) : v.normalize = v.tidy := by
  induction loaded with
  | tuple _ ih => rw [Value.normalize, Value.tidy, normalizeAll_eq_tidyAll ih]
  | callback _ free _ ih => rw [Value.normalize, Value.tidy, Graph.normalize_eq_tidy_of_values free ih]
  | scalar | nodeRef | paramRef | position | label => rfl

theorem Graph.Loaded.normalize_eq_tidy {g : Graph} (loaded : g.Loaded) : g.normalize = g.tidy :=
  Graph.normalize_eq_tidy_of_values loaded.free fun value inside =>
    (loaded.arguments value inside).normalize_eq_tidy

/-- A graph that was read has a document. What is read from that is the graph with its descriptions
tidied, which has the same keys, result and dependencies, and the same document. -/
theorem Graph.reload {given : Json} {g : Graph} (read : Graph.read given = .ok g) :
    ∃ document, g.write = .ok document ∧ Graph.read document = .ok g.tidy ∧
      g.tidy.write = .ok document ∧ g.tidy.keys = g.keys ∧ g.tidy.resultId = g.resultId ∧
      ∀ id, g.tidy.dependencies id = g.dependencies id := by
  have loaded := Graph.loaded_of_read read
  obtain ⟨document, written, again⟩ := loaded.portable.read_write
  rw [loaded.normalize_eq_tidy] at again
  have unchanged : g.tidy.write = .ok document := by rw [loaded.write_tidy, written]
  exact ⟨document, written, again, unchanged, g.keys_tidy, g.resultId_tidy, g.dependencies_tidy⟩

/-- A document that the reader does not take as it stands: positions in words and with a fraction, names
that are no texts, a flag that is not the truth value, members that are not known, and descriptions that
say nothing, one of them in a callback. -/
def looseDocument : Json :=
  .obj
    [("pick", .obj [("process_id", .str "select"), ("note", .arr []), ("description", .str ""),
      ("result", .int 1), ("arguments", .obj
        [("first", .obj [("index", .str " +1_2 "), ("from_parameter", .str "data")]),
          ("second", .obj [("from_parameter", .int 7), ("index", .scalar (.number (.float ⟨0x4006000000000000⟩)))]),
          ("source", .obj [("from_node", .null)]),
          ("third", .arr [.bool true, .obj [("from_parameter", .str "data"), ("label", .int 3)]]),
          ("reducer", .obj [("process_graph", .obj
            [("inner", .obj [("process_id", .str "sum"), ("result", .bool true), ("description", .arr []),
              ("arguments", .obj [("data", .obj [("from_parameter", .str "data")])])])])])])])]

def looseGraph : Graph where
  nodes :=
    [("pick", ⟨"pick", .str "select",
      [("first", .element "data" (.number (.int 12))), ("second", .element "7" (.number (.int 2))),
        ("source", .nodeRef "None"), ("third", .tuple [.scalar (.bool true), .element "data" (.str "3")]),
        ("reducer", .callback ⟨[("inner", ⟨"inner", .str "sum", [("data", .paramRef "data")], .list [], true⟩)],
          some "inner", []⟩)],
      .str "", false⟩)]
  resultId := none
  parameters := []

theorem looseDocument_reload : Graph.read looseDocument = .ok looseGraph ∧
    ∃ document, looseGraph.write = .ok document ∧ Graph.read document = .ok looseGraph.tidy ∧
      looseGraph.tidy.write = .ok document ∧ looseGraph.tidy.dependencies "pick" = .ok ["None"] := by
  have read : Graph.read looseDocument = .ok looseGraph := rfl
  obtain ⟨document, written, again, unchanged, _, _, dependencies⟩ := Graph.reload read
  exact ⟨read, document, written, again, unchanged, dependencies "pick"⟩

end FormulaGraph
