import FormulaGraph.CommandLine.Run
import FormulaGraph.Proofs.Document.RoundTrip
import FormulaGraph.Proofs.Document.Written

/-!
# Files with documents

A file may hold a document in a wrapper, which is told by the one name of its only member. A document
has the ids of its graph for names, so it is taken for a wrapper only if its graph has one node, with
that name for its id; the node is then read as if it were the document, which it cannot be.
-/

namespace FormulaGraph

open CommandLine

variable {g : Graph} {n : Node} {document : Json} {members : NameMap Json} {text : String} {indent : Int}

theorem unwrapDocument_of_keys (bare : NameMap.keys members ≠ ["process_graph"]) :
    unwrapDocument (.obj members) = .obj members := by
  match members with
  | [] => rfl
  | [(name, inner)] =>
    have different : name ≠ "process_graph" := by
      rintro rfl
      exact bare rfl
    rw [unwrapDocument, if_neg different]
  | _ :: _ :: _ => rfl

/-- A file that holds a document is read as the document says, or as what it wraps. -/
theorem Graph.ofFile_eq (held : Json.ofFile text = .ok document) :
    Graph.ofFile text = (Graph.read (unwrapDocument document)).mapError .misuse := by
  rw [Graph.ofFile, held]
  dsimp only
  cases Graph.read (unwrapDocument document) <;> rfl

theorem Graph.keys_of_write (written : g.write = .ok document) :
    ∃ members, document = .obj members ∧ NameMap.keys members = g.keys := by
  obtain ⟨members, nodes, rfl⟩ := Graph.write_eq_ok.mp written
  exact ⟨members, rfl,
    NameMap.keys_of_forall₂ (R := fun (n : Node) (datum : Json) => n.write = .ok datum) (Graph.forall₂_writeNodes nodes)⟩

/-- The written form of a node is no document: under its first name stands a text, and no node. -/
theorem Graph.read_of_node {name : String} (named : n.operation = .str name) (written : n.write = .ok document) :
    Graph.read document = .error (.malformedNode "process_id") := by
  obtain ⟨members, operation, description, _, datum, _, rfl⟩ := Node.write_eq_ok.mp written
  rw [named] at datum
  cases datum
  rfl

theorem Graph.read_unwrapped {name : String} (lone : g.nodes = [("process_graph", n)])
    (named : n.operation = .str name) (written : g.write = .ok document) :
    Graph.read (unwrapDocument document) = .error (.malformedNode "process_id") := by
  obtain ⟨members, nodes, rfl⟩ := Graph.write_eq_ok.mp written
  rw [lone] at nodes
  obtain ⟨inner, rest, head, tail, rfl⟩ := cons_eq_ok.mp nodes
  cases tail
  rw [unwrapDocument, if_pos rfl]
  exact Graph.read_of_node named head

theorem exists_documentText (document : Json) (low : -0x8000000000000000 ≤ indent)
    (high : indent ≤ Json.maxIndent) : ∃ text, documentText indent document = .ok text := by
  have inside : ¬ (indent < -0x8000000000000000 ∨ 0x8000000000000000 ≤ indent) := by
    have small : (Json.maxIndent : Int) < 0x8000000000000000 := by decide
    omega
  have layout : Json.Layout.ofIndent (some indent) = .ok (.indented indent.toNat) := by
    simp only [Json.Layout.ofIndent, if_neg inside, if_neg (Int.not_lt.mpr high)]
  rw [documentText, Json.pretty, layout]
  exact ⟨_, rfl⟩

/-! ### The files of builders -/

theorem Builder.WellFormed.ofFile_of_write {b : Builder} (h : b.WellFormed) (written : b.write = .ok document)
    (held : Json.ofFile text = .ok document) :
    Graph.ofFile text =
      if b.toGraph.keys = ["process_graph"] then .error (.misuse (.malformedNode "process_id"))
      else (Graph.read document).mapError .misuse := by
  rw [Graph.ofFile_eq held]
  split
  · rename_i lone
    obtain ⟨⟨key, n⟩, single, rfl⟩ := List.map_eq_singleton_iff.mp lone
    have present : ("process_graph", n) ∈ b.toGraph.nodes := by
      rw [single]
      exact List.mem_singleton_self _
    obtain ⟨name, named, _⟩ := h.offered _ present
    rw [Graph.read_unwrapped single named written]
    rfl
  · rename_i bare
    obtain ⟨members, rfl, keys⟩ := Graph.keys_of_write written
    rw [unwrapDocument_of_keys (keys ▸ bare)]

/-- What a builder writes to a file is read back from it just as it is from the document, whatever the
indent; only if a lone node has the name of a wrapper for its id, it is taken for one and refused. Where the
graphs of callbacks were read or held by builders, and elements are selected by positions or labels, the
document can be written and read. It is assumed that the text of the document holds the document. -/
theorem Builder.Reachable.file_reads_back {b : Builder} (reachable : b.Reachable) (indent : Int)
    (inverse : ∀ document text, b.write = .ok document → documentText indent document = .ok text →
      Json.ofFile text = .ok document) :
    (∀ document text, b.write = .ok document → documentText indent document = .ok text →
      Graph.ofFile text =
        if b.toGraph.keys = ["process_graph"] then .error (.misuse (.malformedNode "process_id"))
        else (Graph.read document).mapError .misuse) ∧
    ((∀ g ∈ b.toGraph.callbacks, g.Sourced) → (∀ s ∈ b.toGraph.selectors, s.isSelector = true) →
      -0x8000000000000000 ≤ indent → indent ≤ Json.maxIndent →
      ∃ document text, b.write = .ok document ∧ documentText indent document = .ok text ∧
        Graph.read document = .ok b.toGraph.normalize ∧
        (b.toGraph.keys ≠ ["process_graph"] → Graph.ofFile text = .ok b.toGraph.normalize)) := by
  have h := reachable.wellFormed
  constructor
  · intro document text written stored
    exact h.ofFile_of_write written (inverse document text written stored)
  · intro callbacks selectors low high
    have portable := h.portable (fun g inside => (callbacks g inside).portable) selectors
    obtain ⟨document, written, read⟩ := portable.read_write
    obtain ⟨text, stored⟩ := exists_documentText document low high
    refine ⟨document, text, written, stored, read, fun bare => ?_⟩
    rw [h.ofFile_of_write written (inverse document text written stored), if_neg bare, read]
    rfl

/-- A node is created with the name of a wrapper for its id, and other moves follow. -/
def Session.namedAsWrapper (later : List Move) : Session :=
  (⟨[]⟩ : Session).playAll
    ([.begin sampleCatalog none, .ask 0 (.createNode (.str "add") (.list []) (some "process_graph") .null)] ++
      later)

/-- Another node is created, and is the result. -/
def Session.namedAsWrapperAmongOthers : Session :=
  namedAsWrapper [.ask 0 (.createNode (.str "add") (.list []) (some "sum") .null), .ask 0 (.markResult (.str "sum"))]

def loneDocument : Json :=
  .obj [("process_graph", .obj [("process_id", .str "add"), ("arguments", .obj [])])]

def pairDocument : Json :=
  .obj
    [("process_graph", .obj [("process_id", .str "add"), ("arguments", .obj [])]),
      ("sum", .obj [("process_id", .str "add"), ("arguments", .obj []), ("result", .bool true)])]

set_option maxRecDepth 2048 in
theorem pair_reads_back : ∃ b document text,
    Session.namedAsWrapperAmongOthers.builder? 0 = some b ∧ b.toGraph.keys = ["process_graph", "sum"] ∧
    b.write = .ok document ∧ documentText (-1) document = .ok text ∧
    Graph.ofFile text = .ok b.toGraph.normalize := by
  obtain ⟨content, laid, held⟩ : ∃ content, documentText (-1) pairDocument = .ok content ∧
      Json.ofFile content = .ok pairDocument := ⟨_, rfl, rfl⟩
  obtain ⟨b, found, whole, keys, none⟩ : ∃ b, Session.namedAsWrapperAmongOthers.builder? 0 = some b ∧
      b.write = .ok pairDocument ∧ b.toGraph.keys = ["process_graph", "sum"] ∧ b.toGraph.values = [] :=
    ⟨_, rfl, rfl, rfl, rfl⟩
  have inverse : ∀ document text, b.write = .ok document → documentText (-1) document = .ok text →
      Json.ofFile text = .ok document := by
    intro document text written stored
    obtain rfl := Except.ok.inj (whole.symm.trans written)
    obtain rfl := Except.ok.inj (laid.symm.trans stored)
    exact held
  have reached : b.Reachable := ⟨_, 0, Session.Reachable.start.playAll _, found⟩
  obtain ⟨document, text, written, stored, _, read⟩ :=
    (Builder.Reachable.file_reads_back reached (-1) inverse).2 (by simp [Graph.callbacks, none])
      (by simp [Graph.selectors, none]) (by decide) (by decide)
  exact ⟨b, document, text, found, keys, written, stored, read (by simp [keys])⟩

/-- The only node of a builder has the name of a wrapper for its id: the document can be read, and the text
of the document holds the document, but nothing can be read from a file with that text. -/
theorem lone_wrapper_not_read_back : ∃ (b : Builder) (document : Json) (text : String),
    b.Reachable ∧ b.write = .ok document ∧ documentText 2 document = .ok text ∧
    Json.ofFile text = .ok document ∧ Graph.read document = .ok b.toGraph.normalize ∧
    Graph.ofFile text = .error (.misuse (.malformedNode "process_id")) := by
  obtain ⟨text, laid, held⟩ : ∃ text, documentText 2 loneDocument = .ok text ∧
      Json.ofFile text = .ok loneDocument := ⟨_, rfl, rfl⟩
  obtain ⟨b, found, written, keys, read⟩ : ∃ b, (Session.namedAsWrapper []).builder? 0 = some b ∧
      b.write = .ok loneDocument ∧ b.toGraph.keys = ["process_graph"] ∧
      Graph.read loneDocument = .ok b.toGraph.normalize := ⟨_, rfl, rfl, rfl, rfl⟩
  have reached : b.Reachable := ⟨_, 0, Session.Reachable.start.playAll _, found⟩
  have refused := reached.wellFormed.ofFile_of_write written held
  rw [if_pos keys] at refused
  exact ⟨b, loneDocument, text, reached, written, laid, held, read, refused⟩

end FormulaGraph
