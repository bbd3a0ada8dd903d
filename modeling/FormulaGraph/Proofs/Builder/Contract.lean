import FormulaGraph.Proofs.Builder.Creation
import FormulaGraph.Proofs.Graph.Leaves

/-!
# The contract of creating a node

`Refused` lists what can be wrong with a call, `Accepted` says that nothing is. A call is one or the other,
and fails or succeeds accordingly: `createNode_contract`. All checks come before the first change, so a call
that fails leaves the builder as it is.
-/

namespace FormulaGraph

/-- The items of a value that can be gone through: those of a sequence, and the characters of a text. -/
def Value.items? : Value → Option (List Value)
  | .list items => some items
  | .tuple items => some items
  | .scalar (.str s) => some (s.toList.map fun c => .str (String.singleton c))
  | _ => none

theorem Value.asArguments_of_items {arguments : Value} {items : List Value}
    (given : arguments.items? = some items) : arguments.asArguments = .ok (.positional items) := by
  unfold items? at given
  split at given
  case h_4 => cases given
  all_goals
    cases given
    rfl

theorem Value.asArguments_of_single {arguments : Value} (unnamed : ∀ members, arguments ≠ .obj members)
    (single : arguments.items? = none) : arguments.asArguments = .error (.notSequence arguments.kind) := by
  unfold asArguments
  split
  case h_1 members => exact absurd rfl (unnamed members)
  case h_5 => rfl
  all_goals cases single

def leavesNamed (named : NameMap Value) : List Value := named.flatMap fun (_, value) => value.leaves

def idsNamed (named : NameMap Value) : List String := (leavesNamed named).filterMap Value.nodeId?

theorem coerceNamed_eq (named : NameMap Value) : coerceNamed named =
    Value.unlessRefused (Value.refusedLeaf? (leavesNamed named)) (NameMap.mapValues Value.argument named) := by
  induction named with
  | nil => rfl
  | cons entry rest ih =>
    obtain ⟨name, value⟩ := entry
    rw [coerceNamed, Value.coerce_eq, ih]
    exact (Value.unlessRefused_cons _ _ (fun a => (name, a)) _ _).trans
      (by rw [← Value.refusedLeaf?_append]; rfl)

theorem nodeRefs_mapValues (named : NameMap Value) :
    (NameMap.mapValues Value.argument named).flatMap (fun (_, value) => value.nodeRefs) = idsNamed named := by
  induction named with
  | nil => rfl
  | cons entry rest ih =>
    obtain ⟨name, value⟩ := entry
    have leaves : leavesNamed ((name, value) :: rest) = value.leaves ++ leavesNamed rest := rfl
    rw [idsNamed, leaves, List.filterMap_append, ← Value.nodeRefs_argument, ← idsNamed, ← ih]
    rfl

namespace Builder

variable {b : Builder} {operation : String} {arguments : Value} {id : Option String} {named : NameMap Value}

/-- The values that arguments bring to the formal parameters of an operation: members of a map by their names,
and items in the order of the parameters. -/
inductive Binds (b : Builder) (operation : String) : Value → NameMap Value → Prop
  | named {definition : Operation} (offered : b.catalog.get? operation = some definition)
      (members : NameMap Value) : Binds b operation (.obj members) members
  | positional {definition : Operation} (offered : b.catalog.get? operation = some definition)
      {arguments : Value} {items : List Value} (given : arguments.items? = some items)
      (fits : items.length ≤ definition.arity) :
      Binds b operation arguments (NameMap.ofList (definition.parameterNames.zip items))

/-- Why a node is not created, in the order of the checks: each cause supposes that those before it do not
apply. -/
inductive Refused (b : Builder) (operation : String) (arguments : Value) (id : Option String) : Fault → Prop
  | operation (absent : b.catalog.get? operation = none) :
      Refused b operation arguments id (.formula (.invalidOperation (.str operation)))
  | kind {definition : Operation} (offered : b.catalog.get? operation = some definition)
      (unnamed : ∀ members, arguments ≠ .obj members) (single : arguments.items? = none) :
      Refused b operation arguments id (.misuse (.notSequence arguments.kind))
  | arity {definition : Operation} (offered : b.catalog.get? operation = some definition)
      {items : List Value} (given : arguments.items? = some items) (long : definition.arity < items.length) :
      Refused b operation arguments id (.formula (.arityViolation operation items.length definition.arity))
  | value {named : NameMap Value} (binds : b.Binds operation arguments named) {leaf : Value}
      (first : (leavesNamed named).find? (fun leaf => !leaf.isSupported) = some leaf) :
      Refused b operation arguments id (.misuse (.unsupportedArgument leaf))
  | reference {named : NameMap Value} (binds : b.Binds operation arguments named)
      (supported : ∀ leaf ∈ leavesNamed named, leaf.isSupported = true) {ref : String}
      (first : (idsNamed named).find? (fun ref => !b.has ref) = some ref) :
      Refused b operation arguments id (.formula (.unknownNode ref))
  | id {named : NameMap Value} (binds : b.Binds operation arguments named)
      (supported : ∀ leaf ∈ leavesNamed named, leaf.isSupported = true)
      (known : ∀ ref ∈ idsNamed named, b.has ref = true) {given : String} (same : id = some given)
      (taken : b.has given = true) : Refused b operation arguments id (.formula (.duplicateNode given))

structure Accepted (b : Builder) (operation : String) (arguments : Value) (id : Option String)
    (named : NameMap Value) : Prop where
  binds : b.Binds operation arguments named
  supported : ∀ leaf ∈ leavesNamed named, leaf.isSupported = true
  known : ∀ ref ∈ idsNamed named, b.has ref = true
  free : ∀ given, id = some given → b.has given = false

/-! ### The checks, one after the other -/

theorem Binds.source (binds : b.Binds operation arguments named) : ∃ definition source,
    b.catalog.get? operation = some definition ∧ arguments.asArguments = .ok source ∧
      nameArguments definition source = .ok named := by
  cases binds with
  | named offered => exact ⟨_, .named named, offered, rfl, rfl⟩
  | @positional definition offered _ items given fits =>
    exact ⟨definition, .positional items, offered, Value.asArguments_of_items given,
      if_neg (Nat.not_lt.mpr fits)⟩

/-- Of bound arguments the leaves are looked at, and then the references. -/
theorem Binds.checked (binds : b.Binds operation arguments named) :
    b.bindArguments (.str operation) arguments =
      match (leavesNamed named).find? (fun leaf => !leaf.isSupported) with
      | some leaf => .error (.misuse (.unsupportedArgument leaf))
      | none =>
        match (idsNamed named).find? (fun ref => !b.has ref) with
        | some ref => .error (.formula (.unknownNode ref))
        | none => .ok (operation, NameMap.mapValues Value.argument named) := by
  obtain ⟨definition, source, offered, given, naming⟩ := binds.source
  rw [bindArguments_of_named offered given naming, coerceNamed_eq, Value.refusedLeaf?]
  cases (leavesNamed named).find? (fun leaf => !leaf.isSupported) with
  | some leaf => rfl
  | none =>
    simp only [Value.unlessRefused, check, bind, Except.bind, missingNode?, nodeRefs_mapValues]
    cases (idsNamed named).find? (fun ref => !b.has ref) <;> rfl

theorem Binds.passed (binds : b.Binds operation arguments named)
    (supported : ∀ leaf ∈ leavesNamed named, leaf.isSupported = true)
    (known : ∀ ref ∈ idsNamed named, b.has ref = true) :
    b.bindArguments (.str operation) arguments = .ok (operation, NameMap.mapValues Value.argument named) := by
  rw [binds.checked, List.find?_eq_none.mpr (by simpa using supported),
    List.find?_eq_none.mpr (by simpa using known)]

theorem Refused.createNode_eq {fault : Fault} (refused : b.Refused operation arguments id fault)
    (description : Json) : createNode (.str operation) arguments id description b = .error fault b := by
  cases refused with
  | operation absent =>
    apply createNode_of_refused
    unfold bindArguments
    simp only [Catalog.find_text, absent]
    rfl
  | kind offered unnamed single =>
    apply createNode_of_refused
    unfold bindArguments
    simp only [Catalog.find_text, offered, Value.asArguments_of_single unnamed single]
    rfl
  | @arity definition offered items given long =>
    apply createNode_of_refused
    unfold bindArguments
    simp only [Catalog.find_text, offered, Value.asArguments_of_items given, check, bind, Except.bind, nameArguments,
      if_pos long, Catalog.name_of_get? offered]
    rfl
  | value binds first =>
    apply createNode_of_refused
    rw [binds.checked, first]
  | reference binds supported first =>
    apply createNode_of_refused
    rw [binds.checked, List.find?_eq_none.mpr (by simpa using supported), first]
  | id binds supported known same taken =>
    subst same
    exact createNode_of_taken (binds.passed supported known) description taken

theorem refused_or_accepted (b : Builder) (operation : String) (arguments : Value) (id : Option String) :
    (∃ fault, b.Refused operation arguments id fault) ∨ ∃ named, b.Accepted operation arguments id named := by
  cases offered : b.catalog.get? operation with
  | none => exact Or.inl ⟨_, .operation offered⟩
  | some definition =>
    by_cases unbound : ∀ named, ¬ b.Binds operation arguments named
    · -- arguments without names that come to nothing are either too many or none that one can go through
      left
      have unnamed : ∀ members, arguments ≠ .obj members := by
        rintro members rfl
        exact unbound _ (.named offered members)
      cases given : arguments.items? with
      | none => exact ⟨_, .kind offered unnamed given⟩
      | some items =>
        have long : definition.arity < items.length :=
          Nat.lt_of_not_le fun fits => unbound _ (.positional offered given fits)
        exact ⟨_, .arity offered given long⟩
    obtain ⟨named, binds⟩ := not_forall_not.mp unbound
    cases bad : (leavesNamed named).find? (fun leaf => !leaf.isSupported) with
    | some leaf => exact Or.inl ⟨_, .value binds bad⟩
    | none =>
      have supported : ∀ leaf ∈ leavesNamed named, leaf.isSupported = true := by
        simpa using List.find?_eq_none.mp bad
      cases missing : (idsNamed named).find? (fun ref => !b.has ref) with
      | some ref => exact Or.inl ⟨_, .reference binds supported missing⟩
      | none =>
        have known : ∀ ref ∈ idsNamed named, b.has ref = true := by
          simpa using List.find?_eq_none.mp missing
        cases id with
        | none => exact Or.inr ⟨named, binds, supported, known, nofun⟩
        | some given =>
          cases taken : b.has given with
          | true => exact Or.inl ⟨_, .id binds supported known rfl taken⟩
          | false => exact Or.inr ⟨named, binds, supported, known, fun _ same => Option.some.inj same ▸ taken⟩

/-- The node that a call creates. -/
def created (b : Builder) (operation : String) (named : NameMap Value) (id : Option String)
    (description : Json) : Node :=
  ⟨id.getD (makeId operation (b.nextNumber operation)), .str operation,
    NameMap.mapValues Value.argument named, .ofJson description, false⟩

theorem Accepted.createNode_eq (accepted : b.Accepted operation arguments id named) (description : Json) :
    ∃ counters, (id.isSome → counters = b.counters) ∧
      b.has (b.created operation named id description).id = false ∧
      createNode (.str operation) arguments id description b =
        .ok (b.created operation named id description)
          (b.grown counters (b.created operation named id description) operation) := by
  have passed := accepted.binds.passed accepted.supported accepted.known
  cases id with
  | none =>
    exact ⟨_, nofun, not_has_nextId b operation, createNode_generated passed description⟩
  | some given =>
    have free := accepted.free given rfl
    exact ⟨_, fun _ => rfl, free, createNode_of_free passed description free⟩

/-- A call fails exactly with what is wrong with it, and changes nothing then. Otherwise one node is added
behind the others, and nothing else is changed but the counters, and these only for an id that is made. -/
theorem createNode_contract (b : Builder) (operation : String) (arguments : Value) (id : Option String)
    (description : Json) :
    (∀ fault, (∃ b', createNode (.str operation) arguments id description b = .error fault b') ↔
      b.Refused operation arguments id fault) ∧
    match createNode (.str operation) arguments id description b with
    | .error _ b' => b' = b
    | .ok n b' =>
      (∃ named, b.Binds operation arguments named ∧ n = b.created operation named id description) ∧
      b.has n.id = false ∧ b'.nodes = b.nodes ++ [(n.id, n)] ∧ b'.parameters = b.parameters ∧
      b'.scopes = b.scopes ∧ b'.resultId = b.resultId ∧ (id.isSome → b'.counters = b.counters) := by
  rcases refused_or_accepted b operation arguments id with ⟨fault, refused⟩ | ⟨named, accepted⟩
  · have failed := refused.createNode_eq description
    rw [failed]
    refine ⟨fun other => ⟨?_, fun again => ?_⟩, rfl⟩
    · rintro ⟨b', same⟩
      cases same
      exact refused
    · have same := again.createNode_eq description
      rw [failed] at same
      cases same
      exact ⟨b, rfl⟩
  · obtain ⟨counters, kept, fresh, succeeded⟩ := accepted.createNode_eq description
    rw [succeeded]
    refine ⟨fun other => ⟨nofun, fun refused => ?_⟩, ⟨named, accepted.binds, rfl⟩, fresh, rfl, rfl, rfl, rfl, kept⟩
    rw [refused.createNode_eq description] at succeeded
    cases succeeded

end Builder
end FormulaGraph
