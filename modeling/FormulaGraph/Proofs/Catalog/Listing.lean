import FormulaGraph.Catalog.Listing
import FormulaGraph.Proofs.Catalog.Index
import FormulaGraph.Proofs.Except

/-!
# What becomes of a list of entries

A catalog indexes its entries: of those with one name the last one counts, in the place of the first one. An
entry that is refused ends the reading, and nothing behind it is looked at. Which entries are refused is left to a
validator, of which `Lawful` says what it has to do with operations and with the members of objects.
-/

namespace FormulaGraph.Catalog

def Entry.name? : Entry → Option String
  | .operation definition => some definition.name
  | .datum (.obj members) =>
    match (NameMap.get? members "name").or (NameMap.get? members "id") with
    | some (.str name) => some name
    | _ => none
  | .datum _ => none

/-- An object with the members of a formal parameter. Those that it lacks have their defaults. -/
def DescribesParameter (datum : Json) (p : OperationParameter) : Prop :=
  ∃ members, datum = .obj members ∧ (NameMap.get? members "name").getD (.str "") = .str p.name ∧
    (NameMap.get? members "description").getD (.str "") = .str p.description ∧
    (NameMap.get? members "optional").getD (.bool false) = .bool p.optional

/-- Members that describe an operation. -/
structure Describes (members : NameMap Json) (o : Operation) : Prop where
  name : (NameMap.get? members "name").or (NameMap.get? members "id") = some (.str o.name)
  summary : (NameMap.get? members "summary").getD (.str "") = .str o.summary
  description : (NameMap.get? members "description").getD (.str "") = .str o.description
  parameters : ∃ items, (NameMap.get? members "parameters").getD (.arr []) = .arr items ∧
    List.Forall₂ DescribesParameter items o.parameters

/-- A validator takes operations as they are and objects as what they describe. It may take other entries as well,
but none with a name of its own making. -/
structure Lawful (validate : Entry → Except Fault Operation) : Prop where
  operation : ∀ o, validate (.operation o) = .ok o
  described : ∀ members o, Describes members o → validate (.datum (.obj members)) = .ok o
  named : ∀ entry o, validate entry = .ok o → entry.name? = some o.name

/-! ### The validator that runs -/

section Check

variable {α β : Type} {a : Checked α} {b : Checked β} {members : NameMap Json} {name : String}

theorem both_eq_ok {x : α} {y : β} : a.both b = .ok (x, y) ↔ a = .ok x ∧ b = .ok y := by
  cases a <;> cases b <;> simp [Checked.both]

theorem checkMember_text {text : String} (place : List EntryStep)
    (given : (NameMap.get? members name).getD (.str "") = .str text) :
    checkMember place members name "" checkText = .ok text := by
  unfold checkMember
  cases found : NameMap.get? members name with
  | none =>
    rw [found] at given
    cases given
    rfl
  | some value =>
    rw [found] at given
    obtain rfl : value = .str text := given
    rfl

theorem checkMember_truth {value : Bool} (place : List EntryStep)
    (given : (NameMap.get? members name).getD (.bool false) = .bool value) :
    checkMember place members name false checkTruth = .ok value := by
  unfold checkMember
  cases found : NameMap.get? members name with
  | none =>
    rw [found] at given
    cases given
    rfl
  | some datum =>
    rw [found] at given
    obtain rfl : datum = .bool value := given
    rfl

theorem checkParameter_of_describes {datum : Json} {p : OperationParameter} (described : DescribesParameter datum p)
    (place : List EntryStep) : checkParameter place datum = .ok p := by
  obtain ⟨members, rfl, name, description, optional⟩ := described
  have all := both_eq_ok.mpr
    ⟨checkMember_text place name, both_eq_ok.mpr
      ⟨checkMember_text place description, checkMember_truth place optional⟩⟩
  rw [checkParameter, all]
  rfl

theorem all_checkParameter {items : List Json} {ps : List OperationParameter}
    (described : List.Forall₂ DescribesParameter items ps) (place : List EntryStep) (start : Nat) :
    Checked.all ((items.zipIdx start).map fun (item, position) => checkParameter (place ++ [.item position]) item) =
      .ok ps := by
  induction described generalizing start with
  | nil => rfl
  | cons here _ ih =>
    rw [List.zipIdx_cons, List.map_cons, Checked.all,
      both_eq_ok.mpr ⟨checkParameter_of_describes here _, ih (start + 1)⟩]
    rfl

theorem checkMember_parameters {items : List Json} {ps : List OperationParameter}
    (given : (NameMap.get? members name).getD (.arr []) = .arr items)
    (described : List.Forall₂ DescribesParameter items ps) (place : List EntryStep) :
    checkMember place members name [] checkParameters = .ok ps := by
  unfold checkMember
  cases found : NameMap.get? members name with
  | none =>
    rw [found] at given
    cases given
    cases described
    rfl
  | some datum =>
    rw [found] at given
    obtain rfl : datum = .arr items := given
    exact all_checkParameter described _ 0

theorem checkName_eq_ok {o : String} : checkName members = .ok o ↔
    (NameMap.get? members "name").or (NameMap.get? members "id") = some (.str o) := by
  have text (place : List EntryStep) (value : Json) : checkText place value = .ok o ↔ value = .str o := by
    unfold checkText
    split <;> simp_all [Checked.fail]
  unfold checkName
  cases NameMap.get? members "name" with
  | some value => simp [text]
  | none =>
    cases NameMap.get? members "id" with
    | some value => simp [text]
    | none => simp [Checked.fail]

theorem check_lawful : Lawful Entry.check where
  operation _ := rfl
  described members o described := by
    obtain ⟨name, summary, description, items, given, each⟩ := described
    have all := both_eq_ok.mpr
      ⟨checkName_eq_ok.mpr name, both_eq_ok.mpr ⟨checkMember_text [] summary, both_eq_ok.mpr
        ⟨checkMember_text [] description, checkMember_parameters given each []⟩⟩⟩
    rw [Entry.check, checkEntry, all]
    rfl
  named entry o taken := by
    cases entry with
    | operation definition =>
      cases taken
      rfl
    | datum datum =>
      cases datum with
      | scalar | arr => cases taken
      | obj members =>
        have checked : checkEntry (.obj members) = .ok o := by
          rw [Entry.check] at taken
          cases result : checkEntry (.obj members) with
          | ok other =>
            rw [result] at taken
            cases taken
            rfl
          | error defects =>
            rw [result] at taken
            cases taken
        rw [checkEntry] at checked
        obtain ⟨⟨name, rest⟩, all, rfl⟩ := map_eq_ok.mp checked
        rw [Entry.name?, checkName_eq_ok.mp (both_eq_ok.mp all).1]

end Check

/-! ### The index of entries -/

/-- A catalog is the index of entries that a validator has taken, and all that can be asked of it agrees. -/
structure Indexes (c : Catalog) (validate : Entry → Except Fault Operation) (entries : List Entry) : Prop where
  listed : List.Forall₂ (fun entry o => validate entry = .ok o) entries c.operations
  /-- The last entry with a name defines it. -/
  last : ∀ name, c.get? name =
    (entries.reverse.find? fun entry => entry.name? = some name).bind fun entry => (validate entry).toOption
  absent : ∀ name, c.get? name = none ↔ ∀ entry ∈ entries, entry.name? ≠ some name
  /-- The names stand in the order in which they are first listed. -/
  names : c.names = (entries.filterMap Entry.name?).eraseDups
  ordered : c.names.Pairwise fun first second =>
    (entries.filterMap Entry.name?).idxOf first < (entries.filterMap Entry.name?).idxOf second
  distinct : c.names.Nodup
  defined : c.definitions.map some = c.names.map c.get?
  labelled : c.definitions.map (·.name) = c.names
  size : c.size = c.names.length
  has : ∀ name, c.has name = true ↔ name ∈ c.names

theorem keys_entries (listed : List Operation) :
    NameMap.keys (listed.map fun o => (o.name, o)) = listed.map (·.name) := by
  rw [NameMap.keys, List.map_map]
  rfl

theorem get?_ofOperations (listed : List Operation) (name : String) :
    (ofOperations listed).get? name = listed.reverse.find? fun o => o.name = name := by
  change NameMap.get? (NameMap.ofList _) name = _
  rw [NameMap.get?_ofList, ← List.map_reverse, List.find?_map, Option.map_map]
  exact congrFun Option.map_id _

theorem names_ofOperations (listed : List Operation) :
    (ofOperations listed).names = (listed.map (·.name)).eraseDups := by
  change NameMap.keys (NameMap.ofList _) = _
  rw [NameMap.keys_ofList, keys_entries]

section Validated

variable {validate : Entry → Except Fault Operation} {entries : List Entry} {listed : List Operation}

theorem filterMap_name? (lawful : Lawful validate)
    (each : List.Forall₂ (fun entry o => validate entry = .ok o) entries listed) :
    entries.filterMap Entry.name? = listed.map (·.name) := by
  induction each with
  | nil => rfl
  | cons here _ ih => rw [List.filterMap_cons_some (lawful.named _ _ here), List.map_cons, ih]

theorem find?_name? (lawful : Lawful validate)
    (each : List.Forall₂ (fun entry o => validate entry = .ok o) entries listed) (name : String) :
    ((entries.find? fun entry => entry.name? = some name).bind fun entry => (validate entry).toOption) =
      listed.find? fun o => o.name = name := by
  induction each with
  | nil => rfl
  | @cons entry o _ _ here _ ih =>
    have same := lawful.named _ _ here
    by_cases named : o.name = name
    · simp [same, named, here, Except.toOption]
    · simp [same, named, ih]

theorem indexes_ofOperations (lawful : Lawful validate)
    (each : List.Forall₂ (fun entry o => validate entry = .ok o) entries listed) :
    (ofOperations listed).Indexes validate entries := by
  have named := filterMap_name? lawful each
  have distinct : (ofOperations listed).names.Nodup := NameMap.nodup_keys_ofList _
  have last (name : String) := find?_name? lawful (List.forall₂_reverse_iff.mpr each) name
  refine ⟨each, fun name => (get?_ofOperations listed name).trans (last name).symm, fun name => ?_, ?_, ?_, distinct,
    NameMap.values_eq distinct, ?_, ?_, fun name => NameMap.has_iff⟩
  · have absent : (∀ entry ∈ entries, entry.name? ≠ some name) ↔ name ∉ entries.filterMap Entry.name? := by
      simp
    rw [absent, named, get?_ofOperations, List.find?_eq_none]
    simp
  · rw [named, names_ofOperations]
  · have ordered := NameMap.pairwise_keys_ofList (listed.map fun o => (o.name, o))
    rwa [keys_entries, ← named] at ordered
  · rw [definitions, Catalog.names, NameMap.values, NameMap.keys, List.map_map]
    exact List.map_congr_left fun entry member => (mem_index member).2
  · rw [Catalog.names, NameMap.keys, List.length_map]
    rfl

/-- Entries are read up to the first one that is refused. -/
theorem readEntries_cases (validate : Entry → Except Fault Operation) (entries : List Entry) :
    (∃ listed, List.Forall₂ (fun entry o => validate entry = .ok o) entries listed ∧
      readEntries validate entries = .ok listed) ∨
    ∃ before bad after fault, entries = before ++ bad :: after ∧
      (∀ entry ∈ before, ∃ o, validate entry = .ok o) ∧ validate bad = .error fault ∧
      readEntries validate entries = .error fault := by
  induction entries with
  | nil => exact Or.inl ⟨[], .nil, rfl⟩
  | cons entry rest ih =>
    unfold readEntries
    cases checked : validate entry with
    | error fault => exact Or.inr ⟨[], entry, rest, fault, rfl, by simp, checked, rfl⟩
    | ok o =>
      rcases ih with ⟨listed, each, read⟩ | ⟨before, bad, after, fault, rfl, valid, broken, read⟩
      · exact Or.inl ⟨o :: listed, .cons checked each, by rw [read]; rfl⟩
      · refine Or.inr ⟨entry :: before, bad, after, fault, rfl, ?_, broken, by rw [read]; rfl⟩
        exact List.forall_mem_cons.mpr ⟨⟨o, checked⟩, valid⟩

/-- A list of entries is read as their index if a lawful validator takes all of them, or else it is refused with
the fault of the first entry that is. -/
theorem ofEntries_indexes (lawful : Lawful validate) (entries : List Entry) :
    (∃ c, ofEntries validate entries = .ok c ∧ c.Indexes validate entries) ∨
    ∃ before bad after fault, entries = before ++ bad :: after ∧
      (∀ entry ∈ before, ∃ o, validate entry = .ok o) ∧ validate bad = .error fault ∧
      ofEntries validate entries = .error fault := by
  unfold ofEntries
  rcases readEntries_cases validate entries with
    ⟨listed, each, read⟩ | ⟨before, bad, after, fault, split, valid, broken, read⟩
  · exact Or.inl ⟨ofOperations listed, by rw [read]; rfl, indexes_ofOperations lawful each⟩
  · exact Or.inr ⟨before, bad, after, fault, split, valid, broken, by rw [read]; rfl⟩

end Validated

def repeatedEntries : List Entry :=
  [.datum (.obj [("id", .str "add"), ("parameters", .arr [.obj [("name", .str "x")]])]),
    .operation ⟨"pi", "", "", []⟩,
    .datum (.obj [("id", .str "add"), ("parameters", .arr [.obj [("name", .str "x")], .obj [("name", .str "y")]])])]

def badEntries : List Entry := [.datum (.obj [("id", .int 5)]), .datum .null]

theorem repeated_indexes : Lawful Entry.check ∧
    (∃ c, ofEntries Entry.check repeatedEntries = .ok c ∧ c.names = ["add", "pi"] ∧
      c.get? "add" = some ⟨"add", "", "", [⟨"x", "", false⟩, ⟨"y", "", false⟩]⟩ ∧ c.get? "sqrt" = none) ∧
    ofEntries Entry.check (repeatedEntries ++ badEntries) = .error (.entry [⟨[.member "id"], .notText⟩]) := by
  refine ⟨check_lawful, ?_, ?_⟩
  · rcases ofEntries_indexes check_lawful repeatedEntries with ⟨c, read, indexes⟩ | ⟨_, _, _, _, _, _, _, failed⟩
    · refine ⟨c, read, indexes.names.trans (by decide), ?_, (indexes.absent "sqrt").mpr (by decide)⟩
      rw [indexes.last]
      rfl
    · cases failed
  · rcases ofEntries_indexes check_lawful (repeatedEntries ++ badEntries) with
      ⟨_, read, _⟩ | ⟨_, _, _, fault, _, _, _, failed⟩
    · cases read
    · rw [failed]
      exact failed.symm

end FormulaGraph.Catalog
