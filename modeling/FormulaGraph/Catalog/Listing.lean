import FormulaGraph.Catalog.Basic

/-!
# Reading listings

A listing is an array of entries, or an object that holds one. Each entry describes an operation, as a validator
says, and the first entry that it refuses ends the reading. The validator `Entry.check` reads an entry whole, so
that all its defects are known.
-/

namespace FormulaGraph

/-- A part of an entry that was read, or its defects. -/
abbrev Checked (α : Type) := Except (List EntryDefect) α

namespace Checked

/-- Two parts together, with the defects of both. -/
def both {α β : Type} (a : Checked α) (b : Checked β) : Checked (α × β) :=
  match a, b with
  | .ok x, .ok y => .ok (x, y)
  | .error ds, .error es => .error (ds ++ es)
  | .error ds, .ok _ => .error ds
  | .ok _, .error es => .error es

def all {α : Type} : List (Checked α) → Checked (List α)
  | [] => .ok []
  | a :: rest => (both a (all rest)).map fun (x, xs) => x :: xs

def fail {α : Type} (place : List EntryStep) (cause : EntryCause) : Checked α := .error [⟨place, cause⟩]

end Checked

namespace Catalog

def checkText (place : List EntryStep) : Json → Checked String
  | .scalar (.str s) => .ok s
  | _ => .fail place .notText

def truthWords : NameMap Bool :=
  [("true", true), ("t", true), ("yes", true), ("y", true), ("on", true), ("1", true),
   ("false", false), ("f", false), ("no", false), ("n", false), ("off", false), ("0", false)]

/-- Whether an integer fits into a word of sixty-four bits with a sign. -/
def isWord (n : Int) : Bool := -0x8000000000000000 ≤ n && n < 0x8000000000000000

def checkTruthInt (place : List EntryStep) (n : Int) : Checked Bool :=
  if n = 0 then .ok false else if n = 1 then .ok true else .fail place .unclearTruthValue

/-- A truth value: itself, one or zero, or a word in any case. An integer that is no word of the
machine is of the wrong kind, and so are the fraction and the lowest word as a floating-point number. -/
def checkTruth (place : List EntryStep) : Json → Checked Bool
  | .scalar (.bool b) => .ok b
  | .scalar (.number (.int n)) =>
    if isWord n then checkTruthInt place n else .fail place .notTruthValue
  | .scalar (.number (.float x)) =>
    match x.integer? with
    | some n =>
      if isWord n && isWord (n - 1) then checkTruthInt place n else .fail place .notTruthValue
    | none => .fail place .notTruthValue
  | .scalar (.str s) =>
    if s.toList.any Text.isHalf then .fail place .brokenText
    else
      match NameMap.get? truthWords (String.ofList (s.toList.map Char.toLower)) with
      | some b => .ok b
      | none => .fail place .unclearTruthValue
  | _ => .fail place .notTruthValue

/-- A member that may be absent. -/
def checkMember {α : Type} (place : List EntryStep) (members : NameMap Json) (name : String)
    (absent : α) (check : List EntryStep → Json → Checked α) : Checked α :=
  match NameMap.get? members name with
  | none => .ok absent
  | some value => check (place ++ [.member name]) value

def checkParameter (place : List EntryStep) : Json → Checked OperationParameter
  | .obj members =>
    let name := checkMember place members "name" "" checkText
    let description := checkMember place members "description" "" checkText
    let optional := checkMember place members "optional" false checkTruth
    (name.both (description.both optional)).map fun (n, d, o) => ⟨n, d, o⟩
  | _ => .fail place .notParameter

def checkParameters (place : List EntryStep) : Json → Checked (List OperationParameter)
  | .arr items =>
    .all (items.zipIdx.map fun (item, position) => checkParameter (place ++ [.item position]) item)
  | _ => .fail place .notSequence

def checkName (members : NameMap Json) : Checked String :=
  match NameMap.get? members "name", NameMap.get? members "id" with
  | some value, _ => checkText [.member "name"] value
  | none, some value => checkText [.member "id"] value
  | none, none => .fail [.member "name"] .missing

def checkEntry : Json → Checked Operation
  | .obj members =>
    let name := checkName members
    let summary := checkMember [] members "summary" "" checkText
    let description := checkMember [] members "description" "" checkText
    let parameters := checkMember [] members "parameters" [] checkParameters
    (name.both (summary.both (description.both parameters))).map fun (n, s, d, ps) => ⟨n, s, d, ps⟩
  | _ => .fail [] .notOperation

/-- What a list of operations is made of: data that describe operations, and operations themselves. -/
inductive Entry where
  | datum (description : Json)
  | operation (definition : Operation)

def Entry.check : Entry → Except Fault Operation
  | .datum description => (checkEntry description).mapError .entry
  | .operation definition => .ok definition

/-- The operations of a list of entries, unless the validator refuses one of them. -/
def readEntries (validate : Entry → Except Fault Operation) : List Entry → Except Fault (List Operation)
  | [] => .ok []
  | entry :: rest => do
    let operation ← validate entry
    let others ← readEntries validate rest
    return operation :: others

def ofEntries (validate : Entry → Except Fault Operation) (entries : List Entry) : Except Fault Catalog :=
  (readEntries validate entries).map ofOperations

/-- The items of a sequence: those of an array, the characters of a text, the names of an object. -/
def sequenceItems : Json → Except Misuse (List Json)
  | .arr items => .ok items
  | .obj members => .ok ((NameMap.keys members).map .str)
  | .scalar (.str s) => .ok (s.toList.map fun c => .str (String.singleton c))
  | .scalar s => .error (.notSequence s.kind)

def ofSequence (entries : Json) : Except Fault Catalog :=
  match sequenceItems entries with
  | .ok items => ofEntries Entry.check (items.map .datum)
  | .error cause => .error (.misuse cause)

def ofArray : Json → Except Fault Catalog
  | .arr entries => ofEntries Entry.check (entries.map .datum)
  | other => .error (.misuse (.listingKind other.kind))

/-- The catalog of a listing: an array of entries, or an object that holds one. -/
def ofListing : Json → Except Fault Catalog
  | .obj members =>
    match NameMap.get? members "processes" with
    | some entries => ofArray entries
    | none => .error (.misuse .listingWithoutProcesses)
  | other => ofArray other

def ofFile (content : String) : Except Fault Catalog :=
  match Json.ofFile content with
  | .error cause => .error (.unreadable cause)
  | .ok listing => ofListing listing

end Catalog
end FormulaGraph
