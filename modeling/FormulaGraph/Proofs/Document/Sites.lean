import FormulaGraph.Document.Reader
import FormulaGraph.Proofs.Except
import FormulaGraph.Proofs.Document.Portable
import FormulaGraph.Proofs.Json.Induction
import FormulaGraph.Proofs.Number.Limit

/-!
# Where reading a document fails

A document has `sites`: the data in it, in the order in which they are read, with what they are read as.
What is wrong at a site is said without looking into its parts, and reading a document fails with the first
defect. Most defects are of the content. The others are at sites that are not checked: no object stands
where one is taken apart, or an index is null, has parts or is infinite.
-/

namespace FormulaGraph

/-- What a datum of a document is read as. -/
inductive Reading where
  | graph
  | node (id : String)
  | arguments
  | argument
  /-- A name or a label, which is any datum in words. -/
  | words
  | index
  /-- The flags of the nodes of a graph, which are looked at after the nodes. -/
  | flags

structure Site where
  reading : Reading
  datum : Json

def Json.isFlagged : Json → Bool
  | .obj members =>
    match NameMap.get? members "result" with
    | some (.bool true) => true
    | _ => false
  | _ => false

def flaggedIds (entries : NameMap Json) : List String :=
  (entries.filter fun entry => entry.2.isFlagged).map Prod.fst

/-- What is wrong if nodes with certain ids are flagged as result. -/
def flagsDefect? : List String → Option Misuse
  | [] | [_] => none
  | ids => some (.severalResults ids)

/-- Whether the members of an object have the names, in any order, of a reference or a callback. -/
def isArgumentShape : List String → Bool
  | [name] => name = "from_node" ∨ name = "from_parameter" ∨ name = "process_graph"
  | [first, second] =>
    first = "from_parameter" ∧ (second = "index" ∨ second = "label") ∨
      second = "from_parameter" ∧ (first = "index" ∨ first = "label")
  | _ => false

/-- What the members of references and callbacks are read as, by their names and in the order in which they are
read. -/
def memberReadings : NameMap Reading :=
  [("from_node", .words), ("from_parameter", .words), ("index", .index), ("label", .words),
    ("process_graph", .graph)]

namespace Site

/-- The member of a reference or a callback that is read under a name. -/
def ofMember? (members : NameMap Json) (entry : String × Reading) : Option Site :=
  (NameMap.get? members entry.1).map (⟨entry.2, ·⟩)

/-- The sites that are read next at a site, if it is in order itself. -/
def parts : Site → List Site
  | ⟨.graph, .obj entries⟩ => entries.map (fun (id, entry) => ⟨.node id, entry⟩) ++ [⟨.flags, .obj entries⟩]
  | ⟨.node _, .obj members⟩ => (NameMap.get? members "arguments").toList.map (⟨.arguments, ·⟩)
  | ⟨.arguments, .obj members⟩ => members.map fun (_, given) => ⟨.argument, given⟩
  | ⟨.argument, .arr items⟩ => items.map (⟨.argument, ·⟩)
  | ⟨.argument, .obj members⟩ => memberReadings.filterMap (ofMember? members)
  | _ => []

/-- What is wrong at a site itself. -/
def defect? : Site → Option Misuse
  | ⟨.graph, .obj _⟩ | ⟨.arguments, .obj _⟩ => none
  | ⟨.graph, other⟩ | ⟨.arguments, other⟩ => some (.lacks other.kind "items")
  | ⟨.node id, .obj members⟩ => if NameMap.has members "process_id" then none else some (.malformedNode id)
  | ⟨.node id, _⟩ => some (.malformedNode id)
  | ⟨.argument, .obj members⟩ =>
    if isArgumentShape (NameMap.keys members) then none
    else if (Json.obj members).hasText then some (.unknownShape (.ofJson (.obj members)))
    else some .hugeInteger
  | ⟨.words, datum⟩ => if datum.hasText then none else some .hugeInteger
  | ⟨.index, datum⟩ => error? (Value.ofJson datum).readPosition
  | ⟨.flags, .obj entries⟩ => flagsDefect? (flaggedIds entries)
  | ⟨.argument, _⟩ | ⟨.flags, _⟩ => none

/-- Whether what is wrong at a site is not looked for: no object stands where one is taken apart, or an
index is null, has parts or is infinite. -/
def isUnchecked : Site → Bool
  | ⟨.graph, .obj _⟩ | ⟨.arguments, .obj _⟩ => false
  | ⟨.graph, _⟩ | ⟨.arguments, _⟩ => true
  | ⟨.index, .scalar .null⟩ | ⟨.index, .arr _⟩ | ⟨.index, .obj _⟩ => true
  | ⟨.index, .scalar (.number (.float x))⟩ => x.isInfinite
  | _ => false

/-! ### All sites -/

theorem mem_of_ofMember? {members : NameMap Json} {entry : String × Reading} {site : Site}
    (found : ofMember? members entry = some site) : (entry.1, site.datum) ∈ members := by
  obtain ⟨content, given, rfl⟩ := Option.map_eq_some_iff.mp found
  exact NameMap.mem_of_get? given

/-- A graph and its flags are sites with the same datum. -/
noncomputable def weight (site : Site) : Nat :=
  2 * sizeOf site.datum + match site.reading with
    | .flags => 0
    | _ => 1

theorem weight_lt {site part : Site} (smaller : sizeOf part.datum < sizeOf site.datum) :
    part.weight < site.weight := by
  unfold weight
  split <;> split <;> omega

theorem weight_lt_of_part {site part : Site} (inside : part ∈ site.parts) : part.weight < site.weight := by
  unfold parts at inside
  split at inside
  · rcases List.mem_append.mp inside with node | flags
    · obtain ⟨⟨id, entry⟩, member, rfl⟩ := List.mem_map.mp node
      exact weight_lt (Json.sizeOf_member_lt member)
    · obtain rfl := List.mem_singleton.mp flags
      exact Nat.lt_succ_self _
  · obtain ⟨given, present, rfl⟩ := List.mem_map.mp inside
    have member := NameMap.mem_of_get? (Option.mem_toList.mp present)
    exact weight_lt (Json.sizeOf_member_lt member)
  · obtain ⟨⟨name, given⟩, member, rfl⟩ := List.mem_map.mp inside
    exact weight_lt (Json.sizeOf_member_lt member)
  · obtain ⟨item, member, rfl⟩ := List.mem_map.mp inside
    exact weight_lt (Json.sizeOf_item_lt member)
  · obtain ⟨entry, _, found⟩ := List.mem_filterMap.mp inside
    exact weight_lt (Json.sizeOf_member_lt (mem_of_ofMember? found))
  · cases inside

/-- A site and all sites in it, in the order in which they are read. -/
def sites (site : Site) : List Site :=
  site :: site.parts.attach.flatMap fun ⟨part, _⟩ => part.sites
termination_by site.weight
decreasing_by exact weight_lt_of_part ‹_›

theorem sites_eq (site : Site) : site.sites = site :: site.parts.flatMap sites := by
  rw [sites]
  simp

/-! ### Reading at a site -/

/-- How reading fails at a site. -/
def fault? : Site → Option Misuse
  | ⟨.graph, datum⟩ => error? (Graph.ofValue (.ofJson datum))
  | ⟨.node id, datum⟩ => error? (Node.ofValue id (.ofJson datum))
  | ⟨.arguments, datum⟩ => error? (Value.readObject (.ofJson datum))
  | ⟨.argument, datum⟩ => error? (Value.read (.ofJson datum))
  | ⟨.words, datum⟩ => error? (Value.ofJson datum).toText
  | ⟨.index, datum⟩ => error? (Value.ofJson datum).readPosition
  | ⟨.flags, datum⟩ => defect? ⟨.flags, datum⟩

theorem findSome?_cons_or {α β : Type} (f : α → Option β) (a : α) (rest : List α) :
    (a :: rest).findSome? f = (f a).or (rest.findSome? f) := by
  rw [List.findSome?_cons]
  cases f a <;> rfl

theorem error?_readAll (items : List Json) :
    error? (Value.readAll (Value.ofJsonItems items)) = items.findSome? fun item => fault? ⟨.argument, item⟩ :=
  readAll_itemwise.error?_eq items

theorem error?_readNamed (members : NameMap Json) :
    error? (Value.readNamed (Value.ofJsonMembers members)) =
      members.findSome? fun (_, given) => fault? ⟨.argument, given⟩ :=
  readNamed_itemwise.error?_eq members

theorem error?_readNodes (entries : NameMap Json) :
    error? (Graph.readNodes (Value.ofJsonMembers entries)) =
      entries.findSome? fun (id, entry) => fault? ⟨.node id, entry⟩ :=
  readNodes_itemwise.error?_eq entries

theorem readFlag_ofJsonMembers (members : NameMap Json) :
    readFlag (Value.ofJsonMembers members) = (Json.obj members).isFlagged := by
  rw [readFlag, Value.ofJsonMembers_eq, NameMap.get?_mapValues, Json.isFlagged]
  cases NameMap.get? members "result" with
  | none => rfl
  | some flag =>
    cases flag with
    | scalar s => rcases s with _ | (_ | _) | _ | _ <;> rfl
    | arr items => rfl
    | obj members => rfl

theorem isResult_of_read {id : String} {entry : Json} {n : Node}
    (read : Node.ofValue id (.ofJson entry) = .ok n) : n.isResult = entry.isFlagged := by
  cases entry with
  | scalar | arr => cases read
  | obj members =>
    rw [Value.ofJson, Node.ofValue] at read
    split at read
    · cases read
    · obtain ⟨arguments, _, same⟩ := bind_eq_ok.mp read
      cases same
      exact readFlag_ofJsonMembers members

theorem flagged_of_readNodes {entries : NameMap Json} {nodes : NameMap Node}
    (read : Graph.readNodes (Value.ofJsonMembers entries) = .ok nodes) :
    (nodes.filter fun (_, n) => n.isResult).map Prod.fst = flaggedIds entries := by
  unfold flaggedIds
  induction entries generalizing nodes with
  | nil =>
    cases read
    rfl
  | cons entry rest ih =>
    rw [Value.ofJsonMembers, Graph.readNodes] at read
    obtain ⟨n, others, head, tail, rfl⟩ := cons_eq_ok.mp read
    have flag := isResult_of_read head
    have later := ih tail
    simp only [List.filter_cons, flag]
    split
    · rw [List.map_cons, List.map_cons, later]
    · exact later

theorem error?_ofNodes (nodes : NameMap Node) :
    error? (Graph.ofNodes nodes) = flagsDefect? ((nodes.filter fun (_, n) => n.isResult).map Prod.fst) := by
  unfold Graph.ofNodes
  generalize (nodes.filter fun (_, n) => n.isResult).map Prod.fst = ids
  rcases ids with _ | ⟨first, _ | ⟨second, rest⟩⟩ <;> rfl

theorem fault?_graph (entries : NameMap Json) :
    fault? ⟨.graph, .obj entries⟩ = (parts ⟨.graph, .obj entries⟩).findSome? fault? := by
  have nodes := error?_readNodes entries
  rw [parts, List.findSome?_append, List.findSome?_map, fault?, Value.ofJson, Graph.ofValue]
  cases read : Graph.readNodes (Value.ofJsonMembers entries) with
  | error cause =>
    rw [read] at nodes
    exact congrArg (Option.or · _) nodes
  | ok out =>
    rw [read] at nodes
    have flags : error? (Graph.ofNodes out) = fault? ⟨.flags, .obj entries⟩ := by
      rw [error?_ofNodes, flagged_of_readNodes read]
      rfl
    calc error? (Graph.ofNodes out)
      _ = (none : Option Misuse).or (List.findSome? fault? [⟨.flags, .obj entries⟩]) := by
        rw [flags, findSome?_cons_or, List.findSome?_nil, Option.or_none, Option.none_or]
      _ = _ := congrArg (Option.or · _) nodes

theorem fault?_node (id : String) (members : NameMap Json) :
    fault? ⟨.node id, .obj members⟩ =
      (defect? ⟨.node id, .obj members⟩).or ((parts ⟨.node id, .obj members⟩).findSome? fault?) := by
  have arguments := readArguments_eq members
  rw [Value.ofJsonMembers_eq] at arguments
  rw [fault?, Value.ofJson, Node.ofValue, Value.ofJsonMembers_eq, NameMap.get?_mapValues, defect?, NameMap.has,
    parts]
  cases NameMap.get? members "process_id" with
  | none => rfl
  | some operation =>
    simp only [Option.map_some, arguments]
    cases NameMap.get? members "arguments" with
    | none => rfl
    | some given =>
      have fails : fault? ⟨.arguments, given⟩ = error? (Value.readObject (.ofJson given)) := rfl
      rw [error?_bind _ fun _ => rfl]
      simp [findSome?_cons_or, fails]

theorem fault?_arguments (members : NameMap Json) :
    fault? ⟨.arguments, .obj members⟩ = (parts ⟨.arguments, .obj members⟩).findSome? fault? := by
  rw [fault?, Value.ofJson, Value.readObject, error?_readNamed, parts, List.findSome?_map]
  rfl

theorem fault?_items (items : List Json) :
    fault? ⟨.argument, .arr items⟩ = (parts ⟨.argument, .arr items⟩).findSome? fault? := by
  rw [fault?, Value.ofJson, Value.read, error?_map, error?_readAll, parts, List.findSome?_map]
  rfl

theorem error?_toText (datum : Json) : error? (Value.ofJson datum).toText = defect? ⟨.words, datum⟩ := by
  rw [Value.toText, Value.hasText_ofJson, defect?]
  cases datum.hasText <;> rfl

theorem refusal_ofJson (members : NameMap Json) :
    (Value.obj (Value.ofJsonMembers members)).refusal .unknownShape =
      if (Json.obj members).hasText then .unknownShape (.ofJson (.obj members)) else .hugeInteger := by
  rw [Value.refusal, ← Value.ofJson, Value.hasText_ofJson]

section Members

variable {members : NameMap Json}

/-- Reading an object fails with its own defect, if it has one, or else at its members. -/
def FailsInOrder (members : NameMap Json) : Prop :=
  fault? ⟨.argument, .obj members⟩ =
    (defect? ⟨.argument, .obj members⟩).or ((parts ⟨.argument, .obj members⟩).findSome? fault?)

theorem failsInOrder_of_unknown (unknown : isArgumentShape (NameMap.keys members) = false)
    (read : Value.read (.ofJson (.obj members)) =
      .error ((Value.obj (Value.ofJsonMembers members)).refusal .unknownShape)) : FailsInOrder members := by
  rw [FailsInOrder, fault?, read, refusal_ofJson, defect?, unknown]
  cases (Json.obj members).hasText <;> rfl

theorem failsInOrder_of_part (part : Site) (shape : isArgumentShape (NameMap.keys members) = true)
    (listed : parts ⟨.argument, .obj members⟩ = [part])
    (read : fault? ⟨.argument, .obj members⟩ = fault? part) : FailsInOrder members := by
  rw [FailsInOrder, read, defect?, if_pos shape, listed, findSome?_cons_or, List.findSome?_nil, Option.or_none,
    Option.none_or]

theorem failsInOrder_of_parts (first second : Site) (shape : isArgumentShape (NameMap.keys members) = true)
    (listed : parts ⟨.argument, .obj members⟩ = [first, second])
    (read : fault? ⟨.argument, .obj members⟩ = (fault? first).or (fault? second)) : FailsInOrder members := by
  rw [FailsInOrder, read, defect?, if_pos shape, listed, findSome?_cons_or, findSome?_cons_or, List.findSome?_nil,
    Option.or_none, Option.none_or]

theorem failsInOrder_single (name : String) (content : Json) : FailsInOrder [(name, content)] := by
  by_cases node : name = "from_node"
  · subst node
    exact failsInOrder_of_part ⟨.words, content⟩ rfl rfl (error?_map (Value.ofJson content).toText Value.nodeRef)
  by_cases parameter : name = "from_parameter"
  · subst parameter
    exact failsInOrder_of_part ⟨.words, content⟩ rfl rfl (error?_map (Value.ofJson content).toText Value.paramRef)
  by_cases callback : name = "process_graph"
  · subst callback
    exact failsInOrder_of_part ⟨.graph, content⟩ rfl rfl
      (error?_map (Graph.ofValue (.ofJson content)) Value.callback)
  refine failsInOrder_of_unknown (by simp [isArgumentShape, NameMap.keys, node, parameter, callback]) ?_
  simp [Value.ofJson, Value.ofJsonMembers, Value.read, node, parameter, callback]

/-- The members of an element may stand in either order; its parameter is read before its selector. -/
theorem failsInOrder_pair (first second : String) (one two : Json) :
    FailsInOrder [(first, one), (second, two)] := by
  have index (parameter content : Json) := error?_pair (Value.ofJson parameter).toText
    (Value.ofJson content).readPosition fun p n => Value.element p (.number (.int n))
  have label (parameter content : Json) := error?_pair (Value.ofJson parameter).toText
    (Value.ofJson content).toText fun p l => Value.element p (.str l)
  by_cases leading : first = "from_parameter"
  · subst leading
    by_cases position : second = "index"
    · subst position
      exact failsInOrder_of_parts ⟨.words, one⟩ ⟨.index, two⟩ rfl rfl (index one two)
    by_cases text : second = "label"
    · subst text
      exact failsInOrder_of_parts ⟨.words, one⟩ ⟨.words, two⟩ rfl rfl (label one two)
    refine failsInOrder_of_unknown (by simp [isArgumentShape, NameMap.keys, position, text]) ?_
    simp [Value.ofJson, Value.ofJsonMembers, Value.read, readElement?, position, text]
  by_cases trailing : second = "from_parameter"
  · subst trailing
    by_cases position : first = "index"
    · subst position
      exact failsInOrder_of_parts ⟨.words, two⟩ ⟨.index, one⟩ rfl rfl (index two one)
    by_cases text : first = "label"
    · subst text
      exact failsInOrder_of_parts ⟨.words, two⟩ ⟨.words, one⟩ rfl rfl (label two one)
    refine failsInOrder_of_unknown (by simp [isArgumentShape, NameMap.keys, leading, position, text]) ?_
    simp [Value.ofJson, Value.ofJsonMembers, Value.read, readElement?, leading, position, text]
  refine failsInOrder_of_unknown (by simp [isArgumentShape, NameMap.keys, leading, trailing]) ?_
  simp [Value.ofJson, Value.ofJsonMembers, Value.read, leading, trailing]

theorem failsInOrder (members : NameMap Json) : FailsInOrder members := by
  match members with
  | [] => exact failsInOrder_of_unknown rfl rfl
  | [(name, content)] => exact failsInOrder_single name content
  | [(first, one), (second, two)] => exact failsInOrder_pair first second one two
  | _ :: _ :: _ :: _ => exact failsInOrder_of_unknown rfl rfl

end Members

/-- Reading fails at a site with the defect of the site itself, or else as it fails at the first of its
parts where it does. -/
theorem fault?_step (site : Site) : site.fault? = site.defect?.or (site.parts.findSome? fault?) := by
  obtain ⟨reading, datum⟩ := site
  cases reading with
  | graph =>
    cases datum with
    | obj entries => exact fault?_graph entries
    | scalar | arr => rfl
  | node id =>
    cases datum with
    | obj members => exact fault?_node id members
    | scalar | arr => rfl
  | arguments =>
    cases datum with
    | obj members => exact fault?_arguments members
    | scalar | arr => rfl
  | argument =>
    cases datum with
    | scalar => rfl
    | arr items => exact fault?_items items
    | obj members => exact failsInOrder members
  | words => simp [fault?, error?_toText, parts]
  | index | flags => simp [fault?, defect?, parts]

theorem findSome?_flatMap {α β γ : Type} {l : List α} {f : α → List β} {g : β → Option γ} {h : α → Option γ}
    (each : ∀ a ∈ l, (f a).findSome? g = h a) : (l.flatMap f).findSome? g = l.findSome? h := by
  induction l with
  | nil => rfl
  | cons a rest ih =>
    rw [List.flatMap_cons, List.findSome?_append, findSome?_cons_or, each a List.mem_cons_self,
      ih fun a member => each a (List.mem_cons_of_mem _ member)]

/-- Reading fails at a site with the first defect in it. -/
theorem fault?_eq (site : Site) : site.fault? = site.sites.findSome? defect? := by
  have inside : (site.parts.flatMap sites).findSome? defect? = site.parts.findSome? fault? :=
    findSome?_flatMap fun part member => (fault?_eq part).symm
  rw [fault?_step, sites_eq, findSome?_cons_or, inside]
termination_by site.weight
decreasing_by exact weight_lt_of_part member

/-! ### The class of a defect -/

theorem truncate?_eq_none {x : Binary64} (number : x.isNan = false) :
    x.truncate? = none ↔ x.isInfinite = true := by
  -- the highest exponent is that of infinity, and above infinity there is no number
  have top : x.magnitudeBits / Binary64.exponentUnit = 2047 ↔ x.magnitudeBits = Binary64.infinityBits := by
    have within : x.magnitudeBits ≤ Binary64.infinityBits := by simpa [Binary64.isNan] using number
    simp only [Binary64.infinityBits, Binary64.exponentUnit] at within ⊢
    omega
  have undefined : x.magnitude? = none ↔ x.magnitudeBits / Binary64.exponentUnit = 2047 := by
    unfold Binary64.magnitude?
    grind
  simp only [Binary64.truncate?, Option.map_eq_none_iff, undefined, top, Binary64.isInfinite, beq_iff_eq]

theorem content_iff_of_float {x : Binary64} {cause : Misuse}
    (defect : error? (Value.scalar (.number (.float x))).readPosition = some cause) :
    cause.toClass = .content ↔ x.isInfinite = false := by
  cases number : x.isNan with
  | true =>
    have finite : x.isInfinite = false := by
      simp only [Binary64.isNan, decide_eq_true_eq] at number
      simp only [Binary64.isInfinite, beq_eq_false_iff_ne]
      omega
    simp only [Value.readPosition, number, if_true, error?, Option.some.injEq] at defect
    subst defect
    simp [Misuse.toClass, finite]
  | false =>
    have infinite := truncate?_eq_none number
    simp only [Value.readPosition, number, Bool.false_eq_true, if_false] at defect
    cases whole : x.truncate? with
    | some n => simp [whole, error?] at defect
    | none =>
      simp only [whole, error?, Option.some.injEq] at defect
      subst defect
      simp [Misuse.toClass, infinite.mp whole]

theorem content_of_text {text : String} {cause : Misuse}
    (defect : error? (Value.str text).readPosition = some cause) : cause.toClass = .content := by
  rw [error?_eq_some, Value.readPosition] at defect
  cases numeral : Number.readInt text.toList with
  | ok n =>
    rw [numeral] at defect
    cases defect
  | error reason =>
    rw [numeral] at defect
    cases defect
    cases reason <;> rfl

theorem content_of_flags {ids : List String} {cause : Misuse} (defect : flagsDefect? ids = some cause) :
    cause.toClass = .content := by
  unfold flagsDefect? at defect
  split at defect
  · cases defect
  · cases defect
  · cases defect
    rfl

/-- A defect is one of the content just where it is looked for. -/
theorem content_iff {site : Site} {cause : Misuse} (defect : site.defect? = some cause) :
    cause.toClass = .content ↔ site.isUnchecked = false := by
  obtain ⟨reading, datum⟩ := site
  cases reading with
  | graph | arguments =>
    cases datum with
    | obj members => cases defect
    | scalar | arr =>
      cases defect
      simp [Misuse.toClass, isUnchecked]
  | node id =>
    have same : cause = .malformedNode id := by
      cases datum with
      | obj members => grind [defect?]
      | scalar | arr =>
        cases defect
        rfl
    simp [same, Misuse.toClass, isUnchecked]
  | argument =>
    cases datum with
    | scalar | arr => cases defect
    | obj members =>
      have same : cause = .unknownShape (.ofJson (.obj members)) ∨ cause = .hugeInteger := by grind [defect?]
      rcases same with rfl | rfl <;> simp [Misuse.toClass, isUnchecked]
  | words =>
    have same : cause = .hugeInteger := by grind [defect?]
    simp [same, Misuse.toClass, isUnchecked]
  | index =>
    cases datum with
    | arr | obj =>
      cases defect
      simp [Misuse.toClass, isUnchecked]
    | scalar s =>
      match s with
      | .null =>
        cases defect
        simp [Misuse.toClass, isUnchecked]
      | .bool b => cases defect
      | .number (.int n) => cases defect
      | .number (.float x) => exact content_iff_of_float defect
      | .str text => simp [content_of_text defect, isUnchecked]
  | flags =>
    cases datum with
    | scalar | arr => cases defect
    | obj entries => simp [content_of_flags defect, isUnchecked]

end Site

/-- The sites of a document. -/
def Json.sites (document : Json) : List Site := Site.sites ⟨.graph, document⟩

/-- A document is read if nothing is wrong at any of its sites. Otherwise reading fails with the defect of
the first site where something is, and that is a defect of the content just if the site is checked. -/
theorem Graph.read_first_defect (document : Json) :
    (∃ g, Graph.read document = .ok g) ∧ (∀ site ∈ document.sites, site.defect? = none) ∨
      ∃ before site after cause, document.sites = before ++ site :: after ∧
        (∀ earlier ∈ before, earlier.defect? = none) ∧ site.defect? = some cause ∧
        Graph.read document = .error cause ∧ (cause.toClass = .content ↔ site.isUnchecked = false) := by
  have first : error? (Graph.read document) = document.sites.findSome? Site.defect? :=
    Site.fault?_eq ⟨.graph, document⟩
  cases failure : error? (Graph.read document) with
  | none =>
    left
    rw [failure, eq_comm, List.findSome?_eq_none_iff] at first
    exact ⟨error?_eq_none.mp failure, first⟩
  | some cause =>
    right
    rw [failure, eq_comm, List.findSome?_eq_some_iff] at first
    obtain ⟨before, site, after, split, defect, fine⟩ := first
    exact ⟨before, site, after, cause, split, fine, defect, error?_eq_some.mp failure, Site.content_iff defect⟩

def nullArgumentsDocument : Json :=
  .obj [("a", .obj [("process_id", .str "sqrt"), ("arguments", .null)])]

theorem nullArguments_escape : ∃ cause, Graph.read nullArgumentsDocument = .error cause ∧
    cause.toClass = .member ∧ cause.toClass ≠ .content :=
  ⟨.lacks "NoneType" "items", rfl, rfl, by decide⟩

end FormulaGraph
