import FormulaGraph.Proofs.Formula.FreeNames
import FormulaGraph.Proofs.Formula.Independence
import FormulaGraph.Proofs.Formula.Selector

/-!
# What the treatment of digits comes to

The options for labels of digits bear on nothing but these labels. Lowering with positions and lowering with
labels go side by side, and make the same nodes under the same ids; only where the one has a position the other
has the digits that write it. Refusing is the same as having labels up to the first label of digits, and fails
there: `Formula.lower_by_labels`.
-/

namespace FormulaGraph

open Build

/-! ### Positions and the labels that write them -/

/-- The arguments that are the same in two graphs, but for positions, which are digits in the second. -/
inductive Value.Relabelled : Value → Value → Prop
  | scalar (s : Scalar) : Relabelled (.scalar s) (.scalar s)
  | node (id : String) : Relabelled (.nodeRef id) (.nodeRef id)
  | parameter (name : String) : Relabelled (.paramRef name) (.paramRef name)
  | label (parameter text : String) : Relabelled (.element parameter (.str text)) (.element parameter (.str text))
  | position (parameter : String) {digits : String} (ascii : Label.AsciiDigits digits.toList) :
      Relabelled (.element parameter (.number (.int (Label.decimalValue digits.toList))))
        (.element parameter (.str digits))

def NameMap.Related {α : Type} (R : α → α → Prop) : NameMap α → NameMap α → Prop :=
  List.Forall₂ fun entry entry' => entry'.1 = entry.1 ∧ R entry.2 entry'.2

structure Node.Relabelled (n m : Node) : Prop where
  id : m.id = n.id
  operation : m.operation = n.operation
  arguments : NameMap.Related Value.Relabelled n.arguments m.arguments
  description : m.description = n.description
  isResult : m.isResult = n.isResult

/-- Two builders that have come from one and differ only in the positions among what they have come to have. -/
structure Builder.Relabelled (b c₁ c₂ : Builder) (xs ys : NameMap Node) : Prop where
  first : c₁.nodes = b.nodes ++ xs
  second : c₂.nodes = b.nodes ++ ys
  added : NameMap.Related Node.Relabelled xs ys
  catalog : c₂.catalog = c₁.catalog
  parent : c₂.parent = c₁.parent
  parameters : c₂.parameters = c₁.parameters
  scopes : c₂.scopes = c₁.scopes
  counters : c₂.counters = c₁.counters
  resultId : c₂.resultId = c₁.resultId

namespace NameMap.Related

variable {α : Type} {R : α → α → Prop} {map map' : NameMap α}

theorem keys (related : Related R map map') : NameMap.keys map' = NameMap.keys map :=
  NameMap.keys_of_forall₂ related

theorem put (related : Related R map map') (name : String) {v w : α} (values : R v w) :
    Related R (NameMap.put map name v) (NameMap.put map' name w) := by
  induction related with
  | nil => exact .cons ⟨rfl, values⟩ .nil
  | @cons entry entry' rest rest' here later ih =>
    obtain ⟨key, old⟩ := entry
    obtain ⟨key', old'⟩ := entry'
    obtain ⟨rfl, olds⟩ := here
    rw [NameMap.put, NameMap.put]
    by_cases same : key' = name
    · rw [if_pos same, if_pos same]
      exact .cons ⟨rfl, values⟩ later
    · rw [if_neg same, if_neg same]
      exact .cons ⟨rfl, olds⟩ ih

theorem ofList (related : Related R map map') : Related R (NameMap.ofList map) (NameMap.ofList map') := by
  refine List.rel_foldl (P := Related R) (fun start start' built entry entry' here => ?_) .nil related
  obtain ⟨key, value⟩ := entry
  obtain ⟨key', value'⟩ := entry'
  obtain ⟨rfl, values⟩ := here
  exact built.put key' values

theorem zip {values values' : List α} (related : List.Forall₂ R values values') (names : List String) :
    Related R (names.zip values) (names.zip values') := by
  induction related generalizing names with
  | nil =>
    rw [List.zip_nil_right]
    exact .nil
  | cons here _ ih =>
    cases names with
    | nil => exact .nil
    | cons name rest => exact .cons ⟨rfl, here⟩ (ih rest)

end NameMap.Related

namespace Value.Relabelled

variable {v w : Value} {named named' : NameMap Value}

theorem isArgument (related : Relabelled v w) : v.isArgument = true ∧ w.isArgument = true := by
  cases related <;> exact ⟨rfl, rfl⟩

theorem nodeRefs (related : Relabelled v w) : w.nodeRefs = v.nodeRefs := by
  cases related <;> rfl

theorem number? (related : Relabelled v w) : w.number? = v.number? := by
  cases related <;> rfl

theorem coerceNamed (related : NameMap.Related Relabelled named named') :
    coerceNamed named = .ok named ∧ coerceNamed named' = .ok named' := by
  induction related with
  | nil => exact ⟨rfl, rfl⟩
  | @cons entry entry' rest rest' here _ ih =>
    obtain ⟨argument, argument'⟩ := here.2.isArgument
    exact ⟨coerceNamed_cons.mpr ⟨_, _, Value.coerce_of_isArgument argument, ih.1, rfl⟩,
      coerceNamed_cons.mpr ⟨_, _, Value.coerce_of_isArgument argument', ih.2, rfl⟩⟩

theorem references (related : NameMap.Related Relabelled named named') :
    (named'.flatMap fun (_, value) => value.nodeRefs) = named.flatMap fun (_, value) => value.nodeRefs := by
  induction related with
  | nil => rfl
  | cons here _ ih =>
    rw [List.flatMap_cons, List.flatMap_cons, ih]
    exact congrArg (· ++ _) here.2.nodeRefs

end Value.Relabelled

namespace Builder

theorem bindArguments_of_coerced {b : Builder} {operation : String} {definition : Operation}
    (offered : b.catalog.get? operation = some definition) {named : NameMap Value}
    (coerced : coerceNamed named = .ok named) :
    b.bindArguments (.str operation) (.obj named) =
      (b.missingNode? named).elim (.ok (operation, named)) fun id => refuse (.unknownNode id) := by
  rw [bindArguments_of_named offered rfl rfl, coerced]
  simp only [check, bind, Except.bind]
  cases b.missingNode? named <;> rfl

theorem nextNumber_congr {b c : Builder} (keys : NameMap.keys c.nodes = NameMap.keys b.nodes)
    (counters : c.counters = b.counters) (operation : String) : c.nextNumber operation = b.nextNumber operation := by
  have has (id : String) : c.has id = b.has id := by
    rw [Bool.eq_iff_iff, Builder.has, Builder.has, NameMap.has_iff, NameMap.has_iff, keys]
  have search (fuel n : Nat) : c.firstFree operation fuel n = b.firstFree operation fuel n := by
    induction fuel generalizing n with
    | zero => rfl
    | succ fuel ih => rw [firstFree, firstFree, has, ih]
  have size : c.size = b.size := by
    have lengths := congrArg List.length keys
    rwa [NameMap.keys, NameMap.keys, List.length_map, List.length_map] at lengths
  rw [nextNumber, nextNumber, search, size, counters]

namespace Relabelled

variable {b c₁ c₂ : Builder} {xs ys : NameMap Node}

theorem refl (b : Builder) : b.Relabelled b b [] [] where
  first := by rw [List.append_nil]
  second := by rw [List.append_nil]
  added := .nil
  catalog := rfl
  parent := rfl
  parameters := rfl
  scopes := rfl
  counters := rfl
  resultId := rfl

theorem keys (alike : b.Relabelled c₁ c₂ xs ys) : NameMap.keys c₂.nodes = NameMap.keys c₁.nodes := by
  rw [alike.first, alike.second, NameMap.keys_append, NameMap.keys_append, alike.added.keys]

theorem has (alike : b.Relabelled c₁ c₂ xs ys) (id : String) : c₂.has id = c₁.has id := by
  rw [Bool.eq_iff_iff, Builder.has, Builder.has, NameMap.has_iff, NameMap.has_iff, alike.keys]

theorem visible (alike : b.Relabelled c₁ c₂ xs ys) (outer : List Scope) : c₂.visible outer = c₁.visible outer := by
  rw [Builder.visible, Builder.visible, alike.scopes]

theorem grown (alike : b.Relabelled c₁ c₂ xs ys) (counters : NameMap Nat) {n m : Node} (nodes : n.Relabelled m)
    (name : String) :
    b.Relabelled (c₁.grown counters n name) (c₂.grown counters m name) (xs ++ [(n.id, n)]) (ys ++ [(m.id, m)]) where
  first := by
    rw [← List.append_assoc, ← alike.first]
    rfl
  second := by
    rw [← List.append_assoc, ← alike.second]
    rfl
  added := List.rel_append alike.added (.cons ⟨nodes.id, nodes⟩ .nil)
  catalog := alike.catalog
  parent := alike.parent
  parameters := alike.parameters
  scopes := alike.scopes
  counters := rfl
  resultId := alike.resultId

end Relabelled
end Builder

/-! ### Positions beside labels -/

theorem Label.selector_relabelled {label : String}
    (short : AsciiDigits label.toList → label.length ≤ Number.maxDigits) :
    (∃ fault, selector .index label = .error fault ∧ selector .label label = .error fault) ∨
    ∃ s t, selector .index label = .ok s ∧ selector .label label = .ok t ∧
      ∀ parameter, Value.Relabelled (.element parameter s) (.element parameter t) := by
  by_cases ascii : AsciiDigits label.toList
  · refine Or.inr ⟨.number (.int (decimalValue label.toList)), .str label, ?_, selector_of_digits ascii,
      fun parameter => .position parameter ascii⟩
    rw [selector_of_digits ascii]
    exact if_neg (Nat.not_lt.mpr (short ascii))
  · by_cases empty : label = ""
    · exact Or.inl ⟨_, selector_of_empty empty _, selector_of_empty empty _⟩
    · rw [selector_of_other empty ascii, selector_of_other empty ascii]
      cases isNumeric label.toList with
      | true => exact Or.inl ⟨_, rfl, rfl⟩
      | false => exact Or.inr ⟨_, _, rfl, rfl, fun parameter => .label parameter label⟩

namespace Formula

/-- Two runs that come to the same, but for positions. -/
abbrev Beside (b : Builder) :
    EStateM.Result Fault Builder Value → EStateM.Result Fault Builder Value → Prop :=
  Parallel b.Relabelled fun _ _ => Value.Relabelled

variable {outer : List Scope} {b c₁ c₂ : Builder} {xs ys : NameMap Node}

theorem resolveParameter_relabelled (alike : b.Relabelled c₁ c₂ xs ys) (name : String) :
    Beside b (resolveParameter ⟨outer, .index⟩ name c₁) (resolveParameter ⟨outer, .label⟩ name c₂) := by
  unfold resolveParameter
  rw [Builder.scopeParameter?, Builder.scopeParameter?, alike.visible]
  cases (c₁.visible outer).findSome? fun scope => scope.find? fun p => p.name = name with
  | some p => exact ⟨xs, ys, alike, .parameter p.name⟩
  | none =>
    dsimp only
    unfold Builder.declare
    dsimp only
    rw [Builder.parameter?, Builder.parameter?, alike.parameters]
    cases c₁.parameters.find? fun p => p.name = name with
    | some existing => exact ⟨xs, ys, alike, .parameter existing.name⟩
    | none => exact ⟨xs, ys, { alike with parameters := rfl }, .parameter name⟩

theorem resolve_relabelled (alike : b.Relabelled c₁ c₂ xs ys) {name : String}
    (short : ∀ label, name = "$" ++ label → Label.AsciiDigits label.toList → label.length ≤ Number.maxDigits) :
    Beside b (resolve ⟨outer, .index⟩ name c₁) (resolve ⟨outer, .label⟩ name c₂) := by
  have parameter : Beside b (resolveParameter ⟨outer, .index⟩ name c₁) (resolveParameter ⟨outer, .label⟩ name c₂) :=
    resolveParameter_relabelled alike name
  unfold resolve
  cases form : identifierForm name with
  | keyword value => exact ⟨xs, ys, alike, .scalar value⟩
  | plain => exact parameter
  | node id =>
    dsimp only
    rw [alike.has]
    cases c₁.has id with
    | true => exact ⟨xs, ys, alike, .node id⟩
    | false => exact ⟨rfl, xs, ys, alike⟩
  | element label =>
    dsimp only
    rw [Builder.currentScope, Builder.currentScope, alike.visible]
    cases (c₁.visible outer).head?.getD [] with
    | nil => exact parameter
    | cons first rest =>
      dsimp only
      rcases Label.selector_relabelled (short label (identifierForm_eq_element.mp form)) with
        ⟨fault, index, label⟩ | ⟨s, t, index, label, related⟩
      · rw [index, label]
        exact ⟨rfl, xs, ys, alike⟩
      · rw [index, label]
        exact ⟨xs, ys, alike, related first.name⟩

theorem invoke_relabelled (alike : b.Relabelled c₁ c₂ xs ys) {operation : String} {definition : Operation}
    (offered : c₁.catalog.get? operation = some definition) {named named' : NameMap Value}
    (related : NameMap.Related Value.Relabelled named named') :
    Beside b (invoke operation (.obj named) c₁) (invoke operation (.obj named') c₂) := by
  obtain ⟨coerced, coerced'⟩ := Value.Relabelled.coerceNamed related
  have missing : c₂.missingNode? named' = c₁.missingNode? named := by
    rw [Builder.missingNode?, Builder.missingNode?, Value.Relabelled.references related]
    simp only [alike.has]
  have checked := Builder.bindArguments_of_coerced offered coerced
  have checked' := Builder.bindArguments_of_coerced (alike.catalog ▸ offered) coerced'
  rw [missing] at checked'
  unfold invoke
  cases refers : c₁.missingNode? named with
  | some id =>
    rw [refers] at checked checked'
    rw [Builder.createNode_of_refused checked, Builder.createNode_of_refused checked']
    exact ⟨rfl, xs, ys, alike⟩
  | none =>
    rw [refers] at checked checked'
    let id := Builder.makeId operation (c₁.nextNumber operation)
    have nodes : Node.Relabelled ⟨id, .str operation, named, .null, false⟩
        ⟨id, .str operation, named', .null, false⟩ := ⟨rfl, rfl, related, rfl, rfl⟩
    rw [Builder.createNode_generated checked, Builder.createNode_generated checked',
      Builder.nextNumber_congr alike.keys alike.counters operation, alike.counters]
    exact ⟨_, _, alike.grown _ nodes operation, .node id⟩

theorem callNode_relabelled (alike : b.Relabelled c₁ c₂ xs ys) (function : Json) {values values' : List Value}
    (related : List.Forall₂ Value.Relabelled values values') :
    Beside b (callNode function values c₁) (callNode function values' c₂) := by
  have count : values'.length = values.length := related.length_eq.symm
  unfold callNode
  rw [alike.catalog, count]
  cases looked : c₁.catalog.find function with
  | error cause => exact ⟨rfl, xs, ys, alike⟩
  | ok found =>
    cases found with
    | none => exact ⟨rfl, xs, ys, alike⟩
    | some definition =>
      dsimp only
      obtain ⟨_, offered⟩ := Catalog.find_eq_some looked
      by_cases few : definition.arity < values.length
      · rw [if_pos few, if_pos few]
        exact ⟨rfl, xs, ys, alike⟩
      · rw [if_neg few, if_neg few, invoke_positional offered few,
          invoke_positional (alike.catalog ▸ offered) (count ▸ few)]
        exact invoke_relabelled alike offered (NameMap.Related.zip related _).ofList

theorem operatorNode_relabelled (alike : b.Relabelled c₁ c₂ xs ys) (operator : Json)
    {left left' right right' : Value} (lefts : Value.Relabelled left left')
    (rights : Value.Relabelled right right') :
    Beside b (operatorNode operator left right c₁) (operatorNode operator left' right' c₂) := by
  unfold operatorNode
  rw [alike.catalog]
  cases Operator.find operator with
  | error cause => exact ⟨rfl, xs, ys, alike⟩
  | ok found =>
    cases found with
    | none => exact ⟨rfl, xs, ys, alike⟩
    | some operation =>
      dsimp only
      cases offered : c₁.catalog.get? operation with
      | none => exact ⟨rfl, xs, ys, alike⟩
      | some definition =>
        dsimp only
        cases operandNames? definition with
        | none => exact ⟨rfl, xs, ys, alike⟩
        | some names =>
          have operands : NameMap.Related Value.Relabelled [(names.1, left), (names.2, right)]
              [(names.1, left'), (names.2, right')] := .cons ⟨rfl, lefts⟩ (.cons ⟨rfl, rights⟩ .nil)
          exact invoke_relabelled alike offered operands.ofList

theorem negate_relabelled (alike : b.Relabelled c₁ c₂ xs ys) {v w : Value} (related : v.Relabelled w) :
    Beside b (negate v c₁) (negate w c₂) := by
  cases folded : v.number? with
  | some n =>
    rw [negate_of_number folded, negate_of_number (related.number?.trans folded)]
    exact ⟨xs, ys, alike, .scalar _⟩
  | none =>
    rw [negate_of_not_number folded, negate_of_not_number (related.number?.trans folded)]
    exact operatorNode_relabelled alike _ (.scalar _) related

/-- Whether among identifiers the digits behind a dollar sign are few enough to be read as a position. -/
def ShortDigits (names : List String) : Prop :=
  ∀ label, "$" ++ label ∈ names → Label.AsciiDigits label.toList → label.length ≤ Number.maxDigits

theorem ShortDigits.append {names names' : List String} (short : ShortDigits (names ++ names')) :
    ShortDigits names ∧ ShortDigits names' :=
  ⟨fun label member => short label (List.mem_append_left _ member),
    fun label member => short label (List.mem_append_right _ member)⟩

theorem lowerAll_relabelled {args : List Expr}
    (each : ∀ arg ∈ args, ∀ {c₁ c₂ xs ys}, b.Relabelled c₁ c₂ xs ys → ShortDigits arg.identifiers →
      Beside b (lower ⟨outer, .index⟩ arg c₁) (lower ⟨outer, .label⟩ arg c₂))
    (alike : b.Relabelled c₁ c₂ xs ys) (short : ShortDigits (Expr.identifiersAll args)) :
    Parallel b.Relabelled (fun _ _ => List.Forall₂ Value.Relabelled) (lowerAll ⟨outer, .index⟩ args c₁)
      (lowerAll ⟨outer, .label⟩ args c₂) := by
  induction args generalizing c₁ c₂ xs ys with
  | nil => exact ⟨xs, ys, alike, .nil⟩
  | cons arg rest ih =>
    obtain ⟨here, there⟩ := ShortDigits.append short
    rw [lowerAll, lowerAll]
    refine (each arg List.mem_cons_self alike here).bind fun alike related => ?_
    refine (ih (fun other member => each other (List.mem_cons_of_mem arg member)) alike there).bind
      fun alike others => ?_
    exact ⟨_, _, alike, .cons related others⟩

theorem lower_relabelled {e : Expr} (alike : b.Relabelled c₁ c₂ xs ys) (short : ShortDigits e.identifiers) :
    Beside b (lower ⟨outer, .index⟩ e c₁) (lower ⟨outer, .label⟩ e c₂) := by
  induction e using Expr.induct generalizing c₁ c₂ xs ys with
  | number n => exact ⟨xs, ys, alike, .scalar _⟩
  | identifier name =>
    refine resolve_relabelled alike fun label named => short label ?_
    rw [named]
    exact List.mem_cons_self
  | group inner ih => exact ih alike short
  | call function args ih =>
    rw [lower, lower]
    exact (lowerAll_relabelled (fun arg member => ih arg member) alike short).bind fun alike related =>
      callNode_relabelled alike function related
  | binary operator left right ihl ihr =>
    obtain ⟨here, there⟩ := ShortDigits.append short
    rw [lower, lower]
    refine (ihl alike here).bind fun alike lefts => ?_
    exact (ihr alike there).bind fun alike rights => operatorNode_relabelled alike operator lefts rights
  | unary operator operand ih =>
    rw [lower, lower]
    refine (ih alike short).bind fun alike related => ?_
    cases isMinus operator with
    | true => exact negate_relabelled alike related
    | false => exact ⟨_, _, alike, related⟩

/-! ### Labels refused -/

mutual

/-- Whether lowering an expression comes to an identifier for which something holds, in the builder as it then
is. -/
def Meets (ctx : Context) (P : String → Builder → Prop) : Expr → Builder → Prop
  | .number _, _ => False
  | .identifier name, b => P name b
  | .group inner, b => Meets ctx P inner b
  | .call _ args, b => MeetsAmong ctx P args b
  | .binary _ left right, b => Meets ctx P left b ∨ ∃ v c, lower ctx left b = .ok v c ∧ Meets ctx P right c
  | .unary _ operand, b => Meets ctx P operand b

def MeetsAmong (ctx : Context) (P : String → Builder → Prop) : List Expr → Builder → Prop
  | [], _ => False
  | arg :: rest, b => Meets ctx P arg b ∨ ∃ v c, lower ctx arg b = .ok v c ∧ MeetsAmong ctx P rest c

end

/-- Whether an identifier selects an element by digits. Where no parameter is visible it is a name. -/
def SelectsByDigits (outer : List Scope) (name : String) (b : Builder) : Prop :=
  b.currentScope outer ≠ [] ∧ ∃ label, name = "$" ++ label ∧ Label.AsciiDigits label.toList

/-- A run that is refused for a label of digits if something holds, and else the same as another one. -/
def Refusing {α : Type} (P : Prop) (r r' : EStateM.Result Fault Builder α) : Prop :=
  (P → ∃ label c, r' = .error (.formula (.unsupportedLabel label .numeric)) c) ∧ (¬ P → r' = r)

namespace Refusing

variable {α β : Type} {P : Prop}

theorem same (r : EStateM.Result Fault Builder α) : Refusing False r r := ⟨False.elim, fun _ => rfl⟩

/-- An action that goes on behind another one is refused behind it only if that has not been refused. -/
theorem bind {x x' : Build α} {f f' : α → Build β} {later : Builder → Prop}
    (start : Refusing P (x b) (x' b)) (next : ∀ v c, Refusing (later c) (f v c) (f' v c)) :
    Refusing (P ∨ ∃ v c, x b = .ok v c ∧ later c) ((x >>= f) b) ((x' >>= f') b) := by
  by_cases here : P
  · obtain ⟨label, c, refused⟩ := start.1 here
    exact ⟨fun _ => ⟨label, c, bind_of_error _ refused⟩, fun none => absurd (Or.inl here) none⟩
  · have same : x' b = x b := start.2 here
    cases run : x b with
    | ok v c =>
      rw [bind_of_ok _ run, bind_of_ok _ (same.trans run)]
      refine ⟨fun meets => (next v c).1 ?_, fun none => (next v c).2 fun there => none (Or.inr ⟨v, c, rfl, there⟩)⟩
      rcases meets with now | ⟨_, _, ⟨⟩, there⟩
      · exact absurd now here
      · exact there
    | error fault c =>
      rw [bind_of_error _ run, bind_of_error _ (same.trans run)]
      refine ⟨fun meets => ?_, fun _ => rfl⟩
      rcases meets with now | ⟨_, _, ⟨⟩, _⟩
      exact absurd now here

theorem bind_right {x x' : Build α} (start : Refusing P (x b) (x' b)) (f : α → Build β) :
    Refusing P ((x >>= f) b) ((x' >>= f) b) := by
  have onward (v : α) (c : Builder) : Refusing False (f v c) (f v c) := same _
  simpa using start.bind onward

end Refusing

theorem resolve_refusing (outer : List Scope) (name : String) (b : Builder) :
    Refusing (SelectsByDigits outer name b) (resolve ⟨outer, .label⟩ name b) (resolve ⟨outer, .reject⟩ name b) := by
  constructor
  · rintro ⟨visible, label, rfl, ascii⟩
    obtain ⟨first, rest, current⟩ := List.exists_cons_of_ne_nil visible
    refine ⟨label, b, ?_⟩
    rw [resolve_element _ current, Label.selector_of_digits ascii]
  · intro other
    have parameter : resolveParameter ⟨outer, .reject⟩ name b = resolveParameter ⟨outer, .label⟩ name b := rfl
    unfold resolve
    cases form : identifierForm name with
    | keyword value | plain | node id => rfl
    | element label =>
      dsimp only
      cases current : b.currentScope outer with
      | nil => exact parameter
      | cons first rest =>
        dsimp only
        have nondigits : ¬ Label.AsciiDigits label.toList := fun ascii =>
          other ⟨by simp [current], label, identifierForm_eq_element.mp form, ascii⟩
        by_cases empty : label = ""
        · rw [Label.selector_of_empty empty, Label.selector_of_empty empty]
        · rw [Label.selector_of_other empty nondigits, Label.selector_of_other empty nondigits]

theorem lowerAll_refusing {P : String → Builder → Prop} {args : List Expr}
    (each : ∀ arg ∈ args, ∀ b, Refusing (Meets ⟨outer, .label⟩ P arg b) (lower ⟨outer, .label⟩ arg b)
      (lower ⟨outer, .reject⟩ arg b)) (b : Builder) :
    Refusing (MeetsAmong ⟨outer, .label⟩ P args b) (lowerAll ⟨outer, .label⟩ args b)
      (lowerAll ⟨outer, .reject⟩ args b) := by
  induction args generalizing b with
  | nil => exact .same _
  | cons arg rest ih =>
    rw [lowerAll, lowerAll, MeetsAmong]
    refine (each arg List.mem_cons_self b).bind fun v c => ?_
    exact (ih (fun other member => each other (List.mem_cons_of_mem arg member)) c).bind_right _

theorem lower_refusing (outer : List Scope) (e : Expr) (b : Builder) :
    Refusing (Meets ⟨outer, .label⟩ (SelectsByDigits outer) e b) (lower ⟨outer, .label⟩ e b)
      (lower ⟨outer, .reject⟩ e b) := by
  induction e using Expr.induct generalizing b with
  | number n => exact .same _
  | identifier name => exact resolve_refusing outer name b
  | group inner ih => exact ih b
  | call function args ih =>
    rw [lower, lower, Meets]
    exact (lowerAll_refusing ih b).bind_right _
  | binary operator left right ihl ihr =>
    rw [lower, lower, Meets]
    exact (ihl b).bind fun v c => (ihr c).bind_right _
  | unary operator operand ih =>
    rw [lower, lower, Meets]
    exact (ih b).bind_right _

/-- With labels an expression is lowered as with positions, or fails in the same way: the nodes and the value are
the same but for the positions, for which there are the digits that write them. Where labels of digits are
refused it is lowered as with labels, and fails if this comes to such a label. -/
theorem lower_by_labels (outer : List Scope) (b : Builder) {e : Expr} (short : ShortDigits e.identifiers) :
    Parallel b.Relabelled (fun _ _ => Value.Relabelled) (lower ⟨outer, .index⟩ e b) (lower ⟨outer, .label⟩ e b) ∧
    (Meets ⟨outer, .label⟩ (SelectsByDigits outer) e b →
      ∃ label c, lower ⟨outer, .reject⟩ e b = .error (.formula (.unsupportedLabel label .numeric)) c) ∧
    (¬ Meets ⟨outer, .label⟩ (SelectsByDigits outer) e b →
      lower ⟨outer, .reject⟩ e b = lower ⟨outer, .label⟩ e b) :=
  ⟨lower_relabelled (.refl b) short, lower_refusing outer e b⟩

def sumOfElements : Expr :=
  .binary (.str "+") (.unary (.str "-") (.identifier "$name")) (.identifier "$007")

/-- In a callback over data the sum has the same node with a position and with a label, and is refused for the
digits. -/
theorem sumOfElements_by_labels : ShortDigits sumOfElements.identifiers ∧
    ∃ b c₁ c₂ xs ys label c, b = .empty Session.sampleCatalog none ∧
      lower ⟨[[⟨"data", ""⟩]], .index⟩ sumOfElements b = .ok (.nodeRef "add1") c₁ ∧
      lower ⟨[[⟨"data", ""⟩]], .label⟩ sumOfElements b = .ok (.nodeRef "add1") c₂ ∧
      b.Relabelled c₁ c₂ xs ys ∧
      (c₂.node? "add1").map (NameMap.values ·.arguments) =
        some [.nodeRef "multiply1", .element "data" (.str "007")] ∧
      lower ⟨[[⟨"data", ""⟩]], .reject⟩ sumOfElements b =
        .error (.formula (.unsupportedLabel label .numeric)) c := by
  have short : ShortDigits sumOfElements.identifiers := by
    intro label member _
    have bounded : ∀ name ∈ sumOfElements.identifiers, name.length ≤ 5 := by decide
    have length := bounded _ member
    rw [String.length_append] at length
    have limit : 5 ≤ Number.maxDigits := by decide
    omega
  -- the builder has a name, so that the runs are not evaluated where they are only compared
  obtain ⟨b, start⟩ : ∃ b, b = Builder.empty Session.sampleCatalog none := ⟨_, rfl⟩
  obtain ⟨beside, refused, _⟩ := lower_by_labels [[⟨"data", ""⟩]] b short
  obtain ⟨c₂, labelled, arguments⟩ : ∃ c₂,
      lower ⟨[[⟨"data", ""⟩]], .label⟩ sumOfElements b = .ok (.nodeRef "add1") c₂ ∧
      (c₂.node? "add1").map (NameMap.values ·.arguments) =
        some [.nodeRef "multiply1", .element "data" (.str "007")] := by
    rw [start]
    exact ⟨_, rfl, rfl⟩
  obtain ⟨label, c, rejected⟩ := refused <| by
    rw [start]
    exact Or.inr ⟨_, _, rfl, List.cons_ne_nil _ _, "007", rfl, Label.isDigits_iff.mp (by decide)⟩
  rcases beside.cases with ⟨v, w, c₁, d, xs, ys, first, second, alike, related⟩ |
    ⟨_, _, _, _, _, _, second, _⟩
  · rw [second] at labelled
    cases labelled
    cases related
    exact ⟨short, b, c₁, c₂, xs, ys, label, c, start, first, second, alike, arguments, rejected⟩
  · rw [second] at labelled
    cases labelled

end Formula
end FormulaGraph
