import FormulaGraph.Formula.Compile
import FormulaGraph.Proofs.Builder.Creation
import FormulaGraph.Proofs.Expr.Tree
import FormulaGraph.Proofs.Formula.Label

/-!
# The steps of lowering

Lowering resolves identifiers and makes nodes for calls and operators. Each of these steps has a lemma here
with all that may come of it: `resolve_cases`, `callNode_cases`, `operatorNode_cases`, and `invoke_cases`
for the node that both of them make. A step that fails changes nothing.
-/

namespace FormulaGraph

open Build

def FormulaFault.isNonNode : FormulaFault → Bool
  | .nonNodeResult _ => true
  | _ => false

/-- A fault of building that lowering may fail with; only a whole formula has to be a node. -/
def Fault.IsLowering (fault : Fault) : Prop := ∃ cause, fault = .formula cause ∧ cause.isNonNode = false

theorem Fault.IsLowering.isFormula {fault : Fault} (lowering : fault.IsLowering) : fault.IsFormula := by
  obtain ⟨cause, same, _⟩ := lowering
  exact ⟨cause, same⟩

/-- What the look-up of a datum as a name may fail with. -/
def Json.Refuses (name : Json) (fault : Fault) : Prop :=
  fault.IsLowering ∨ ∃ kind, name.compoundKind? = some kind ∧ fault = .misuse (.compoundName kind)

theorem Json.name?_error {name : Json} {cause : Misuse} (failed : name.name? = .error cause) :
    ∃ kind, name.compoundKind? = some kind ∧ cause = .compoundName kind := by
  cases name with
  | scalar s => cases s <;> cases failed
  | arr items | obj members =>
    cases failed
    exact ⟨_, rfl, rfl⟩

namespace Formula

/-! ### Identifiers -/

def innermost (visible : List Scope) : Scope := visible.head?.getD []

/-- Whether an identifier is a name where a scope is the innermost one: it is no keyword and begins with no
number sign, and with a dollar sign only if the scope has no parameters. -/
def IsName (current : Scope) (name : String) : Prop :=
  name ∉ NameMap.keys keywords ∧ name.toList.head? ≠ some '#' ∧
    (name.toList.head? = some '$' → current = [])

instance (current : Scope) (name : String) : Decidable (IsName current name) :=
  inferInstanceAs (Decidable (_ ∧ _ ∧ _))

theorem isName_iff_form {current : Scope} {name : String} : IsName current name ↔
    match identifierForm name with
    | .keyword _ | .node _ => False
    | .element _ => current = []
    | .plain => True := by
  unfold IsName identifierForm
  cases found : NameMap.get? keywords name with
  | some value =>
    have keyword := NameMap.mem_keys (NameMap.mem_of_get? found)
    simp [keyword]
  | none =>
    have plain : name ∉ NameMap.keys keywords := NameMap.get?_eq_none_iff.mp found
    cases name.toList with
    | nil => simp [plain]
    | cons c rest =>
      by_cases sign : c = '#'
      · simp [sign]
      · by_cases dollar : c = '$'
        · simp [plain, dollar]
        · simp [plain, sign, dollar]

theorem resolve_of_isName (ctx : Context) {name : String} {b : Builder}
    (named : IsName (b.currentScope ctx.outer) name) : resolve ctx name b = resolveParameter ctx name b := by
  rw [isName_iff_form] at named
  unfold resolve
  cases form : identifierForm name with
  | keyword value | node id =>
    rw [form] at named
    cases named
  | element label =>
    rw [form] at named
    simp only at named
    rw [named]
  | plain => rfl

/-- What an expression is lowered to where some scopes are visible. An element is always one of the first
parameter of the innermost scope. -/
inductive Lowered (visible : List Scope) : Value → Prop
  | scalar (s : Scalar) : Lowered visible (.scalar s)
  | node (id : String) : Lowered visible (.nodeRef id)
  | parameter {name : String} (named : IsName (innermost visible) name) : Lowered visible (.paramRef name)
  | element {first : Parameter} {rest : Scope} (current : innermost visible = first :: rest)
      (selector : Scalar) : Lowered visible (.element first.name selector)

theorem Lowered.isArgument {visible : List Scope} {v : Value} (lowered : Lowered visible v) :
    v.isArgument = true := by
  cases lowered <;> rfl

/-- Whether an identifier is a position with so many digits that no integer is read from them. -/
def TooLong (labels : NumericLabels) (name : String) (digits : Nat) : Prop :=
  ∃ label, name = "$" ++ label ∧ labels = .index ∧ Label.isDigits label.toList = true ∧
    digits = label.length ∧ Number.maxDigits < digits

theorem eq_of_toList {name : String} {sign : Char} {rest : List Char} (text : name.toList = sign :: rest) :
    name = String.singleton sign ++ String.ofList rest := by
  rw [← String.toList_inj, text, String.toList_append, String.toList_ofList, String.toList_singleton,
    List.singleton_append]

/-- The four forms, with the names that are of them. -/
theorem form_cases (name : String) :
    (∃ value, identifierForm name = .keyword value) ∨
    (∃ id, identifierForm name = .node id ∧ name = "#" ++ id) ∨
    (∃ label, identifierForm name = .element label ∧ name = "$" ++ label) ∨ identifierForm name = .plain := by
  unfold identifierForm
  cases NameMap.get? keywords name with
  | some value => exact Or.inl ⟨value, rfl⟩
  | none =>
    dsimp only
    split
    · rename_i rest text
      exact Or.inr (Or.inl ⟨_, rfl, eq_of_toList text⟩)
    · rename_i rest text
      exact Or.inr (Or.inr (Or.inl ⟨_, rfl, eq_of_toList text⟩))
    · exact Or.inr (Or.inr (Or.inr rfl))

theorem get?_keywords_of_sign {name : String} {sign : Char} {rest : List Char} (text : name.toList = sign :: rest)
    (marks : sign = '#' ∨ sign = '$') : NameMap.get? keywords name = none := by
  rw [NameMap.get?_eq_none_iff]
  intro keyword
  have first : ∀ name ∈ NameMap.keys keywords, name.toList.head? ≠ some '#' ∧ name.toList.head? ≠ some '$' := by
    decide
  have plain := first name keyword
  rw [text, List.head?_cons] at plain
  rcases marks with rfl | rfl
  · exact plain.1 rfl
  · exact plain.2 rfl

theorem identifierForm_eq_node {name id : String} : identifierForm name = .node id ↔ name = "#" ++ id := by
  constructor
  · intro form
    rcases form_cases name with ⟨_, same⟩ | ⟨other, same, named⟩ | ⟨_, same, _⟩ | same
    all_goals rw [same] at form; cases form
    exact named
  · rintro rfl
    have sign : ("#" ++ id).toList = '#' :: id.toList := String.toList_append
    unfold identifierForm
    rw [get?_keywords_of_sign sign (Or.inl rfl)]
    dsimp only
    rw [sign]
    exact congrArg IdentifierForm.node String.ofList_toList

theorem identifierForm_eq_element {name label : String} :
    identifierForm name = .element label ↔ name = "$" ++ label := by
  constructor
  · intro form
    rcases form_cases name with ⟨_, same⟩ | ⟨_, same, _⟩ | ⟨other, same, named⟩ | same
    all_goals rw [same] at form; cases form
    exact named
  · rintro rfl
    have sign : ("$" ++ label).toList = '$' :: label.toList := String.toList_append
    unfold identifierForm
    rw [get?_keywords_of_sign sign (Or.inr rfl)]
    dsimp only
    rw [sign]
    exact congrArg IdentifierForm.element String.ofList_toList

/-- Why an identifier is refused: the node that it names is not there, or its label is none that an element
may have. -/
inductive IdentifierRefused (labels : NumericLabels) (b : Builder) : String → Fault → Prop
  | node {id : String} (absent : b.has id = false) :
      IdentifierRefused labels b ("#" ++ id) (.formula (.unknownNode id))
  | element {label : String} {fault : Fault} (refused : Label.selector labels label = .error fault) :
      IdentifierRefused labels b ("$" ++ label) fault

theorem IdentifierRefused.isLowering_or {labels : NumericLabels} {b : Builder} {name : String} {fault : Fault}
    (refused : IdentifierRefused labels b name fault) :
    fault.IsLowering ∨ ∃ digits, TooLong labels name digits ∧ fault = .misuse (.longInteger digits) := by
  cases refused with
  | node absent => exact Or.inl ⟨_, rfl, rfl⟩
  | @element label _ refused =>
    rcases Label.selector_error refused with ⟨reason, rfl⟩ | ⟨index, digits, long, same⟩
    · exact Or.inl ⟨_, rfl, rfl⟩
    · exact Or.inr ⟨label.length, ⟨label, rfl, index, digits, rfl, long⟩, same⟩

/-- A name is resolved as a parameter, and anything else without a change of the builder. -/
theorem resolve_cases (ctx : Context) (name : String) (b : Builder) :
    IsName (b.currentScope ctx.outer) name ∧ resolve ctx name b = resolveParameter ctx name b ∨
    ¬ IsName (b.currentScope ctx.outer) name ∧
      ((∃ v, resolve ctx name b = .ok v b ∧ Lowered (b.visible ctx.outer) v) ∨
        ∃ fault, resolve ctx name b = .error fault b ∧ IdentifierRefused ctx.labels b name fault) := by
  by_cases named : IsName (b.currentScope ctx.outer) name
  · exact Or.inl ⟨named, resolve_of_isName ctx named⟩
  · refine Or.inr ⟨named, ?_⟩
    rw [isName_iff_form] at named
    unfold resolve
    cases form : identifierForm name with
    | keyword value => exact Or.inl ⟨_, rfl, .scalar value⟩
    | node id =>
      obtain rfl := identifierForm_eq_node.mp form
      dsimp only
      cases present : b.has id with
      | true => exact Or.inl ⟨_, rfl, .node id⟩
      | false => exact Or.inr ⟨_, rfl, .node present⟩
    | plain =>
      rw [form] at named
      exact absurd trivial named
    | element label =>
      rw [form] at named
      obtain rfl := identifierForm_eq_element.mp form
      dsimp only
      cases scope : b.currentScope ctx.outer with
      | nil => exact absurd scope named
      | cons first rest =>
        dsimp only
        cases chosen : Label.selector ctx.labels label with
        | ok selector => exact Or.inl ⟨_, rfl, .element scope selector⟩
        | error fault => exact Or.inr ⟨fault, rfl, .element chosen⟩

/-! ### Calls and operators -/

variable {named : NameMap Value}

/-- Why arguments by name that need no coercion make no node. -/
inductive InvokeRefused (operation : String) : Fault → Prop
  | operation : InvokeRefused operation (.formula (.invalidOperation (.str operation)))
  | reference (id : String) : InvokeRefused operation (.formula (.unknownNode id))

theorem InvokeRefused.isLowering {operation : String} {fault : Fault} (refused : InvokeRefused operation fault) :
    fault.IsLowering := by
  cases refused <;> exact ⟨_, rfl, rfl⟩

theorem invokeRefused_bindArguments (each : ∀ entry ∈ named, entry.2.isArgument = true) (operation : String)
    (b : Builder) : FaultsAre (InvokeRefused operation) (b.bindArguments (.str operation) (.obj named)) := by
  cases offered : b.catalog.get? operation with
  | none =>
    unfold Builder.bindArguments
    rw [Catalog.find_text, offered]
    exact .error .operation
  | some definition =>
    -- named arguments are not counted and need no coercion, so only their references are checked
    rw [Builder.bindArguments_of_named offered rfl rfl, coerceNamed_of_isArgument each]
    simp only [Builder.check, bind, Except.bind]
    cases b.missingNode? named with
    | none => exact .ok _
    | some id => exact .error (.reference id)

/-- Arguments by name make one node, which has them as they are, or are refused with a fault of building. -/
theorem invoke_cases (each : ∀ entry ∈ named, entry.2.isArgument = true) (operation : String) (b : Builder) :
    (∃ fault, invoke operation (.obj named) b = .error fault b ∧ InvokeRefused operation fault) ∨
    ∃ id counters, invoke operation (.obj named) b =
      .ok (.nodeRef id) (b.grown counters ⟨id, .str operation, named, .null, false⟩ operation) := by
  rcases Builder.createNode_cases (.str operation) (.obj named) none .null b with
    ⟨fault, failed⟩ | ⟨name, bound, id, counters, checked, _, created⟩
  · refine Or.inl ⟨fault, by rw [invoke, failed], ?_⟩
    unfold Builder.createNode at failed
    cases checked : b.bindArguments (.str operation) (.obj named) with
    | ok result =>
      rw [checked] at failed
      cases failed
    | error other =>
      rw [checked] at failed
      cases failed
      exact invokeRefused_bindArguments each operation b fault checked
  · obtain ⟨_, _, _, _, text, given, naming, coerced, _⟩ := Builder.bindArguments_ok checked
    cases given
    cases naming
    cases text
    rw [coerceNamed_of_isArgument each] at coerced
    cases coerced
    refine Or.inr ⟨id, counters, ?_⟩
    rw [invoke, created]
    rfl

/-- Arguments by position are the same as by the names that they are bound to. -/
theorem invoke_positional {b : Builder} {definition : Operation} {arguments : List Value}
    (offered : b.catalog.get? definition.name = some definition)
    (few : ¬ definition.arity < arguments.length) :
    invoke definition.name (.list arguments) b =
      invoke definition.name (.obj (definition.bind arguments)) b := by
  have naming : Builder.nameArguments definition (.positional arguments) =
      .ok (definition.bind arguments) := by
    unfold Builder.nameArguments
    dsimp only
    rw [if_neg few]
  unfold invoke Builder.createNode
  rw [Builder.bindArguments_eq_named offered rfl naming]

/-- Why a call is refused before it makes a node. -/
inductive CallRefused (catalog : Catalog) (function : Json) (count : Nat) : Fault → Prop
  | compound {cause : Misuse} (parts : function.name? = .error cause) :
      CallRefused catalog function count (.misuse cause)
  | unknown (absent : catalog.find function = .ok none) :
      CallRefused catalog function count (.formula (.unknownFunction function))
  | arity {definition : Operation} (offered : catalog.find function = .ok (some definition))
      (many : definition.arity < count) :
      CallRefused catalog function count (.formula (.arityViolation definition.name count definition.arity))

theorem CallRefused.refuses {catalog : Catalog} {function : Json} {count : Nat} {fault : Fault}
    (refused : CallRefused catalog function count fault) : function.Refuses fault := by
  cases refused with
  | compound parts =>
    obtain ⟨kind, compound, rfl⟩ := Json.name?_error parts
    exact Or.inr ⟨kind, compound, rfl⟩
  | unknown absent => exact Or.inl ⟨_, rfl, rfl⟩
  | arity offered many => exact Or.inl ⟨_, rfl, rfl⟩

theorem CallRefused.callNode_eq {function : Json} {values : List Value} {b : Builder} {fault : Fault}
    (refused : CallRefused b.catalog function values.length fault) :
    callNode function values b = .error fault b := by
  unfold callNode
  cases refused with
  | compound parts => rw [Catalog.find, parts]; rfl
  | unknown absent => rw [absent]
  | arity offered many => rw [offered]; exact if_pos many

/-- A call is refused, or it invokes an operation of the catalog with no more arguments than this has
parameters. -/
theorem callNode_cases (function : Json) (values : List Value) (b : Builder) :
    (∃ fault, callNode function values b = .error fault b ∧
      CallRefused b.catalog function values.length fault) ∨
    ∃ definition, function = .str definition.name ∧ b.catalog.get? definition.name = some definition ∧
      ¬ definition.arity < values.length ∧
      callNode function values b = invoke definition.name (.list values) b := by
  have refuses {fault : Fault} (refused : CallRefused b.catalog function values.length fault) :
      ∃ fault, callNode function values b = .error fault b ∧
        CallRefused b.catalog function values.length fault :=
    ⟨fault, refused.callNode_eq, refused⟩
  cases looked : b.catalog.find function with
  | error cause => exact Or.inl (refuses (.compound (map_eq_error.mp looked)))
  | ok found =>
    cases found with
    | none => exact Or.inl (refuses (.unknown looked))
    | some definition =>
      by_cases many : definition.arity < values.length
      · exact Or.inl (refuses (.arity looked many))
      · obtain ⟨rfl, offered⟩ := Catalog.find_eq_some looked
        refine Or.inr ⟨definition, rfl, offered, many, ?_⟩
        unfold callNode
        rw [looked]
        exact if_neg many

theorem operator_of_find {operator : Json} {operation : String}
    (found : Operator.find operator = .ok (some operation)) :
    ∃ symbol, operator = .str symbol ∧ Operator.operation? symbol = some operation := by
  match operator with
  | .scalar (.str s) => exact ⟨s, rfl, Except.ok.inj found⟩
  | .scalar .null | .scalar (.bool _) | .scalar (.number _) => cases Except.ok.inj found
  | .arr _ | .obj _ => cases found

/-- The name that a formal parameter has for an operand: its own, or else the one that stands for its place. -/
def operandName (p : OperationParameter) (place : String) : String := if p.name = "" then place else p.name

theorem operandNames?_eq_some {definition : Operation} {first second : String} :
    operandNames? definition = some (first, second) ↔ ∃ p q others,
      definition.parameters = p :: q :: others ∧ operandName p "x" = first ∧ operandName q "y" = second := by
  unfold operandNames?
  cases definition.parameters with
  | nil => simp
  | cons p rest => cases rest <;> simp [operandName, Operator.operandNames]

theorem operandNames?_eq_none {definition : Operation} :
    operandNames? definition = none ↔ definition.arity < 2 := by
  unfold operandNames? Operation.arity
  cases definition.parameters with
  | nil => simp
  | cons p rest => cases rest <;> simp

/-- Why an operator is refused before it makes a node. -/
inductive OperatorRefused (catalog : Catalog) (operator : Json) : Fault → Prop
  | compound {cause : Misuse} (parts : operator.name? = .error cause) :
      OperatorRefused catalog operator (.misuse cause)
  | unknown (means : Operator.find operator = .ok none) :
      OperatorRefused catalog operator (.formula (.unsupportedOperator operator none))
  | missing {operation : String} (means : Operator.find operator = .ok (some operation))
      (absent : catalog.get? operation = none) :
      OperatorRefused catalog operator (.formula (.unsupportedOperator operator (some operation)))
  | arity {operation : String} {definition : Operation} (means : Operator.find operator = .ok (some operation))
      (offered : catalog.get? operation = some definition) (few : definition.arity < 2) :
      OperatorRefused catalog operator (.formula (.arityViolation operation 2 definition.arity))

theorem OperatorRefused.refuses {catalog : Catalog} {operator : Json} {fault : Fault}
    (refused : OperatorRefused catalog operator fault) : operator.Refuses fault := by
  cases refused with
  | compound parts =>
    obtain ⟨kind, compound, rfl⟩ := Json.name?_error parts
    exact Or.inr ⟨kind, compound, rfl⟩
  | unknown means => exact Or.inl ⟨_, rfl, rfl⟩
  | missing means absent => exact Or.inl ⟨_, rfl, rfl⟩
  | arity means offered few => exact Or.inl ⟨_, rfl, rfl⟩

theorem OperatorRefused.operatorNode_eq {operator : Json} {b : Builder} {fault : Fault}
    (refused : OperatorRefused b.catalog operator fault) (left right : Value) :
    operatorNode operator left right b = .error fault b := by
  unfold operatorNode
  cases refused with
  | compound parts => rw [Operator.find, parts]; rfl
  | unknown means => rw [means]
  | missing means absent => simp only [means, absent]
  | arity means offered few => simp only [means, offered, operandNames?_eq_none.mpr few]

/-- An operator is refused, or it invokes the operation that it means, with two parameters of this for the
operands. -/
theorem operatorNode_cases (operator : Json) (left right : Value) (b : Builder) :
    (∃ fault, operatorNode operator left right b = .error fault b ∧
      OperatorRefused b.catalog operator fault) ∨
    ∃ symbol operation definition first second, operator = .str symbol ∧
      Operator.operation? symbol = some operation ∧ b.catalog.get? operation = some definition ∧
      operandNames? definition = some (first, second) ∧
      operatorNode operator left right b =
        invoke operation (.obj (NameMap.ofList [(first, left), (second, right)])) b := by
  have refuses {fault : Fault} (refused : OperatorRefused b.catalog operator fault) :
      ∃ fault, operatorNode operator left right b = .error fault b ∧
        OperatorRefused b.catalog operator fault :=
    ⟨fault, refused.operatorNode_eq left right, refused⟩
  cases looked : Operator.find operator with
  | error cause => exact Or.inl (refuses (.compound (map_eq_error.mp looked)))
  | ok found =>
    cases found with
    | none => exact Or.inl (refuses (.unknown looked))
    | some operation =>
      cases offered : b.catalog.get? operation with
      | none => exact Or.inl (refuses (.missing looked offered))
      | some definition =>
        cases operands : operandNames? definition with
        | none => exact Or.inl (refuses (.arity looked offered (operandNames?_eq_none.mp operands)))
        | some names =>
          obtain ⟨symbol, rfl, means⟩ := operator_of_find looked
          refine Or.inr ⟨symbol, operation, definition, names.1, names.2, rfl, means, offered, operands, ?_⟩
          simp only [operatorNode, looked, offered, operands]

theorem mem_of_mem_bind {definition : Operation} {values : List Value} {entry : String × Value}
    (member : entry ∈ definition.bind values) : entry.2 ∈ values :=
  (List.of_mem_zip (NameMap.mem_of_mem_ofList member)).2

theorem eq_or_eq_of_mem_operands {first second : String} {left right : Value} {entry : String × Value}
    (member : entry ∈ NameMap.ofList [(first, left), (second, right)]) :
    entry.2 = left ∨ entry.2 = right := by
  rcases List.mem_pair.mp (NameMap.mem_of_mem_ofList member) with rfl | rfl
  · exact Or.inl rfl
  · exact Or.inr rfl

end Formula
end FormulaGraph
