import FormulaGraph.Proofs.Formula.FreeNames
import FormulaGraph.Proofs.Formula.Wording

/-!
# The faults of compiling a formula

Reading a tree fails with faults of building alone, and so does telling it, unless there is an integer in it
that has no text. Lowering has two faults more: a datum with parts that is looked up as the name of a function or
an operator, and a position of too many digits. `Expr.Escapes` has both, and there is no other; as only faults of
building are reported, they escape from `Formula.tryCompile`.
-/

namespace FormulaGraph

open Build

namespace Expr

mutual

/-- The data by which the functions and operators of an expression are looked up. -/
def names : Expr → List Json
  | .number _ | .identifier _ => []
  | .group inner => names inner
  | .call function args => function :: namesAll args
  | .binary operator left right => operator :: (names left ++ names right)
  | .unary _ operand => names operand

def namesAll : List Expr → List Json
  | [] => []
  | arg :: rest => names arg ++ namesAll rest

end

/-- The misuse in an expression that no fault of building stands for. -/
inductive Escapes (e : Expr) (labels : NumericLabels) : Fault → Prop
  /-- A function or an operator is looked up by a datum with parts. -/
  | name {name : Json} {kind : String} (inside : name ∈ e.names)
      (compound : name.compoundKind? = some kind) : Escapes e labels (.misuse (.compoundName kind))
  /-- A position has more digits than an integer may have. -/
  | position {name : String} {digits : Nat} (inside : name ∈ e.identifiers)
      (long : Formula.TooLong labels name digits) : Escapes e labels (.misuse (.longInteger digits))

theorem Escapes.of_part {part e : Expr} {labels : NumericLabels} {fault : Fault}
    (names : ∀ name ∈ part.names, name ∈ e.names)
    (identifiers : ∀ name ∈ part.identifiers, name ∈ e.identifiers) (escapes : part.Escapes labels fault) :
    e.Escapes labels fault := by
  cases escapes with
  | name inside compound => exact .name (names _ inside) compound
  | position inside long => exact .position (identifiers _ inside) long

theorem mem_namesAll {args : List Expr} {arg : Expr} (member : arg ∈ args) :
    (∀ name ∈ arg.names, name ∈ namesAll args) ∧
      ∀ name ∈ arg.identifiers, name ∈ identifiersAll args := by
  induction args with
  | nil => cases member
  | cons first rest ih =>
    rw [namesAll, identifiersAll]
    rcases List.mem_cons.mp member with rfl | later
    · exact ⟨fun _ => List.mem_append_left _, fun _ => List.mem_append_left _⟩
    · obtain ⟨names, identifiers⟩ := ih later
      exact ⟨fun name inside => List.mem_append_right _ (names name inside),
        fun name inside => List.mem_append_right _ (identifiers name inside)⟩

def Refuses (e : Expr) (labels : NumericLabels) (fault : Fault) : Prop :=
  fault.IsLowering ∨ e.Escapes labels fault

end Expr

namespace Formula

variable {α β : Type} {P P' : Fault → Prop} {x : Build α} {f : α → Build β} {ctx : Context} {b : Builder}

/-- An action fails with no faults but those that satisfy a predicate. -/
def FailsWith (P : Fault → Prop) (action : Build α) (b : Builder) : Prop :=
  ∀ fault c, action b = .error fault c → P fault

theorem FailsWith.of_ok {a : α} {c : Builder} (ran : x b = .ok a c) : FailsWith P x b := by
  intro fault d failed
  rw [ran] at failed
  cases failed

theorem FailsWith.of_error {fault : Fault} {c : Builder} (ran : x b = .error fault c) (holds : P fault) :
    FailsWith P x b := by
  intro other d failed
  rw [ran] at failed
  cases failed
  exact holds

theorem FailsWith.of_eq {y : Build α} (same : x b = y b) (fails : FailsWith P y b) : FailsWith P x b := by
  intro fault c failed
  exact fails fault c (same.symm.trans failed)

theorem FailsWith.bind (first : FailsWith P x b)
    (next : ∀ a c, x b = .ok a c → FailsWith P (f a) c) : FailsWith P (x >>= f) b := by
  intro fault d failed
  cases ran : x b with
  | ok a c =>
    rw [bind_of_ok f ran] at failed
    exact next a c ran fault d failed
  | error other c =>
    rw [bind_of_error f ran] at failed
    cases failed
    exact first fault d ran

theorem FailsWith.imp (fails : FailsWith P x b) (imp : ∀ fault, P fault → P' fault) : FailsWith P' x b :=
  fun fault c failed => imp fault (fails fault c failed)

/-! ### Steps -/

theorem failsWith_resolve (name : String) :
    FailsWith ((Expr.identifier name).Refuses ctx.labels) (resolve ctx name) b := by
  intro fault c failed
  obtain ⟨refused, _⟩ := resolve_error failed
  refine refused.isLowering_or.imp_right ?_
  rintro ⟨digits, long, rfl⟩
  exact .position List.mem_cons_self long

theorem failsWith_invoke {named : NameMap Value} (each : ∀ entry ∈ named, entry.2.isArgument = true)
    (operation : String) : FailsWith Fault.IsLowering (invoke operation (.obj named)) b := by
  rcases invoke_cases each operation b with ⟨fault, failed, refused⟩ | ⟨id, counters, invoked⟩
  · exact .of_error failed refused.isLowering
  · exact .of_ok invoked

theorem failsWith_callNode {values : List Value} (each : ∀ v ∈ values, v.isArgument = true)
    (function : Json) : FailsWith function.Refuses (callNode function values) b := by
  rcases callNode_cases function values b with
    ⟨fault, failed, refused⟩ | ⟨definition, _, offered, few, invokes⟩
  · exact .of_error failed refused.refuses
  · rw [invoke_positional offered few] at invokes
    refine .of_eq invokes ((failsWith_invoke (fun entry member => ?_) definition.name).imp fun _ => Or.inl)
    exact each entry.2 (mem_of_mem_bind member)

theorem failsWith_operatorNode {left right : Value} (first : left.isArgument = true)
    (second : right.isArgument = true) (operator : Json) :
    FailsWith operator.Refuses (operatorNode operator left right) b := by
  rcases operatorNode_cases operator left right b with
    ⟨fault, failed, refused⟩ | ⟨_, operation, _, _, _, _, _, _, _, invokes⟩
  · exact .of_error failed refused.refuses
  · refine .of_eq invokes ((failsWith_invoke (fun entry member => ?_) operation).imp fun _ => Or.inl)
    rcases eq_or_eq_of_mem_operands member with same | same
    · exact same ▸ first
    · exact same ▸ second

theorem failsWith_negate {v : Value} (argument : v.isArgument = true) :
    FailsWith Fault.IsLowering (negate v) b := by
  cases folded : v.number? with
  | some n =>
    rw [negate_of_number folded]
    exact .of_ok rfl
  | none =>
    rw [negate_of_not_number folded]
    refine (failsWith_operatorNode rfl argument _).imp fun fault refused => ?_
    rcases refused with formula | ⟨kind, compound, _⟩
    · exact formula
    · cases compound

/-! ### Expressions -/

theorem isArgument_of_lower {e : Expr} {v : Value} {c : Builder} (lowered : lower ctx e b = .ok v c) :
    v.isArgument = true := by
  have traced := traces_lower ctx e (b := b) rfl
  rw [lowered] at traced
  exact traced.1.isArgument

theorem isArgument_of_lowerAll {args : List Expr} {values : List Value} {c : Builder}
    (lowered : lowerAll ctx args b = .ok values c) : ∀ v ∈ values, v.isArgument = true := by
  have traced : Traces (b.visible ctx.outer) (fun values => ∀ v ∈ values, Lowered _ v)
      (Expr.identifiersAll args) b (lowerAll ctx args b) :=
    traces_lowerAll ctx (fun arg _ _ seen => traces_lower ctx arg seen) rfl
  rw [lowered] at traced
  exact fun v member => (traced.1 v member).isArgument

theorem refuses_of_part {part e : Expr} {labels : NumericLabels}
    (names : ∀ name ∈ part.names, name ∈ e.names)
    (identifiers : ∀ name ∈ part.identifiers, name ∈ e.identifiers) (fault : Fault)
    (refused : part.Refuses labels fault) : e.Refuses labels fault :=
  refused.imp_right (Expr.Escapes.of_part names identifiers)

theorem refuses_of_name {name : Json} {e : Expr} (inside : name ∈ e.names) (labels : NumericLabels)
    (fault : Fault) (refused : name.Refuses fault) : e.Refuses labels fault := by
  rcases refused with formula | ⟨kind, compound, rfl⟩
  · exact Or.inl formula
  · exact Or.inr (.name inside compound)

theorem failsWith_lowerAll {args : List Expr}
    (each : ∀ arg ∈ args, ∀ b, FailsWith P (lower ctx arg) b) : FailsWith P (lowerAll ctx args) b := by
  induction args generalizing b with
  | nil => exact .of_ok rfl
  | cons arg rest ih =>
    have later (c) := ih (b := c) fun other member => each other (List.mem_cons_of_mem arg member)
    rw [lowerAll]
    exact (each arg List.mem_cons_self b).bind fun v c _ => (later c).bind fun values d _ => .of_ok rfl

/-- Lowering an expression fails with a fault of building, or with one of the two faults that escape. -/
theorem failsWith_lower (e : Expr) : FailsWith (e.Refuses ctx.labels) (lower ctx e) b := by
  induction e using Expr.induct generalizing b with
  | number n => exact .of_ok rfl
  | identifier name => exact failsWith_resolve name
  | group inner ih => exact ih.imp (refuses_of_part (fun _ => id) fun _ => id)
  | call function args ih =>
    rw [lower]
    refine (failsWith_lowerAll fun arg member b => ?_).bind fun values c lowered => ?_
    · obtain ⟨names, identifiers⟩ := Expr.mem_namesAll member
      have names' := fun name inside => List.mem_cons_of_mem function (names name inside)
      exact (ih arg member).imp (refuses_of_part names' identifiers)
    · exact (failsWith_callNode (isArgument_of_lowerAll lowered) function).imp
        (refuses_of_name List.mem_cons_self _)
  | binary operator left right ihl ihr =>
    rw [lower]
    refine FailsWith.bind (ihl.imp (refuses_of_part ?_ ?_)) fun v c first =>
      FailsWith.bind (ihr.imp (refuses_of_part ?_ ?_)) fun w d second => ?_
    · exact fun _ inside => List.mem_cons_of_mem _ (List.mem_append_left _ inside)
    · exact fun _ inside => List.mem_append_left _ inside
    · exact fun _ inside => List.mem_cons_of_mem _ (List.mem_append_right _ inside)
    · exact fun _ inside => List.mem_append_right _ inside
    · exact (failsWith_operatorNode (isArgument_of_lower first) (isArgument_of_lower second) operator).imp
        (refuses_of_name List.mem_cons_self _)
  | unary operator operand ih =>
    rw [lower]
    refine FailsWith.bind (ih.imp (refuses_of_part (fun _ => id) fun _ => id)) fun v c lowered => ?_
    cases isMinus operator with
    | true => exact (failsWith_negate (isArgument_of_lower lowered)).imp fun _ => Or.inl
    | false => exact .of_ok rfl

/-! ### Compiling -/

theorem failsWith_getNode (id : String) :
    FailsWith (fun fault => fault = .formula (.unknownNode id)) (Builder.getNode (.str id)) b := by
  cases found : b.node? id with
  | none => exact .of_error (by rw [Builder.getNode_text, found]) rfl
  | some n => exact .of_ok (by rw [Builder.getNode_text, found])

theorem failsWith_markResult (n : Node) :
    FailsWith (fun fault => fault = .formula (.unknownNode n.id)) (Builder.markResult (.node n)) b := by
  intro fault c failed
  unfold Builder.markResult at failed
  cases got : Builder.getNode (Builder.nodeName (.node n)) b with
  | ok m d =>
    rw [got] at failed
    cases failed
  | error other d =>
    rw [got] at failed
    cases failed
    exact failsWith_getNode n.id fault c got

theorem failsWith_finish_nodeRef (id : String) (mark : Bool) :
    FailsWith (fun fault => ∃ id, fault = .formula (.unknownNode id)) (finish (.nodeRef id) mark) b := by
  have got (c : Builder) : FailsWith (fun fault => ∃ id, fault = .formula (.unknownNode id))
      (Builder.getNode (.str id)) c :=
    (failsWith_getNode id).imp fun _ same => ⟨id, same⟩
  refine (got b).bind fun n c _ => ?_
  split
  · exact ((failsWith_markResult n).imp fun _ same => ⟨n.id, same⟩).bind fun _ d _ =>
      (got d).bind fun m e _ => .of_ok rfl
  · exact .of_ok rfl

theorem failsWith_finish (v : Value) (mark : Bool) : FailsWith Fault.IsFormula (finish v mark) b := by
  rcases nodeRef_or_not v with ⟨id, rfl⟩ | other
  · exact (failsWith_finish_nodeRef id mark).imp fun _ ⟨_, same⟩ => ⟨_, same⟩
  · rw [finish_of_other other]
    split
    · exact .of_error rfl ⟨_, rfl⟩
    · exact .of_ok rfl

theorem failsWith_compileExpr (ctx : Context) (e : Expr) (mark : Bool) :
    FailsWith (fun fault => fault.IsFormula ∨ e.Escapes ctx.labels fault) (compileExpr ctx e mark) b :=
  ((failsWith_lower e).imp fun _ refused => refused.imp_left (·.isFormula)).bind fun v _ _ =>
    (failsWith_finish v mark).imp fun _ => Or.inl

theorem failsWith_compile (h : b.WellFormed) {source : Source} {e : Expr}
    (accepted : source.accept = .ok (.expr e)) (outer : List Scope) (options : Options) :
    FailsWith (fun fault => fault.IsFormula ∨ e.Escapes options.labels fault) (compile outer source options)
      b := by
  intro fault d failed
  obtain ⟨start, _, _, _, _, fails⟩ := run_of_compile h accepted outer options
  obtain ⟨c, ran, _⟩ := fails fault d failed
  exact failsWith_compileExpr _ e options.mark fault c ran

inductive Escapes (tree : Json) (labels : NumericLabels) : Fault → Prop
  /-- An integer in the tree cannot be told. -/
  | huge (wordless : tree.hasText = false) : Escapes tree labels (.misuse .hugeInteger)
  | expression {e : Expr} {fault : Fault} (read : Expr.ofTree tree = .ok e) (escapes : e.Escapes labels fault) :
      Escapes tree labels fault

theorem Escapes.not_isFormula {tree : Json} {labels : NumericLabels} {fault : Fault}
    (escapes : Escapes tree labels fault) : ¬ fault.IsFormula := by
  rintro ⟨cause, rfl⟩
  cases escapes with
  | expression read escapes => cases escapes

section Trees

variable {members : List (String × Json)} {outer : List Scope} {options : Options}

theorem parse_of_ofTree {e : Expr} (read : Expr.ofTree (.obj members) = .ok e) :
    (Source.datum (.obj members)).parse = .ok (.expr e) := by
  rw [Source.parse, read, Except.map]

theorem accept_of_refused {fault : Fault} (refused : Expr.ofTree (.obj members) = .error fault) :
    (Source.datum (.obj members)).accept = .error fault := by
  rw [Source.accept, Source.parse, refused]
  rfl

theorem hasText_of_refused {tree : Json} {fault : Fault} (refused : tree.Refused fault) : fault.hasText = true := by
  rcases refused with ⟨cause, rfl, ⟨tag, _, rfl⟩ | ⟨datum, reason, told, rfl⟩⟩ | ⟨rfl, _⟩
  · rfl
  · exact told
  · rfl

theorem tells_compile_tree (h : b.WellFormed) (outer : List Scope) (members : List (String × Json))
    (options : Options) : Tells (fun _ => True) b (compile outer (.datum (.obj members)) options b) := by
  cases read : Expr.ofTree (.obj members) with
  | error fault =>
    rw [compile_of_accept_error (accept_of_refused read)]
    exact tells_error (hasText_of_refused ((Expr.blames _).refused fault read))
  | ok e => exact tells_compile h (parse_of_ofTree read) outer options

/-- A source that is not read as anything is no tree, or it cannot be told. -/
theorem accept_error {source : Source} {fault : Fault} (refused : source.accept = .error fault) :
    fault.IsFormula ∨ fault = .misuse .hugeInteger := by
  cases read : source.parse with
  | ok parsed =>
    rcases accept_cases read with ⟨_, accepted⟩ | ⟨_, untold⟩
    · rw [accepted] at refused
      cases refused
    · rw [untold] at refused
      exact Or.inr (Except.error.inj refused).symm
  | error other =>
    rw [Source.accept, read] at refused
    cases refused
    cases source with
    | expr | foreign => cases read
    | datum data =>
      cases data with
      | scalar | arr => cases read
      | obj members =>
        rcases (Expr.blames _).refused _ (map_eq_error.mp read) with ⟨cause, same, _⟩ | ⟨same, _⟩
        · exact Or.inl ⟨cause, same⟩
        · exact Or.inr same

/-- A tree that does not compile is refused with a fault of building, or a fault escapes. -/
theorem formula_or_escapes (h : b.WellFormed) {fault : Fault} {c : Builder}
    (failed : compile outer (.datum (.obj members)) options b = .error fault c) :
    fault.IsFormula ∨ Escapes (.obj members) options.labels fault := by
  cases read : Expr.ofTree (.obj members) with
  | error other =>
    rw [compile_of_accept_error (accept_of_refused read)] at failed
    cases failed
    rcases (Expr.blames _).refused _ read with ⟨cause, rfl, _⟩ | ⟨rfl, wordless⟩
    · exact Or.inl ⟨cause, rfl⟩
    · exact Or.inr (.huge wordless)
  | ok e =>
    rcases accept_cases (parse_of_ofTree read) with ⟨_, accepted⟩ | ⟨untold, refused⟩
    · exact (failsWith_compile h accepted outer options fault c failed).imp_right (.expression read)
    · rw [compile_of_accept_error refused] at failed
      cases failed
      refine Or.inr (.huge (Bool.eq_false_iff.mpr fun told => ?_))
      rw [Source.hasText, Expr.hasText_of_ofTree told read] at untold
      cases untold

end Trees

/-- A formula that is handed in as an object compiles to the same value where failures are reported, and a
fault of building is reported as it is. Any other fault escapes as it is, and comes from a tree with an integer
that is too long to be told, or from an expression with a function or an operator that is no name, or with a
position of too many digits; an expression with such an integer always ends the compilation. All else that is
told, of events and of faults, has a text. -/
theorem tryCompile_reports {b : Builder} (reachable : b.Reachable) (outer : List Scope)
    (members : List (String × Json)) (options : Options) :
    (∀ e, Expr.ofTree (.obj members) = .ok e → e.hasText = false →
      tryCompile outer (.datum (.obj members)) options b = .error (.misuse .hugeInteger) b) ∧
    match compile outer (.datum (.obj members)) options b with
    | .ok v c => tryCompile outer (.datum (.obj members)) options b = .ok (.value v) c ∧ b.Tells c
    | .error fault c =>
      ((∃ cause, fault = .formula cause ∧ cause.hasText = true ∧
        tryCompile outer (.datum (.obj members)) options b =
          .ok (.failure cause) (c.record (.failed cause.message))) ∨
      (tryCompile outer (.datum (.obj members)) options b = .error fault c ∧
        Escapes (.obj members) options.labels fault)) ∧ b.Tells c := by
  refine ⟨fun e read untold => ?_, ?_⟩
  · rcases accept_cases (parse_of_ofTree read) with ⟨told, _⟩ | ⟨_, refused⟩
    · rw [Source.hasText, untold] at told
      cases told
    · rw [tryCompile, compile_of_accept_error refused]
  · have tells := tells_compile_tree reachable.wellFormed outer members options
    cases ran : compile outer (.datum (.obj members)) options b with
    | ok v c =>
      rw [ran] at tells
      exact ⟨by rw [tryCompile, ran], tells.2⟩
    | error fault c =>
      rw [ran] at tells
      refine ⟨?_, tells.2⟩
      rcases formula_or_escapes reachable.wellFormed ran with ⟨cause, rfl⟩ | escapes
      · exact Or.inl ⟨cause, rfl, tells.1, by rw [tryCompile, ran]⟩
      · refine Or.inr ⟨?_, escapes⟩
        rw [tryCompile, ran]
        cases fault with
        | formula cause => exact absurd ⟨cause, rfl⟩ escapes.not_isFormula
        | misuse | unreadable | entry | config | file | markup | handler => rfl

def callTree (function : Json) : List (String × Json) :=
  [("FunctionCall", .obj [("name", function), ("args", .arr [])])]

/-- What a compilation reports: the message of a failure, or that there is none. -/
def reported? : EStateM.Result Fault Builder Outcome → Option (Option String)
  | .ok (.value _) _ => some none
  | .ok (.failure cause) _ => some (some cause.message)
  | .error _ _ => none

theorem sample_tryCompile_reports : ∃ b c cause, Session.sample.builder? 0 = some b ∧
    compile [] (.datum (.obj (callTree (.str "divide")))) ⟨true, none, .index⟩ b =
      .error (.formula cause) c ∧
    tryCompile [] (.datum (.obj (callTree (.str "divide")))) ⟨true, none, .index⟩ b =
      .ok (.failure cause) (c.record (.failed cause.message)) ∧
    cause.message = "Function 'divide' is not available in the operation catalog." := by
  have failure : (Session.sample.builder? 0).map (fun b =>
      reported? (tryCompile [] (.datum (.obj (callTree (.str "divide")))) ⟨true, none, .index⟩ b)) =
        some (some (some "Function 'divide' is not available in the operation catalog.")) := by
    decide +kernel
  obtain ⟨b, found, failed⟩ := Option.map_eq_some_iff.mp failure
  obtain ⟨_, reports⟩ := tryCompile_reports ⟨Session.sample, 0, Session.sample_reachable, found⟩ []
    (callTree (.str "divide")) ⟨true, none, .index⟩
  cases ran : compile [] (.datum (.obj (callTree (.str "divide")))) ⟨true, none, .index⟩ b with
  | ok v c =>
    rw [ran] at reports
    rw [reports.1] at failed
    cases failed
  | error fault c =>
    rw [ran] at reports
    rcases reports.1 with ⟨cause, rfl, _, tried⟩ | ⟨tried, _⟩
    · rw [tried] at failed
      exact ⟨b, c, cause, found, ran, tried, Option.some.inj (Option.some.inj failed)⟩
    · rw [tried] at failed
      cases failed

/-- A call of a list escapes from the report. -/
theorem tryCompile_escapes : ¬ ∀ b : Builder, b.Reachable → ∀ outer members options,
    ∃ outcome c, tryCompile outer (.datum (.obj members)) options b = .ok outcome c := by
  intro total
  have found : ((⟨[]⟩ : Session).playAll [.begin Session.sampleCatalog none]).builder? 0 =
      some (.empty Session.sampleCatalog none) := rfl
  obtain ⟨outcome, c, tried⟩ := total _ ⟨_, 0, Session.Reachable.start.playAll _, found⟩ []
    (callTree (.arr [])) ⟨true, none, .index⟩
  have escaped : reported? (tryCompile [] (.datum (.obj (callTree (.arr [])))) ⟨true, none, .index⟩
      (.empty Session.sampleCatalog none)) = none := by
    decide +kernel
  rw [tried] at escaped
  cases outcome <;> cases escaped

end Formula
end FormulaGraph
