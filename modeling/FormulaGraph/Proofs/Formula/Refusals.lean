import FormulaGraph.Proofs.Formula.Faults

/-!
# Where lowering fails

Lowering fails at an identifier that cannot be resolved, at a call or an operator for which the catalog has no
operation with enough parameters, and nowhere else: `Fails` follows the evaluation of an expression to
one of these places. What comes of an operand is an argument, and a node that it refers to is still there
when the operand is used; so no check that a node makes again behind these can fail.
-/

namespace FormulaGraph

open Build

/-- Whether a fault is one of a check that compiling makes sure of before. -/
def FormulaFault.isDefensive : FormulaFault → Bool
  | .invalidOperation _ | .duplicateNode _ => true
  | _ => false

namespace Formula

variable {ctx : Context} {b c d : Builder} {v : Value} {fault : Fault}

/-! ### Operands -/

theorem has_of_invoke {operation : String} {arguments : Value} (invoked : invoke operation arguments b = .ok v c) :
    ∀ id ∈ v.nodeRefs, c.has id = true := by
  obtain ⟨n, rfl, nodes, _⟩ := invoke_ok invoked
  intro id inside
  obtain rfl := List.mem_singleton.mp inside
  have listed : n.id ∈ NameMap.keys c.nodes := by
    rw [nodes, NameMap.keys_append]
    exact List.mem_append_right _ List.mem_cons_self
  exact NameMap.has_iff.mpr listed

/-- A node that a lowered value refers to is there. -/
theorem has_of_lower {e : Expr} (lowered : lower ctx e b = .ok v c) : ∀ id ∈ v.nodeRefs, c.has id = true := by
  refine lower_ok_induct (P := fun _ _ v c => ∀ id ∈ v.nodeRefs, c.has id = true) (Q := fun _ _ _ _ => True)
    ?number ?identifier ?group (fun _ => trivial) ?cons ?call ?binary ?unary ?folded ?negated lowered
  case number =>
    intro n b id inside
    cases inside
  case identifier =>
    intro name b v b' resolved id inside
    rcases resolve_ok resolved with ⟨_, _, rfl⟩ | ⟨_, _, present, rfl⟩ | ⟨_, _, _, _, _, _, _, rfl⟩ | ⟨_, rfl⟩
    · cases inside
    · obtain rfl := List.mem_singleton.mp inside
      rw [Builder.has, nodes_of_resolve resolved]
      exact present
    · cases inside
    · cases inside
  case group => exact fun inner b v b' _ ih => ih
  case cons => exact fun _ _ _ _ _ _ _ _ _ _ _ => trivial
  case call =>
    intro function args b values c v b' _ called _
    obtain ⟨_, _, _, _, invoked⟩ := callNode_ok called
    exact has_of_invoke invoked
  case binary =>
    intro operator left right b u c v d w b' _ _ applied _ _
    obtain ⟨_, _, _, _, _, _, _, _, _, invoked⟩ := operatorNode_ok applied
    exact has_of_invoke invoked
  case unary => exact fun operator operand b v b' _ _ ih => ih
  case folded =>
    intro operand b n b' _ _ id inside
    cases inside
  case negated =>
    intro operand b v c w b' _ _ applied _
    obtain ⟨_, _, _, _, _, _, _, _, _, invoked⟩ := operatorNode_ok applied
    exact has_of_invoke invoked

/-- Whether a value may be an argument of a node: it needs no coercion, and refers only to nodes that are
there. -/
structure Usable (b : Builder) (v : Value) : Prop where
  argument : v.isArgument = true
  present : ∀ id ∈ v.nodeRefs, b.has id = true

theorem Usable.mono (usable : Usable b v) (grown : b.Extends c) : Usable c v where
  argument := usable.argument
  present := fun id inside => grown.has (usable.present id inside)

theorem usable_of_lower {e : Expr} (lowered : lower ctx e b = .ok v c) : Usable c v where
  argument := isArgument_of_lower lowered
  present := has_of_lower lowered

theorem usable_of_lowerAll {args : List Expr} {values : List Value}
    (lowered : lowerAll ctx args b = .ok values c) : ∀ v ∈ values, Usable c v := by
  refine lowerAll_ok_induct (P := fun _ _ v c => Usable c v) (Q := fun _ _ values c => ∀ v ∈ values, Usable c v)
    (fun _ => by simp) ?_ (fun arg _ b v c => usable_of_lower) lowered
  intro arg rest b v c values d _ others first later
  exact List.forall_mem_cons.mpr ⟨first.mono (extends_of_lowerAll others), later⟩

theorem invoke_of_usable {operation : String} {definition : Operation} {named : NameMap Value}
    (offered : b.catalog.get? operation = some definition) (usable : ∀ entry ∈ named, Usable b entry.2) :
    ∃ v c, invoke operation (.obj named) b = .ok v c := by
  have checked := Builder.bindArguments_of_isArgument offered (fun entry member => (usable entry member).argument)
    fun entry member => (usable entry member).present
  unfold invoke
  rw [Builder.createNode_generated checked]
  exact ⟨_, _, rfl⟩

/-- A call of usable values fails only if it is refused before it makes a node. -/
theorem callNode_error_iff {function : Json} {values : List Value} (usable : ∀ v ∈ values, Usable b v) :
    callNode function values b = .error fault c ↔
      CallRefused b.catalog function values.length fault ∧ c = b := by
  constructor
  · intro failed
    rcases callNode_cases function values b with ⟨other, same, refused⟩ | ⟨definition, _, offered, few, invokes⟩
    · rw [same] at failed
      cases failed
      exact ⟨refused, rfl⟩
    · rw [invokes, invoke_positional offered few] at failed
      obtain ⟨v, d, invoked⟩ :=
        invoke_of_usable offered fun entry member => usable entry.2 (mem_of_mem_bind member)
      rw [invoked] at failed
      cases failed
  · rintro ⟨refused, rfl⟩
    exact refused.callNode_eq

theorem operatorNode_error_iff {operator : Json} {left right : Value} (first : Usable b left)
    (second : Usable b right) : operatorNode operator left right b = .error fault c ↔
      OperatorRefused b.catalog operator fault ∧ c = b := by
  constructor
  · intro failed
    rcases operatorNode_cases operator left right b with
      ⟨other, same, refused⟩ | ⟨_, operation, _, _, _, _, _, offered, _, invokes⟩
    · rw [same] at failed
      cases failed
      exact ⟨refused, rfl⟩
    · obtain ⟨v, d, invoked⟩ := invoke_of_usable offered fun entry member => by
        rcases eq_or_eq_of_mem_operands member with same | same
        · exact same ▸ first
        · exact same ▸ second
      rw [invokes, invoked] at failed
      cases failed
  · rintro ⟨refused, rfl⟩
    exact refused.operatorNode_eq left right

/-! ### Expressions -/

/-- The evaluation of an expression in a builder fails, and leaves a builder behind. -/
inductive Fails (ctx : Context) : Expr → Builder → Fault → Builder → Prop
  | identifier {name : String} {b c : Builder} {fault : Fault} (failed : resolve ctx name b = .error fault c) :
      Fails ctx (.identifier name) b fault c
  | group {inner : Expr} {b c : Builder} {fault : Fault} (failed : Fails ctx inner b fault c) :
      Fails ctx (.group inner) b fault c
  | argument {function : Json} {before after : List Expr} {arg : Expr} {values : List Value} {b c d : Builder}
      {fault : Fault} (lowered : lowerAll ctx before b = .ok values c) (failed : Fails ctx arg c fault d) :
      Fails ctx (.call function (before ++ arg :: after)) b fault d
  | call {function : Json} {args : List Expr} {values : List Value} {b c : Builder} {fault : Fault}
      (lowered : lowerAll ctx args b = .ok values c)
      (refused : CallRefused c.catalog function values.length fault) : Fails ctx (.call function args) b fault c
  | left {operator : Json} {left right : Expr} {b c : Builder} {fault : Fault}
      (failed : Fails ctx left b fault c) : Fails ctx (.binary operator left right) b fault c
  | right {operator : Json} {left right : Expr} {v : Value} {b c d : Builder} {fault : Fault}
      (lowered : lower ctx left b = .ok v c) (failed : Fails ctx right c fault d) :
      Fails ctx (.binary operator left right) b fault d
  | binary {operator : Json} {left right : Expr} {v w : Value} {b c d : Builder} {fault : Fault}
      (first : lower ctx left b = .ok v c) (second : lower ctx right c = .ok w d)
      (refused : OperatorRefused d.catalog operator fault) : Fails ctx (.binary operator left right) b fault d
  | operand {operator : Json} {operand : Expr} {b c : Builder} {fault : Fault}
      (failed : Fails ctx operand b fault c) : Fails ctx (.unary operator operand) b fault c
  | negation {operand : Expr} {v : Value} {b c : Builder} {fault : Fault}
      (lowered : lower ctx operand b = .ok v c) (other : v.number? = none)
      (refused : OperatorRefused c.catalog (.str "*") fault) : Fails ctx (.unary (.str "-") operand) b fault c

theorem exists_of_lowerAll_error {args : List Expr} (failed : lowerAll ctx args b = .error fault d) :
    ∃ before arg after values c, args = before ++ arg :: after ∧ lowerAll ctx before b = .ok values c ∧
      lower ctx arg c = .error fault d := by
  induction args generalizing b with
  | nil =>
    rw [lowerAll] at failed
    cases failed
  | cons arg rest ih =>
    rw [lowerAll] at failed
    rcases bind_error failed with here | ⟨v, c, first, failed⟩
    · exact ⟨[], arg, rest, [], b, rfl, by rw [lowerAll]; rfl, here⟩
    · rcases bind_error failed with later | ⟨values, e, second, failed⟩
      · obtain ⟨before, arg', after, values, e, rfl, lowered, there⟩ := ih later
        refine ⟨arg :: before, arg', after, v :: values, e, rfl, ?_, there⟩
        rw [lowerAll, bind_of_ok _ first, bind_of_ok _ lowered]
        rfl
      · cases failed

theorem lowerAll_of_error {before after : List Expr} {arg : Expr} {values : List Value}
    (lowered : lowerAll ctx before b = .ok values c) (failed : lower ctx arg c = .error fault d) :
    lowerAll ctx (before ++ arg :: after) b = .error fault d := by
  induction before generalizing b values with
  | nil =>
    rw [lowerAll] at lowered
    obtain ⟨_, rfl⟩ := pure_ok lowered
    rw [List.nil_append, lowerAll, bind_of_error _ failed]
  | cons first rest ih =>
    rw [lowerAll] at lowered
    obtain ⟨v, e, head, lowered⟩ := bind_ok lowered
    obtain ⟨others, e', tail, lowered⟩ := bind_ok lowered
    obtain ⟨_, rfl⟩ := pure_ok lowered
    rw [List.cons_append, lowerAll, bind_of_ok _ head, bind_of_error _ (ih tail)]

theorem fails_of_lower_error {e : Expr} (failed : lower ctx e b = .error fault c) : Fails ctx e b fault c := by
  induction e using Expr.induct generalizing b fault c with
  | number n =>
    rw [lower] at failed
    cases failed
  | identifier name =>
    rw [lower] at failed
    exact .identifier failed
  | group inner ih =>
    rw [lower] at failed
    exact .group (ih failed)
  | call function args ih =>
    rw [lower] at failed
    rcases bind_error failed with failed | ⟨values, d, lowered, failed⟩
    · obtain ⟨before, arg, after, values, d, rfl, lowered, there⟩ := exists_of_lowerAll_error failed
      exact .argument lowered (ih arg (by simp) there)
    · obtain ⟨refused, rfl⟩ := (callNode_error_iff (usable_of_lowerAll lowered)).mp failed
      exact .call lowered refused
  | binary operator left right ihl ihr =>
    rw [lower] at failed
    rcases bind_error failed with failed | ⟨v, d, first, failed⟩
    · exact .left (ihl failed)
    · rcases bind_error failed with failed | ⟨w, d', second, failed⟩
      · exact .right first (ihr failed)
      · -- the left operand has been made before the right one, and is used behind it
        have kept := (usable_of_lower first).mono (extends_of_lower second)
        obtain ⟨refused, rfl⟩ := (operatorNode_error_iff kept (usable_of_lower second)).mp failed
        exact .binary first second refused
  | unary operator operand ih =>
    rw [lower] at failed
    rcases bind_error failed with failed | ⟨v, d, lowered, failed⟩
    · exact .operand (ih failed)
    · cases minus : isMinus operator with
      | false =>
        rw [minus] at failed
        cases failed
      | true =>
        obtain rfl := isMinus_iff.mp minus
        rw [minus, if_pos rfl] at failed
        cases constant : v.number? with
        | some n =>
          rw [negate_of_number constant] at failed
          cases failed
        | none =>
          rw [negate_of_not_number constant] at failed
          have factor : Usable d (.number (.int (-1))) := ⟨rfl, fun id inside => by cases inside⟩
          obtain ⟨refused, rfl⟩ := (operatorNode_error_iff factor (usable_of_lower lowered)).mp failed
          exact .negation lowered constant refused

theorem Fails.lower_eq {e : Expr} (fails : Fails ctx e b fault c) : lower ctx e b = .error fault c := by
  induction fails with
  | identifier failed => exact failed
  | group _ ih => exact ih
  | argument lowered _ ih => rw [lower, bind_of_error _ (lowerAll_of_error lowered ih)]
  | call lowered refused => rw [lower, bind_of_ok _ lowered, refused.callNode_eq]
  | left _ ih => rw [lower, bind_of_error _ ih]
  | right lowered _ ih => rw [lower, bind_of_ok _ lowered, bind_of_error _ ih]
  | binary first second refused =>
    rw [lower, bind_of_ok _ first, bind_of_ok _ second, refused.operatorNode_eq]
  | operand _ ih => rw [lower, bind_of_error _ ih]
  | negation lowered other refused =>
    rw [lower, bind_of_ok _ lowered, isMinus_iff.mpr rfl, if_pos rfl, negate_of_not_number other,
      refused.operatorNode_eq]

/-! ### Faults -/

/-- What is true of the faults of lowering: none of them is that of a defensive check, and a node is missing
only where an identifier that names it is resolved. -/
structure Grounded (ctx : Context) (names : List String) (c : Builder) (fault : Fault) : Prop where
  checked : ∀ cause, fault = .formula cause → cause.isDefensive = false
  named : ∀ id, fault = .formula (.unknownNode id) →
    "#" ++ id ∈ names ∧ resolve ctx ("#" ++ id) c = .error fault c

theorem Grounded.mono {names names' : List String} (grounded : Grounded ctx names c fault)
    (inside : names ⊆ names') : Grounded ctx names' c fault where
  checked := grounded.checked
  named := fun id missing => (grounded.named id missing).imp_left fun member => inside member

theorem grounded_resolve {name : String} (failed : resolve ctx name b = .error fault c) :
    Grounded ctx [name] c fault := by
  obtain ⟨refused, rfl⟩ := resolve_error failed
  cases refused with
  | node absent =>
    refine ⟨?_, ?_⟩
    · rintro cause ⟨⟩
      rfl
    · rintro id ⟨⟩
      exact ⟨List.mem_cons_self, failed⟩
  | element refused =>
    rcases Label.selector_error refused with ⟨reason, rfl⟩ | ⟨_, _, _, rfl⟩
    · refine ⟨?_, nofun⟩
      rintro cause ⟨⟩
      rfl
    · exact ⟨nofun, nofun⟩

theorem CallRefused.grounded {catalog : Catalog} {function : Json} {count : Nat}
    (refused : CallRefused catalog function count fault) (names : List String) (c : Builder) :
    Grounded ctx names c fault := by
  cases refused with
  | compound parts => exact ⟨nofun, nofun⟩
  | unknown _ | arity _ _ =>
    refine ⟨?_, nofun⟩
    rintro cause ⟨⟩
    rfl

theorem OperatorRefused.grounded {catalog : Catalog} {operator : Json}
    (refused : OperatorRefused catalog operator fault) (names : List String) (c : Builder) :
    Grounded ctx names c fault := by
  cases refused with
  | compound parts => exact ⟨nofun, nofun⟩
  | unknown _ | missing _ _ | arity _ _ _ =>
    refine ⟨?_, nofun⟩
    rintro cause ⟨⟩
    rfl

theorem Fails.grounded {e : Expr} (fails : Fails ctx e b fault c) : Grounded ctx e.identifiers c fault := by
  induction fails with
  | identifier failed => exact grounded_resolve failed
  | group _ ih => exact ih
  | @argument function before after arg _ _ _ _ _ _ _ ih =>
    have member : arg ∈ before ++ arg :: after := List.mem_append_right _ List.mem_cons_self
    exact ih.mono (Expr.mem_namesAll member).2
  | call _ refused => exact refused.grounded _ _
  | left _ ih => exact ih.mono (List.subset_append_left _ _)
  | right _ _ ih => exact ih.mono (List.subset_append_right _ _)
  | binary _ _ refused => exact refused.grounded _ _
  | operand _ ih => exact ih
  | negation _ _ refused => exact refused.grounded _ _

/-! ### Compiling -/

/-- A formula fails where its lowering fails, or else because it is to be a node and is none; the node that it
comes to is always found. -/
theorem compileExpr_error_iff (h : b.WellFormed) {e : Expr} {mark : Bool} :
    compileExpr ctx e mark b = .error fault c ↔ Fails ctx e b fault c ∨
      mark = true ∧ ∃ v, lower ctx e b = .ok v c ∧ (∀ id, v ≠ .nodeRef id) ∧
        fault = .formula (.nonNodeResult v) := by
  constructor
  · intro failed
    rcases bind_error failed with failed | ⟨v, d, lowered, failed⟩
    · exact Or.inl (fails_of_lower_error failed)
    · have sound := Builder.conduct_wellFormed.lower ctx e b h
      rw [final_of_ok lowered] at sound
      rcases nodeRef_or_not v with ⟨id, rfl⟩ | other
      · obtain ⟨n, found⟩ := Option.isSome_iff_exists.mp (has_of_lower lowered id List.mem_cons_self)
        rw [finish_of_found sound found] at failed
        cases mark <;> cases failed
      · rw [finish_of_other other] at failed
        cases mark with
        | false => cases failed
        | true =>
          cases failed
          exact Or.inr ⟨rfl, v, lowered, other, rfl⟩
  · rintro (fails | ⟨rfl, v, lowered, other, rfl⟩)
    · exact bind_of_error _ fails.lower_eq
    · unfold compileExpr
      rw [bind_of_ok _ lowered, finish_of_other other]
      rfl

end Formula

open Formula

/-- A formula whose functions and operators are texts, and whose positions have no more digits than an integer
may have, compiles or fails with a fault of building. It fails where `Fails` says, or because it is to be a node
and is none. So none of the checks that are made again when a node is created or marked can fail: an operation
is always in the catalog, an id always new, an argument always fit, and a node is missing only where an identifier
names it. Two operands have a name each as soon as the operation has two parameters. -/
theorem Builder.Reachable.compile_fails_iff {b : Builder} (reachable : b.Reachable) (ctx : Context) {e : Expr}
    (texts : ∀ name ∈ e.names, ∃ text, name = .str text)
    (short : ∀ label, "$" ++ label ∈ e.identifiers → Label.isDigits label.toList = true →
      label.length ≤ Number.maxDigits) (mark : Bool) :
    (∀ fault c, compileExpr ctx e mark b = .error fault c ↔ Fails ctx e b fault c ∨
      mark = true ∧ ∃ v, lower ctx e b = .ok v c ∧ (∀ id, v ≠ .nodeRef id) ∧
        fault = .formula (.nonNodeResult v)) ∧
    (∀ fault c, compileExpr ctx e mark b = .error fault c → ∃ cause, fault = .formula cause ∧
      cause.isDefensive = false ∧ ∀ id, cause = .unknownNode id →
        "#" ++ id ∈ e.identifiers ∧ resolve ctx ("#" ++ id) c = .error fault c) ∧
    ∀ definition : Operation, ¬ definition.arity < 2 → ∃ first second,
      operandNames? definition = some (first, second) ∧
        List.zipWith operandName definition.parameters ["x", "y"] = [first, second] := by
  have fails (fault c) : compileExpr ctx e mark b = .error fault c ↔ _ :=
    compileExpr_error_iff reachable.wellFormed
  refine ⟨fails, fun fault c failed => ?_, fun definition two => ?_⟩
  · have formula : fault.IsFormula := by
      rcases failsWith_compileExpr ctx e mark fault c failed with formula | escapes
      · exact formula
      · cases escapes with
        | name inside compound =>
          obtain ⟨text, rfl⟩ := texts _ inside
          cases compound
        | position inside long =>
          obtain ⟨label, rfl, _, digits, rfl, many⟩ := long
          exact absurd (short label inside digits) (by omega)
    obtain ⟨cause, rfl⟩ := formula
    rcases (fails _ c).mp failed with lowering | ⟨_, v, _, _, same⟩
    · exact ⟨cause, rfl, lowering.grounded.checked cause rfl, fun id missing =>
        lowering.grounded.named id (congrArg Fault.formula missing)⟩
    · cases same
      exact ⟨_, rfl, rfl, nofun⟩
  · cases operands : operandNames? definition with
    | none => exact absurd (operandNames?_eq_none.mp operands) two
    | some names =>
      obtain ⟨p, q, others, parameters, first, second⟩ := operandNames?_eq_some.mp operands
      refine ⟨names.1, names.2, rfl, ?_⟩
      rw [parameters, ← first, ← second]
      simp

def danglingSum : Expr := .binary (.str "+") (.identifier "$0") (.identifier "#add9")

theorem danglingSum_compile_fails : ∃ b fault c, b.Reachable ∧
    compileExpr ⟨[[⟨"y", ""⟩]], .index⟩ danglingSum true b = .error fault c ∧
    Fails ⟨[[⟨"y", ""⟩]], .index⟩ danglingSum b fault c ∧ fault = .formula (.unknownNode "add9") ∧
    resolve ⟨[[⟨"y", ""⟩]], .index⟩ "#add9" c = .error fault c := by
  have reachable := Builder.Reachable.empty Session.sampleCatalog
  have texts : ∀ name ∈ danglingSum.names, ∃ text, name = .str text := by
    intro name inside
    obtain rfl := List.mem_singleton.mp inside
    exact ⟨"+", rfl⟩
  have short : ∀ label, "$" ++ label ∈ danglingSum.identifiers → Label.isDigits label.toList = true →
      label.length ≤ Number.maxDigits := by
    intro label inside _
    have small : ∀ name ∈ danglingSum.identifiers, name.length ≤ 5 := by decide
    have bound := small _ inside
    rw [String.length_append] at bound
    have limit : Number.maxDigits = 4300 := rfl
    omega
  obtain ⟨fails, causes, _⟩ := reachable.compile_fails_iff ⟨[[⟨"y", ""⟩]], .index⟩ texts short true
  obtain ⟨c, failed⟩ : ∃ c, compileExpr ⟨[[⟨"y", ""⟩]], .index⟩ danglingSum true
      (.empty Session.sampleCatalog none) = .error (.formula (.unknownNode "add9")) c := ⟨_, rfl⟩
  obtain ⟨cause, same, _, named⟩ := causes _ c failed
  refine ⟨_, _, c, reachable, failed, ?_, rfl, ?_⟩
  · rcases (fails _ c).mp failed with lowering | ⟨_, _, _, _, other⟩
    · exact lowering
    · cases other
  · cases same
    exact (named "add9" rfl).2

end FormulaGraph
