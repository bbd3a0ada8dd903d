import FormulaGraph.Proofs.Builder.Extends
import FormulaGraph.Proofs.Formula.Induction
import FormulaGraph.Proofs.Formula.Meaning
import FormulaGraph.Proofs.Session.WellFormed

/-!
# Lowering preserves meaning

What an expression is lowered to has the value of the expression, in the nodes that the lowering
leaves. The induction on the expression needs no order of the nodes: any solution of the equations of
the last builder solves those of every builder before it, so it has all parts agree on the nodes that
they share.
-/

namespace FormulaGraph

open Build

variable {D : Type} {I : Interpretation D} {ctx : Formula.Context} {node : String → D}

/-- A value stands for an expression: it is an argument with the meaning of the expression, and a number
exactly if the expression is one. -/
structure Represents (I : Interpretation D) (σ : Setting D) (e : Expr) (v : Value) : Prop where
  argument : v.isArgument = true
  constant : v.number? = e.constant?
  meaning : e.meaning I σ = some (I.value σ.node v)

theorem Builder.Extends.setting {b b' : Builder} (grown : Extends b b') (ctx : Formula.Context)
    (node : String → D) : b'.setting ctx node = b.setting ctx node := by
  rw [Builder.setting, Builder.setting, grown.catalog, grown.scopes]

theorem Builder.Extends.solves {b b' : Builder} (grown : Extends b b') (solved : I.Solves node b'.nodes) :
    I.Solves node b.nodes := by
  obtain ⟨added, nodes, _⟩ := grown.nodes
  rw [nodes] at solved
  exact solved.left

namespace Formula

theorem extends_of_lower {e : Expr} {b b' : Builder} {v : Value} (lowered : lower ctx e b = .ok v b') :
    Builder.Extends b b' := by
  have grown := Builder.extends_lower ctx e b
  rwa [final_of_ok lowered] at grown

theorem extends_of_lowerAll {args : List Expr} {b b' : Builder} {values : List Value}
    (lowered : lowerAll ctx args b = .ok values b') : Builder.Extends b b' := by
  have grown : Keeps Builder.Extends (lowerAll ctx args) :=
    Builder.growth_extends.lowerAll fun arg _ => Builder.growth_extends.lower ctx arg
  rw [← final_of_ok lowered]
  exact grown b

/-! ### Identifiers -/

theorem resolveParameter_ok {name : String} {b b' : Builder} {v : Value}
    (resolved : resolveParameter ctx name b = .ok v b') : v = .paramRef name := by
  unfold resolveParameter at resolved
  cases found : b.scopeParameter? ctx.outer name with
  | some p =>
    rw [found] at resolved
    obtain ⟨scope, _, inside⟩ := List.exists_of_findSome?_eq_some found
    have same : p.name = name := by simpa using List.find?_some inside
    cases resolved
    rw [same]
  | none =>
    rw [found] at resolved
    dsimp only at resolved
    unfold Builder.declare at resolved
    cases known : b.parameter? name with
    | some existing =>
      rw [known] at resolved
      have same : existing.name = name := by simpa using List.find?_some known
      cases resolved
      rw [same]
    | none =>
      rw [known] at resolved
      cases resolved
      rfl

/-- An identifier comes to a keyword, to the node that it names, to an element of the innermost scope, or to
its parameter. -/
theorem resolve_ok {name : String} {b b' : Builder} {v : Value} (resolved : resolve ctx name b = .ok v b') :
    (∃ value, identifierForm name = .keyword value ∧ v = .scalar value) ∨
    (∃ id, identifierForm name = .node id ∧ b.has id = true ∧ v = .nodeRef id) ∨
    (∃ label first rest selector, identifierForm name = .element label ∧
      b.currentScope ctx.outer = first :: rest ∧ Label.selector ctx.labels label = .ok selector ∧
      v = .element first.name selector) ∨
    (identifierForm name = .plain ∨
      ∃ label, identifierForm name = .element label ∧ b.currentScope ctx.outer = []) ∧ v = .paramRef name := by
  unfold resolve at resolved
  cases form : identifierForm name with
  | keyword value =>
    rw [form] at resolved
    cases resolved
    exact Or.inl ⟨value, rfl, rfl⟩
  | node id =>
    rw [form] at resolved
    dsimp only at resolved
    split at resolved <;> cases resolved
    rename_i present
    exact Or.inr (Or.inl ⟨id, rfl, present, rfl⟩)
  | plain =>
    rw [form] at resolved
    exact Or.inr (Or.inr (Or.inr ⟨Or.inl rfl, resolveParameter_ok resolved⟩))
  | element label =>
    rw [form] at resolved
    dsimp only at resolved
    cases scope : b.currentScope ctx.outer with
    | nil =>
      rw [scope] at resolved
      exact Or.inr (Or.inr (Or.inr ⟨Or.inr ⟨label, rfl, rfl⟩, resolveParameter_ok resolved⟩))
    | cons first rest =>
      rw [scope] at resolved
      dsimp only at resolved
      cases chosen : Label.selector ctx.labels label with
      | error fault =>
        rw [chosen] at resolved
        cases resolved
      | ok selector =>
        rw [chosen] at resolved
        cases resolved
        exact Or.inr (Or.inr (Or.inl ⟨label, first, rest, selector, rfl, rfl, chosen, rfl⟩))

theorem number?_of_keyword {name : String} {value : Scalar}
    (form : identifierForm name = .keyword value) : (Value.scalar value).number? = none := by
  unfold identifierForm at form
  cases found : NameMap.get? keywords name with
  | some s =>
    rw [found] at form
    cases form
    have member := NameMap.mem_of_get? found
    simp only [keywords, List.mem_cons, List.not_mem_nil, or_false, Prod.mk.injEq] at member
    rcases member with ⟨_, rfl⟩ | ⟨_, rfl⟩ | ⟨_, rfl⟩ <;> rfl
  | none =>
    rw [found] at form
    dsimp only at form
    split at form <;> cases form

def formMeaning (I : Interpretation D) (σ : Setting D) (name : String) : IdentifierForm → Option D
  | .keyword value => some (I.literal value)
  | .node id => some (σ.node id)
  | .element label => I.element? σ name label
  | .plain => some (I.parameter name)

theorem identifier_eq (I : Interpretation D) (σ : Setting D) (name : String) :
    I.identifier σ name = formMeaning I σ name (identifierForm name) := by
  unfold Interpretation.identifier identifierForm
  simp only [keywords, NameMap.get?, @eq_comm _ _ name]
  by_cases isTrue : name = "true"
  · simp only [isTrue, if_true, formMeaning]
  · by_cases isFalse : name = "false"
    · simp [isFalse, formMeaning]
    · by_cases isNull : name = "null"
      · simp [isNull, formMeaning]
      · simp only [isTrue, isFalse, isNull, if_false]
        cases name.toList with
        | nil => rfl
        | cons c rest =>
          by_cases sign : c = '#'
          · subst sign
            rfl
          · by_cases dollar : c = '$'
            · subst dollar
              rfl
            · simp [sign, dollar, formMeaning]

theorem represents_identifier {name : String} {b b' : Builder} {v : Value}
    (resolved : resolve ctx name b = .ok v b') :
    Represents I (b.setting ctx node) (.identifier name) v := by
  have current : (b.setting ctx node).scopes.head?.getD [] = b.currentScope ctx.outer := rfl
  have labels : (b.setting ctx node).labels = ctx.labels := rfl
  rcases resolve_ok resolved with ⟨value, form, rfl⟩ | ⟨id, form, _, rfl⟩ |
    ⟨label, first, rest, selector, form, scope, chosen, rfl⟩ | ⟨form, rfl⟩
  · refine ⟨rfl, number?_of_keyword form, ?_⟩
    simp only [Expr.meaning, identifier_eq, form, formMeaning, Interpretation.value]
  · refine ⟨rfl, rfl, ?_⟩
    simp only [Expr.meaning, identifier_eq, form, formMeaning, Interpretation.value]
  · refine ⟨rfl, rfl, ?_⟩
    simp only [Expr.meaning, identifier_eq, form, formMeaning, Interpretation.element?, current, scope,
      labels, chosen, Interpretation.value]
  · refine ⟨rfl, rfl, ?_⟩
    rcases form with form | ⟨label, form, scope⟩
    · simp only [Expr.meaning, identifier_eq, form, formMeaning, Interpretation.value]
    · simp only [Expr.meaning, identifier_eq, form, formMeaning, Interpretation.element?, current, scope,
        Interpretation.value]

/-! ### Calls and operators -/

/-- A call makes a node that has the arguments under the names of the formal parameters, in order. -/
theorem callNode_node {function : Json} {arguments : List Value} {b b' : Builder} {v : Value}
    (named : b.catalog.NamesFormals) (each : ∀ argument ∈ arguments, argument.isArgument = true)
    (created : callNode function arguments b = .ok v b') :
    ∃ n definition, v = .nodeRef n.id ∧ b'.nodes = b.nodes ++ [(n.id, n)] ∧
      function = .str definition.name ∧ b.catalog.get? definition.name = some definition ∧
      ¬ definition.arity < arguments.length ∧ n.operation = .str definition.name ∧
      n.arguments = definition.parameterNames.zip arguments := by
  obtain ⟨n, definition, refers, nodes, text, offered, few, operates, bound⟩ := callNode_bound each created
  have distinct := (NameMap.keys_zip_sublist _ arguments).nodup
    (named _ (Catalog.mem_definitions_of_get? offered)).1
  exact ⟨n, definition, refers, nodes, text, offered, few, operates,
    bound.trans (NameMap.ofList_of_nodup distinct)⟩

theorem call_of_callNode (ctx : Context) {function : Json} {arguments : List Value} {b b' : Builder}
    {v : Value} (named : b.catalog.NamesFormals)
    (each : ∀ argument ∈ arguments, argument.isArgument = true) (solved : I.Solves node b'.nodes)
    (created : callNode function arguments b = .ok v b') :
    ∃ id, v = .nodeRef id ∧
      I.call (b.setting ctx node) function (arguments.map (I.value node)) = some (node id) := by
  obtain ⟨n, definition, refers, nodes, rfl, offered, few, operation, formals⟩ :=
    callNode_node named each created
  have member : (n.id, n) ∈ b'.nodes := by simp [nodes]
  rw [← List.length_map (I.value node)] at few
  refine ⟨n.id, refers, ?_⟩
  rw [solved (n.id, n) member, Interpretation.node_eq operation, formals]
  unfold Interpretation.call Builder.setting
  dsimp only
  rw [offered, Option.bind_eq_bind, Option.bind_some, if_neg few, List.zip_map_right]
  rfl

/-- The operands of an operation whose formal parameters have names are the first two of these. -/
theorem operandNames_eq {c : Catalog} (named : c.NamesFormals) {definition : Operation}
    (offered : definition ∈ c.definitions) {first second : String}
    (operands : operandNames? definition = some (first, second)) :
    ∃ others, definition.parameterNames = first :: second :: others := by
  have nameless := (named definition offered).2
  obtain ⟨p, q, others, parameters, rfl, rfl⟩ := operandNames?_eq_some.mp operands
  unfold Operation.parameterNames at nameless ⊢
  rw [parameters] at nameless ⊢
  simp only [List.map_cons, List.mem_cons, not_or] at nameless
  rw [operandName, operandName, if_neg (Ne.symm nameless.1), if_neg (Ne.symm nameless.2.1)]
  exact ⟨others.map (·.name), rfl⟩

/-- An operator makes a node that has the operands under the names of the first two formal parameters. -/
theorem operatorNode_node {operator : Json} {left right : Value} {b b' : Builder} {v : Value}
    (named : b.catalog.NamesFormals) (leftArgument : left.isArgument = true)
    (rightArgument : right.isArgument = true) (created : operatorNode operator left right b = .ok v b') :
    ∃ n symbol operation definition first second others, v = .nodeRef n.id ∧
      b'.nodes = b.nodes ++ [(n.id, n)] ∧ operator = .str symbol ∧
      Operator.operation? symbol = some operation ∧ b.catalog.get? operation = some definition ∧
      definition.parameterNames = first :: second :: others ∧ n.operation = .str operation ∧
      n.arguments = [(first, left), (second, right)] := by
  obtain ⟨n, symbol, operation, definition, first, second, refers, nodes, text, means, offered, operands,
    operates, bound⟩ := operatorNode_bound leftArgument rightArgument created
  have listed := Catalog.mem_definitions_of_get? offered
  obtain ⟨others, formals⟩ := operandNames_eq named listed operands
  have distinct := (named definition listed).1
  rw [formals] at distinct
  have apart : (NameMap.keys [(first, left), (second, right)]).Nodup :=
    List.Nodup.sublist (List.sublist_append_left [first, second] others) distinct
  rw [NameMap.ofList_of_nodup apart] at bound
  exact ⟨n, symbol, operation, definition, first, second, others, refers, nodes, text, means, offered,
    formals, operates, bound⟩

theorem operator_of_operatorNode (ctx : Context) {symbol : Json} {left right : Value} {b b' : Builder}
    {v : Value} (named : b.catalog.NamesFormals) (leftArgument : left.isArgument = true)
    (rightArgument : right.isArgument = true) (solved : I.Solves node b'.nodes)
    (created : operatorNode symbol left right b = .ok v b') :
    ∃ id, v = .nodeRef id ∧
      I.operator (b.setting ctx node) symbol (I.value node left) (I.value node right) =
        some (node id) := by
  obtain ⟨n, s, operation, definition, first, second, others, refers, nodes, rfl, means, offered, formals,
    operates, pair⟩ := operatorNode_node named leftArgument rightArgument created
  have member : (n.id, n) ∈ b'.nodes := by simp [nodes]
  refine ⟨n.id, refers, ?_⟩
  rw [solved (n.id, n) member, Interpretation.node_eq operates, pair]
  unfold Interpretation.operator Builder.setting
  dsimp only
  simp only [means, Option.bind_eq_bind, Option.bind_some, offered, formals]
  rfl

/-! ### Expressions -/

/-- What an operator gives stands for an expression whose meaning is that of the operator between its
operands. -/
theorem represents_operatorNode (ctx : Context) {symbol : Json} {left right : Value} {e : Expr}
    {b b' : Builder} {v : Value} (named : b.catalog.NamesFormals) (leftArgument : left.isArgument = true)
    (rightArgument : right.isArgument = true) (solved : I.Solves node b'.nodes)
    (created : operatorNode symbol left right b = .ok v b') (single : e.constant? = none)
    (meaning : e.meaning I (b.setting ctx node) =
      I.operator (b.setting ctx node) symbol (I.value node left) (I.value node right)) :
    Represents I (b.setting ctx node) e v := by
  obtain ⟨id, rfl, computed⟩ :=
    operator_of_operatorNode ctx named leftArgument rightArgument solved created
  exact ⟨rfl, single.symm, meaning.trans computed⟩

/-- What an expression is lowered to stands for it, in every solution of the nodes that there are
afterwards. -/
theorem represents_lower (ctx : Context) {e : Expr} (b : Builder) (v : Value) (b' : Builder)
    (named : b.catalog.NamesFormals) (lowered : lower ctx e b = .ok v b') (solved : I.Solves node b'.nodes) :
    Represents I (b.setting ctx node) e v := by
  let P (e : Expr) (b : Builder) (v : Value) (b' : Builder) : Prop :=
    b.catalog.NamesFormals → I.Solves node b'.nodes → Represents I (b.setting ctx node) e v
  let Q (args : List Expr) (b : Builder) (values : List Value) (b' : Builder) : Prop :=
    b.catalog.NamesFormals → I.Solves node b'.nodes → (∀ value ∈ values, value.isArgument = true) ∧
      Expr.meanings I (b.setting ctx node) args = some (values.map (I.value node))
  refine lower_ok_induct (P := P) (Q := Q) ?number ?identifier ?group ?nil ?cons ?call ?binary ?unary
    ?folded ?negated lowered named solved
  case number => exact fun n b named solved => ⟨rfl, rfl, rfl⟩
  case identifier => exact fun name b v b' resolved named solved => represents_identifier resolved
  case group =>
    intro inner b v b' lowered ih named solved
    have same := ih named solved
    exact ⟨same.argument, same.constant, same.meaning⟩
  case nil => exact fun b named solved => ⟨by simp, rfl⟩
  case cons =>
    intro arg rest b v c values b' first second ih later named solved
    have before := extends_of_lower first
    have after := extends_of_lowerAll second
    have here := ih named (after.solves solved)
    have there := later (by rwa [before.catalog]) solved
    rw [before.setting] at there
    refine ⟨List.forall_mem_cons.mpr ⟨here.argument, there.1⟩, ?_⟩
    rw [Expr.meanings, here.meaning, there.2]
    rfl
  case call =>
    intro function args b values c v b' each created ih named solved
    have grown := extends_of_lowerAll each
    have callGrown := Builder.growth_extends.callNode function values c
    rw [final_of_ok created] at callGrown
    obtain ⟨arguments, meanings⟩ := ih named (callGrown.solves solved)
    obtain ⟨id, rfl, computed⟩ := call_of_callNode ctx (by rwa [grown.catalog]) arguments solved created
    refine ⟨rfl, rfl, ?_⟩
    rw [grown.setting] at computed
    rw [Expr.meaning, meanings]
    exact computed
  case binary =>
    intro operator left right b u c v d w b' first second created ihl ihr named solved
    -- the left operand was lowered before the right one, so its nodes are among the last ones
    have before := extends_of_lower first
    have after := extends_of_lower second
    have grown := before.trans after
    have lastGrown := Builder.growth_extends.operatorNode operator u v d
    rw [final_of_ok created] at lastGrown
    have solvedLast := lastGrown.solves solved
    have here := ihl named (after.solves solvedLast)
    have there := ihr (by rwa [before.catalog]) solvedLast
    have whole := represents_operatorNode (e := .binary operator left right) ctx
      (by rwa [grown.catalog]) here.argument there.argument solved created rfl
    rw [before.setting] at there
    rw [grown.setting] at whole
    apply whole
    rw [Expr.meaning, here.meaning, there.meaning]
    rfl
  case unary =>
    intro operator operand b v b' other lowered ih named solved
    have same := ih named solved
    refine ⟨same.argument, ?_, ?_⟩
    · rw [same.constant, Expr.constant?_unary_of_ne other]
    · rw [Expr.meaning_unary_of_ne other, same.meaning]
  case folded =>
    intro operand b n b' lowered ih named solved
    have constant : operand.constant? = some n := (ih named solved).constant.symm
    refine ⟨rfl, ?_, ?_⟩
    · rw [Expr.constant?, constant]
      rfl
    · rw [Expr.meaning, constant]
      rfl
  case negated =>
    intro operand b v c w b' other first created ih named solved
    have grown := extends_of_lower first
    have negated := Builder.growth_extends.operatorNode (.str "*") (.number (.int (-1))) v c
    rw [final_of_ok created] at negated
    have here := ih named (negated.solves solved)
    have constant : operand.constant? = none := here.constant.symm.trans other
    have inconstant : (Expr.unary (.str "-") operand).constant? = none := by
      rw [Expr.constant?, constant]
      rfl
    have whole := represents_operatorNode ctx (by rwa [grown.catalog]) rfl here.argument solved created
      inconstant
    rw [grown.setting] at whole
    apply whole
    rw [Expr.meaning, constant, here.meaning]
    rfl

end Formula

/-- What an expression is lowered to has, in the nodes that there are afterwards, the meaning of the
expression, in which an identifier of a node has the value that this node had before. -/
theorem Builder.Reachable.lower_preserves_meaning {b : Builder} (reachable : b.Reachable)
    (named : b.catalog.NamesFormals) (I : Interpretation D) (ctx : Formula.Context) {e : Expr}
    (known : ∀ id ∈ e.nodeIds, b.has id = true) {v : Value} {b' : Builder}
    (lowered : Formula.lower ctx e b = .ok v b') :
    I.Solves (I.valuation b'.nodes) b'.nodes ∧
      e.meaning I (b.setting ctx (I.valuation b.nodes)) = some (I.value (I.valuation b'.nodes) v) := by
  have before := reachable.wellFormed
  have after := conduct_wellFormed.lower ctx e b before
  rw [final_of_ok lowered] at after
  have solved := Interpretation.valuation_solves (I := I) after.distinct after.backward
  have grown := Formula.extends_of_lower lowered
  have stands := Formula.represents_lower ctx b v b' named lowered solved
  refine ⟨solved, ?_⟩
  have same : ∀ id ∈ e.nodeIds, I.valuation b'.nodes id = I.valuation b.nodes id := by
    intro id inside
    have present := NameMap.has_iff.mp (known id inside)
    exact Interpretation.eq_valuation_of_solves before.backward (grown.solves solved) present
  have moved := Expr.meaning_congr (I := I) (σ := b.setting ctx (I.valuation b'.nodes)) same
  exact moved.symm.trans stands.meaning

def Interpretation.sample : Interpretation Int where
  operation name arguments :=
    if name = "multiply" then (NameMap.values arguments).foldr (· * ·) 1
    else (NameMap.values arguments).foldr (· + ·) 0
  literal s := match s with
    | .number (.int n) => n
    | _ => 0
  parameter _ := 7
  element _ _ := 0
  tuple items := items.foldr (· + ·) 0
  whole _ := 0

def Expr.sample : Expr :=
  .call (.str "add")
    [.identifier "#add2",
      .unary (.str "-")
        (.group (.binary (.str "*") (.unary (.str "-") (.number (.int 5))) (.identifier "y")))]

theorem sample_lower_preserves_meaning : ∃ b v b', Session.sample.builder? 0 = some b ∧
    b.catalog.NamesFormals ∧ (∀ id ∈ Expr.sample.nodeIds, b.has id = true) ∧
    Formula.lower ⟨[], .index⟩ .sample b = .ok v b' ∧
    Interpretation.sample.value (Interpretation.sample.valuation b'.nodes) v = 38 ∧
    Expr.sample.meaning .sample
      (b.setting ⟨[], .index⟩ (Interpretation.sample.valuation b.nodes)) = some 38 := by
  obtain ⟨b, found, _⟩ := Option.map_eq_some_iff.mp Session.sample_first
  have computed : ((Session.sample.builder? 0).bind fun b =>
      match Formula.lower ⟨[], .index⟩ .sample b with
      | .ok v b' => some (Interpretation.sample.value (Interpretation.sample.valuation b'.nodes) v)
      | .error _ _ => none) = some 38 := by
    decide +kernel
  have conditions : (Session.sample.builder? 0).all (fun b =>
      b.catalog.NamesFormals && Expr.sample.nodeIds.all fun id => b.has id) = true := by
    decide +kernel
  rw [found, Option.bind_some] at computed
  rw [found, Option.all_some, Bool.and_eq_true, decide_eq_true_eq, List.all_eq_true] at conditions
  cases lowered : Formula.lower ⟨[], .index⟩ .sample b with
  | error fault b' =>
    rw [lowered] at computed
    cases computed
  | ok v b' =>
    rw [lowered] at computed
    refine ⟨b, v, b', found, conditions.1, conditions.2, lowered, Option.some.inj computed, ?_⟩
    have preserved := Builder.Reachable.lower_preserves_meaning
      ⟨Session.sample, 0, Session.sample_reachable, found⟩ conditions.1 .sample ⟨[], .index⟩
      conditions.2 lowered
    rw [preserved.2]
    exact computed

end FormulaGraph
