import FormulaGraph.Proofs.Formula.Lowering

/-!
# Operators as function calls

`Expr.desugar` puts function calls in the place of operators and leaves groups out. Where the catalog
offers the operations of the operators, an expression without its sugar is lowered to the same value,
or the same fault, and leaves the same builder: `Formula.lower_desugar`. Whether a minus sign folds is
decided by the lowered operand in the one and by the expression in the other, so the induction needs
that the two agree: `Formula.number?_of_lower`.
-/

namespace FormulaGraph

open Build

namespace Expr

/-- A number with the opposite sign, or else a product with minus one. -/
def minus : Expr → Expr
  | .number n => .number n.neg
  | other => .call (.str "multiply") [.number (.int (-1)), other]

mutual

/-- The expression with function calls in the place of operators, and without groups. An operator
without an operation stays. -/
def desugar : Expr → Expr
  | .number n => .number n
  | .identifier name => .identifier name
  | .group inner => desugar inner
  | .call function args => .call function (desugarAll args)
  | .binary operator left right =>
    match Operator.find operator with
    | .ok (some operation) => .call (.str operation) [desugar left, desugar right]
    | _ => .binary operator (desugar left) (desugar right)
  | .unary operator operand =>
    if Formula.isMinus operator then minus (desugar operand) else desugar operand

def desugarAll : List Expr → List Expr
  | [] => []
  | arg :: rest => desugar arg :: desugarAll rest

end

mutual

/-- The operators that invoke operations. A minus sign before a number invokes none, before all else
it invokes that of a product. -/
def operators : Expr → List Json
  | .number _ | .identifier _ => []
  | .group inner => operators inner
  | .call _ args => operatorsAll args
  | .binary operator left right => operator :: (operators left ++ operators right)
  | .unary operator operand =>
    if Formula.isMinus operator ∧ constant? operand = none then .str "*" :: operators operand
    else operators operand

def operatorsAll : List Expr → List Json
  | [] => []
  | arg :: rest => operators arg ++ operatorsAll rest

end

def literal? : Expr → Option Number
  | .number n => some n
  | _ => none

theorem eq_number_of_literal {e : Expr} {n : Number} (literal : e.literal? = some n) :
    e = .number n := by
  unfold literal? at literal
  split at literal
  · cases literal
    rfl
  · cases literal

theorem minus_of_literal {e : Expr} {n : Number} (literal : e.literal? = some n) :
    e.minus = .number n.neg := by
  rw [eq_number_of_literal literal]
  rfl

theorem minus_of_not_literal {e : Expr} (other : e.literal? = none) :
    e.minus = .call (.str "multiply") [.number (.int (-1)), e] := by
  unfold minus
  split
  · cases other
  · rfl

theorem literal?_minus (e : Expr) : e.minus.literal? = e.literal?.map Number.neg := by
  cases h : e.literal? with
  | some n =>
    rw [minus_of_literal h]
    rfl
  | none =>
    rw [minus_of_not_literal h]
    rfl

theorem literal?_desugar (e : Expr) : e.desugar.literal? = e.constant? := by
  induction e using Expr.induct with
  | number n => rfl
  | identifier name => rfl
  | group inner ih => exact ih
  | call function args ih => rfl
  | binary operator left right ihl ihr =>
    rw [desugar]
    split <;> rfl
  | unary operator operand ih =>
    rw [desugar]
    cases minus : Formula.isMinus operator with
    | true =>
      obtain rfl := Formula.isMinus_iff.mp minus
      rw [if_pos rfl, literal?_minus, ih, constant?]
    | false => rw [if_neg Bool.false_ne_true, ih, constant?_unary_of_ne (Formula.ne_minus minus)]

end Expr

/-- An operator has an operation in a catalog, whose first two parameters have names. -/
def Catalog.Operates (c : Catalog) (operator : Json) : Prop :=
  ∃ operation definition first second others, Operator.find operator = .ok (some operation) ∧
    c.get? operation = some definition ∧
    definition.parameterNames = first :: second :: others ∧ first ≠ "" ∧ second ≠ ""

namespace Formula

variable {ctx : Context}

/-! ### Numbers -/

theorem number?_of_resolve {name : String} {b b' : Builder} {v : Value}
    (resolved : resolve ctx name b = .ok v b') : v.number? = none := by
  rcases resolve_ok resolved with ⟨value, form, rfl⟩ | ⟨id, _, _, rfl⟩ |
    ⟨_, _, _, _, _, _, _, rfl⟩ | ⟨_, rfl⟩
  · exact number?_of_keyword form
  all_goals rfl

theorem number?_of_lower {e : Expr} {b b' : Builder} {v : Value}
    (lowered : lower ctx e b = .ok v b') : v.number? = e.constant? := by
  refine lower_ok_induct (P := fun e _ v _ => v.number? = e.constant?) (Q := fun _ _ _ _ => True) ?number
    ?identifier ?group ?nil ?cons ?call ?binary ?unary ?folded ?negated lowered
  case number => exact fun n b => rfl
  case identifier => exact fun name b v b' resolved => number?_of_resolve resolved
  case group => exact fun inner b v b' lowered ih => ih
  case nil => exact fun b => trivial
  case cons => exact fun arg rest b v c values b' first second ih later => trivial
  case call =>
    intro function args b values c v b' each created ih
    obtain ⟨_, _, _, _, invoked⟩ := callNode_ok created
    obtain ⟨n, rfl, _⟩ := invoke_ok invoked
    rfl
  case binary =>
    intro operator left right b u c v d w b' first second created ihl ihr
    obtain ⟨_, _, _, _, _, _, _, _, _, invoked⟩ := operatorNode_ok created
    obtain ⟨n, rfl, _⟩ := invoke_ok invoked
    rfl
  case unary =>
    intro operator operand b v b' other lowered ih
    rw [ih, Expr.constant?_unary_of_ne other]
  case folded =>
    intro operand b n b' lowered ih
    rw [Expr.constant?, ← ih]
    rfl
  case negated =>
    intro operand b v c w b' other first created ih
    obtain ⟨_, _, _, _, _, _, _, _, _, invoked⟩ := operatorNode_ok created
    obtain ⟨n, rfl, _⟩ := invoke_ok invoked
    rw [Expr.constant?, ← ih, other]
    rfl

/-! ### Operators -/

theorem two_le_arity {definition : Operation} {first second : String} {others : List String}
    (formals : definition.parameterNames = first :: second :: others) : 2 ≤ definition.arity := by
  have count := congrArg List.length formals
  simp only [Operation.parameterNames, List.length_map, List.length_cons] at count
  unfold Operation.arity
  omega

theorem operandNames?_of_named {definition : Operation} {first second : String} {rest : List String}
    (formals : definition.parameterNames = first :: second :: rest) (named : first ≠ "")
    (named' : second ≠ "") : operandNames? definition = some (first, second) := by
  unfold Operation.parameterNames at formals
  obtain ⟨p, _, parameters, rfl, later⟩ := List.map_eq_cons_iff.mp formals
  obtain ⟨q, others, rfl, rfl, _⟩ := List.map_eq_cons_iff.mp later
  exact operandNames?_eq_some.mpr ⟨p, q, others, parameters, if_neg named, if_neg named'⟩

/-- An operator makes the node that a call of its operation makes. -/
theorem operatorNode_eq_callNode {b : Builder} {symbol : Json} {operation first second : String}
    {definition : Operation} {others : List String}
    (means : Operator.find symbol = .ok (some operation))
    (offered : b.catalog.get? operation = some definition)
    (formals : definition.parameterNames = first :: second :: others) (named : first ≠ "")
    (named' : second ≠ "") (left right : Value) :
    operatorNode symbol left right b = callNode (.str operation) [left, right] b := by
  have few : ¬ definition.arity < [left, right].length := Nat.not_lt.mpr (two_le_arity formals)
  have called : callNode (.str operation) [left, right] b =
      invoke operation (.obj (NameMap.ofList [(first, left), (second, right)])) b := by
    obtain rfl := Catalog.name_of_get? offered
    unfold callNode
    rw [Catalog.find_text, offered]
    dsimp only
    rw [if_neg few, invoke_positional offered few, Operation.bind, formals, List.zip_cons_cons,
      List.zip_cons_cons, List.zip_nil_right]
  rw [called]
  unfold operatorNode
  rw [means]
  dsimp only
  rw [offered]
  dsimp only
  rw [operandNames?_of_named formals named named']

theorem lowerAll_pair (left right : Expr) (f : List Value → Build Value) :
    lowerAll ctx [left, right] >>= f =
      lower ctx left >>= fun a => lower ctx right >>= fun c => f [a, c] := by
  simp only [lowerAll, bind_assoc, pure_bind]

/-! ### Expressions -/

theorem lowerAll_desugarAll {args : List Expr}
    (each : ∀ arg ∈ args, ∀ b : Builder, (∀ symbol ∈ arg.operators, b.catalog.Operates symbol) →
      lower ctx arg.desugar b = lower ctx arg b) {b : Builder}
    (offered : ∀ symbol ∈ Expr.operatorsAll args, b.catalog.Operates symbol) :
    lowerAll ctx (Expr.desugarAll args) b = lowerAll ctx args b := by
  induction args generalizing b with
  | nil => rfl
  | cons arg rest ih =>
    rw [Expr.operatorsAll] at offered
    rw [Expr.desugarAll, lowerAll, lowerAll]
    refine bind_congr_at (each arg List.mem_cons_self b fun symbol used => ?_) fun value middle first => ?_
    · exact offered symbol (List.mem_append_left _ used)
    · refine bind_congr_at (ih (fun arg member => each arg (List.mem_cons_of_mem _ member)) ?_)
        fun values last _ => rfl
      intro symbol used
      rw [(extends_of_lower first).catalog]
      exact offered symbol (List.mem_append_right _ used)

/-- The sign is folded into the literal on the one side, and into the lowered value on the other. -/
theorem lower_minus {e : Expr} {b : Builder} (same : lower ctx e.desugar b = lower ctx e b)
    (offered : e.constant? = none → b.catalog.Operates (.str "*")) :
    lower ctx e.desugar.minus b = (lower ctx e >>= negate) b := by
  cases constant : e.constant? with
  | some n =>
    have literal : e.desugar.literal? = some n := by rw [Expr.literal?_desugar, constant]
    rw [Expr.minus_of_literal literal, lower]
    rw [Expr.eq_number_of_literal literal, lower] at same
    rw [bind_of_ok _ same.symm]
    rfl
  | none =>
    have literal : e.desugar.literal? = none := by rw [Expr.literal?_desugar, constant]
    rw [Expr.minus_of_not_literal literal, lower, lowerAll_pair, lower, pure_bind]
    refine bind_congr_at same fun value middle lowered => ?_
    have number := number?_of_lower lowered
    rw [constant] at number
    rw [negate_of_not_number number]
    obtain ⟨operation, definition, first, second, others, means, found, formals, named, named'⟩ :=
      offered constant
    obtain rfl : "multiply" = operation := Option.some.inj (Except.ok.inj means)
    have grown := (extends_of_lower lowered).catalog
    exact (operatorNode_eq_callNode means (by rwa [grown]) formals named named' _ _).symm

/-- An expression and what it is without its sugar are lowered alike: they come to the same value or
the same fault, and leave the same builder, with the same nodes, parameters and counters. -/
theorem lower_desugar (ctx : Context) (e : Expr) (b : Builder)
    (offered : ∀ symbol ∈ e.operators, b.catalog.Operates symbol) :
    lower ctx e.desugar b = lower ctx e b := by
  induction e using Expr.induct generalizing b with
  | number n => rfl
  | identifier name => rfl
  | group inner ih =>
    rw [Expr.desugar, lower]
    exact ih b offered
  | call function args ih =>
    rw [Expr.desugar, lower, lower]
    exact bind_congr_at (lowerAll_desugarAll ih offered) fun values middle _ => rfl
  | binary operator left right ihl ihr =>
    rw [Expr.operators] at offered
    obtain ⟨operation, definition, first, second, others, means, found, formals, named, named'⟩ :=
      offered operator List.mem_cons_self
    rw [Expr.desugar, means]
    dsimp only
    rw [lower, lower, lowerAll_pair]
    refine bind_congr_at (ihl b fun symbol used => ?_) fun a middle lowered => ?_
    · exact offered symbol (List.mem_cons_of_mem _ (List.mem_append_left _ used))
    · have grown := (extends_of_lower lowered).catalog
      refine bind_congr_at (ihr middle fun symbol used => ?_) fun c last lowered' => ?_
      · rw [grown]
        exact offered symbol (List.mem_cons_of_mem _ (List.mem_append_right _ used))
      · have again := (extends_of_lower lowered').catalog
        exact (operatorNode_eq_callNode means (by rwa [again, grown]) formals named named' a c).symm
  | unary operator operand ih =>
    rw [Expr.operators] at offered
    have inner : lower ctx operand.desugar b = lower ctx operand b := by
      refine ih b fun symbol used => offered symbol ?_
      split
      · exact List.mem_cons_of_mem _ used
      · exact used
    rw [Expr.desugar, lower]
    cases minus : isMinus operator with
    | false =>
      rw [if_neg Bool.false_ne_true]
      simp only [Bool.false_eq_true, if_false, bind_pure]
      exact inner
    | true =>
      simp only [if_true]
      exact lower_minus inner fun constant => offered _ (by rw [minus, constant]; simp)

end Formula

def Expr.sugared : Expr :=
  .binary (.str "+")
    (.unary (.str "-")
      (.group (.binary (.str "*") (.unary (.str "-") (.number (.int 5))) (.identifier "y"))))
    (.unary (.str "+") (.identifier "z"))

theorem sugared_lower_desugar :
    Expr.sugared.desugar = .call (.str "add")
      [.call (.str "multiply")
        [.number (.int (-1)), .call (.str "multiply") [.number (.int (-5)), .identifier "y"]],
        .identifier "z"] ∧
    (∀ symbol ∈ Expr.sugared.operators, Session.sampleCatalog.Operates symbol) ∧
    Formula.lower ⟨[], .index⟩ Expr.sugared.desugar (.empty Session.sampleCatalog none) =
      Formula.lower ⟨[], .index⟩ .sugared (.empty Session.sampleCatalog none) ∧
    NameMap.keys ((Formula.lower ⟨[], .index⟩ Expr.sugared.desugar).final
      (.empty Session.sampleCatalog none)).nodes = ["multiply1", "multiply2", "add1"] := by
  have offered : ∀ symbol ∈ Expr.sugared.operators, Session.sampleCatalog.Operates symbol := by
    intro symbol used
    have either : symbol = .str "+" ∨ symbol = .str "*" ∨ symbol = .str "*" := by
      simpa [Expr.operators, Expr.sugared, Expr.constant?, Formula.isMinus] using used
    rcases either with rfl | rfl | rfl
    · exact ⟨"add", _, "x", "y", [], rfl, rfl, rfl, by decide, by decide⟩
    · exact ⟨"multiply", _, "x", "y", [], rfl, rfl, rfl, by decide, by decide⟩
    · exact ⟨"multiply", _, "x", "y", [], rfl, rfl, rfl, by decide, by decide⟩
  exact ⟨rfl, offered, Formula.lower_desugar ⟨[], .index⟩ .sugared _ offered, by decide +kernel⟩

end FormulaGraph
