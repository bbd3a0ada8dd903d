import FormulaGraph.Proofs.Formula.Desugaring
import FormulaGraph.Proofs.Formula.Faults

/-!
# The applications of an expression

An expression is lowered to one node for each application in it, in the order in which they are evaluated,
and to no other: `Expr.applications` lists the operations of these nodes. What comes to anything but a node
has no applications, so a formula that is refused because it is no node has left none behind.
-/

namespace FormulaGraph

open Build

namespace Expr

mutual

/-- The operations that an expression applies, those of its operands first. A minus sign is a product, unless
the operand is a number. -/
def applications : Expr → List String
  | .number _ | .identifier _ => []
  | .group inner => applications inner
  | .call function args =>
    applicationsAll args ++
      match function with
      | .scalar (.str name) => [name]
      | _ => []
  | .binary operator left right =>
    applications left ++ applications right ++
      match operator with
      | .scalar (.str symbol) => (Operator.operation? symbol).toList
      | _ => []
  | .unary operator operand =>
    applications operand ++ if Formula.isMinus operator ∧ constant? operand = none then ["multiply"] else []

def applicationsAll : List Expr → List String
  | [] => []
  | arg :: rest => applications arg ++ applicationsAll rest

end

/-- The number inside all groups and signs, and how many of these signs are minus signs. -/
def signed? : Expr → Option (Number × Nat)
  | .number n => some (n, 0)
  | .group inner => signed? inner
  | .unary operator operand =>
    (signed? operand).map fun signed => (signed.1, if Formula.isMinus operator then signed.2 + 1 else signed.2)
  | .identifier _ | .call .. | .binary .. => none

theorem constant?_eq_signed? (e : Expr) :
    e.constant? = e.signed?.map fun signed => if signed.2 % 2 = 0 then signed.1 else signed.1.neg := by
  induction e using Expr.induct with
  | number n => rfl
  | identifier name => rfl
  | group inner ih => exact ih
  | call function args ih => rfl
  | binary operator left right ihl ihr => rfl
  | unary operator operand ih =>
    rw [signed?, Option.map_map]
    by_cases minus : operator = .str "-"
    · subst minus
      rw [constant?, ih, Option.map_map]
      congr 1
      funext signed
      simp only [Function.comp_apply, if_pos (Formula.isMinus_iff.mpr rfl)]
      -- one more minus sign changes the parity
      by_cases even : signed.2 % 2 = 0
      · rw [if_pos even, if_neg (by omega)]
      · rw [if_neg even, if_pos (by omega), Number.neg_neg]
    · rw [constant?_unary_of_ne minus, ih]
      simp only [Formula.isMinus_of_ne minus, Bool.false_eq_true, if_false]
      rfl

end Expr

/-- Behind the nodes of a builder there are more, which invoke some operations in order. -/
def Builder.Applies (b b' : Builder) (operations : List String) : Prop :=
  ∃ added, b'.nodes = b.nodes ++ added ∧
    added.map (fun entry => entry.2.operation) = operations.map Value.str

namespace Builder.Applies

variable {a b c : Builder} {xs ys : List String}

theorem none (nodes : b.nodes = a.nodes) : a.Applies b [] := ⟨[], by rw [nodes, List.append_nil], rfl⟩

theorem trans (first : a.Applies b xs) (second : b.Applies c ys) : a.Applies c (xs ++ ys) := by
  obtain ⟨early, nodes, operations⟩ := first
  obtain ⟨late, nodes', operations'⟩ := second
  refine ⟨early ++ late, by rw [nodes', nodes, List.append_assoc], ?_⟩
  rw [List.map_append, List.map_append, operations, operations']

theorem nodes_eq (applied : a.Applies b []) : b.nodes = a.nodes := by
  obtain ⟨added, nodes, operations⟩ := applied
  rw [nodes, List.map_eq_nil_iff.mp operations, List.append_nil]

end Builder.Applies

namespace Formula

variable {ctx : Context} {b b' : Builder} {v : Value}

/-! ### Nodes -/

theorem applies_invoke {operation : String} {arguments : Value}
    (invoked : invoke operation arguments b = .ok v b') :
    b.Applies b' [operation] ∧ ∃ id, v = .nodeRef id := by
  obtain ⟨n, refers, nodes, operates, _⟩ := invoke_ok invoked
  exact ⟨⟨[(n.id, n)], nodes, by rw [List.map_singleton, operates, List.map_singleton]⟩, n.id, refers⟩

/-- A lowering adds one node for each application, and what has none is no reference to a node unless it is
an identifier. -/
theorem applies_of_lower {e : Expr} (lowered : lower ctx e b = .ok v b') :
    b.Applies b' e.applications ∧ ((∀ id, v ≠ .nodeRef id) → e.applications = []) := by
  let P (e : Expr) (b : Builder) (v : Value) (b' : Builder) : Prop :=
    b.Applies b' e.applications ∧ ((∀ id, v ≠ .nodeRef id) → e.applications = [])
  let Q (args : List Expr) (b : Builder) (values : List Value) (b' : Builder) : Prop :=
    b.Applies b' (Expr.applicationsAll args)
  refine lower_ok_induct (P := P) (Q := Q) ?number ?identifier ?group ?nil ?cons ?call ?binary ?unary
    ?folded ?negated lowered
  case number => exact fun n b => ⟨.none rfl, fun _ => rfl⟩
  case identifier => exact fun name b v b' resolved => ⟨.none (nodes_of_resolve resolved), fun _ => rfl⟩
  case group => exact fun inner b v b' lowered ih => ih
  case nil => exact fun b => .none rfl
  case cons => exact fun arg rest b v c values b' first second ih later => ih.1.trans later
  case call =>
    intro function args b values c v b' each created ih
    obtain ⟨definition, rfl, _, _, invoked⟩ := callNode_ok created
    obtain ⟨last, id, rfl⟩ := applies_invoke invoked
    exact ⟨ih.trans last, fun other => absurd rfl (other id)⟩
  case binary =>
    intro operator left right b u c v d w b' first second created ihl ihr
    obtain ⟨symbol, operation, _, _, _, rfl, means, _, _, invoked⟩ := operatorNode_ok created
    obtain ⟨last, id, rfl⟩ := applies_invoke invoked
    refine ⟨?_, fun other => absurd rfl (other id)⟩
    have whole := (ihl.1.trans ihr.1).trans last
    simpa only [Expr.applications, means, Option.toList_some] using whole
  case unary =>
    intro operator operand b v b' other lowered ih
    have same : (Expr.unary operator operand).applications = operand.applications := by
      simp [Expr.applications, isMinus_of_ne other]
    change b.Applies b' _ ∧ _
    rw [same]
    exact ih
  case folded =>
    -- the operand is a number, so the sign before it is no application
    intro operand b n b' lowered ih
    have constant : operand.constant? = some n := (number?_of_lower lowered).symm
    have same : (Expr.unary (.str "-") operand).applications = operand.applications := by
      simp [Expr.applications, constant]
    change b.Applies b' _ ∧ _
    rw [same]
    exact ⟨ih.1, fun _ => ih.2 nofun⟩
  case negated =>
    intro operand b v c w b' other first created ih
    have constant : operand.constant? = none := (number?_of_lower first).symm.trans other
    obtain ⟨symbol, operation, _, _, _, times, means, _, _, invoked⟩ := operatorNode_ok created
    obtain ⟨last, id, rfl⟩ := applies_invoke invoked
    refine ⟨?_, fun other => absurd rfl (other id)⟩
    cases times
    cases means
    have whole := ih.1.trans last
    simpa [Expr.applications, constant, isMinus] using whole

theorem lower_of_constant {e : Expr} {n : Number} (constant : e.constant? = some n) (b : Builder) :
    lower ctx e b = .ok (.number n) b := by
  induction e using Expr.induct generalizing n with
  | number m =>
    cases constant
    rfl
  | identifier name | call function args | binary operator left right => cases constant
  | group inner ih => exact ih constant
  | unary operator operand ih =>
    rw [lower]
    by_cases minus : operator = .str "-"
    · subst minus
      rw [Expr.constant?] at constant
      obtain ⟨m, inner, rfl⟩ := Option.map_eq_some_iff.mp constant
      rw [bind_of_ok _ (ih inner)]
      rfl
    · rw [Expr.constant?_unary_of_ne minus] at constant
      rw [bind_of_ok _ (ih constant), isMinus_of_ne minus]
      rfl

/-! ### Refusals of what is no node -/

theorem nodes_of_compileExpr_refused {e : Expr} {mark : Bool} {value : Value}
    (refused : compileExpr ctx e mark b = .error (.formula (.nonNodeResult value)) b') : b'.nodes = b.nodes := by
  rcases bind_error refused with failed | ⟨v, c, lowered, failed⟩
  · rcases failsWith_lower e _ b' failed with ⟨cause, same, other⟩ | escapes
    · cases same
      cases other
    · cases escapes
  · rcases nodeRef_or_not v with ⟨id, rfl⟩ | other
    · obtain ⟨id, same⟩ := failsWith_finish_nodeRef id mark _ b' failed
      cases same
    · obtain ⟨applied, none⟩ := applies_of_lower lowered
      rw [none other] at applied
      rw [finish_of_other other] at failed
      split at failed <;> cases failed
      exact applied.nodes_eq

theorem nodes_of_compile_refused (h : b.WellFormed) {outer : List Scope} {source : Source} {options : Options}
    {value : Value}
    (refused : compile outer source options b = .error (.formula (.nonNodeResult value)) b') :
    b'.nodes = b.nodes := by
  cases read : source.accept with
  | error fault =>
    rw [compile_of_accept_error read] at refused
    cases refused
    rfl
  | ok parsed =>
    obtain ⟨start, nodes, _, _, _, fails⟩ := run_of_compile h read outer options
    obtain ⟨c, ran, kept⟩ := fails _ b' refused
    rw [kept, ← nodes]
    cases parsed with
    | expr e => exact nodes_of_compileExpr_refused ran
    | datum data | foreign kind text => cases ran

end Formula

open Formula

/-- An expression is lowered to one node for each of its applications, in order. It comes to a number exactly
if it is one up to signs and groups, of whose minus signs only the parity counts; and what does not come to a
node leaves no new one, also where a whole formula is refused for this. -/
theorem Builder.Reachable.lower_adds_applications {b : Builder} (reachable : b.Reachable) (ctx : Context)
    (e : Expr) :
    (∀ v b', lower ctx e b = .ok v b' →
      (∃ added, b'.nodes = b.nodes ++ added ∧
        added.map (fun entry => entry.2.operation) = e.applications.map Value.str) ∧
      v.number? = e.constant? ∧ ((∀ id, v ≠ .nodeRef id) → b'.nodes = b.nodes)) ∧
    (∀ n signs, e.signed? = some (n, signs) →
      lower ctx e b = .ok (.number (if signs % 2 = 0 then n else n.neg)) b) ∧
    ∀ outer source options value b',
      compile outer source options b = .error (.formula (.nonNodeResult value)) b' → b'.nodes = b.nodes := by
  refine ⟨fun v b' lowered => ?_, fun n signs signed => ?_, fun outer source options value b' refused => ?_⟩
  · obtain ⟨applied, none⟩ := applies_of_lower lowered
    refine ⟨applied, number?_of_lower lowered, fun other => ?_⟩
    rw [none other] at applied
    exact applied.nodes_eq
  · exact lower_of_constant (by rw [Expr.constant?_eq_signed?, signed]; rfl) b
  · exact nodes_of_compile_refused reachable.wellFormed refused

theorem sugared_adds_applications : ∃ b v b' c, b.Reachable ∧ lower ⟨[], .index⟩ .sugared b = .ok v b' ∧
    (∃ added, b'.nodes = b.nodes ++ added ∧
      added.map (fun entry => entry.2.operation) = [.str "multiply", .str "multiply", .str "add"]) ∧
    compile [] (.expr (.unary (.str "-") (.group (.unary (.str "-") (.number (.int 5))))))
      ⟨true, some [⟨"y", ""⟩], .index⟩ b = .error (.formula (.nonNodeResult (.number (.int 5)))) c ∧
    c.nodes = b.nodes := by
  have reachable : (Builder.empty Session.sampleCatalog none).Reachable :=
    ⟨_, 0, Session.Reachable.start.playAll [.begin Session.sampleCatalog none], rfl⟩
  obtain ⟨v, b', c, lowered, refused⟩ : ∃ v b' c,
      lower ⟨[], .index⟩ .sugared (.empty Session.sampleCatalog none) = .ok v b' ∧
      compile [] (.expr (.unary (.str "-") (.group (.unary (.str "-") (.number (.int 5))))))
        ⟨true, some [⟨"y", ""⟩], .index⟩ (.empty Session.sampleCatalog none) =
          .error (.formula (.nonNodeResult (.number (.int 5)))) c :=
    ⟨_, _, _, rfl, rfl⟩
  obtain ⟨lowering, _, refusing⟩ := reachable.lower_adds_applications ⟨[], .index⟩ .sugared
  exact ⟨_, v, b', c, reachable, lowered, (lowering v b' lowered).1, refused, refusing _ _ _ _ _ refused⟩

end FormulaGraph
