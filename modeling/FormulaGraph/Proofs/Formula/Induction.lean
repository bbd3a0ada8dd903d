import FormulaGraph.Proofs.Expr.Induction
import FormulaGraph.Proofs.Formula.Steps

/-!
# Induction on successful lowerings

A lowering that succeeds has come about in one of the ways that `lower_ok_induct` lists, and each of them
ends with a value of its own or with one more node. The inversions before it say what a call and an
operator have found in the catalog when they make this node.
-/

namespace FormulaGraph

open Build

def Value.number? : Value → Option Number
  | .scalar (.number n) => some n
  | _ => none

theorem Value.eq_of_number {v : Value} {n : Number} (number : v.number? = some n) : v = .number n := by
  unfold number? at number
  split at number
  · cases number
    rfl
  · cases number

namespace Formula

variable {ctx : Context} {b b' : Builder} {v : Value}

/-! ### Nodes -/

/-- A node is added behind the others, and the value refers to it. -/
theorem invoke_ok {operation : String} {arguments : Value}
    (invoked : invoke operation arguments b = .ok v b') :
    ∃ n, v = .nodeRef n.id ∧ b'.nodes = b.nodes ++ [(n.id, n)] ∧ n.operation = .str operation ∧
      b.bindArguments (.str operation) arguments = .ok (operation, n.arguments) := by
  unfold invoke at invoked
  rcases Builder.createNode_cases (.str operation) arguments none .null b with
    ⟨fault, failed⟩ | ⟨name, bound, key, counters, checked, _, created⟩
  · rw [failed] at invoked
    cases invoked
  · rw [created] at invoked
    cases invoked
    obtain ⟨_, _, _, _, text, _⟩ := Builder.bindArguments_ok checked
    obtain rfl : operation = name := by simpa using text
    exact ⟨_, rfl, rfl, rfl, checked⟩

/-- Arguments by name that need no coercion are those of the node. -/
theorem invoke_named_ok {operation : String} {named : NameMap Value}
    (each : ∀ entry ∈ named, entry.2.isArgument = true) (invoked : invoke operation (.obj named) b = .ok v b') :
    ∃ n, v = .nodeRef n.id ∧ b'.nodes = b.nodes ++ [(n.id, n)] ∧ n.operation = .str operation ∧
      n.arguments = named := by
  rcases invoke_cases each operation b with ⟨fault, failed, _⟩ | ⟨id, counters, succeeded⟩
  · rw [failed] at invoked
    cases invoked
  · rw [succeeded] at invoked
    cases invoked
    exact ⟨_, rfl, rfl, rfl, rfl⟩

theorem callNode_ok {function : Json} {arguments : List Value}
    (created : callNode function arguments b = .ok v b') :
    ∃ definition, function = .str definition.name ∧ b.catalog.get? definition.name = some definition ∧
      ¬ definition.arity < arguments.length ∧ invoke definition.name (.list arguments) b = .ok v b' := by
  rcases callNode_cases function arguments b with
    ⟨fault, failed, _⟩ | ⟨definition, text, offered, few, invokes⟩
  · rw [failed] at created
    cases created
  · exact ⟨definition, text, offered, few, invokes.symm.trans created⟩

theorem operatorNode_ok {operator : Json} {left right : Value}
    (created : operatorNode operator left right b = .ok v b') :
    ∃ symbol operation definition first second, operator = .str symbol ∧
      Operator.operation? symbol = some operation ∧ b.catalog.get? operation = some definition ∧
      operandNames? definition = some (first, second) ∧
      invoke operation (.obj (NameMap.ofList [(first, left), (second, right)])) b = .ok v b' := by
  rcases operatorNode_cases operator left right b with
    ⟨fault, failed, _⟩ | ⟨symbol, operation, definition, first, second, text, means, offered, operands, invokes⟩
  · rw [failed] at created
    cases created
  · exact ⟨symbol, operation, definition, first, second, text, means, offered, operands,
      invokes.symm.trans created⟩

/-- A call makes a node that has the arguments under the names that they are bound to. -/
theorem callNode_bound {function : Json} {arguments : List Value}
    (each : ∀ argument ∈ arguments, argument.isArgument = true)
    (created : callNode function arguments b = .ok v b') :
    ∃ n definition, v = .nodeRef n.id ∧ b'.nodes = b.nodes ++ [(n.id, n)] ∧ function = .str definition.name ∧
      b.catalog.get? definition.name = some definition ∧ ¬ definition.arity < arguments.length ∧
      n.operation = .str definition.name ∧ n.arguments = definition.bind arguments := by
  obtain ⟨definition, text, offered, few, invoked⟩ := callNode_ok created
  rw [invoke_positional offered few] at invoked
  obtain ⟨n, refers, nodes, operates, bound⟩ :=
    invoke_named_ok (fun entry member => each entry.2 (mem_of_mem_bind member)) invoked
  exact ⟨n, definition, refers, nodes, text, offered, few, operates, bound⟩

/-- An operator makes a node that has the operands under the names that it has for them. -/
theorem operatorNode_bound {operator : Json} {left right : Value} (leftArgument : left.isArgument = true)
    (rightArgument : right.isArgument = true) (created : operatorNode operator left right b = .ok v b') :
    ∃ n symbol operation definition first second, v = .nodeRef n.id ∧ b'.nodes = b.nodes ++ [(n.id, n)] ∧
      operator = .str symbol ∧ Operator.operation? symbol = some operation ∧
      b.catalog.get? operation = some definition ∧ operandNames? definition = some (first, second) ∧
      n.operation = .str operation ∧ n.arguments = NameMap.ofList [(first, left), (second, right)] := by
  obtain ⟨symbol, operation, definition, first, second, text, means, offered, operands, invoked⟩ :=
    operatorNode_ok created
  have each : ∀ entry ∈ NameMap.ofList [(first, left), (second, right)], entry.2.isArgument = true := by
    intro entry member
    rcases eq_or_eq_of_mem_operands member with same | same
    · exact same ▸ leftArgument
    · exact same ▸ rightArgument
  obtain ⟨n, refers, nodes, operates, bound⟩ := invoke_named_ok each invoked
  exact ⟨n, symbol, operation, definition, first, second, refers, nodes, text, means, offered, operands,
    operates, bound⟩

/-! ### Signs -/

theorem isMinus_iff {operator : Json} : isMinus operator = true ↔ operator = .str "-" := by
  unfold isMinus
  split
  · simp
  · rename_i other
    constructor
    · intro h
      cases h
    · intro same
      exact (other "-" same).elim

theorem ne_minus {operator : Json} (other : isMinus operator = false) : operator ≠ .str "-" := by
  intro same
  rw [isMinus_iff.mpr same] at other
  cases other

theorem isMinus_of_ne {operator : Json} (other : operator ≠ .str "-") : isMinus operator = false :=
  Bool.eq_false_iff.mpr fun minus => other (isMinus_iff.mp minus)

theorem negate_of_number {n : Number} (number : v.number? = some n) : negate v = pure (.number n.neg) := by
  rw [Value.eq_of_number number]
  rfl

theorem negate_of_not_number (number : v.number? = none) :
    negate v = operatorNode (.str "*") (.number (.int (-1))) v := by
  unfold negate
  split
  · cases number
  · rfl

/-! ### Expressions -/

theorem lowerAll_ok_induct {P : Expr → Builder → Value → Builder → Prop}
    {Q : List Expr → Builder → List Value → Builder → Prop} (nil : ∀ b, Q [] b [] b)
    (cons : ∀ arg rest b v c values b', lower ctx arg b = .ok v c → lowerAll ctx rest c = .ok values b' →
      P arg b v c → Q rest c values b' → Q (arg :: rest) b (v :: values) b')
    {args : List Expr} (each : ∀ arg ∈ args, ∀ b v b', lower ctx arg b = .ok v b' → P arg b v b')
    {values : List Value} (lowered : lowerAll ctx args b = .ok values b') : Q args b values b' := by
  induction args generalizing b values with
  | nil =>
    rw [lowerAll] at lowered
    obtain ⟨rfl, rfl⟩ := pure_ok lowered
    exact nil b'
  | cons arg rest ih =>
    rw [lowerAll] at lowered
    obtain ⟨v, middle, first, lowered⟩ := bind_ok lowered
    obtain ⟨others, last, second, lowered⟩ := bind_ok lowered
    obtain ⟨rfl, rfl⟩ := pure_ok lowered
    exact cons arg rest b v middle others b' first second (each arg List.mem_cons_self b v middle first)
      (ih (fun arg member => each arg (List.mem_cons_of_mem _ member)) second)

/-- What holds of the successful lowering of an expression as soon as it holds of those of its parts holds
of every one. A minus sign has two cases, as it is folded into a number and multiplies anything else. -/
theorem lower_ok_induct {P : Expr → Builder → Value → Builder → Prop}
    {Q : List Expr → Builder → List Value → Builder → Prop}
    (number : ∀ n b, P (.number n) b (.number n) b)
    (identifier : ∀ name b v b', resolve ctx name b = .ok v b' → P (.identifier name) b v b')
    (group : ∀ inner b v b', lower ctx inner b = .ok v b' → P inner b v b' → P (.group inner) b v b')
    (nil : ∀ b, Q [] b [] b)
    (cons : ∀ arg rest b v c values b', lower ctx arg b = .ok v c → lowerAll ctx rest c = .ok values b' →
      P arg b v c → Q rest c values b' → Q (arg :: rest) b (v :: values) b')
    (call : ∀ function args b values c v b', lowerAll ctx args b = .ok values c →
      callNode function values c = .ok v b' → Q args b values c → P (.call function args) b v b')
    (binary : ∀ operator left right b u c v d w b', lower ctx left b = .ok u c → lower ctx right c = .ok v d →
      operatorNode operator u v d = .ok w b' → P left b u c → P right c v d →
      P (.binary operator left right) b w b')
    (unary : ∀ operator operand b v b', operator ≠ .str "-" → lower ctx operand b = .ok v b' →
      P operand b v b' → P (.unary operator operand) b v b')
    (folded : ∀ operand b n b', lower ctx operand b = .ok (.number n) b' → P operand b (.number n) b' →
      P (.unary (.str "-") operand) b (.number n.neg) b')
    (negated : ∀ operand b v c w b', v.number? = none → lower ctx operand b = .ok v c →
      operatorNode (.str "*") (.number (.int (-1))) v c = .ok w b' → P operand b v c →
      P (.unary (.str "-") operand) b w b')
    {e : Expr} (lowered : lower ctx e b = .ok v b') : P e b v b' := by
  induction e using Expr.induct generalizing b v b' with
  | number n =>
    rw [lower] at lowered
    obtain ⟨rfl, rfl⟩ := pure_ok lowered
    exact number n b'
  | identifier name =>
    rw [lower] at lowered
    exact identifier name b v b' lowered
  | group inner ih =>
    rw [lower] at lowered
    exact group inner b v b' lowered (ih lowered)
  | call function args ih =>
    rw [lower] at lowered
    obtain ⟨values, middle, first, created⟩ := bind_ok lowered
    exact call function args b values middle v b' first created
      (lowerAll_ok_induct nil cons (fun arg member b v b' => ih arg member) first)
  | binary operator left right ihl ihr =>
    rw [lower] at lowered
    obtain ⟨u, middle, first, lowered⟩ := bind_ok lowered
    obtain ⟨w, last, second, created⟩ := bind_ok lowered
    exact binary operator left right b u middle w last v b' first second created (ihl first) (ihr second)
  | unary operator operand ih =>
    rw [lower] at lowered
    obtain ⟨value, middle, first, lowered⟩ := bind_ok lowered
    cases minus : isMinus operator with
    | false =>
      rw [minus] at lowered
      obtain ⟨rfl, rfl⟩ := pure_ok lowered
      exact unary operator operand b v b' (ne_minus minus) first (ih first)
    | true =>
      obtain rfl := isMinus_iff.mp minus
      rw [minus, if_pos rfl] at lowered
      cases constant : value.number? with
      | some n =>
        rw [negate_of_number constant] at lowered
        obtain ⟨rfl, rfl⟩ := pure_ok lowered
        rw [Value.eq_of_number constant] at first
        exact folded operand b n b' first (ih first)
      | none =>
        rw [negate_of_not_number constant] at lowered
        exact negated operand b value middle v b' constant first lowered (ih first)

end Formula
end FormulaGraph
