import FormulaGraph.Proofs.Builder.Contract
import FormulaGraph.Proofs.Formula.Desugaring
import FormulaGraph.Proofs.Formula.Faults

/-!
# Arguments by position

A node holds its arguments under the names of formal parameters, and nothing sees to it that these differ.
Positional arguments are all there, each in its place, exactly if their names differ, and so are the operands
of an operator, whose unnamed parameters have names by their places. Where two have one name the later one
takes the place of the earlier, which is lost without a fault.
-/

namespace FormulaGraph

open Build

/-! ### Coercion under names -/

theorem keys_of_coerceNamed {named bound : NameMap Value} (coerced : coerceNamed named = .ok bound) :
    NameMap.keys bound = NameMap.keys named := by
  rw [coerceNamed_eq] at coerced
  rw [← Value.unlessRefused_ok coerced, NameMap.keys_mapValues]

theorem coerce_of_coerceNamed {named bound : NameMap Value} (coerced : coerceNamed named = .ok bound)
    {name : String} {item : Value} (found : NameMap.get? named name = some item) :
    ∃ a, item.coerce = .ok a ∧ NameMap.get? bound name = some a := by
  induction named generalizing bound with
  | nil => cases found
  | cons entry rest ih =>
    obtain ⟨key, value⟩ := entry
    obtain ⟨first, others, here, later, rfl⟩ := coerceNamed_cons.mp coerced
    by_cases same : key = name
    · rw [NameMap.get?, if_pos same] at found ⊢
      cases found
      exact ⟨first, here, rfl⟩
    · rw [NameMap.get?, if_neg same] at found ⊢
      exact ih later found

theorem coerceAll_of_coerceNamed {named bound : NameMap Value} (coerced : coerceNamed named = .ok bound) :
    Value.coerceAll (NameMap.values named) = .ok (NameMap.values bound) := by
  induction named generalizing bound with
  | nil =>
    cases coerced
    rfl
  | cons entry rest ih =>
    obtain ⟨key, value⟩ := entry
    obtain ⟨first, others, here, later, rfl⟩ := coerceNamed_cons.mp coerced
    exact Value.coerceAll_cons.mpr ⟨first, _, here, ih later, rfl⟩

theorem length_of_coerceAll {items out : List Value} (coerced : Value.coerceAll items = .ok out) :
    out.length = items.length := by
  induction items generalizing out with
  | nil =>
    cases coerced
    rfl
  | cons item rest ih =>
    obtain ⟨first, others, _, later, rfl⟩ := Value.coerceAll_cons.mp coerced
    rw [List.length_cons, List.length_cons, ih later]

/-! ### Formal names -/

/-- What items come to under the names that they are bound to in order. -/
structure LastBound (names : List String) (items : List Value) (bound : NameMap Value) : Prop where
  /-- Each of the names that are used is there once, in the place where it comes first. -/
  keys : NameMap.keys bound = (names.take items.length).eraseDups
  /-- Of the items with one name the last one is there. -/
  last : ∀ before name item after, names.zip items = before ++ (name, item) :: after →
    name ∉ NameMap.keys after → ∃ a, item.coerce = .ok a ∧ NameMap.get? bound name = some a
  /-- All items are there, each in its place, exactly if no name is used twice. -/
  whole : Value.coerceAll items = .ok (NameMap.values bound) ↔ (names.take items.length).Nodup

variable {names : List String} {items : List Value} {bound : NameMap Value}

theorem keys_zip (names : List String) (items : List Value) :
    NameMap.keys (names.zip items) = names.take items.length := by
  induction names generalizing items with
  | nil => simp [NameMap.keys]
  | cons name rest ih =>
    cases items with
    | nil => simp [NameMap.keys]
    | cons item others => exact congrArg (List.cons name) (ih others)

theorem lastBound_of_coerceNamed (fits : items.length ≤ names.length)
    (coerced : coerceNamed (NameMap.ofList (names.zip items)) = .ok bound) : LastBound names items bound where
  keys := by rw [keys_of_coerceNamed coerced, NameMap.keys_ofList, keys_zip]
  last := by
    intro before name item after split absent
    rw [split] at coerced
    exact coerce_of_coerceNamed coerced (NameMap.get?_ofList_of_last item absent)
  whole := by
    rw [← keys_zip]
    constructor
    · intro all
      -- as many values as items means that no entry has been replaced
      have values : (NameMap.values bound).length = items.length := length_of_coerceAll all
      have entries := congrArg List.length (keys_of_coerceNamed coerced)
      refine NameMap.nodup_of_length_ofList ?_
      simp only [NameMap.keys, NameMap.values, List.length_map] at values entries
      rw [← entries, values, List.length_zip, Nat.min_eq_right fits]
    · intro distinct
      rw [NameMap.ofList_of_nodup distinct] at coerced
      have values := coerceAll_of_coerceNamed coerced
      rwa [NameMap.values, List.map_snd_zip fits] at values

namespace Builder

theorem length_parameterNames (o : Operation) : o.parameterNames.length = o.arity := List.length_map _

theorem lastBound_of_bindArguments {b : Builder} {operation name : String} {arguments : Value}
    (given : arguments.items? = some items)
    (checked : b.bindArguments (.str operation) arguments = .ok (name, bound)) :
    ∃ definition, b.catalog.get? operation = some definition ∧ items.length ≤ definition.arity ∧
      LastBound definition.parameterNames items bound := by
  obtain ⟨definition, source, named, offered, text, asked, naming, coerced, _⟩ := bindArguments_ok checked
  cases text
  rw [Value.asArguments_of_items given] at asked
  cases asked
  unfold nameArguments at naming
  dsimp only at naming
  split at naming
  · cases naming
  · rename_i few
    cases naming
    have fits := Nat.le_of_not_lt few
    exact ⟨definition, offered, fits,
      lastBound_of_coerceNamed (by rwa [length_parameterNames]) coerced⟩

end Builder

namespace Formula

theorem length_of_lowerAll {ctx : Context} {args : List Expr} {b b' : Builder} {values : List Value}
    (lowered : lowerAll ctx args b = .ok values b') : values.length = args.length := by
  refine lowerAll_ok_induct (P := fun _ _ _ _ => True) (Q := fun args _ values _ => values.length = args.length)
    (fun _ => rfl) (fun arg rest b v c values b' _ _ _ later => ?_) (fun _ _ _ _ _ _ => trivial) lowered
  rw [List.length_cons, List.length_cons, later]

/-- Positional arguments of a node that is created, and those of a call that is lowered, are bound to the names
of the formal parameters in order. They are all there, coerced and each in its place, exactly if these names
differ. Otherwise of those with one name only the last one is there, in the place of the first. -/
theorem positional_arguments_bound (b : Builder) :
    (∀ (operation : String) (arguments : Value) (items : List Value) (id : Option String)
        (description : Json) (n : Node) (b' : Builder), arguments.items? = some items →
      Builder.createNode (.str operation) arguments id description b = .ok n b' →
      ∃ definition, b.catalog.get? operation = some definition ∧ items.length ≤ definition.arity ∧
        b'.nodes = b.nodes ++ [(n.id, n)] ∧ LastBound definition.parameterNames items n.arguments) ∧
    ∀ (ctx : Context) (function : Json) (args : List Expr) (v : Value) (b' : Builder),
      lower ctx (.call function args) b = .ok v b' →
      ∃ values c definition n, lowerAll ctx args b = .ok values c ∧ values.length = args.length ∧
        Value.coerceAll values = .ok values ∧ function = .str definition.name ∧
        c.catalog.get? definition.name = some definition ∧ args.length ≤ definition.arity ∧
        v = .nodeRef n.id ∧ b'.nodes = c.nodes ++ [(n.id, n)] ∧
        LastBound definition.parameterNames values n.arguments := by
  constructor
  · intro operation arguments items id description n b' given created
    rcases Builder.createNode_cases (.str operation) arguments id description b with
      ⟨fault, failed⟩ | ⟨name, bound, key, counters, checked, _, succeeded⟩
    · rw [failed] at created
      cases created
    · rw [succeeded] at created
      cases created
      obtain ⟨definition, offered, fits, sound⟩ := Builder.lastBound_of_bindArguments given checked
      exact ⟨definition, offered, fits, rfl, sound⟩
  · intro ctx function args v b' lowered
    rw [lower] at lowered
    obtain ⟨values, c, each, created⟩ := bind_ok lowered
    obtain ⟨definition, text, offered, few, invoked⟩ := callNode_ok created
    obtain ⟨n, refers, nodes, _, checked⟩ := invoke_ok invoked
    obtain ⟨found, again, _, sound⟩ := Builder.lastBound_of_bindArguments rfl checked
    rw [offered] at again
    cases again
    have plain : Value.areArguments values = true := Value.areArguments_iff.mpr (isArgument_of_lowerAll each)
    have same := length_of_lowerAll each
    exact ⟨values, c, definition, n, each, same,
      Value.coerceAll_of_areArguments (fun _ _ => Value.coerce_of_isArgument) plain, text, offered,
      by omega, refers, nodes, sound⟩

def repeatedFormals : Catalog :=
  .ofOperations [⟨"clip", "", "", [⟨"x", "", false⟩, ⟨"", "", true⟩, ⟨"x", "", false⟩]⟩]

/-- Two arguments of the operation are kept; of three the first gives way to the last. -/
theorem repeatedFormals_bound : ∃ (n : Node) (b : Builder) (m : Node) (c : Builder),
    Builder.createNode (.str "clip") (.list [.number (.int 1), .list [.null]]) none .null
      (.empty repeatedFormals none) = .ok n b ∧
    Value.coerceAll [.number (.int 1), .list [.null]] = .ok (NameMap.values n.arguments) ∧
    lower ⟨[], .index⟩ (.call (.str "clip") [.number (.int 1), .number (.int 2), .number (.int 3)])
      (.empty repeatedFormals none) = .ok (.nodeRef m.id) c ∧
    NameMap.keys m.arguments = ["x", ""] ∧ NameMap.get? m.arguments "x" = some (.number (.int 3)) := by
  obtain ⟨creation, calling⟩ := positional_arguments_bound (.empty repeatedFormals none)
  obtain ⟨n, b, created⟩ : ∃ n b, Builder.createNode (.str "clip")
      (.list [.number (.int 1), .list [.null]]) none .null (.empty repeatedFormals none) = .ok n b :=
    ⟨_, _, rfl⟩
  obtain ⟨v, c, lowered⟩ : ∃ v c, lower ⟨[], .index⟩
      (.call (.str "clip") [.number (.int 1), .number (.int 2), .number (.int 3)])
      (.empty repeatedFormals none) = .ok v c :=
    ⟨_, _, rfl⟩
  obtain ⟨definition, offered, _, _, two⟩ := creation _ _ _ _ _ n b rfl created
  cases offered
  obtain ⟨values, d, definition, m, each, _, _, text, offered, _, rfl, _, three⟩ :=
    calling _ _ _ _ _ lowered
  have name : definition.name = "clip" := by simpa using text.symm
  cases each
  rw [name] at offered
  cases offered
  obtain ⟨a, coerced, last⟩ :=
    three.last [("x", .number (.int 1)), ("", .number (.int 2))] "x" (.number (.int 3)) [] rfl (by decide)
  cases coerced
  exact ⟨n, b, m, c, created, two.whole.mpr (by decide), lowered, three.keys, last⟩

/-- Nothing keeps the first of two unnamed parameters its argument. -/
theorem positional_argument_lost : ¬ ∀ (b : Builder) (operation : String) (items : List Value)
    (id : Option String) (description : Json) (n : Node) (b' : Builder),
    Builder.createNode (.str operation) (.list items) id description b = .ok n b' →
    Value.coerceAll items = .ok (NameMap.values n.arguments) := by
  intro kept
  let unnamed : Catalog := .ofOperations [⟨"add", "", "", [⟨"", "", false⟩, ⟨"", "", false⟩]⟩]
  obtain ⟨n, b', created, values⟩ : ∃ n b',
      Builder.createNode (.str "add") (.list [.number (.int 1), .number (.int 2)]) none .null
        (.empty unnamed none) = .ok n b' ∧ NameMap.values n.arguments = [.number (.int 2)] :=
    ⟨_, _, rfl, rfl⟩
  have both := kept _ _ _ _ _ n b' created
  rw [values] at both
  cases both

/-! ### Operands -/

/-- Formal parameters under which an operator has one name for both of its operands: their names are the same,
or one is unnamed and the other has the name that stands for its place. -/
def Collide (p q : OperationParameter) : Prop :=
  p.name = q.name ∧ p.name ≠ "" ∨ p.name = "" ∧ q.name = "x" ∨ p.name = "y" ∧ q.name = ""

instance (p q : OperationParameter) : Decidable (Collide p q) := inferInstanceAs (Decidable (_ ∨ _))

theorem collide_iff {p q : OperationParameter} :
    Collide p q ↔ operandName p "x" = operandName q "y" := by
  unfold Collide operandName
  by_cases first : p.name = ""
  · by_cases second : q.name = ""
    · simp [first, second]
    · simp [first, second, @eq_comm _ "x"]
  · by_cases second : q.name = ""
    · simp [first, second]
    · simp [first, second]

/-- An operator has added a node for its operands. These are its two arguments, under different names, unless
they collide; then the right one is its only argument. -/
def Operated (operator : Json) (left right : Value) (b : Builder) (v : Value) (b' : Builder) : Prop :=
  ∃ n symbol operation definition p q others, operator = .str symbol ∧
    Operator.operation? symbol = some operation ∧ b.catalog.get? operation = some definition ∧
    definition.parameters = p :: q :: others ∧ v = .nodeRef n.id ∧ b'.nodes = b.nodes ++ [(n.id, n)] ∧
    n.operation = .str operation ∧
    (¬ Collide p q → operandName p "x" ≠ operandName q "y" ∧
      n.arguments = [(operandName p "x", left), (operandName q "y", right)]) ∧
    (Collide p q → n.arguments = [(operandName q "y", right)])

theorem operated_of_operatorNode {operator : Json} {left right v : Value} {b b' : Builder}
    (leftArgument : left.isArgument = true) (rightArgument : right.isArgument = true)
    (created : operatorNode operator left right b = .ok v b') : Operated operator left right b v b' := by
  obtain ⟨n, symbol, operation, definition, first, second, refers, nodes, text, means, offered, operands,
    operates, bound⟩ := operatorNode_bound leftArgument rightArgument created
  obtain ⟨p, q, others, parameters, rfl, rfl⟩ := operandNames?_eq_some.mp operands
  refine ⟨n, symbol, operation, definition, p, q, others, text, means, offered, parameters, refers, nodes,
    operates, fun apart => ?_, fun collide => ?_⟩
  · rw [collide_iff] at apart
    refine ⟨apart, bound.trans (NameMap.ofList_of_nodup ?_)⟩
    simpa [NameMap.keys] using apart
  · rw [bound, collide_iff.mp collide]
    simp [NameMap.ofList, NameMap.put]

/-- An operator keeps both of its operands, under different names and in their order, exactly if the names that
its operation has for them differ; otherwise it keeps the right one only. So does a minus sign, which
multiplies what is no number by minus one. -/
theorem operands_bound (b : Builder) (v : Value) (b' : Builder) :
    (∀ (operator : Json) (left right : Value),
      left.isArgument = true → right.isArgument = true → operatorNode operator left right b = .ok v b' →
      Operated operator left right b v b') ∧
    (∀ (ctx : Context) (operator : Json) (left right : Expr),
      lower ctx (.binary operator left right) b = .ok v b' →
      ∃ u c w d, lower ctx left b = .ok u c ∧ lower ctx right c = .ok w d ∧ Operated operator u w d v b') ∧
    ∀ (ctx : Context) (operand : Expr), operand.constant? = none →
      lower ctx (.unary (.str "-") operand) b = .ok v b' →
      ∃ w c, lower ctx operand b = .ok w c ∧ Operated (.str "*") (.number (.int (-1))) w c v b' := by
  refine ⟨fun operator left right => operated_of_operatorNode, ?_, ?_⟩
  · intro ctx operator left right lowered
    rw [lower] at lowered
    obtain ⟨u, c, first, lowered⟩ := bind_ok lowered
    obtain ⟨w, d, second, created⟩ := bind_ok lowered
    exact ⟨u, c, w, d, first, second,
      operated_of_operatorNode (isArgument_of_lower first) (isArgument_of_lower second) created⟩
  · intro ctx operand other lowered
    rw [lower] at lowered
    obtain ⟨w, c, first, created⟩ := bind_ok lowered
    have number : w.number? = none := (number?_of_lower first).trans other
    rw [if_pos (isMinus_iff.mpr rfl), negate_of_not_number number] at created
    exact ⟨w, c, first, operated_of_operatorNode rfl (isArgument_of_lower first) created⟩

/-- A sum whose first operand has the name that stands for the place of the second, which has none. -/
def displacedFormals : Catalog :=
  .ofOperations [⟨"add", "", "", [⟨"y", "", false⟩, ⟨"", "", false⟩]⟩]

theorem displacedFormals_bound : ∃ v b' n w c m,
    operatorNode (.str "+") (.number (.int 1)) (.number (.int 2)) (.empty displacedFormals none) = .ok v b' ∧
    b'.nodes = [(n.id, n)] ∧ n.arguments = [("y", .number (.int 2))] ∧
    lower ⟨[], .index⟩ (.unary (.str "-") (.identifier "x")) (.empty Session.sampleCatalog none) = .ok w c ∧
    c.nodes = [(m.id, m)] ∧ m.arguments = [("x", .number (.int (-1))), ("y", .paramRef "x")] := by
  obtain ⟨v, b', created⟩ : ∃ v b', operatorNode (.str "+") (.number (.int 1)) (.number (.int 2))
      (.empty displacedFormals none) = .ok v b' :=
    ⟨_, _, rfl⟩
  obtain ⟨operator, _, _⟩ := operands_bound (.empty displacedFormals none) v b'
  obtain ⟨n, _, _, _, p, q, _, text, means, offered, parameters, _, nodes, _, _, lost⟩ :=
    operator _ _ _ rfl rfl created
  cases text
  cases means
  cases offered
  cases parameters
  obtain ⟨w, c, lowered⟩ : ∃ w c, lower ⟨[], .index⟩ (.unary (.str "-") (.identifier "x"))
      (.empty Session.sampleCatalog none) = .ok w c :=
    ⟨_, _, rfl⟩
  obtain ⟨_, _, minus⟩ := operands_bound (.empty Session.sampleCatalog none) w c
  obtain ⟨_, _, first, m, _, _, _, _, _, _, text, means, offered, parameters, _, nodes', _, kept, _⟩ :=
    minus _ _ rfl lowered
  cases first
  cases text
  cases means
  cases offered
  cases parameters
  exact ⟨v, b', n, w, c, m, created, nodes, lost (by decide), lowered, nodes', (kept (by decide)).2⟩

/-- An operand whose name falls together with that of the other one is lost. -/
theorem operand_lost : ¬ ∀ (ctx : Context) (operator : Json) (left right : Expr) (b : Builder) (v : Value)
    (b' : Builder), lower ctx (.binary operator left right) b = .ok v b' →
    ∃ u c w d n first second, lower ctx left b = .ok u c ∧ lower ctx right c = .ok w d ∧ v = .nodeRef n.id ∧
      b'.nodes = d.nodes ++ [(n.id, n)] ∧ first ≠ second ∧ n.arguments = [(first, u), (second, w)] := by
  intro kept
  obtain ⟨v, b', n, lowered, nodes, single⟩ : ∃ v b' n,
      lower ⟨[], .index⟩ (.binary (.str "+") (.number (.int 1)) (.number (.int 2)))
        (.empty displacedFormals none) = .ok v b' ∧ b'.nodes = [(n.id, n)] ∧ n.arguments.length = 1 :=
    ⟨_, _, _, rfl, rfl, rfl⟩
  obtain ⟨_, _, _, d, m, _, _, first, second, _, nodes', _, both⟩ := kept _ _ _ _ _ v b' lowered
  cases first
  cases second
  rw [nodes] at nodes'
  obtain rfl : n = m := (Prod.mk.inj (List.singleton_inj.mp nodes')).2
  rw [both] at single
  cases single

end Formula
end FormulaGraph
