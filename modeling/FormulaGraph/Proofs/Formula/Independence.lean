import FormulaGraph.Proofs.Formula.Lowering
import FormulaGraph.Proofs.Graph.Renaming

/-!
# What lowering does not depend on

Builders are alike for an expression if they have the same catalog, and if the element references of the
expression mean the same in them. Whatever else they hold, an expression that names no nodes is lowered
in both to copies of the same nodes, or fails in both in the same way: `Formula.lower_parallel`.
The nodes of a part of an expression refer only to each other, so the induction puts copies behind
copies, and only the node of a call or an operator refers to what stands before it.
-/

namespace FormulaGraph

open Build

/-! ### Builders that grow alike -/

/-- A builder with more nodes, under ids that were free. -/
structure Builder.Adds (b b' : Builder) (added : NameMap Node) : Prop where
  catalog : b'.catalog = b.catalog
  scopes : b'.scopes = b.scopes
  nodes : b'.nodes = b.nodes ++ added
  plain : ∀ entry ∈ added, entry.2.isResult = false
  fresh : (NameMap.keys b.nodes).Disjoint (NameMap.keys added)

namespace Builder.Adds

variable {b c d : Builder} {xs xs' : NameMap Node}

theorem keys (added : Adds b c xs) : NameMap.keys c.nodes = NameMap.keys b.nodes ++ NameMap.keys xs := by
  rw [added.nodes, NameMap.keys_append]

theorem apart (first : Adds b c xs) (second : Adds c d xs') :
    (NameMap.keys xs).Disjoint (NameMap.keys xs') := by
  intro id old new
  exact second.fresh (first.keys ▸ List.mem_append_right _ old) new

theorem trans (first : Adds b c xs) (second : Adds c d xs') : Adds b d (xs ++ xs') where
  catalog := second.catalog.trans first.catalog
  scopes := second.scopes.trans first.scopes
  nodes := by rw [second.nodes, first.nodes, List.append_assoc]
  plain := List.forall_mem_append.mpr ⟨first.plain, second.plain⟩
  fresh := by
    rw [NameMap.keys_append, List.disjoint_append_right]
    refine ⟨first.fresh, fun id old new => ?_⟩
    exact second.fresh (first.keys ▸ List.mem_append_left _ old) new

theorem has (added : Adds b c xs) {id : String} (present : id ∈ NameMap.keys xs) : c.has id = true :=
  NameMap.has_iff.mpr (added.keys ▸ List.mem_append_right _ present)

end Builder.Adds

/-- Of two builders the one has come to have copies of the nodes that the other has come to have. -/
structure GrownAlike (b₁ b₂ c₁ c₂ : Builder) (xs ys : NameMap Node) : Prop where
  first : b₁.Adds c₁ xs
  second : b₂.Adds c₂ ys
  copies : Copies xs ys

namespace GrownAlike

variable {b₁ b₂ c₁ c₂ d₁ d₂ : Builder} {xs ys xs' ys' : NameMap Node}

theorem of_same_nodes (nodes₁ : c₁.nodes = b₁.nodes) (nodes₂ : c₂.nodes = b₂.nodes)
    (catalog₁ : c₁.catalog = b₁.catalog) (catalog₂ : c₂.catalog = b₂.catalog)
    (scopes₁ : c₁.scopes = b₁.scopes) (scopes₂ : c₂.scopes = b₂.scopes) :
    GrownAlike b₁ b₂ c₁ c₂ [] [] where
  first := ⟨catalog₁, scopes₁, by simpa using nodes₁, by simp, List.disjoint_nil_right _⟩
  second := ⟨catalog₂, scopes₂, by simpa using nodes₂, by simp, List.disjoint_nil_right _⟩
  copies := .nil

theorem refl (b₁ b₂ : Builder) : GrownAlike b₁ b₂ b₁ b₂ [] [] := of_same_nodes rfl rfl rfl rfl rfl rfl

theorem trans (early : GrownAlike b₁ b₂ c₁ c₂ xs ys) (late : GrownAlike c₁ c₂ d₁ d₂ xs' ys') :
    GrownAlike b₁ b₂ d₁ d₂ (xs ++ xs') (ys ++ ys') where
  first := early.first.trans late.first
  second := early.second.trans late.second
  copies := early.copies.append late.copies (early.first.apart late.first) (early.second.apart late.second)

end GrownAlike

/-- Both of two runs fail in the same way, or both succeed with values that are related; and in any case
the builders that they leave are related. Both relations are about nodes that have been added. -/
def Parallel {α : Type} (G : Builder → Builder → NameMap Node → NameMap Node → Prop)
    (Q : NameMap Node → NameMap Node → α → α → Prop) :
    EStateM.Result Fault Builder α → EStateM.Result Fault Builder α → Prop
  | .ok v c₁, .ok w c₂ => ∃ xs ys, G c₁ c₂ xs ys ∧ Q xs ys v w
  | .error fault c₁, .error fault' c₂ => fault' = fault ∧ ∃ xs ys, G c₁ c₂ xs ys
  | _, _ => False

namespace Parallel

variable {α β : Type} {G H : Builder → Builder → NameMap Node → NameMap Node → Prop}
  {Q : NameMap Node → NameMap Node → α → α → Prop} {R : NameMap Node → NameMap Node → β → β → Prop}
  {b₁ b₂ c₁ c₂ : Builder} {xs ys : NameMap Node}

theorem cases {r₁ r₂ : EStateM.Result Fault Builder α} (runs : Parallel G Q r₁ r₂) :
    (∃ v w c₁ c₂ xs ys, r₁ = .ok v c₁ ∧ r₂ = .ok w c₂ ∧ G c₁ c₂ xs ys ∧ Q xs ys v w) ∨
    ∃ fault c₁ c₂ xs ys, r₁ = .error fault c₁ ∧ r₂ = .error fault c₂ ∧ G c₁ c₂ xs ys := by
  cases r₁ with
  | ok v c₁ =>
    cases r₂ with
    | ok w c₂ =>
      obtain ⟨xs, ys, grown, related⟩ := runs
      exact .inl ⟨v, w, c₁, c₂, xs, ys, rfl, rfl, grown, related⟩
    | error fault c₂ => exact runs.elim
  | error fault c₁ =>
    cases r₂ with
    | ok w c₂ => exact runs.elim
    | error fault' c₂ =>
      obtain ⟨rfl, xs, ys, grown⟩ := runs
      exact .inr ⟨fault', c₁, c₂, xs, ys, rfl, rfl, grown⟩

theorem imp {Q' : NameMap Node → NameMap Node → α → α → Prop} {r₁ r₂ : EStateM.Result Fault Builder α}
    (runs : Parallel G Q r₁ r₂)
    (kept : ∀ {d₁ d₂ xs ys}, G d₁ d₂ xs ys →
      ∃ xs' ys', H d₁ d₂ xs' ys' ∧ ∀ {v w}, Q xs ys v w → Q' xs' ys' v w) : Parallel H Q' r₁ r₂ := by
  rcases runs.cases with ⟨v, w, d₁, d₂, xs, ys, rfl, rfl, grown, related⟩ |
    ⟨fault, d₁, d₂, xs, ys, rfl, rfl, grown⟩
  · obtain ⟨xs', ys', more, later⟩ := kept grown
    exact ⟨xs', ys', more, later related⟩
  · obtain ⟨xs', ys', more, _⟩ := kept grown
    exact ⟨rfl, xs', ys', more⟩

theorem bind_of_imp {x₁ x₂ : Build α} {f₁ f₂ : α → Build β} (start : Parallel G Q (x₁ c₁) (x₂ c₂))
    (kept : ∀ {d₁ d₂ xs ys}, G d₁ d₂ xs ys → H d₁ d₂ xs ys)
    (next : ∀ {d₁ d₂ xs ys v w}, x₁ c₁ = .ok v d₁ → x₂ c₂ = .ok w d₂ → G d₁ d₂ xs ys → Q xs ys v w →
      Parallel H R (f₁ v d₁) (f₂ w d₂)) :
    Parallel H R ((x₁ >>= f₁) c₁) ((x₂ >>= f₂) c₂) := by
  rcases start.cases with ⟨v, w, d₁, d₂, xs, ys, first, second, grown, related⟩ |
    ⟨fault, d₁, d₂, xs, ys, first, second, grown⟩
  · rw [bind_of_ok _ first, bind_of_ok _ second]
    exact next first second grown related
  · rw [bind_of_error _ first, bind_of_error _ second]
    exact ⟨rfl, xs, ys, kept grown⟩

theorem bind {x₁ x₂ : Build α} {f₁ f₂ : α → Build β} (start : Parallel G Q (x₁ c₁) (x₂ c₂))
    (next : ∀ {d₁ d₂ xs ys v w}, G d₁ d₂ xs ys → Q xs ys v w → Parallel G R (f₁ v d₁) (f₂ w d₂)) :
    Parallel G R ((x₁ >>= f₁) c₁) ((x₂ >>= f₂) c₂) :=
  start.bind_of_imp (fun grown => grown) fun _ _ grown related => next grown related

/-- Runs that are parallel from where two builders have come to are parallel from where they were. -/
theorem after (grown : GrownAlike b₁ b₂ c₁ c₂ xs ys) {r₁ r₂ : EStateM.Result Fault Builder α}
    {Q' : NameMap Node → NameMap Node → α → α → Prop} (runs : Parallel (GrownAlike c₁ c₂) Q r₁ r₂)
    (later : ∀ {xs' ys' v w}, (NameMap.keys xs).Disjoint (NameMap.keys xs') → Q xs' ys' v w →
      Q' (xs ++ xs') (ys ++ ys') v w) : Parallel (GrownAlike b₁ b₂) Q' r₁ r₂ :=
  runs.imp fun more => ⟨_, _, grown.trans more, later (grown.first.apart more.first)⟩

/-- What a value refers to has its copies still when more nodes have been added. -/
theorem after_copies (grown : GrownAlike b₁ b₂ c₁ c₂ xs ys) {v w : Value}
    (copies : Value.Copies xs ys v w) {r₁ r₂ : EStateM.Result Fault Builder α}
    (runs : Parallel (GrownAlike c₁ c₂) Q r₁ r₂)
    (later : ∀ {xs' ys' v' w'}, (NameMap.keys xs).Disjoint (NameMap.keys xs') → Q xs' ys' v' w' →
      Q (xs ++ xs') (ys ++ ys') v' w') :
    Parallel (GrownAlike b₁ b₂) (fun xs ys v' w' => Value.Copies xs ys v w ∧ Q xs ys v' w') r₁ r₂ :=
  after grown runs fun apart related =>
    ⟨copies.append_right grown.copies.length_eq _ _, later apart related⟩

end Parallel

/-! ### Identifiers -/

namespace Formula

/-- An expression that names no nodes has the same operations and elements in two builders. -/
structure Alike (ctx₁ ctx₂ : Context) (b₁ b₂ : Builder) : Prop where
  catalog : b₂.catalog = b₁.catalog
  labels : ctx₂.labels = ctx₁.labels
  /-- No parameter is visible in either, or the first one has the same name in both. -/
  scope : (b₂.currentScope ctx₂.outer).head?.map Parameter.name =
    (b₁.currentScope ctx₁.outer).head?.map Parameter.name

variable {ctx₁ ctx₂ : Context} {b₁ b₂ c₁ c₂ : Builder} {xs ys : NameMap Node}

theorem Alike.after (alike : Alike ctx₁ ctx₂ b₁ b₂) (grown : GrownAlike b₁ b₂ c₁ c₂ xs ys) :
    Alike ctx₁ ctx₂ c₁ c₂ where
  catalog := by rw [grown.first.catalog, grown.second.catalog, alike.catalog]
  labels := alike.labels
  scope := by
    simp only [Builder.currentScope, Builder.visible, grown.first.scopes, grown.second.scopes]
    exact alike.scope

/-- A parameter is referred to by its name, wherever it comes from. -/
theorem resolveParameter_eq (ctx : Context) (name : String) (b : Builder) :
    ∃ c, resolveParameter ctx name b = .ok (.paramRef name) c ∧ c.nodes = b.nodes ∧
      c.catalog = b.catalog ∧ c.scopes = b.scopes := by
  have given : ∃ v c, resolveParameter ctx name b = .ok v c ∧ c.nodes = b.nodes ∧
      c.catalog = b.catalog ∧ c.scopes = b.scopes := by
    unfold resolveParameter
    cases b.scopeParameter? ctx.outer name with
    | some p => exact ⟨_, b, rfl, rfl, rfl, rfl⟩
    | none =>
      dsimp only
      unfold Builder.declare
      cases b.parameter? name with
      | some existing => exact ⟨_, b, rfl, rfl, rfl, rfl⟩
      | none => exact ⟨_, _, rfl, rfl, rfl, rfl⟩
  obtain ⟨v, c, resolved, kept⟩ := given
  obtain rfl := resolveParameter_ok resolved
  exact ⟨c, resolved, kept⟩

theorem resolveParameter_parallel (ctx₁ ctx₂ : Context) (name : String) (b₁ b₂ : Builder) :
    Parallel (GrownAlike b₁ b₂) Value.Copies (resolveParameter ctx₁ name b₁)
      (resolveParameter ctx₂ name b₂) := by
  obtain ⟨c₁, first, nodes₁, catalog₁, scopes₁⟩ := resolveParameter_eq ctx₁ name b₁
  obtain ⟨c₂, second, nodes₂, catalog₂, scopes₂⟩ := resolveParameter_eq ctx₂ name b₂
  rw [first, second]
  exact ⟨[], [], .of_same_nodes nodes₁ nodes₂ catalog₁ catalog₂ scopes₁ scopes₂, rfl, .inl rfl, nofun, rfl⟩

theorem nodeIds_of_form {name id : String} (form : identifierForm name = .node id) :
    Expr.identifierNodeIds name ≠ [] := by
  obtain rfl := identifierForm_eq_node.mp form
  have sign : ("#" ++ id).toList = '#' :: id.toList := String.toList_append
  simp [Expr.identifierNodeIds, sign]

theorem resolve_parallel (alike : Alike ctx₁ ctx₂ b₁ b₂) {name : String}
    (nameless : Expr.identifierNodeIds name = []) :
    Parallel (GrownAlike b₁ b₂) Value.Copies (resolve ctx₁ name b₁) (resolve ctx₂ name b₂) := by
  have parameter := resolveParameter_parallel ctx₁ ctx₂ name b₁ b₂
  unfold resolve
  cases form : identifierForm name with
  | keyword value => exact ⟨[], [], .refl b₁ b₂, rfl, .inl rfl, nofun, rfl⟩
  | node id => exact absurd nameless (nodeIds_of_form form)
  | plain => exact parameter
  | element label =>
    have scope := alike.scope
    dsimp only
    cases first : b₁.currentScope ctx₁.outer with
    | nil =>
      rw [first, List.head?_nil, Option.map_none, Option.map_eq_none_iff, List.head?_eq_none_iff] at scope
      rw [scope]
      exact parameter
    | cons p others =>
      rw [first, List.head?_cons, Option.map_some, Option.map_eq_some_iff] at scope
      obtain ⟨q, second, same⟩ := scope
      obtain ⟨others', current⟩ := List.head?_eq_some_iff.mp second
      rw [current, alike.labels]
      dsimp only
      cases Label.selector ctx₁.labels label with
      | ok selector =>
        rw [same]
        exact ⟨[], [], .refl b₁ b₂, rfl, .inl rfl, nofun, rfl⟩
      | error fault => exact ⟨rfl, [], [], .refl b₁ b₂⟩

/-! ### Calls and operators -/

/-- Arguments by name that refer to nodes that are there make a node. -/
theorem invoke_named {b : Builder} {operation : String} {definition : Operation} {named : NameMap Value}
    (offered : b.catalog.get? operation = some definition)
    (each : ∀ entry ∈ named, entry.2.isArgument = true)
    (known : ∀ entry ∈ named, ∀ id ∈ entry.2.nodeRefs, b.has id = true) :
    ∃ id c, invoke operation (.obj named) b = .ok (.nodeRef id) c ∧
      b.Adds c [(id, ⟨id, .str operation, named, .null, false⟩)] := by
  have bound := Builder.bindArguments_of_isArgument offered each known
  have free := Builder.not_has_nextId b operation
  rw [Bool.eq_false_iff, ne_eq, Builder.has, NameMap.has_iff] at free
  let id := Builder.makeId operation (b.nextNumber operation)
  let counters := NameMap.put b.counters operation (b.nextNumber operation)
  refine ⟨id, b.grown counters ⟨id, .str operation, named, .null, false⟩ operation, ?_, rfl, rfl, rfl,
    by simp, List.disjoint_singleton.mpr free⟩
  unfold invoke Builder.createNode
  rw [bound]
  rfl

/-- Arguments that refer to some nodes, and the same for their copies, make copies of one node. -/
theorem invoke_parallel (grown : GrownAlike b₁ b₂ c₁ c₂ xs ys) (same : c₂.catalog = c₁.catalog)
    {operation : String} {definition : Operation}
    (offered : c₁.catalog.get? operation = some definition) {named : NameMap Value}
    (each : ∀ entry ∈ named, Value.Copies xs ys entry.2 (entry.2.rename (correspond xs ys))) :
    Parallel (GrownAlike b₁ b₂) Value.Copies (invoke operation (.obj named) c₁)
      (invoke operation (.obj (NameMap.mapValues (Value.rename (correspond xs ys)) named)) c₂) := by
  have lengths := grown.copies.length_eq
  have each' : ∀ entry ∈ NameMap.mapValues (Value.rename (correspond xs ys)) named,
      entry.2.isArgument = true ∧ ∀ id ∈ entry.2.nodeRefs, c₂.has id = true := by
    intro entry member
    obtain ⟨old, inside, rfl⟩ := List.mem_map.mp member
    have matched := each old inside
    exact ⟨matched.argument', fun id found => grown.second.has (matched.inside' lengths id found)⟩
  obtain ⟨id, d₁, first, added⟩ := invoke_named offered (fun entry member => (each entry member).argument)
    fun entry member id found => grown.first.has ((each entry member).inside id found)
  obtain ⟨id', d₂, second, added'⟩ := invoke_named (same ▸ offered)
    (fun entry member => (each' entry member).1) fun entry member => (each' entry member).2
  rw [first, second]
  let n : Node := ⟨id, .str operation, named, .null, false⟩
  let m : Node :=
    ⟨id', .str operation, NameMap.mapValues (Value.rename (correspond xs ys)) named, .null, false⟩
  have refs : ∀ ref ∈ n.nodeRefs, ref ∈ NameMap.keys xs := by
    intro ref found
    obtain ⟨entry, member, inside⟩ := List.mem_flatMap.mp found
    exact (each entry member).inside ref inside
  have fresh := List.disjoint_singleton.mp (grown.first.apart added)
  have fresh' := List.disjoint_singleton.mp (grown.second.apart added')
  have copies : Copies (xs ++ [(id, n)]) (ys ++ [(id', m)]) :=
    grown.copies.snoc (m := m) refs fresh fresh' rfl
  refine ⟨_, _, ⟨grown.first.trans added, grown.second.trans added', copies⟩, rfl, .inr ⟨id, rfl⟩, ?_, ?_⟩
  · simp [Value.nodeRefs, NameMap.keys]
  · rw [Value.rename, correspond_snoc lengths _ _ _ fresh]

theorem callNode_parallel (grown : GrownAlike b₁ b₂ c₁ c₂ xs ys) (same : c₂.catalog = c₁.catalog)
    (function : Json) {values values' : List Value}
    (copies : List.Forall₂ (Value.Copies xs ys) values values') :
    Parallel (GrownAlike b₁ b₂) Value.Copies (callNode function values c₁) (callNode function values' c₂) := by
  obtain ⟨each, rfl⟩ := Value.Copies.of_forall₂ copies
  unfold callNode
  rw [same, List.length_map]
  cases looked : c₁.catalog.find function with
  | error cause => exact ⟨rfl, xs, ys, grown⟩
  | ok found =>
    cases found with
    | none => exact ⟨rfl, xs, ys, grown⟩
    | some definition =>
      dsimp only
      obtain ⟨_, offered⟩ := Catalog.find_eq_some looked
      by_cases few : definition.arity < values.length
      · rw [if_pos few, if_pos few]
        exact ⟨rfl, xs, ys, grown⟩
      · have few' : ¬ definition.arity < (values.map (Value.rename (correspond xs ys))).length := by
          rwa [List.length_map]
        have bound : definition.bind (values.map (Value.rename (correspond xs ys))) =
            NameMap.mapValues (Value.rename (correspond xs ys)) (definition.bind values) := by
          rw [Operation.bind, Operation.bind, NameMap.mapValues_ofList, List.zip_map_right]
          rfl
        rw [if_neg few, if_neg few, invoke_positional offered few,
          invoke_positional (same ▸ offered) few', bound]
        refine invoke_parallel grown same offered fun entry member => ?_
        exact each entry.2 (List.of_mem_zip (NameMap.mem_of_mem_ofList member)).2

theorem operatorNode_parallel (grown : GrownAlike b₁ b₂ c₁ c₂ xs ys) (same : c₂.catalog = c₁.catalog)
    (operator : Json) {left right left' right' : Value} (copies : Value.Copies xs ys left left')
    (others : Value.Copies xs ys right right') :
    Parallel (GrownAlike b₁ b₂) Value.Copies (operatorNode operator left right c₁)
      (operatorNode operator left' right' c₂) := by
  obtain rfl := copies.renamed
  obtain rfl := others.renamed
  unfold operatorNode
  rw [same]
  cases Operator.find operator with
  | error cause => exact ⟨rfl, xs, ys, grown⟩
  | ok found =>
    cases found with
    | none => exact ⟨rfl, xs, ys, grown⟩
    | some operation =>
      dsimp only
      cases offered : c₁.catalog.get? operation with
      | none => exact ⟨rfl, xs, ys, grown⟩
      | some definition =>
        dsimp only
        cases operandNames? definition with
        | none => exact ⟨rfl, xs, ys, grown⟩
        | some names =>
          let operands : NameMap Value := [(names.1, left), (names.2, right)]
          have each : ∀ entry ∈ NameMap.ofList operands,
              Value.Copies xs ys entry.2 (entry.2.rename (correspond xs ys)) := by
            intro entry member
            rcases List.mem_pair.mp (NameMap.mem_of_mem_ofList member) with rfl | rfl
            · exact copies
            · exact others
          have runs := invoke_parallel grown same offered each
          rw [NameMap.mapValues_ofList] at runs
          exact runs

theorem number?_of_copies {v w : Value} (copies : Value.Copies xs ys v w) : w.number? = v.number? := by
  rw [copies.renamed]
  cases v <;> rfl

theorem negate_parallel (grown : GrownAlike b₁ b₂ c₁ c₂ xs ys) (same : c₂.catalog = c₁.catalog)
    {v w : Value} (copies : Value.Copies xs ys v w) :
    Parallel (GrownAlike b₁ b₂) Value.Copies (negate v c₁) (negate w c₂) := by
  have number := number?_of_copies copies
  cases folded : v.number? with
  | some n =>
    rw [negate_of_number folded, negate_of_number (number.trans folded)]
    exact ⟨xs, ys, grown, rfl, .inl rfl, nofun, rfl⟩
  | none =>
    rw [negate_of_not_number folded, negate_of_not_number (number.trans folded)]
    exact operatorNode_parallel grown same _ ⟨rfl, .inl rfl, nofun, rfl⟩ copies

/-! ### Expressions -/

theorem lowerAll_parallel {args : List Expr}
    (each : ∀ arg ∈ args, ∀ b₁ b₂, Alike ctx₁ ctx₂ b₁ b₂ → arg.nodeIds = [] →
      Parallel (GrownAlike b₁ b₂) Value.Copies (lower ctx₁ arg b₁) (lower ctx₂ arg b₂))
    (alike : Alike ctx₁ ctx₂ b₁ b₂) (nameless : Expr.nodeIdsAll args = []) :
    Parallel (GrownAlike b₁ b₂) (fun xs ys => List.Forall₂ (Value.Copies xs ys)) (lowerAll ctx₁ args b₁)
      (lowerAll ctx₂ args b₂) := by
  induction args generalizing b₁ b₂ with
  | nil => exact ⟨[], [], .refl b₁ b₂, .nil⟩
  | cons arg rest ih =>
    obtain ⟨here, there⟩ := List.append_eq_nil_iff.mp nameless
    have later := fun other member => each other (List.mem_cons_of_mem arg member)
    rw [lowerAll, lowerAll]
    refine (each arg List.mem_cons_self b₁ b₂ alike here).bind fun grown first => ?_
    have runs := Parallel.after_copies grown first (ih later (alike.after grown) there) fun apart others =>
      others.imp fun _ _ copies => copies.append_left grown.copies.length_eq apart
    exact runs.bind fun grown both => ⟨_, _, grown, .cons both.1 both.2⟩

/-- In builders that are alike an expression that names no nodes is lowered to copies of the same nodes,
and to copies of the same value; or it fails in both in the same way. -/
theorem lower_parallel {e : Expr} (alike : Alike ctx₁ ctx₂ b₁ b₂) (nameless : e.nodeIds = []) :
    Parallel (GrownAlike b₁ b₂) Value.Copies (lower ctx₁ e b₁) (lower ctx₂ e b₂) := by
  induction e using Expr.induct generalizing b₁ b₂ with
  | number n => exact ⟨[], [], .refl b₁ b₂, rfl, .inl rfl, nofun, rfl⟩
  | identifier name => exact resolve_parallel alike nameless
  | group inner ih => exact ih alike nameless
  | call function args ih =>
    rw [lower, lower]
    refine (lowerAll_parallel (fun arg member _ _ => ih arg member) alike nameless).bind
      fun grown copies => ?_
    exact callNode_parallel grown (alike.after grown).catalog function copies
  | binary operator left right ihl ihr =>
    obtain ⟨here, there⟩ := List.append_eq_nil_iff.mp nameless
    rw [lower, lower]
    refine (ihl alike here).bind fun grown first => ?_
    have runs := Parallel.after_copies grown first (ihr (alike.after grown) there) fun apart second =>
      second.append_left grown.copies.length_eq apart
    exact runs.bind fun grown both =>
      operatorNode_parallel grown (alike.after grown).catalog operator both.1 both.2
  | unary operator operand ih =>
    rw [lower, lower]
    refine (ih alike nameless).bind fun grown copies => ?_
    cases isMinus operator with
    | true => exact negate_parallel grown (alike.after grown).catalog copies
    | false => exact ⟨_, _, grown, copies⟩

end Formula
end FormulaGraph
