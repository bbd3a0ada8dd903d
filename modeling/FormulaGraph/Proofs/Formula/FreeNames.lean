import FormulaGraph.Proofs.Formula.Lowering
import FormulaGraph.Proofs.Session.Lineage

/-!
# The free names of an expression

An identifier that is neither a keyword nor a node nor an element is a name, and a name that no visible
scope has a parameter for is free. Lowering an expression reads its identifiers from left to right and
declares those that are free and new, each once: `declareName` is one identifier read, and `Traces`
follows them through the lowering, up to where it fails.
-/

namespace FormulaGraph

open Build

namespace Expr

mutual

def identifiers : Expr → List String
  | .number _ => []
  | .identifier name => [name]
  | .group inner => identifiers inner
  | .call _ args => identifiersAll args
  | .binary _ left right => identifiers left ++ identifiers right
  | .unary _ operand => identifiers operand

def identifiersAll : List Expr → List String
  | [] => []
  | arg :: rest => identifiers arg ++ identifiersAll rest

end

end Expr

namespace Formula

/-- Whether an identifier is a name that no visible scope has a parameter for. -/
def IsFree (visible : List Scope) (name : String) : Prop :=
  IsName (innermost visible) name ∧ ∀ scope ∈ visible, ∀ p ∈ scope, p.name ≠ name

instance (visible : List Scope) (name : String) : Decidable (IsFree visible name) :=
  inferInstanceAs (Decidable (_ ∧ _))

def freeNames (visible : List Scope) (declared : List Parameter) (names : List String) : List String :=
  (names.filter fun name => IsFree visible name ∧ name ∉ declared.map (·.name)).eraseDups

def declareName (visible : List Scope) (declared : List Parameter) (name : String) : List Parameter :=
  if IsFree visible name ∧ name ∉ declared.map (·.name) then declared ++ [⟨name, ""⟩] else declared

theorem foldl_declareName (visible : List Scope) (declared : List Parameter) (names : List String) :
    names.foldl (declareName visible) declared =
      declared ++ (freeNames visible declared names).map (⟨·, ""⟩) := by
  induction names generalizing declared with
  | nil => simp [freeNames]
  | cons name rest ih =>
    rw [List.foldl_cons, ih, declareName]
    by_cases new : IsFree visible name ∧ name ∉ declared.map (·.name)
    · -- once it is declared the name is not free and new again, as if it were dropped from the rest
      have others : freeNames visible (declared ++ [⟨name, ""⟩]) rest =
          ((rest.filter fun other => IsFree visible other ∧ other ∉ declared.map (·.name)).filter
            fun other => !(other == name)).eraseDups := by
        rw [freeNames, List.filter_filter]
        refine congrArg List.eraseDups (List.filter_congr fun other _ => Bool.eq_iff_iff.mpr ?_)
        simp only [List.map_append, List.map_cons, List.map_nil, List.mem_append, List.mem_singleton,
          Bool.and_eq_true, Bool.not_eq_true', beq_eq_false_iff_ne, decide_eq_true_eq]
        tauto
      rw [if_pos new, others, freeNames, List.filter_cons_of_pos (by simpa using new), List.eraseDups_cons,
        List.map_cons, List.append_assoc, List.singleton_append]
    · rw [if_neg new, freeNames, freeNames, List.filter_cons_of_neg (by simpa using new)]

/-! ### Identifiers -/

theorem scopeParameter?_eq_none {b : Builder} {outer : List Scope} {name : String} :
    b.scopeParameter? outer name = none ↔ ∀ scope ∈ b.visible outer, ∀ p ∈ scope, p.name ≠ name := by
  simp [Builder.scopeParameter?]

theorem parameter?_eq_none {b : Builder} {name : String} :
    b.parameter? name = none ↔ name ∉ b.parameters.map (·.name) := by
  simp [Builder.parameter?]

theorem resolveParameter_of_isName (ctx : Context) {name : String} {b : Builder}
    (named : IsName (b.currentScope ctx.outer) name) :
    ∃ c, resolveParameter ctx name b = .ok (.paramRef name) c ∧ c.scopes = b.scopes ∧ c.nodes = b.nodes ∧
      c.parameters = declareName (b.visible ctx.outer) b.parameters name := by
  unfold declareName IsFree
  cases found : b.scopeParameter? ctx.outer name with
  | some p =>
    have resolved : resolveParameter ctx name b = .ok (.paramRef p.name) b := by rw [resolveParameter, found]
    have bound : ¬ ∀ scope ∈ b.visible ctx.outer, ∀ p ∈ scope, p.name ≠ name := by
      rw [← scopeParameter?_eq_none, found]
      simp
    rw [if_neg fun free => bound free.1.2, ← resolveParameter_ok resolved]
    exact ⟨b, resolved, rfl, rfl, rfl⟩
  | none =>
    have unbound := scopeParameter?_eq_none.mp found
    cases known : b.parameter? name with
    | some existing =>
      have resolved : resolveParameter ctx name b = .ok (.paramRef existing.name) b := by
        simp only [resolveParameter, found, Builder.declare, known]
      have declared : ¬ name ∉ b.parameters.map (·.name) := by
        rw [← parameter?_eq_none, known]
        simp
      rw [if_neg fun free => declared free.2, ← resolveParameter_ok resolved]
      exact ⟨b, resolved, rfl, rfl, rfl⟩
    | none =>
      rw [if_pos ⟨⟨named, unbound⟩, parameter?_eq_none.mp known⟩]
      let declared : Builder := { b with parameters := b.parameters ++ [⟨name, ""⟩] }
      have resolved : resolveParameter ctx name b =
          .ok (.paramRef name) (declared.record (.declared name)) := by
        simp only [resolveParameter, found, Builder.declare, known, declared]
      exact ⟨_, resolved, rfl, rfl, rfl⟩

theorem lower_of_isName (ctx : Context) {name : String} {b : Builder}
    (named : IsName (b.currentScope ctx.outer) name) :
    ∃ c, lower ctx (.identifier name) b = .ok (.paramRef name) c := by
  obtain ⟨c, resolved, _⟩ := resolveParameter_of_isName ctx named
  exact ⟨c, (resolve_of_isName ctx named).trans resolved⟩

theorem resolve_error {ctx : Context} {name : String} {b b' : Builder} {fault : Fault}
    (failed : resolve ctx name b = .error fault b') :
    IdentifierRefused ctx.labels b name fault ∧ b' = b := by
  rcases resolve_cases ctx name b with ⟨named, same⟩ | ⟨_, ⟨v, same, _⟩ | ⟨other, same, refused⟩⟩
  · obtain ⟨c, given, _⟩ := resolveParameter_of_isName ctx named
    rw [same, given] at failed
    cases failed
  · rw [same] at failed
    cases failed
  · rw [same] at failed
    cases failed
    exact ⟨refused, rfl⟩

theorem nodes_of_resolve {ctx : Context} {name : String} {b b' : Builder} {v : Value}
    (resolved : resolve ctx name b = .ok v b') : b'.nodes = b.nodes := by
  rcases resolve_cases ctx name b with ⟨named, same⟩ | ⟨_, ⟨w, same, _⟩ | ⟨fault, failed, _⟩⟩
  · obtain ⟨c, given, _, nodes, _⟩ := resolveParameter_of_isName ctx named
    rw [same, given] at resolved
    cases resolved
    exact nodes
  · rw [same] at resolved
    cases resolved
    rfl
  · rw [failed] at resolved
    cases resolved

/-! ### What lowering makes -/

/-- The builder after identifiers have been read: the free and new ones are declared, and all nodes that
have been made have only what expressions are lowered to as their arguments. -/
structure Made (visible : List Scope) (b c : Builder) (names : List String) : Prop where
  scopes : c.scopes = b.scopes
  parameters : c.parameters = names.foldl (declareName visible) b.parameters
  nodes : ∃ added, c.nodes = b.nodes ++ added ∧
    ∀ entry ∈ added, ∀ argument ∈ entry.2.arguments, Lowered visible argument.2

variable {visible : List Scope} {b c d : Builder} {names names' : List String} {α β : Type}

theorem Made.refl (b : Builder) : Made visible b b [] := ⟨rfl, rfl, [], by simp, by simp⟩

theorem Made.trans (first : Made visible b c names) (second : Made visible c d names') :
    Made visible b d (names ++ names') where
  scopes := second.scopes.trans first.scopes
  parameters := by rw [second.parameters, first.parameters, List.foldl_append]
  nodes := by
    obtain ⟨early, before, sound⟩ := first.nodes
    obtain ⟨late, after, sound'⟩ := second.nodes
    refine ⟨early ++ late, by rw [after, before, List.append_assoc], ?_⟩
    exact List.forall_mem_append.mpr ⟨sound, sound'⟩

theorem Made.sees (made : Made visible b c names) {outer : List Scope}
    (seen : b.visible outer = visible) : c.visible outer = visible := by
  rw [← seen, Builder.visible, Builder.visible, made.scopes]

/-- An action reads identifiers from left to right, all of them if it does not fail. -/
def Traces (visible : List Scope) (Q : α → Prop) (names : List String) (b : Builder) :
    EStateM.Result Fault Builder α → Prop
  | .ok a c => Q a ∧ Made visible b c names
  | .error _ c => ∃ read, read <+: names ∧ Made visible b c read

theorem Traces.bind {Q : α → Prop} {P : β → Prop} {x : Build α} {f : α → Build β}
    (first : Traces visible Q names b (x b))
    (next : ∀ a c, x b = .ok a c → Q a → Made visible b c names → Traces visible P names' c (f a c)) :
    Traces visible P (names ++ names') b ((x >>= f) b) :=
  Follows.bind (R := fun b names c => Made visible b c names) Made.trans first next

theorem traces_error {Q : α → Prop} (fault : Fault) : Traces visible Q names b (.error fault b) :=
  ⟨[], List.nil_prefix, .refl b⟩

theorem traces_resolve (ctx : Context) (seen : b.visible ctx.outer = visible) (name : String) :
    Traces visible (Lowered visible) [name] b (resolve ctx name b) := by
  subst seen
  rcases resolve_cases ctx name b with
    ⟨named, resolved⟩ | ⟨other, ⟨v, resolved, lowered⟩ | ⟨fault, failed, _⟩⟩
  · obtain ⟨c, given, scopes, nodes, parameters⟩ := resolveParameter_of_isName ctx named
    rw [resolved, given]
    exact ⟨.parameter named, scopes, parameters, [], by simpa using nodes, by simp⟩
  · -- what is no name is not free either
    rw [resolved]
    exact ⟨lowered, rfl, (if_neg fun free => other free.1.1).symm, [], by simp, by simp⟩
  · rw [failed]
    exact traces_error fault

theorem traces_invoke {named : NameMap Value} (each : ∀ entry ∈ named, Lowered visible entry.2)
    (operation : String) : Traces visible (Lowered visible) [] b (invoke operation (.obj named) b) := by
  rcases invoke_cases (fun entry member => (each entry member).isArgument) operation b with
    ⟨fault, failed, _⟩ | ⟨id, counters, invoked⟩
  · rw [failed]
    exact traces_error fault
  · rw [invoked]
    exact ⟨.node id, rfl, rfl, [_], rfl, by simpa using each⟩

theorem traces_callNode {values : List Value} (each : ∀ v ∈ values, Lowered visible v) (function : Json) :
    Traces visible (Lowered visible) [] b (callNode function values b) := by
  rcases callNode_cases function values b with ⟨fault, failed, _⟩ | ⟨definition, _, offered, few, invokes⟩
  · rw [failed]
    exact traces_error fault
  · rw [invokes, invoke_positional offered few]
    exact traces_invoke (fun entry member => each entry.2 (mem_of_mem_bind member)) definition.name

theorem traces_operatorNode {left right : Value} (first : Lowered visible left)
    (second : Lowered visible right) (operator : Json) :
    Traces visible (Lowered visible) [] b (operatorNode operator left right b) := by
  rcases operatorNode_cases operator left right b with
    ⟨fault, failed, _⟩ | ⟨_, operation, _, _, _, _, _, _, _, invokes⟩
  · rw [failed]
    exact traces_error fault
  · rw [invokes]
    refine traces_invoke (fun entry member => ?_) operation
    rcases eq_or_eq_of_mem_operands member with same | same
    · exact same ▸ first
    · exact same ▸ second

theorem traces_negate {v : Value} (lowered : Lowered visible v) :
    Traces visible (Lowered visible) [] b (negate v b) := by
  cases folded : v.number? with
  | some n =>
    rw [negate_of_number folded]
    exact ⟨.scalar _, .refl b⟩
  | none =>
    rw [negate_of_not_number folded]
    exact traces_operatorNode (.scalar _) lowered _

theorem traces_lowerAll (ctx : Context) {args : List Expr}
    (each : ∀ arg ∈ args, ∀ b : Builder, b.visible ctx.outer = visible →
      Traces visible (Lowered visible) arg.identifiers b (lower ctx arg b))
    (seen : b.visible ctx.outer = visible) :
    Traces visible (fun values => ∀ v ∈ values, Lowered visible v) (Expr.identifiersAll args) b
      (lowerAll ctx args b) := by
  induction args generalizing b with
  | nil => exact ⟨by simp, .refl b⟩
  | cons arg rest ih =>
    have later := fun other member => each other (List.mem_cons_of_mem arg member)
    rw [lowerAll, Expr.identifiersAll]
    refine (each arg List.mem_cons_self b seen).bind fun v c _ first made => ?_
    rw [← List.append_nil (Expr.identifiersAll rest)]
    refine (ih later (made.sees seen)).bind fun values d _ others _ => ?_
    exact ⟨List.forall_mem_cons.mpr ⟨first, others⟩, .refl d⟩

theorem traces_lower (ctx : Context) (e : Expr) (seen : b.visible ctx.outer = visible) :
    Traces visible (Lowered visible) e.identifiers b (lower ctx e b) := by
  induction e using Expr.induct generalizing b with
  | number n => exact ⟨.scalar _, .refl b⟩
  | identifier name => exact traces_resolve ctx seen name
  | group inner ih => exact ih seen
  | call function args ih =>
    -- behind the arguments no identifier is read
    rw [lower, ← List.append_nil (Expr.identifiers _)]
    refine (traces_lowerAll ctx (fun arg member b => ih arg member) seen).bind fun values c _ each _ => ?_
    exact traces_callNode each function
  | binary operator left right ihl ihr =>
    rw [lower, Expr.identifiers]
    refine (ihl seen).bind fun v c _ first made => ?_
    rw [← List.append_nil right.identifiers]
    refine (ihr (made.sees seen)).bind fun w d _ second _ => ?_
    exact traces_operatorNode first second operator
  | unary operator operand ih =>
    rw [lower, ← List.append_nil (Expr.identifiers _)]
    refine (ih seen).bind fun v c _ lowered _ => ?_
    cases isMinus operator with
    | true => exact traces_negate lowered
    | false => exact ⟨lowered, .refl c⟩

end Formula

namespace Session

open Formula

/-- Lowering an expression declares its free names that have not been declared, each once, in the order in
which they come up first; where it fails, those of the identifiers up to some point. A name is no keyword
and begins with no number sign, and with a dollar sign only if the innermost visible scope has no
parameters; it is free if no scope of the builder or of an ancestor has a parameter for it. Every
name, free or not, becomes a reference to the parameter with this name, in any builder with these scopes
and so at every point of the lowering. Every element is one of the first parameter of the innermost
visible scope, in what is given as in all nodes that are made. -/
theorem lower_declares_free {s : Session} (reachable : s.Reachable) {place : Nat} {b : Builder}
    (found : s.builder? place = some b) (labels : NumericLabels) (e : Expr) :
    ∃ result s' b', s.run place (fun outer => lower ⟨outer, labels⟩ e) = some (result, s') ∧
      s'.builder? place = some b' ∧
      (∀ v, result = .ok v → Lowered (s.scopesAt place) v ∧ b'.parameters = b.parameters ++
        (freeNames (s.scopesAt place) b.parameters e.identifiers).map (⟨·, ""⟩)) ∧
      (∀ fault, result = .error fault → ∃ read, read <+: e.identifiers ∧ b'.parameters = b.parameters ++
        (freeNames (s.scopesAt place) b.parameters read).map (⟨·, ""⟩)) ∧
      (∃ added, b'.nodes = b.nodes ++ added ∧
        ∀ entry ∈ added, ∀ argument ∈ entry.2.arguments, Lowered (s.scopesAt place) argument.2) ∧
      (∀ name, IsName (innermost (s.scopesAt place)) name → ∀ c : Builder, c.scopes = b.scopes →
        ∃ d, lower ⟨s.outerScopes place, labels⟩ (.identifier name) c = .ok (.paramRef name) d) ∧
      (∀ scope, scope ∈ s.scopesAt place ↔ ∃ a, s.Lineage place a ∧ scope ∈ a.scopes) := by
  have seen : b.visible (s.outerScopes place) = s.scopesAt place := (scopesAt_eq found).symm
  have names : ∀ name, IsName (innermost (s.scopesAt place)) name → ∀ c : Builder, c.scopes = b.scopes →
      ∃ d, lower ⟨s.outerScopes place, labels⟩ (.identifier name) c = .ok (.paramRef name) d := by
    intro name named c scopes
    have current : c.currentScope (s.outerScopes place) = innermost (s.scopesAt place) := by
      rw [← seen, Builder.visible, ← scopes]
      rfl
    exact lower_of_isName ⟨s.outerScopes place, labels⟩ (current ▸ named)
  have traced := traces_lower ⟨s.outerScopes place, labels⟩ e seen
  cases ran : lower ⟨s.outerScopes place, labels⟩ e b with
  | ok v b' =>
    rw [ran] at traced
    obtain ⟨lowered, made⟩ := traced
    refine ⟨.ok v, _, b', run_of_ok found ran, builder?_set_self found b', ?_, ?_, made.nodes, names,
      fun scope => mem_scopesAt_iff reachable⟩
    · intro w same
      cases same
      exact ⟨lowered, made.parameters.trans (foldl_declareName _ _ _)⟩
    · intro fault same
      cases same
  | error fault b' =>
    rw [ran] at traced
    obtain ⟨read, part, made⟩ := traced
    refine ⟨.error fault, _, b', run_of_error found ran, builder?_set_self found b', ?_, ?_, made.nodes,
      names, fun scope => mem_scopesAt_iff reachable⟩
    · intro v same
      cases same
    · intro _ _
      exact ⟨read, part, made.parameters.trans (foldl_declareName _ _ _)⟩

def shadedSample : Session :=
  sample.playAll [.ask 0 (.pushScope [⟨"z", ""⟩]), .ask 0 (.declare ⟨"w", ""⟩), .ask 1 (.pushScope []),
    .ask 1 (.declare ⟨"v", ""⟩)]

def shadedFormula : Expr :=
  .binary (.str "+")
    (.call (.str "add") [.identifier "w", .unary (.str "-") (.identifier "data")])
    (.group (.binary (.str "*") (.binary (.str "+") (.identifier "$0") (.identifier "true"))
      (.binary (.str "*") (.identifier "v") (.binary (.str "+") (.identifier "w") (.identifier "z")))))

theorem shadedFormula_declares_free : ∃ b v s' b', shadedSample.builder? 1 = some b ∧
    shadedSample.run 1 (fun outer => lower ⟨outer, .index⟩ shadedFormula) = some (.ok v, s') ∧
    s'.builder? 1 = some b' ∧ b.parameters = [⟨"v", ""⟩] ∧
    shadedFormula.identifiers = ["w", "data", "$0", "true", "v", "w", "z"] ∧
    b'.parameters = [⟨"v", ""⟩, ⟨"w", ""⟩, ⟨"$0", ""⟩] := by
  have reached : shadedSample.Reachable := sample_reachable.playAll _
  have before : (shadedSample.builder? 1).map (·.parameters) = some [⟨"v", ""⟩] := by decide +kernel
  obtain ⟨b, found, parameters⟩ := Option.map_eq_some_iff.mp before
  obtain ⟨result, s', b', ran, there, done, _⟩ := lower_declares_free reached found .index shadedFormula
  have succeeds : (shadedSample.run 1 fun outer => lower ⟨outer, .index⟩ shadedFormula).map
      (fun ran => ran.1.isOk) = some true := by
    decide +kernel
  have free : freeNames (shadedSample.scopesAt 1) [⟨"v", ""⟩] shadedFormula.identifiers = ["w", "$0"] := by
    decide +kernel
  rw [ran, Option.map_some, Option.some.injEq] at succeeds
  cases result with
  | error fault => cases succeeds
  | ok v =>
    obtain ⟨_, declared⟩ := done v rfl
    rw [parameters, free] at declared
    exact ⟨b, v, s', b', found, ran, there, parameters, by decide +kernel, declared⟩

/-- A keyword is never looked for among the parameters of scopes. -/
theorem keyword_hides_parameter : ¬ ∀ (s : Session) (place : Nat) (b : Builder), s.Reachable →
    s.builder? place = some b → ∀ labels name,
      (∃ scope ∈ s.scopesAt place, ∃ p ∈ scope, p.name = name) →
      ∃ d, lower ⟨s.outerScopes place, labels⟩ (.identifier name) b = .ok (.paramRef name) d := by
  intro claimed
  let s := (⟨[]⟩ : Session).playAll [.begin sampleCatalog none, .ask 0 (.pushScope [⟨"true", ""⟩])]
  have reached : s.Reachable := Reachable.start.playAll _
  obtain ⟨b, found⟩ : ∃ b, s.builder? 0 = some b := ⟨_, rfl⟩
  have visible : ∃ scope ∈ s.scopesAt 0, ∃ p ∈ scope, p.name = "true" := by decide +kernel
  obtain ⟨d, lowered⟩ := claimed s 0 b reached found .index "true" visible
  have keyword : lower ⟨s.outerScopes 0, .index⟩ (.identifier "true") b = .ok (.scalar (.bool true)) b := rfl
  rw [keyword] at lowered
  cases lowered

end Session
end FormulaGraph
