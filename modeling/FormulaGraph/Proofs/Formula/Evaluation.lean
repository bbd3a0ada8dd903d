import FormulaGraph.Proofs.Formula.Applications

/-!
# How far an evaluation comes

An expression is evaluated act by act: identifiers are read and operations are applied, each behind the
applications in front of it. `Carried` relates the nodes before some acts to those behind them. Lowering
carries out a prefix of the acts of an expression, and all of them if it does not fail; so a reference to a
node that is not there stops it, unless a node in front of it has been given this very id.
-/

namespace FormulaGraph

open Build

/-- What is done in evaluating an expression. -/
inductive Act where
  | read (name : String)
  | apply (operation : String)
deriving DecidableEq

namespace Act

/-- The operations that are applied among some acts. -/
def applied (acts : List Act) : List String :=
  acts.filterMap fun
    | .apply operation => some operation
    | .read _ => none

/-- The identifiers that are read among some acts. -/
def names (acts : List Act) : List String :=
  acts.filterMap fun
    | .read name => some name
    | .apply _ => none

/-- The application of a function; only a text is one. -/
def ofFunction : Json → List Act
  | .scalar (.str name) => [.apply name]
  | _ => []

/-- The application that an operator stands for, if it is one of those that there are. -/
def ofOperator : Json → List Act
  | .scalar (.str symbol) => (Operator.operation? symbol).toList.map .apply
  | _ => []

theorem names_append (early late : List Act) : names (early ++ late) = names early ++ names late :=
  List.filterMap_append

theorem names_ofFunction (function : Json) : names (ofFunction function) = [] := by
  unfold ofFunction
  split
  · rfl
  · rfl

theorem names_ofOperator (operator : Json) : names (ofOperator operator) = [] := by
  unfold ofOperator
  split
  · simp [names]
  · rfl

end Act

namespace Expr

mutual

/-- The acts of an expression, in the order in which they are carried out. -/
def evaluation : Expr → List Act
  | .number _ => []
  | .identifier name => [.read name]
  | .group inner => evaluation inner
  | .call function args => evaluationAll args ++ Act.ofFunction function
  | .binary operator left right => evaluation left ++ (evaluation right ++ Act.ofOperator operator)
  | .unary operator operand =>
    evaluation operand ++
      if Formula.isMinus operator ∧ constant? operand = none then Act.ofOperator (.str "*") else []

def evaluationAll : List Expr → List Act
  | [] => []
  | arg :: rest => evaluation arg ++ evaluationAll rest

end

theorem names_evaluation (e : Expr) : Act.names e.evaluation = e.identifiers := by
  induction e using Expr.induct with
  | number n | identifier name => rfl
  | group inner ih => exact ih
  | call function args ih =>
    have all : Act.names (evaluationAll args) = identifiersAll args := by
      induction args with
      | nil => rfl
      | cons arg rest ihr =>
        rw [evaluationAll, Act.names_append, ih arg List.mem_cons_self,
          ihr fun other member => ih other (List.mem_cons_of_mem arg member), identifiersAll]
    rw [evaluation, Act.names_append, all, Act.names_ofFunction, List.append_nil, identifiers]
  | binary operator left right ihl ihr =>
    rw [evaluation, Act.names_append, Act.names_append, ihl, ihr, Act.names_ofOperator, List.append_nil,
      identifiers]
  | unary operator operand ih =>
    rw [evaluation, Act.names_append, ih, identifiers]
    split
    · rw [Act.names_ofOperator, List.append_nil]
    · exact List.append_nil _

theorem exists_evaluation_of_mem {e : Expr} {name : String} (member : name ∈ e.identifiers) :
    ∃ before after, e.evaluation = before ++ .read name :: after := by
  rw [← names_evaluation] at member
  obtain ⟨act, inside, read⟩ := List.mem_filterMap.mp member
  cases act with
  | apply operation => cases read
  | read other =>
    cases read
    exact List.append_of_mem inside

end Expr

/-- The nodes before and behind some acts: a node is there when its id is read, and one node is added for
each application. -/
inductive Carried : NameMap Node → List Act → NameMap Node → Prop
  | nil (nodes : NameMap Node) : Carried nodes [] nodes
  | read {nodes last : NameMap Node} {acts : List Act} {name : String}
      (known : ∀ id, name = "#" ++ id → NameMap.has nodes id = true) (rest : Carried nodes acts last) :
      Carried nodes (.read name :: acts) last
  | apply {nodes last : NameMap Node} {acts : List Act} {operation : String} {n : Node}
      (operates : n.operation = .str operation) (rest : Carried (nodes ++ [(n.id, n)]) acts last) :
      Carried nodes (.apply operation :: acts) last

namespace Carried

variable {nodes middle last : NameMap Node} {acts acts' : List Act}

theorem trans (first : Carried nodes acts middle) (second : Carried middle acts' last) :
    Carried nodes (acts ++ acts') last := by
  induction first with
  | nil => exact second
  | read known _ ih => exact .read known (ih second)
  | apply operates _ ih => exact .apply operates (ih second)

theorem split (carried : Carried nodes (acts ++ acts') last) :
    ∃ middle, Carried nodes acts middle ∧ Carried middle acts' last := by
  induction acts generalizing nodes with
  | nil => exact ⟨nodes, .nil nodes, carried⟩
  | cons act acts ih =>
    cases carried with
    | read known rest =>
      obtain ⟨middle, first, second⟩ := ih rest
      exact ⟨middle, .read known first, second⟩
    | apply operates rest =>
      obtain ⟨middle, first, second⟩ := ih rest
      exact ⟨middle, .apply operates first, second⟩

theorem added (carried : Carried nodes acts last) : ∃ added, last = nodes ++ added ∧
    added.map (fun entry => entry.2.operation) = (Act.applied acts).map Value.str := by
  induction carried with
  | nil => exact ⟨[], by simp, rfl⟩
  | read _ _ ih => exact ih
  | @apply nodes last acts operation n operates _ ih =>
    obtain ⟨added, rfl, operations⟩ := ih
    exact ⟨(n.id, n) :: added, by simp, by simp [Act.applied, operates, operations]⟩

theorem generated {before after : List Act} {id : String} (absent : NameMap.has nodes id = false)
    (carried : Carried nodes (before ++ .read ("#" ++ id) :: after) last) :
    ∃ early late, last = nodes ++ early ++ late ∧ early.length = (Act.applied before).length ∧
      id ∈ NameMap.keys early := by
  obtain ⟨middle, first, second⟩ := carried.split
  obtain ⟨early, rfl, operations⟩ := first.added
  obtain ⟨late, rfl, _⟩ := second.added
  cases second with
  | read known rest =>
    have present := NameMap.has_iff.mp (known id rfl)
    rw [NameMap.keys_append, List.mem_append] at present
    refine ⟨early, late, rfl, by simpa using congrArg List.length operations, ?_⟩
    refine present.resolve_left fun old => ?_
    rw [NameMap.has_iff.mpr old] at absent
    cases absent

end Carried

namespace Formula

variable {α : Type} {ctx : Context} {b c : Builder}

/-! ### Steps -/

/-- An action carries out acts one after the other, all of them unless it fails. -/
def CarriesOut (acts : List Act) (b : Builder) : EStateM.Result Fault Builder α → Prop :=
  Follows (fun b acts c => Carried b.nodes acts c.nodes) (fun _ => True) acts b

theorem CarriesOut.nothing (acts : List Act) (fault : Fault) :
    CarriesOut acts b (.error fault b : EStateM.Result Fault Builder α) :=
  ⟨[], List.nil_prefix, .nil b.nodes⟩

theorem CarriesOut.bind {β : Type} {acts acts' : List Act} {x : Build α} {f : α → Build β}
    (first : CarriesOut acts b (x b))
    (next : ∀ a c, x b = .ok a c → CarriesOut acts' c (f a c)) :
    CarriesOut (acts ++ acts') b ((x >>= f) b) :=
  Follows.bind Carried.trans first fun a c ran _ _ => next a c ran

theorem carriesOut_resolve (ctx : Context) (name : String) :
    CarriesOut [.read name] b (resolve ctx name b) := by
  cases ran : resolve ctx name b with
  | ok v c =>
    refine ⟨trivial, .read ?_ ?_⟩
    · rintro id rfl
      rcases resolve_ok ran with ⟨_, form, _⟩ | ⟨_, form, present, _⟩ | ⟨_, _, _, _, form, _⟩ |
        ⟨form | ⟨_, form, _⟩, _⟩
      all_goals rw [identifierForm_eq_node.mpr rfl] at form; cases form
      exact present
    · rw [nodes_of_resolve ran]
      exact .nil b.nodes
  | error fault c =>
    obtain ⟨_, rfl⟩ := resolve_error ran
    exact .nothing _ fault

theorem carriesOut_invoke (operation : String) (arguments : Value) :
    CarriesOut [.apply operation] b (invoke operation arguments b) := by
  cases ran : invoke operation arguments b with
  | ok v c =>
    obtain ⟨n, _, nodes, operates, _⟩ := invoke_ok ran
    refine ⟨trivial, .apply operates ?_⟩
    rw [nodes]
    exact .nil _
  | error fault c =>
    unfold invoke at ran
    rcases Builder.createNode_cases (.str operation) arguments none .null b with
      ⟨other, failed⟩ | ⟨_, _, _, _, _, _, created⟩
    · rw [failed] at ran
      cases ran
      exact .nothing _ _
    · rw [created] at ran
      cases ran

theorem carriesOut_callNode (function : Json) (values : List Value) :
    CarriesOut (Act.ofFunction function) b (callNode function values b) := by
  rcases callNode_cases function values b with ⟨fault, failed, _⟩ | ⟨definition, rfl, _, _, invokes⟩
  · rw [failed]
    exact .nothing _ _
  · rw [invokes]
    exact carriesOut_invoke definition.name (.list values)

theorem carriesOut_operatorNode (operator : Json) (left right : Value) :
    CarriesOut (Act.ofOperator operator) b (operatorNode operator left right b) := by
  rcases operatorNode_cases operator left right b with
    ⟨fault, failed, _⟩ | ⟨symbol, operation, _, _, _, rfl, means, _, _, invokes⟩
  · rw [failed]
    exact .nothing _ _
  · have single : Act.ofOperator (.str symbol) = [.apply operation] := by simp [Act.ofOperator, means]
    rw [invokes, single]
    exact carriesOut_invoke operation _

/-! ### Expressions -/

theorem carriesOut_lowerAll {args : List Expr}
    (each : ∀ arg ∈ args, ∀ b, CarriesOut arg.evaluation b (lower ctx arg b)) :
    CarriesOut (Expr.evaluationAll args) b (lowerAll ctx args b) := by
  induction args generalizing b with
  | nil => exact ⟨trivial, .nil b.nodes⟩
  | cons arg rest ih =>
    rw [lowerAll, Expr.evaluationAll]
    refine (each arg List.mem_cons_self b).bind fun v c _ => ?_
    rw [← List.append_nil (Expr.evaluationAll rest)]
    refine (ih fun other member => each other (List.mem_cons_of_mem arg member)).bind fun values d _ => ?_
    exact ⟨trivial, .nil d.nodes⟩

theorem carriesOut_lower (ctx : Context) (e : Expr) (b : Builder) :
    CarriesOut e.evaluation b (lower ctx e b) := by
  induction e using Expr.induct generalizing b with
  | number n => exact ⟨trivial, .nil b.nodes⟩
  | identifier name => exact carriesOut_resolve ctx name
  | group inner ih => exact ih b
  | call function args ih =>
    rw [lower, Expr.evaluation]
    exact (carriesOut_lowerAll ih).bind fun values c _ => carriesOut_callNode function values
  | binary operator left right ihl ihr =>
    rw [lower, Expr.evaluation]
    exact (ihl b).bind fun v c _ => (ihr c).bind fun w d _ => carriesOut_operatorNode operator v w
  | unary operator operand ih =>
    rw [lower, Expr.evaluation]
    refine (ih b).bind fun v c lowered => ?_
    have constant : v.number? = operand.constant? := number?_of_lower lowered
    -- the sign before a number makes no node
    cases minus : isMinus operator with
    | false => exact ⟨trivial, .nil c.nodes⟩
    | true =>
      cases folded : operand.constant? with
      | some n =>
        rw [if_pos rfl, negate_of_number (constant.trans folded)]
        exact ⟨trivial, .nil c.nodes⟩
      | none =>
        rw [if_pos rfl, negate_of_not_number (constant.trans folded)]
        exact carriesOut_operatorNode _ _ v

/-! ### Compiling -/

/-- A list that begins another one ends in front of a place in it, or passes this place. -/
theorem prefix_or_passes {α : Type} {done before after : List α} {x : α} (part : done <+: before ++ x :: after) :
    done <+: before ∨ ∃ more, done = before ++ x :: more := by
  rcases List.prefix_or_prefix_of_prefix part (List.prefix_append before _) with short | ⟨more, rfl⟩
  · exact Or.inl short
  · rw [List.prefix_append_right_inj] at part
    cases more with
    | nil => exact Or.inl (by simp)
    | cons y more =>
      obtain ⟨rfl, _⟩ := List.cons_prefix_cons.mp part
      exact Or.inr ⟨more, rfl⟩

/-- What a compilation has done: it has carried out all acts and then at most changed flags, or it has failed
behind some acts and has changed no flag. -/
theorem evaluation_of_compile (h : b.WellFormed) {source : Source} {e : Expr}
    (read : source.parse = .ok (.expr e)) (outer : List Scope) (options : Options) :
    match compile outer source options b with
    | .ok _ c => ∃ nodes, Carried b.nodes e.evaluation nodes ∧ NameMap.keys nodes <+: NameMap.keys c.nodes
    | .error _ c => ∃ done, done <+: e.evaluation ∧ Carried b.nodes done c.nodes := by
  rcases accept_cases read with ⟨_, accepted⟩ | ⟨_, refused⟩
  case inr =>
    rw [compile_of_accept_error refused]
    exact ⟨[], List.nil_prefix, .nil b.nodes⟩
  obtain ⟨start, nodes, catalog, result, succeeds, fails⟩ := run_of_compile h accepted outer options
  have acts := carriesOut_lower ⟨outer, options.labels⟩ e start
  rw [← nodes]
  cases compiled : compile outer source options b with
  | ok v d =>
    obtain ⟨c, ran, same⟩ := succeeds v d compiled
    obtain ⟨w, middle, lowered, finished⟩ := bind_ok ran
    have flagged := Builder.conduct_continues.finish w options.mark middle
    rw [final_of_ok finished] at flagged
    rw [lowered] at acts
    exact ⟨middle.nodes, acts.2, same ▸ flagged.keys⟩
  | error fault d =>
    obtain ⟨c, ran, same⟩ := fails fault d compiled
    rcases bind_error ran with failed | ⟨w, middle, lowered, failed⟩
    · rw [failed] at acts
      obtain ⟨done, part, carried⟩ := acts
      exact ⟨done, part, same ▸ carried⟩
    · have sound := Builder.conduct_wellFormed.lower ⟨outer, options.labels⟩ e start (h.congr nodes catalog result)
      rw [final_of_ok lowered] at sound
      obtain rfl := finish_error sound failed
      rw [lowered] at acts
      exact ⟨e.evaluation, List.prefix_refl _, same ▸ acts.2⟩

end Formula

open Formula

/-- Whether one of the first so many nodes that have been added to a builder has an id. -/
def Builder.AddsAmong (b c : Builder) (count : Nat) (id : String) : Prop :=
  ∃ early late, NameMap.keys c.nodes = NameMap.keys b.nodes ++ early ++ late ∧ early.length = count ∧ id ∈ early

theorem Carried.addsAmong {b c : Builder} {nodes : NameMap Node} {before after : List Act} {id : String}
    (absent : b.has id = false) (carried : Carried b.nodes (before ++ .read ("#" ++ id) :: after) nodes)
    (flagged : NameMap.keys nodes <+: NameMap.keys c.nodes) : b.AddsAmong c (Act.applied before).length id := by
  obtain ⟨early, late, rfl, few, given⟩ := carried.generated absent
  obtain ⟨more, keys⟩ := flagged
  refine ⟨NameMap.keys early, NameMap.keys late ++ more, ?_, (List.length_map _).trans few, given⟩
  rw [← keys, NameMap.keys_append, NameMap.keys_append]
  simp only [List.append_assoc]

/-- An expression that names a node which is not there does not compile, unless a node that is made in front
of the name has been given this id. When it fails, its nodes are those of applications in front of the name,
in order; with no application in front of it there are none. -/
theorem Builder.Reachable.compile_missing {b : Builder} (reachable : b.Reachable) {source : Source} {e : Expr}
    (parsed : source.parse = .ok (.expr e)) (outer : List Scope) (options : Options) {id : String}
    (mentioned : "#" ++ id ∈ e.identifiers) (absent : b.has id = false) :
    (∃ before after, e.evaluation = before ++ .read ("#" ++ id) :: after) ∧
    ∀ before after, e.evaluation = before ++ .read ("#" ++ id) :: after →
      (∀ v c, compile outer source options b = .ok v c → b.AddsAmong c (Act.applied before).length id) ∧
      (∀ fault c, compile outer source options b = .error fault c →
        b.AddsAmong c (Act.applied before).length id ∨
        ∃ added, c.nodes = b.nodes ++ added ∧
          added.map (fun entry => entry.2.operation) <+: (Act.applied before).map Value.str) ∧
      (Act.applied before = [] → ∃ fault c, compile outer source options b = .error fault c ∧
        c.nodes = b.nodes) := by
  refine ⟨Expr.exists_evaluation_of_mem mentioned, fun before after acts => ?_⟩
  have ran := evaluation_of_compile reachable.wellFormed parsed outer options
  rw [acts] at ran
  have succeeds (v c) (compiled : compile outer source options b = .ok v c) :
      b.AddsAmong c (Act.applied before).length id := by
    rw [compiled] at ran
    obtain ⟨nodes, carried, flagged⟩ := ran
    exact carried.addsAmong absent flagged
  have fails (fault c) (compiled : compile outer source options b = .error fault c) :
      b.AddsAmong c (Act.applied before).length id ∨
      ∃ added, c.nodes = b.nodes ++ added ∧
        added.map (fun entry => entry.2.operation) <+: (Act.applied before).map Value.str := by
    rw [compiled] at ran
    obtain ⟨done, part, carried⟩ := ran
    rcases prefix_or_passes part with short | ⟨more, rfl⟩
    · obtain ⟨added, nodes, operations⟩ := carried.added
      exact Or.inr ⟨added, nodes, operations ▸ (short.filterMap _).map _⟩
    · exact Or.inl (carried.addsAmong absent (List.prefix_refl _))
  refine ⟨succeeds, fails, fun first => ?_⟩
  -- among no nodes there is none with this id
  have none (c) : ¬ b.AddsAmong c (Act.applied before).length id := by
    rintro ⟨early, _, _, few, given⟩
    rw [first] at few
    rw [List.length_eq_zero_iff.mp few] at given
    cases given
  cases compiled : compile outer source options b with
  | ok v c => exact absurd (succeeds v c compiled) (none c)
  | error fault c =>
    obtain ⟨added, nodes, part⟩ := (fails fault c compiled).resolve_left (none c)
    rw [first, List.map_nil, List.prefix_nil, List.map_eq_nil_iff] at part
    exact ⟨fault, c, rfl, by rw [nodes, part, List.append_nil]⟩

def sumWithMissing : Expr :=
  .binary (.str "*") (.binary (.str "+") (.identifier "x") (.identifier "#add1"))
    (.binary (.str "+") (.identifier "x") (.number (.int 1)))

theorem sumWithMissing_compile_missing : ∃ b fault c, b.Reachable ∧ "#add1" ∈ sumWithMissing.identifiers ∧
    b.has "add1" = false ∧ sumWithMissing.evaluation =
      [.read "x", .read "#add1", .apply "add", .read "x", .apply "add", .apply "multiply"] ∧
    compile [] (.expr sumWithMissing) ⟨true, none, .index⟩ b = .error fault c ∧ c.nodes = b.nodes := by
  have reachable := Builder.Reachable.empty Session.sampleCatalog
  have mentioned : "#" ++ "add1" ∈ sumWithMissing.identifiers := by decide
  have acts : sumWithMissing.evaluation =
      [.read "x", .read "#add1", .apply "add", .read "x", .apply "add", .apply "multiply"] := by decide
  have parsed : (Source.expr sumWithMissing).parse = .ok (.expr sumWithMissing) := rfl
  obtain ⟨_, each⟩ := reachable.compile_missing parsed [] ⟨true, none, .index⟩ mentioned rfl
  obtain ⟨_, _, nothing⟩ := each [.read "x"] _ acts
  obtain ⟨fault, c, failed, same⟩ := nothing rfl
  exact ⟨_, fault, c, reachable, mentioned, rfl, acts, failed, same⟩

/-- That a node is missing is noticed when its name is read, behind the nodes that have been made by then. -/
theorem missing_node_noticed_late : ¬ ∀ b : Builder, b.Reachable → ∀ (e : Expr) id,
    "#" ++ id ∈ e.identifiers → b.has id = false → ∀ outer options,
    ∃ fault c, compile outer (.expr e) options b = .error fault c ∧ c.nodes = b.nodes := by
  intro fails
  let sum : Expr := .call (.str "add") [.number (.int 1), .number (.int 2)]
  have reachable := Builder.Reachable.empty Session.sampleCatalog
  obtain ⟨fault, c, failed, same⟩ := fails _ reachable
    (.binary (.str "+") sum (.identifier "#missing")) "missing" (by decide) rfl [] ⟨true, none, .index⟩
  have left : NameMap.keys ((compile [] (.expr (.binary (.str "+") sum (.identifier "#missing")))
      ⟨true, none, .index⟩).final (.empty Session.sampleCatalog none)).nodes = ["add1"] := by decide +kernel
  rw [final_of_error failed, same] at left
  cases left

end FormulaGraph
