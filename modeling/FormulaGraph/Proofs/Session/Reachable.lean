import FormulaGraph.Proofs.Builder.WellFormed
import FormulaGraph.Proofs.Formula.Conduct
import FormulaGraph.Session

/-!
# Sessions that can be reached

A session begins without builders. A `Move` adds a builder, with or without a parent, or asks a builder
for something; a request that fails is a move as well. `Reachable` sessions are those that moves lead
to, and what holds of an empty builder and is kept by every change of a builder holds of every
builder in them: `Reachable.forall_builders`. A `Step` is a move, a block of steps inside a scope, or an
attempt at some steps.
-/

namespace FormulaGraph

/-- What a builder can be asked to do. -/
inductive Request where
  | createNode (operation : Json) (arguments : Value) (id : Option String) (description : Json)
  | markResult (target : Value)
  | declare (parameter : Parameter)
  | pushScope (scope : Scope)
  | popScope
  | resolve (labels : NumericLabels) (name : Json)
  | lower (labels : NumericLabels) (e : Expr)
  | compile (source : Formula.Source) (options : Formula.Options)
  | tryCompile (source : Formula.Source) (options : Formula.Options)

inductive Answer where
  | done
  | node (n : Node)
  | parameter (p : Parameter)
  | scope (scope : Scope)
  | value (v : Value)
  | outcome (o : Formula.Outcome)

/-- The action that a request asks for. -/
def Request.perform (request : Request) (outer : List Scope) : Build Answer :=
  match request with
  | .createNode operation arguments id description =>
    .node <$> Builder.createNode operation arguments id description
  | .markResult target => (fun _ => .done) <$> Builder.markResult target
  | .declare parameter => .parameter <$> Builder.declare parameter
  | .pushScope scope => (fun _ => .done) <$> Builder.pushScope scope
  | .popScope => .scope <$> Builder.popScope
  | .resolve labels name => .value <$> Formula.resolveDatum ⟨outer, labels⟩ name
  | .lower labels e => .value <$> Formula.lower ⟨outer, labels⟩ e
  | .compile source options => .value <$> Formula.compile outer source options
  | .tryCompile source options => .outcome <$> Formula.tryCompile outer source options

/-- A change of a session. -/
inductive Move where
  /-- A builder with a catalog and an earlier builder as its parent, or none, is added. -/
  | begin (catalog : Catalog) (parent : Option Nat)
  /-- A builder for a callback of a node of its parent is added. -/
  | callback (parent : Nat) (scope : Option Scope)
  /-- The builder at a place is asked for something. -/
  | ask (place : Nat) (request : Request)

namespace Session

def addBuilder (s : Session) (catalog : Catalog) (parent : Option Nat) : Session :=
  if parent.all (· < s.builders.length) then ⟨s.builders ++ [Builder.empty catalog parent]⟩ else s

/-- The session after a move, and the fault if the move failed. -/
def play (s : Session) : Move → Option Fault × Session
  | .begin catalog parent => (none, s.addBuilder catalog parent)
  | .callback parent scope => (none, s.addChild parent scope)
  | .ask place request =>
    match s.run place request.perform with
    | some (.ok _, after) => (none, after)
    | some (.error fault, after) => (some fault, after)
    | none => (none, s)

/-- Sessions that moves lead to, failed ones included. -/
inductive Reachable : Session → Prop where
  | start : Reachable ⟨[]⟩
  | move {s : Session} (m : Move) : Reachable s → Reachable (s.play m).2

/-- What is done in a session: a move, a block of steps inside a scope of a builder, or an attempt. The
first step that fails ends the block, and the scope is left in any case; it also ends the attempt, but what
comes behind an attempt is done all the same. -/
inductive Step where
  | move (m : Move)
  | block (place : Nat) (scope : Scope) (body : List Step)
  | attempt (body : List Step)

mutual

/-- The session after a step, and the fault if the step failed. -/
def Step.run (s : Session) : Step → Option Fault × Session
  | .move m => s.play m
  | .block place scope body =>
    match s.play (.ask place (.pushScope scope)) with
    | (some fault, s) => (some fault, s)
    | (none, s) =>
      let (fault?, s) := Step.runAll s body
      match s.play (.ask place .popScope) with
      | (some second, s) => (some second, s)
      | (none, s) => (fault?, s)
  | .attempt body => (none, (Step.runAll s body).2)

/-- The session after steps, up to the first that fails. -/
def Step.runAll (s : Session) : List Step → Option Fault × Session
  | [] => (none, s)
  | step :: rest =>
    match Step.run s step with
    | (some fault, s) => (some fault, s)
    | (none, s) => Step.runAll s rest

end

mutual

/-- A step with its blocks is a sequence of moves. -/
theorem Reachable.run {s : Session} (reachable : Reachable s) : ∀ step, Reachable (Step.run s step).2
  | .move m => .move m reachable
  | .block place scope body => by
    have entered := Reachable.move (.ask place (.pushScope scope)) reachable
    rw [Step.run]
    rcases h : s.play (.ask place (.pushScope scope)) with ⟨_ | fault, inside⟩
    · rw [h] at entered
      have done := Reachable.runAll entered body
      have left := Reachable.move (.ask place .popScope) done
      dsimp only
      rcases h' : Session.play (Step.runAll inside body).2 (.ask place .popScope) with ⟨_ | second, after⟩
      · rw [h'] at left
        exact left
      · rw [h'] at left
        exact left
    · rw [h] at entered
      exact entered
  | .attempt body => Reachable.runAll reachable body

theorem Reachable.runAll {s : Session} (reachable : Reachable s) :
    ∀ steps, Reachable (Step.runAll s steps).2
  | [] => reachable
  | step :: rest => by
    have first := Reachable.run reachable step
    rw [Step.runAll]
    rcases h : Step.run s step with ⟨_ | fault, after⟩
    · rw [h] at first
      exact Reachable.runAll first rest
    · rw [h] at first
      exact first

end

end Session

namespace Build

variable {α β : Type} {R : Builder → Builder → Prop}

theorem final_map (f : α → β) (action : Build α) (b : Builder) :
    (f <$> action).final b = action.final b := by
  change final (EStateM.map f action) b = action.final b
  unfold final EStateM.map
  cases action b with
  | ok a b' | error fault b' => rfl

theorem Keeps.map {action : Build α} (kept : Keeps R action) (f : α → β) : Keeps R (f <$> action) := by
  intro b
  rw [final_map]
  exact kept b

end Build

theorem Conduct.request {R : Builder → Builder → Prop} (conduct : Conduct R) (outer : List Scope)
    (request : Request) : Build.Keeps R (request.perform outer) := by
  cases request with
  | createNode operation arguments id description =>
    exact (conduct.create operation arguments id description).map _
  | markResult target => exact (conduct.mark target).map _
  | declare parameter => exact (conduct.declare parameter).map _
  | pushScope scope => exact (conduct.push scope).map _
  | popScope => exact conduct.pop.map _
  | resolve labels name => exact (conduct.resolveDatum ⟨outer, labels⟩ name).map _
  | lower labels e => exact (conduct.lower ⟨outer, labels⟩ e).map _
  | compile source options => exact (conduct.compile outer source options).map _
  | tryCompile source options => exact (conduct.tryCompile outer source options).map _

namespace Session

section Run

variable {α : Type} {s : Session} {place : Nat} {b b' : Builder} {action : List Scope → Build α}

theorem run_of_ok {a : α} (found : s.builders[place]? = some b)
    (h : action (s.outerScopes place) b = .ok a b') :
    s.run place action = some (.ok a, ⟨s.builders.set place b'⟩) := by
  unfold run
  rw [found, Option.map_some, h]

theorem run_of_error {fault : Fault} (found : s.builders[place]? = some b)
    (h : action (s.outerScopes place) b = .error fault b') :
    s.run place action = some (.error fault, ⟨s.builders.set place b'⟩) := by
  unfold run
  rw [found, Option.map_some, h]

theorem run_eq_some (found : s.builders[place]? = some b) (action : List Scope → Build α) :
    ∃ result, s.run place action =
      some (result, ⟨s.builders.set place ((action (s.outerScopes place)).final b)⟩) := by
  cases h : action (s.outerScopes place) b with
  | ok a after => exact ⟨.ok a, by rw [run_of_ok found h, Build.final_of_ok h]⟩
  | error fault after => exact ⟨.error fault, by rw [run_of_error found h, Build.final_of_error h]⟩

theorem builder?_set_self (found : s.builder? place = some b) (c : Builder) :
    (⟨s.builders.set place c⟩ : Session).builder? place = some c :=
  List.getElem?_set_self (List.getElem?_eq_some_iff.mp found).1

theorem builder?_set_of_ne {other : Nat} (different : other ≠ place) (c : Builder) :
    (⟨s.builders.set place c⟩ : Session).builder? other = s.builder? other :=
  List.getElem?_set_ne (Ne.symm different)

end Run

theorem play_ask {s : Session} {place : Nat} {b : Builder} (found : s.builders[place]? = some b)
    (request : Request) : (s.play (.ask place request)).2 =
      ⟨s.builders.set place ((request.perform (s.outerScopes place)).final b)⟩ := by
  obtain ⟨result, ran⟩ := run_eq_some found request.perform
  simp only [play, ran]
  cases result with
  | ok answer | error fault => rfl

theorem play_ask_of_none {s : Session} {place : Nat} (absent : s.builders[place]? = none)
    (request : Request) : (s.play (.ask place request)).2 = s := by
  simp [play, run, absent]

/-- What holds of every empty builder, and is kept by every change of a builder, holds of all
builders that can be reached. -/
theorem Reachable.forall_builders {P : Builder → Prop}
    (empty : ∀ catalog parent, P (Builder.empty catalog parent))
    (conduct : Conduct fun b b' => P b → P b') {s : Session} (reachable : Reachable s) :
    ∀ b ∈ s.builders, P b := by
  induction reachable with
  | start => simp
  | @move s m _ ih =>
    cases m with
    | begin catalog parent =>
      simp only [play, addBuilder]
      split
      · intro b member
        rcases List.mem_append.mp member with old | new
        · exact ih b old
        · rw [List.mem_singleton.mp new]
          exact empty catalog parent
      · exact ih
    | callback parent scope =>
      simp only [play, addChild]
      cases s.builders[parent]? with
      | none => exact ih
      | some p =>
        intro b member
        rcases List.mem_append.mp member with old | new
        · exact ih b old
        · rw [List.mem_singleton.mp new]
          cases scope with
          | none => exact empty _ _
          | some scope => exact conduct.push scope _ (empty _ _)
    | ask place request =>
      cases found : s.builders[place]? with
      | none =>
        rw [play_ask_of_none found]
        exact ih
      | some b =>
        rw [play_ask found]
        intro c member
        rcases List.mem_or_eq_of_mem_set member with old | new
        · exact ih c old
        · rw [new]
          exact conduct.request _ request b (ih b (List.mem_of_getElem? found))

def playAll (s : Session) (moves : List Move) : Session := moves.foldl (fun s m => (s.play m).2) s

theorem Reachable.playAll {s : Session} (reachable : s.Reachable) (moves : List Move) :
    (s.playAll moves).Reachable := by
  induction moves generalizing s with
  | nil => exact reachable
  | cons m rest ih => exact ih (.move m reachable)

/-! ### A session to compute with -/

def sampleCatalog : Catalog :=
  let operation (name first second : String) : Operation :=
    ⟨name, "", "", [⟨first, "", false⟩, ⟨second, "", false⟩]⟩
  .ofOperations [operation "add" "x" "y", operation "multiply" "x" "y", operation "reduce" "data" "by"]

/-- A callback graph is made, with the first two elements of its parameter added up. -/
def sampleCallback : Session :=
  (⟨[]⟩ : Session).playAll
    [.begin sampleCatalog none,
      .callback 0 (some [⟨"data", ""⟩]),
      .ask 1 (.compile (.expr (.binary (.str "+") (.identifier "$0") (.identifier "$1")))
        ⟨true, none, .index⟩)]

/-- The callback goes to a node; before it a node has an id that could have been made, and a call fails.
A formula over both is compiled and marked. -/
def sample : Session :=
  sampleCallback.playAll
    [.ask 0 (.createNode (.str "add") (.list [.number (.int 1), .number (.int 2)]) (some "add2") .null),
      .ask 0 (.createNode (.str "divide") (.list []) none .null),
      .ask 0 (.createNode (.str "reduce")
        (.obj [("data", .list [.nodeRef "add2", .list [.str "x", .null]]),
          ("by", .graph ((sampleCallback.builder? 1).elim default Builder.toGraph))])
        none (.str "")),
      .ask 0 (.compile (.expr (.unary (.str "-")
        (.binary (.str "+") (.identifier "#reduce1") (.identifier "x")))) ⟨true, none, .index⟩)]

theorem sample_reachable : sample.Reachable := (Reachable.start.playAll _).playAll _

theorem sample_first : (sample.builder? 0).map (fun b => (NameMap.keys b.nodes, b.resultId)) =
    some (["add2", "reduce1", "add1", "multiply1"], some "multiply1") := by
  decide +kernel

end Session
end FormulaGraph
