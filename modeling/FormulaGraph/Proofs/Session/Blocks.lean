import FormulaGraph.Proofs.Formula.Faults
import FormulaGraph.Proofs.Formula.Repetition
import FormulaGraph.Proofs.Session.History

/-!
# Blocks inside scopes

A block enters a scope of its builder and leaves one whatever comes of its body. As long as the scopes of
the builder are entered and left by blocks and formulas only, what stands on top of the scopes from before
is, at every point of a run, the scopes of the blocks that are open there: `scopeStack_of_passes`. So a
block has always its own scope to leave, and leaves the others as it found them.
-/

namespace FormulaGraph

open Build

namespace Builder

def SameScopes (b c : Builder) : Prop := c.scopes = b.scopes

theorem SameScopes.trans {a b c : Builder} (first : SameScopes a b) (second : SameScopes b c) :
    SameScopes a c :=
  Eq.trans second first

theorem growth_sameScopes : Growth SameScopes where
  refl := fun _ => rfl
  trans := fun _ _ _ => SameScopes.trans
  declare := fun parameter b => (growth_extends.declare parameter b).scopes
  create := fun operation arguments id description b =>
    (growth_extends.create operation arguments id description b).scopes

theorem sameScopes_getNode (name : Value) : Keeps SameScopes (getNode name) := by
  intro b
  unfold final getNode
  cases b.find name with
  | error fault => exact growth_sameScopes.refl b
  | ok found =>
    cases found with
    | none | some n => exact growth_sameScopes.refl b

theorem sameScopes_markResult (target : Value) : Keeps SameScopes (markResult target) := by
  intro b
  rcases markResult_cases target b with ⟨fault, failed⟩ | ⟨id, n, _, _, marked⟩
  · rw [final_of_error failed]
    exact growth_sameScopes.refl b
  · rw [final_of_ok marked]
    exact growth_sameScopes.refl b

theorem sameScopes_finish (value : Value) (mark : Bool) : Keeps SameScopes (Formula.finish value mark) := by
  have got := sameScopes_getNode
  have trans := growth_sameScopes.trans
  unfold Formula.finish
  split
  · refine keeps_bind trans (got _) fun n => ?_
    split
    · refine keeps_bind trans (sameScopes_markResult _) fun _ => ?_
      exact keeps_bind trans (got _) fun m => keeps_pure growth_sameScopes.refl _
    · exact keeps_pure growth_sameScopes.refl _
  · split
    · exact keeps_throw growth_sameScopes.refl _
    · exact keeps_pure growth_sameScopes.refl _

theorem sameScopes_source (ctx : Formula.Context) (mark : Bool) (source : Formula.Source) :
    Keeps SameScopes (source.compile ctx mark) := by
  cases source with
  | expr e =>
    exact keeps_bind growth_sameScopes.trans (growth_sameScopes.lower ctx e) fun value =>
      sameScopes_finish value mark
  | datum data => exact keeps_throw growth_sameScopes.refl _
  | foreign kind text => exact keeps_throw growth_sameScopes.refl _

/-- A scope around an action that keeps the scopes is left again, and leaving it does not fail. -/
theorem withScope_answers {α : Type} {action : Build α} (kept : Keeps SameScopes action) (scope : Scope)
    (b : Builder) :
    SameScopes b ((withScope scope action).final b) ∧
      ∀ fault c, withScope scope action b = .error fault c →
        ∃ d, action (Formula.inside scope b) = .error fault d := by
  have inside := kept (Formula.inside scope b)
  cases ran : action (Formula.inside scope b) with
  | ok v c =>
    rw [final_of_ok ran] at inside
    obtain ⟨d, left, _, _, scopes⟩ := Formula.withScope_of_ok ran inside
    rw [final_of_ok left]
    refine ⟨scopes, fun fault c failed => ?_⟩
    rw [left] at failed
    cases failed
  | error fault c =>
    rw [final_of_error ran] at inside
    obtain ⟨d, left, _, _, scopes⟩ := Formula.withScope_of_error ran inside
    rw [final_of_error left]
    refine ⟨scopes, fun other c failed => ?_⟩
    rw [left] at failed
    cases failed
    exact ⟨_, rfl⟩

theorem sameScopes_compile (outer : List Scope) (source : Formula.Source) (options : Formula.Options) :
    Keeps SameScopes (Formula.compile outer source options) := by
  intro b
  unfold final Formula.compile
  cases source.accept with
  | error fault => exact growth_sameScopes.refl b
  | ok parsed =>
    have body := sameScopes_source ⟨outer, options.labels⟩ options.mark parsed
    dsimp only
    cases options.scope with
    | none => exact body (b.record _)
    | some scope => exact (withScope_answers body scope (b.record _)).1

theorem sameScopes_tryCompile (outer : List Scope) (source : Formula.Source) (options : Formula.Options) :
    Keeps SameScopes (Formula.tryCompile outer source options) := by
  intro b
  have compiled := sameScopes_compile outer source options b
  unfold final Formula.tryCompile
  cases ran : Formula.compile outer source options b with
  | ok value c =>
    rw [final_of_ok ran] at compiled
    exact compiled
  | error fault c =>
    rw [final_of_error ran] at compiled
    cases fault with
    | formula cause | misuse | unreadable | entry | config | file | markup | handler => exact compiled

end Builder

/-- Whether a request enters or leaves a scope that stays as it is then. -/
def Request.isRaw : Request → Bool
  | .pushScope _ | .popScope => true
  | _ => false

theorem Request.sameScopes_perform {request : Request} (plain : request.isRaw = false) (outer : List Scope) :
    Keeps Builder.SameScopes (request.perform outer) := by
  have growth := Builder.growth_sameScopes
  cases request with
  | createNode operation arguments id description =>
    exact (growth.create operation arguments id description).map _
  | markResult target => exact (Builder.sameScopes_markResult target).map _
  | declare parameter => exact (growth.declare parameter).map _
  | pushScope scope | popScope => cases plain
  | resolve labels name => exact (growth.resolveDatum ⟨outer, labels⟩ name).map _
  | lower labels e => exact (growth.lower ⟨outer, labels⟩ e).map _
  | compile source options => exact (Builder.sameScopes_compile outer source options).map _
  | tryCompile source options => exact (Builder.sameScopes_tryCompile outer source options).map _

theorem Formula.compile_ne_noScope (outer : List Scope) (source : Source) (options : Options) (b c : Builder) :
    compile outer source options b ≠ .error (.misuse .noScope) c := by
  have body {parsed : Source} {start : Builder} :
      FailsWith (· ≠ .misuse .noScope) (parsed.compile ⟨outer, options.labels⟩ options.mark) start := by
    cases parsed with
    | expr e =>
      refine (failsWith_compileExpr _ e options.mark).imp ?_
      rintro fault (⟨cause, rfl⟩ | ⟨_, _⟩ | ⟨_, _⟩) <;> exact nofun
    | datum data | foreign kind text => exact .of_error rfl nofun
  intro failed
  unfold compile at failed
  cases read : source.accept with
  | error fault =>
    rw [read] at failed
    cases failed
    rcases accept_error read with ⟨cause, same⟩ | same <;> cases same
  | ok parsed =>
    rw [read] at failed
    dsimp only at failed
    cases own : options.scope with
    | none =>
      rw [own] at failed
      exact body _ _ failed rfl
    | some scope =>
      rw [own] at failed
      have kept := Builder.sameScopes_source ⟨outer, options.labels⟩ options.mark parsed
      obtain ⟨d, inside⟩ := (Builder.withScope_answers kept scope _).2 _ _ failed
      exact body _ _ inside rfl

/-- Whether a move enters or leaves a scope of the builder at a place, and is no block around others. -/
def Move.isRaw (place : Nat) : Move → Bool
  | .ask asked request => asked == place && request.isRaw
  | .begin .. | .callback .. => false

namespace Session

mutual

/-- Whether the scopes of the builder at a place are entered and left by blocks only. -/
def Step.isBracketed (place : Nat) : Step → Bool
  | .move m => !m.isRaw place
  | .block _ _ body => Step.areBracketed place body
  | .attempt body => Step.areBracketed place body

def Step.areBracketed (place : Nat) : List Step → Bool
  | [] => true
  | step :: rest => Step.isBracketed place step && Step.areBracketed place rest

end

def scopeStack (s : Session) (place : Nat) : Option (List Scope) := (s.builder? place).map Builder.scopes

variable {s t : Session} {place : Nat} {stack opened : List Scope} {scope : Scope}

theorem scopeStack_eq_some : s.scopeStack place = some stack ↔
    ∃ b, s.builder? place = some b ∧ b.scopes = stack :=
  Option.map_eq_some_iff

/-! ### Moves -/

theorem play_of_ok {b c : Builder} {request : Request} {answer : Answer}
    (found : s.builder? place = some b)
    (answered : request.perform (s.outerScopes place) b = .ok answer c) :
    s.play (.ask place request) = (none, ⟨s.builders.set place c⟩) := by
  have ran : s.run place request.perform = some (.ok answer, ⟨s.builders.set place c⟩) :=
    run_of_ok found answered
  simp only [play, ran]

theorem scopeStack_set {b c : Builder} (found : s.builder? place = some b) (scopes : c.scopes = stack) :
    (⟨s.builders.set place c⟩ : Session).scopeStack place = some stack :=
  scopeStack_eq_some.mpr ⟨c, builder?_set_self found c, scopes⟩

theorem play_pushScope (held : s.scopeStack place = some stack) (scope : Scope) :
    ∃ entered, s.play (.ask place (.pushScope scope)) = (none, entered) ∧
      entered.scopeStack place = some (scope :: stack) := by
  obtain ⟨b, found, rfl⟩ := scopeStack_eq_some.mp held
  have pushed : Builder.pushScope scope b = .ok () (Formula.inside scope b) := rfl
  exact ⟨_, play_of_ok found (map_of_ok _ pushed), scopeStack_set found rfl⟩

theorem play_popScope (held : s.scopeStack place = some (scope :: stack)) :
    ∃ left, s.play (.ask place .popScope) = (none, left) ∧ left.scopeStack place = some stack := by
  obtain ⟨b, found, scopes⟩ := scopeStack_eq_some.mp held
  obtain ⟨c, popped, _, _, rest⟩ := Formula.popScope_eq scopes
  exact ⟨_, play_of_ok found (map_of_ok _ popped), scopeStack_set found rest⟩

theorem scopeStack_play {m : Move} (plain : m.isRaw place = false) (held : s.scopeStack place = some stack) :
    (s.play m).2.scopeStack place = some stack := by
  obtain ⟨b, found, scopes⟩ := scopeStack_eq_some.mp held
  have there : place < s.builders.length := (List.getElem?_eq_some_iff.mp found).1
  have added (c : Builder) : (⟨s.builders ++ [c]⟩ : Session).scopeStack place = some stack :=
    scopeStack_eq_some.mpr ⟨b, (List.getElem?_append_left there).trans found, scopes⟩
  cases m with
  | begin catalog parent =>
    simp only [play, addBuilder]
    split
    · exact added _
    · exact held
  | callback parent scope =>
    simp only [play, addChild]
    cases s.builders[parent]? with
    | none => exact held
    | some p => exact added _
  | ask asked request =>
    cases target : s.builders[asked]? with
    | none =>
      rw [play_ask_of_none target]
      exact held
    | some a =>
      rw [play_ask target]
      by_cases same : asked = place
      · subst same
        rw [Move.isRaw, beq_self_eq_true, Bool.true_and] at plain
        obtain rfl := Option.some.inj (found.symm.trans target)
        have same : ((request.perform (s.outerScopes asked)).final b).scopes = b.scopes :=
          Request.sameScopes_perform plain _ b
        exact scopeStack_set found (same.trans scopes)
      · exact scopeStack_eq_some.mpr ⟨b, (builder?_set_of_ne (Ne.symm same) _).trans found, scopes⟩

theorem isRaw_ask_of_ne {asked : Nat} (other : asked ≠ place) (request : Request) :
    (Move.ask asked request).isRaw place = false := by
  rw [Move.isRaw, beq_eq_false_iff_ne.mpr other, Bool.false_and]

/-! ### Runs -/

mutual

theorem scopeStack_run {s : Session} {stack : List Scope} (held : s.scopeStack place = some stack) :
    ∀ step, Step.isBracketed place step = true → (Step.run s step).2.scopeStack place = some stack
  | .move m, bracketed => scopeStack_play (by simpa [Step.isBracketed] using bracketed) held
  | .block asked scope body, bracketed => by
    rw [Step.run]
    by_cases here : asked = place
    · obtain ⟨entered, push, inside⟩ := play_pushScope held scope
      obtain ⟨left, pop, after⟩ := play_popScope (scopeStack_runAll inside body bracketed)
      rw [here, push]
      dsimp only
      rw [pop]
      exact after
    · -- the scope is one of another builder
      have entered := scopeStack_play (isRaw_ask_of_ne here (.pushScope scope)) held
      rcases h : s.play (.ask asked (.pushScope scope)) with ⟨_ | fault, inside⟩
      · rw [h] at entered
        have done := scopeStack_runAll entered body bracketed
        have left := scopeStack_play (isRaw_ask_of_ne here .popScope) done
        dsimp only
        rcases h' : Session.play (Step.runAll inside body).2 (.ask asked .popScope) with ⟨_ | second, after⟩
        · rw [h'] at left
          exact left
        · rw [h'] at left
          exact left
      · rw [h] at entered
        exact entered
  | .attempt body, bracketed => scopeStack_runAll held body bracketed

theorem scopeStack_runAll {s : Session} {stack : List Scope} (held : s.scopeStack place = some stack) :
    ∀ steps, Step.areBracketed place steps = true → (Step.runAll s steps).2.scopeStack place = some stack
  | [], _ => held
  | step :: rest, bracketed => by
    rw [Step.areBracketed, Bool.and_eq_true] at bracketed
    have first := scopeStack_run held step bracketed.1
    rw [Step.runAll]
    rcases h : Step.run s step with ⟨_ | fault, after⟩
    · rw [h] at first
      exact scopeStack_runAll first rest bracketed.2
    · rw [h] at first
      exact first

end

/-- A session that steps pass through, from the start to where they end, and the scopes of those blocks that
are open then in the builder at a place, the innermost first. -/
inductive Passes (place : Nat) : Session → List Step → List Scope → Session → Prop
  | start (s : Session) (steps : List Step) : Passes place s steps [] s
  | finish (s : Session) (steps : List Step) : Passes place s steps [] (Step.runAll s steps).2
  | block {s entered t : Session} {asked : Nat} {scope : Scope} {body rest : List Step} {opened : List Scope}
      (enters : s.play (.ask asked (.pushScope scope)) = (none, entered))
      (inside : Passes place entered body opened t) :
      Passes place s (.block asked scope body :: rest)
        (if asked = place then opened ++ [scope] else opened) t
  | attempt {s t : Session} {body rest : List Step} {opened : List Scope}
      (inside : Passes place s body opened t) : Passes place s (.attempt body :: rest) opened t
  | next {s after t : Session} {step : Step} {rest : List Step} {opened : List Scope}
      (done : Step.run s step = (none, after)) (later : Passes place after rest opened t) :
      Passes place s (step :: rest) opened t

theorem scopeStack_of_passes {steps : List Step} (passes : Passes place s steps opened t)
    (bracketed : Step.areBracketed place steps = true) (held : s.scopeStack place = some stack) :
    t.scopeStack place = some (opened ++ stack) := by
  induction passes generalizing stack with
  | start s steps => exact held
  | finish s steps => exact scopeStack_runAll held steps bracketed
  | @block s entered t asked scope body rest opened enters _ ih =>
    rw [Step.areBracketed, Bool.and_eq_true] at bracketed
    by_cases here : asked = place
    · subst here
      obtain ⟨other, push, inside⟩ := play_pushScope held scope
      obtain rfl := (Prod.mk.inj (push.symm.trans enters)).2
      rw [if_pos rfl, List.append_assoc]
      exact ih bracketed.1 inside
    · have inside := scopeStack_play (isRaw_ask_of_ne here (.pushScope scope)) held
      rw [enters] at inside
      rw [if_neg here]
      exact ih bracketed.1 inside
  | attempt _ ih =>
    rw [Step.areBracketed, Bool.and_eq_true] at bracketed
    exact ih bracketed.1 held
  | @next s after t step rest opened done _ ih =>
    rw [Step.areBracketed, Bool.and_eq_true] at bracketed
    have first := scopeStack_run held step bracketed.1
    rw [done] at first
    exact ih bracketed.2 first

/-- A block in a builder whose scopes are entered and left by blocks and formulas only ends with the very
scopes that it began with, whether its body fails or not, and what it fails with is what its body fails with.
At each point of the body the scope of the block stands on those from before, and below those of the blocks
inside it that are open; without such a block it is the innermost one. So leaving a scope never fails, neither
there nor within a formula. -/
theorem block_bracketed {b : Builder} (found : s.builder? place = some b) (scope : Scope) {body : List Step}
    (bracketed : Step.areBracketed place body = true) :
    ∃ entered left, s.play (.ask place (.pushScope scope)) = (none, entered) ∧
      (Step.runAll entered body).2.play (.ask place .popScope) = (none, left) ∧
      Step.run s (.block place scope body) = ((Step.runAll entered body).1, left) ∧
      (∃ c, left.builder? place = some c ∧ c.scopes = b.scopes) ∧
      (∀ opened t, Passes place entered body opened t → ∃ c, t.builder? place = some c ∧
        c.scopes = opened ++ scope :: b.scopes ∧ (opened = [] → ∀ outer, c.currentScope outer = scope) ∧
        (t.play (.ask place .popScope)).1 = none) ∧
      ∀ outer source options c d, Formula.compile outer source options c ≠ .error (.misuse .noScope) d := by
  have held : s.scopeStack place = some b.scopes := scopeStack_eq_some.mpr ⟨b, found, rfl⟩
  obtain ⟨entered, push, inside⟩ := play_pushScope held scope
  obtain ⟨left, pop, after⟩ := play_popScope (scopeStack_runAll inside body bracketed)
  refine ⟨entered, left, push, pop, ?_, scopeStack_eq_some.mp after, fun opened t passes => ?_,
    Formula.compile_ne_noScope⟩
  · rw [Step.run, push]
    dsimp only
    rw [pop]
  · have there := scopeStack_of_passes passes bracketed inside
    obtain ⟨c, now, scopes⟩ := scopeStack_eq_some.mp there
    refine ⟨c, now, scopes, ?_, ?_⟩
    · rintro rfl outer
      rw [Builder.currentScope, Builder.visible, scopes]
      rfl
    · have nonempty : opened ++ scope :: b.scopes ≠ [] := List.append_ne_nil_of_right_ne_nil _ (List.cons_ne_nil _ _)
      obtain ⟨top, rest, stack⟩ := List.exists_cons_of_ne_nil nonempty
      obtain ⟨_, popped, _⟩ := play_popScope (stack ▸ there)
      rw [popped]

/-- A block whose last step fails is attempted, and then a step fails that is attempted no more. -/
def attemptedBlock : List Step :=
  [.attempt [.block 0 [⟨"w", ""⟩]
      [.move (.ask 0 (.compile (.expr (.binary (.str "+") (.identifier "$0") (.identifier "v")))
        ⟨false, some [⟨"v", ""⟩], .index⟩)),
      .move (.ask 0 (.createNode (.str "divide") (.list []) none .null))]],
    .move (.ask 0 (.lower .index (.identifier "#divide1")))]

theorem sample_block_bracketed : ∃ b entered left, sample.builder? 0 = some b ∧
    Step.areBracketed 0 attemptedBlock = true ∧
    sample.play (.ask 0 (.pushScope [⟨"z", ""⟩])) = (none, entered) ∧
    Step.run sample (.block 0 [⟨"z", ""⟩] attemptedBlock) = ((Step.runAll entered attemptedBlock).1, left) ∧
    (Step.run sample (.block 0 [⟨"z", ""⟩] attemptedBlock)).1.isSome = true ∧
    (∃ c, left.builder? 0 = some c ∧ c.scopes = b.scopes) ∧
    (∃ t c, Passes 0 entered attemptedBlock [[⟨"w", ""⟩]] t ∧ t.builder? 0 = some c ∧
      c.scopes = [⟨"w", ""⟩] :: [⟨"z", ""⟩] :: b.scopes) ∧
    ∃ t c, Passes 0 entered attemptedBlock [] t ∧ t.builder? 0 = some c ∧ c.currentScope [] = [⟨"z", ""⟩] := by
  obtain ⟨b, found, _⟩ := Option.map_eq_some_iff.mp sample_first
  have bracketed : Step.areBracketed 0 attemptedBlock = true := rfl
  have failed : (Step.run sample (.block 0 [⟨"z", ""⟩] attemptedBlock)).1.isSome = true := by decide +kernel
  obtain ⟨entered, left, push, _, ran, after, during, _⟩ := block_bracketed found [⟨"z", ""⟩] bracketed
  obtain ⟨c, there, scopes, innermost, _⟩ := during [] _ (.finish entered attemptedBlock)
  obtain ⟨d, start, before, _⟩ := during [] entered (.start entered attemptedBlock)
  obtain ⟨inner, enters, _⟩ := play_pushScope (scopeStack_eq_some.mpr ⟨d, start, before⟩) [⟨"w", ""⟩]
  have inside : Passes 0 entered attemptedBlock [[⟨"w", ""⟩]] _ := .attempt (.block enters (.finish inner _))
  obtain ⟨e, now, stacked, _⟩ := during _ _ inside
  exact ⟨b, entered, left, found, bracketed, push, ran, failed, after, ⟨_, e, inside, now, stacked⟩,
    _, c, .finish entered attemptedBlock, there, innermost rfl []⟩

end Session
end FormulaGraph
