import FormulaGraph.Proofs.Expr.Grammar
import FormulaGraph.Proofs.Formula.Induction
import FormulaGraph.Proofs.Formula.Repetition
import FormulaGraph.Proofs.Number.Limit

/-!
# What a compilation tells

A formula is told before it is compiled, and so is each node that it makes; a fault shows what it is about.
When the formula has a text all of these have one: the values that it is lowered to hold its own numbers, up to
signs, and positions that have been read from labels. So the limit for the digits of an integer ends a
compilation at its beginning or not at all: `tells_compile`.
-/

namespace FormulaGraph

open Build Formula

def Event.hasText : Event → Bool
  | .created _ _ arguments => Value.membersHaveText arguments
  | _ => true

def FormulaFault.hasText : FormulaFault → Bool
  | .unsupportedOperator operator _ => operator.hasText
  | .unknownFunction function => function.hasText
  | .invalidOperation operation => operation.hasText
  | .nonNodeResult value => value.hasText
  | .malformedTree datum _ => datum.hasText
  | _ => true

def Fault.hasText : Fault → Bool
  | .formula cause => cause.hasText
  | _ => true

/-- All that is recorded from one builder to another can be told. -/
def Builder.Tells (b c : Builder) : Prop :=
  ∃ events, c.journal = b.journal ++ events ∧ ∀ event ∈ events, event.hasText = true

namespace Builder.Tells

variable {b c d : Builder}

theorem refl (b : Builder) : b.Tells b := ⟨[], (List.append_nil _).symm, nofun⟩

theorem trans (first : b.Tells c) (second : c.Tells d) : b.Tells d := by
  obtain ⟨early, before, told⟩ := first
  obtain ⟨late, after, told'⟩ := second
  exact ⟨early ++ late, by rw [after, before, List.append_assoc], List.forall_mem_append.mpr ⟨told, told'⟩⟩

theorem of_record {event : Event} (journal : c.journal = b.journal ++ [event]) (told : event.hasText = true) :
    b.Tells c := ⟨[event], journal, List.forall_mem_singleton.mpr told⟩

end Builder.Tells

namespace Expr

theorem argsHaveText_iff {args : List Expr} : argsHaveText args = true ↔ ∀ arg ∈ args, arg.hasText = true := by
  induction args with
  | nil => simp [argsHaveText]
  | cons arg rest ih => simp [argsHaveText, ih]

theorem argsHaveText_of_forall₂ {items : List Json} {args : List Expr} (related : List.Forall₂ Derives items args)
    (each : ∀ item ∈ items, ∀ e, Derives item e → e.hasText = true) : argsHaveText args = true := by
  induction related with
  | nil => rfl
  | cons first _ ih =>
    rw [argsHaveText, Bool.and_eq_true]
    exact ⟨each _ List.mem_cons_self _ first, ih fun item member => each item (List.mem_cons_of_mem _ member)⟩

theorem hasText_of_member {members : NameMap Json} (told : (Json.obj members).hasText = true) {name : String}
    {value : Json} (found : NameMap.get? members name = some value) : value.hasText = true :=
  Json.membersHaveText_iff.mp told _ (NameMap.mem_of_get? found)

/-- A tree that can be told stands for expressions that can be told, also as the arguments of a call. -/
structure Tellable (datum : Json) : Prop where
  tree : datum.hasText = true → ∀ e, Derives datum e → e.hasText = true
  args : datum.hasText = true → ∀ es, DerivesArgs (some datum) es → argsHaveText es = true

theorem hasText_of_single {tag : String} {body : Json} (inside : Tellable body)
    (members : ∀ inner, body = .obj inner → ∀ member ∈ inner, Tellable member.2) (told : body.hasText = true)
    {e : Expr} (derives : Derives (.obj [(tag, body)]) e) : e.hasText = true := by
  have part {inner : NameMap Json} (same : body = .obj inner) {name : String} {value : Json}
      (found : NameMap.get? inner name = some value) : value.hasText = true ∧ Tellable value := by
    subst same
    exact ⟨hasText_of_member told found, members inner rfl _ (NameMap.mem_of_get? found)⟩
  cases derives with
  | number n => exact told
  | token read => exact Number.hasText_of_read? read
  | identifier worded => rfl
  | group whole =>
    rw [hasText]
    exact inside.tree told _ whole
  | @call inner _ args named given =>
    rw [hasText, (part rfl named).1, Bool.true_and]
    cases here : NameMap.get? inner "args" with
    | none =>
      rw [here] at given
      cases given
      rfl
    | some value =>
      rw [here] at given
      obtain ⟨worded, tellable⟩ := part rfl here
      exact tellable.args worded args given
  | @binary _ _ _ _ left right named here before there after =>
    obtain ⟨first, tellable⟩ := part rfl here
    obtain ⟨second, tellable'⟩ := part rfl there
    rw [hasText, (part rfl named).1, tellable.tree first left before, tellable'.tree second right after]
    rfl
  | @unary _ _ _ operand named here whole =>
    obtain ⟨worded, tellable⟩ := part rfl here
    rw [hasText, (part rfl named).1, tellable.tree worded operand whole]
    rfl

/-- For a datum and for the members of it, which stand below the tag in a tree. -/
theorem tellable_and_members (datum : Json) :
    Tellable datum ∧ ∀ inner, datum = .obj inner → ∀ member ∈ inner, Tellable member.2 := by
  induction datum using Json.induct with
  | scalar s =>
    refine ⟨⟨fun _ => nofun, fun _ es given => ?_⟩, nofun⟩
    cases given with
    | text => rfl
  | arr items ih =>
    refine ⟨⟨fun _ => nofun, fun told es given => ?_⟩, nofun⟩
    have each := Json.haveText_iff.mp told
    cases given with
    | array related => exact argsHaveText_of_forall₂ related fun item member => (ih item member).1.tree (each item member)
  | obj members ih =>
    refine ⟨⟨fun told e derives => ?_, fun _ es given => ?_⟩, ?_⟩
    · obtain ⟨tag, body, rfl⟩ : ∃ tag body, members = [(tag, body)] := by cases derives <;> exact ⟨_, _, rfl⟩
      obtain ⟨inside, deeper⟩ := ih _ List.mem_cons_self
      exact hasText_of_single inside deeper (Json.membersHaveText_iff.mp told _ List.mem_cons_self) derives
    · cases given with
      | object => rfl
    · rintro _ ⟨rfl⟩ member inside
      exact (ih member inside).1

theorem hasText_of_ofTree {datum : Json} (told : datum.hasText = true) {e : Expr} (read : ofTree datum = .ok e) :
    e.hasText = true :=
  (tellable_and_members datum).1.tree told e ((parsed datum).tree e |>.mp read)

end Expr

theorem Label.hasText_selector {mode : NumericLabels} {label : String} {s : Scalar}
    (selected : selector mode label = .ok s) : s.hasText = true := by
  unfold selector at selected
  dsimp only at selected
  split at selected
  · cases selected
  · split at selected
    · cases mode with
      | label =>
        cases selected
        rfl
      | reject => cases selected
      | index =>
        dsimp only at selected
        split at selected
        · rename_i n read
          cases selected
          exact Number.hasText_of_readInt read
        · cases selected
    · split at selected
      · cases selected
      · cases selected
        rfl

namespace Formula

variable {α β : Type} {b : Builder} {ctx : Context}

/-- A run tells only what can be told, and comes to such a value or fails with such a fault. -/
def Tells (Q : α → Prop) (b : Builder) : EStateM.Result Fault Builder α → Prop
  | .ok a c => Q a ∧ b.Tells c
  | .error fault c => fault.hasText = true ∧ b.Tells c

/-- An argument that can be told. -/
structure Worded (v : Value) : Prop where
  argument : v.isArgument = true
  told : v.hasText = true

theorem Tells.bind {Q : α → Prop} {P : β → Prop} {x : Build α} {f : α → Build β} (first : Tells Q b (x b))
    (next : ∀ a c, x b = .ok a c → Q a → Tells P c (f a c)) : Tells P b ((x >>= f) b) := by
  cases ran : x b with
  | error fault c =>
    rw [ran] at first
    rw [bind_of_error f ran]
    exact first
  | ok a c =>
    rw [ran] at first
    rw [bind_of_ok f ran]
    have rest := next a c ran first.1
    cases ran' : f a c with
    | ok v d =>
      rw [ran'] at rest
      exact ⟨rest.1, first.2.trans rest.2⟩
    | error fault d =>
      rw [ran'] at rest
      exact ⟨rest.1, first.2.trans rest.2⟩

theorem tells_error {Q : α → Prop} {fault : Fault} (worded : fault.hasText = true) :
    Tells Q b (.error fault b) := ⟨worded, .refl b⟩

theorem tells_ok {Q : α → Prop} {a : α} (holds : Q a) : Tells Q b (.ok a b) := ⟨holds, .refl b⟩

/-! ### Steps -/

theorem tells_resolveParameter (name : String) : Tells Worded b (resolveParameter ctx name b) := by
  unfold resolveParameter
  split
  · exact tells_ok ⟨rfl, rfl⟩
  · unfold Builder.declare
    cases b.parameter? (Parameter.mk name "").name with
    | some existing => exact tells_ok ⟨rfl, rfl⟩
    | none => exact ⟨⟨rfl, rfl⟩, .of_record rfl rfl⟩

theorem tells_resolve (name : String) : Tells Worded b (resolve ctx name b) := by
  unfold resolve
  split
  · rename_i value form
    have keyword : value.hasText = true := by
      unfold identifierForm at form
      cases found : NameMap.get? keywords name with
      | none =>
        rw [found] at form
        dsimp only at form
        split at form <;> cases form
      | some literal =>
        rw [found] at form
        cases form
        have each : ∀ entry ∈ keywords, entry.2.hasText = true := by decide
        exact each _ (NameMap.mem_of_get? found)
    exact tells_ok ⟨rfl, keyword⟩
  · split
    · exact tells_ok ⟨rfl, rfl⟩
    · exact tells_error rfl
  · split
    · exact tells_resolveParameter name
    · split
      · rename_i selected
        exact tells_ok ⟨rfl, Label.hasText_selector selected⟩
      · rename_i label first rest current fault refused
        rcases Label.selector_error refused with ⟨reason, rfl⟩ | ⟨_, _, _, rfl⟩
        · exact tells_error rfl
        · exact tells_error rfl
  · exact tells_resolveParameter name

theorem tells_invoke {named : NameMap Value} (worded : ∀ entry ∈ named, Worded entry.2) (operation : String) :
    Tells Worded b (invoke operation (.obj named) b) := by
  rcases invoke_cases (fun entry member => (worded entry member).argument) operation b with
    ⟨fault, failed, refused⟩ | ⟨id, counters, invoked⟩
  · rw [failed]
    cases refused with
    | operation | reference id => exact tells_error rfl
  · rw [invoked]
    have told := Value.membersHaveText_iff.mpr fun entry member => (worded entry member).told
    exact ⟨⟨rfl, rfl⟩, .of_record rfl told⟩

theorem tells_callNode {function : Json} (told : function.hasText = true) {values : List Value}
    (worded : ∀ v ∈ values, Worded v) : Tells Worded b (callNode function values b) := by
  rcases callNode_cases function values b with ⟨fault, failed, refused⟩ | ⟨definition, _, offered, few, invokes⟩
  · rw [failed]
    cases refused with
    | unknown absent => exact tells_error told
    | compound parts | arity offered many => exact tells_error rfl
  · rw [invokes, invoke_positional offered few]
    exact tells_invoke (fun entry member => worded entry.2 (mem_of_mem_bind member)) definition.name

theorem tells_operatorNode {operator : Json} (told : operator.hasText = true) {left right : Value}
    (first : Worded left) (second : Worded right) : Tells Worded b (operatorNode operator left right b) := by
  rcases operatorNode_cases operator left right b with
    ⟨fault, failed, refused⟩ | ⟨_, operation, _, _, _, _, _, _, _, invokes⟩
  · rw [failed]
    cases refused with
    | unknown means | missing means absent => exact tells_error told
    | compound parts | arity means offered few => exact tells_error rfl
  · rw [invokes]
    refine tells_invoke (fun entry member => ?_) operation
    rcases eq_or_eq_of_mem_operands member with same | same
    · exact same ▸ first
    · exact same ▸ second

theorem tells_negate {v : Value} (worded : Worded v) : Tells Worded b (negate v b) := by
  cases folded : v.number? with
  | some n =>
    rw [negate_of_number folded]
    have told := worded.told
    rw [Value.eq_of_number folded] at told
    exact tells_ok ⟨rfl, (Number.hasText_neg n).trans told⟩
  | none =>
    rw [negate_of_not_number folded]
    exact tells_operatorNode rfl ⟨rfl, rfl⟩ worded

/-! ### Expressions -/

theorem tells_lowerAll {args : List Expr}
    (each : ∀ arg ∈ args, ∀ b : Builder, Tells Worded b (lower ctx arg b)) :
    Tells (fun values => ∀ v ∈ values, Worded v) b (lowerAll ctx args b) := by
  induction args generalizing b with
  | nil => exact tells_ok nofun
  | cons arg rest ih =>
    rw [lowerAll]
    refine (each arg List.mem_cons_self b).bind fun v c _ first => ?_
    refine (ih fun other member => each other (List.mem_cons_of_mem arg member)).bind fun values d _ others => ?_
    exact tells_ok (List.forall_mem_cons.mpr ⟨first, others⟩)

theorem tells_lower {e : Expr} (told : e.hasText = true) : Tells Worded b (lower ctx e b) := by
  induction e using Expr.induct generalizing b with
  | number n => exact tells_ok ⟨rfl, told⟩
  | identifier name => exact tells_resolve name
  | group inner ih => exact ih told
  | call function args ih =>
    obtain ⟨named, given⟩ := Bool.and_eq_true_iff.mp told
    have each := Expr.argsHaveText_iff.mp given
    rw [lower]
    exact (tells_lowerAll fun arg member b => ih arg member (each arg member)).bind fun values c _ worded =>
      tells_callNode named worded
  | binary operator left right ihl ihr =>
    obtain ⟨both, there⟩ := Bool.and_eq_true_iff.mp told
    obtain ⟨named, here⟩ := Bool.and_eq_true_iff.mp both
    rw [lower]
    exact (ihl here).bind fun v c _ first => (ihr there).bind fun w d _ second =>
      tells_operatorNode named first second
  | unary operator operand ih =>
    obtain ⟨_, inside⟩ := Bool.and_eq_true_iff.mp told
    rw [lower]
    refine (ih inside).bind fun v c _ worded => ?_
    cases isMinus operator with
    | true => exact tells_negate worded
    | false => exact tells_ok worded

/-! ### Compiling -/

theorem tells_finish (h : b.WellFormed) {v : Value} (worded : Worded v) (mark : Bool) :
    Tells (fun _ => True) b (finish v mark b) := by
  rcases nodeRef_or_not v with ⟨id, rfl⟩ | other
  · cases found : b.node? id with
    | none =>
      rw [finish_of_absent found]
      exact tells_error rfl
    | some n =>
      rw [finish_of_found h found]
      cases mark with
      | true => exact ⟨trivial, .of_record rfl rfl⟩
      | false => exact tells_ok trivial
  · rw [finish_of_other other]
    cases mark with
    | true => exact tells_error worded.told
    | false => exact tells_ok trivial

theorem tells_source (h : b.WellFormed) {parsed : Source} (told : parsed.hasText = true) (mark : Bool) :
    Tells (fun _ => True) b (parsed.compile ctx mark b) := by
  cases parsed with
  | expr e =>
    refine (tells_lower told).bind fun v c lowered worded => tells_finish ?_ worded mark
    have sound := Builder.conduct_wellFormed.lower ctx e b h
    rwa [final_of_ok lowered] at sound
  | datum data | foreign kind text => exact tells_error rfl

theorem tells_withScope {Q : α → Prop} {scope : Scope} {action : Build α}
    (runs : Tells Q (inside scope b) (action (inside scope b))) : Tells Q b (Builder.withScope scope action b) := by
  have entered : Builder.pushScope scope b = .ok () (inside scope b) := rfl
  have began : b.Tells (inside scope b) := .of_record rfl rfl
  -- on every exit path the scope is left, and that is told as well
  have left {c : Builder} (between : (inside scope b).Tells c) :
      Tells (fun _ => True) b (Builder.popScope c) := by
    have before := began.trans between
    unfold Builder.popScope
    split
    · exact ⟨rfl, before⟩
    · exact ⟨trivial, before.trans (.of_record rfl rfl)⟩
  unfold Builder.withScope
  rw [entered]
  dsimp only
  cases ran : action (inside scope b) with
  | ok v c =>
    rw [ran] at runs
    have ended := left runs.2
    dsimp only
    cases popped : Builder.popScope c with
    | ok _ d =>
      rw [popped] at ended
      exact ⟨runs.1, ended.2⟩
    | error _ d =>
      rw [popped] at ended
      exact ended
  | error fault c =>
    rw [ran] at runs
    have ended := left runs.2
    dsimp only
    cases popped : Builder.popScope c with
    | ok _ d =>
      rw [popped] at ended
      exact ⟨runs.1, ended.2⟩
    | error _ d =>
      rw [popped] at ended
      exact ended

/-- Once a formula has been read, all that is told of its compilation can be told: either it cannot be told
itself, and ends it, or every event has a text, and so has the fault if there is one. -/
theorem tells_compile (h : b.WellFormed) {source parsed : Source} (read : source.parse = .ok parsed)
    (outer : List Scope) (options : Options) :
    Tells (fun _ => True) b (compile outer source options b) := by
  rcases accept_cases read with ⟨told, accepted⟩ | ⟨_, refused⟩
  case inr =>
    rw [compile_of_accept_error refused]
    exact tells_error rfl
  unfold compile
  rw [accepted]
  dsimp only
  have began : b.Tells (b.record (.compiling parsed.text)) := .of_record rfl rfl
  have later {r : EStateM.Result Fault Builder Value}
      (runs : Tells (fun _ => True) (b.record (.compiling parsed.text)) r) : Tells (fun _ => True) b r := by
    cases r with
    | ok v c | error fault c => exact ⟨runs.1, began.trans runs.2⟩
  cases options.scope with
  | none => exact later (tells_source (h.record _) told _)
  | some scope =>
    have sound : (inside scope (b.record (.compiling parsed.text))).WellFormed := h.congr rfl rfl rfl
    exact later (tells_withScope (tells_source sound told _))

end Formula
end FormulaGraph
