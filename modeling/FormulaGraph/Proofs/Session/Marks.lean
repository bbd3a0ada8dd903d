import FormulaGraph.Proofs.Document.Written
import FormulaGraph.Proofs.Formula.Effect
import Mathlib.Data.List.Forall2

/-!
# The last mark is the result

A run of moves marks nodes by requests that are answered: `Session.lastMark` reads the last of these
marks off the requests and their answers. The id of the result, the flags of the nodes and the flag in
the document all say the same, in every builder that a run leads to.
-/

namespace FormulaGraph

open Build

def Value.targetId? : Value → Option String
  | .node n => some n.id
  | .nodeRef id => some id
  | .scalar (.str id) => some id
  | _ => none

/-- The node that a request has marked when it got an answer. -/
def Request.marked? : Request → Answer → Option String
  | .markResult target, _ => target.targetId?
  | .compile _ options, .value (.node n) => if options.mark then some n.id else none
  | .tryCompile _ options, .outcome (.value (.node n)) => if options.mark then some n.id else none
  | _, _ => none

namespace Session

/-- The node of the builder at a place that a move marks. A move that fails marks none. -/
def marked? (s : Session) (place : Nat) : Move → Option String
  | .ask asked request =>
    if asked = place then
      match s.run place request.perform with
      | some (.ok answer, _) => request.marked? answer
      | _ => none
    else none
  | .begin .. | .callback .. => none

/-- The node of the builder at a place that is marked last in a run. -/
def lastMark (s : Session) (place : Nat) : List Move → Option String
  | [] => none
  | m :: rest => (lastMark (s.play m).2 place rest).or (s.marked? place m)

def resultAt (s : Session) (place : Nat) : Option String := (s.builder? place).bind Builder.resultId

end Session

/-! ### One request -/

namespace Builder

theorem targetId?_of_nodeName {target : Value} {id : String} (named : nodeName target = .str id) :
    target.targetId? = some id := by
  cases target with
  | node n =>
    obtain rfl : n.id = id := by simpa [nodeName] using named
    rfl
  | nodeRef other =>
    obtain rfl : other = id := by simpa [nodeName] using named
    rfl
  | scalar s =>
    obtain rfl : s = .str id := by simpa [nodeName] using named
    rfl
  | list | tuple | obj | paramRef | element | param | graph | callback | expr => cases named

end Builder

namespace Request

/-- What a request does to the result: if it is answered and marks a node, this node is the result
now, and else the result is as before. -/
def Settles (request : Request) (b : Builder) : EStateM.Result Fault Builder Answer → Prop
  | .ok answer b' => b'.resultId = (request.marked? answer).or b.resultId
  | .error _ b' => b'.resultId = b.resultId

theorem settles_of_keeps {request : Request} {b : Builder} {outer : List Scope}
    (kept : Keeps (fun b b' => b'.resultId = b.resultId) (request.perform outer))
    (plain : ∀ answer, request.marked? answer = none) : request.Settles b (request.perform outer b) := by
  have same := kept b
  unfold final at same
  cases h : request.perform outer b with
  | ok answer b' =>
    rw [h] at same
    rw [Settles, plain answer, Option.none_or]
    exact same
  | error fault b' =>
    rw [h] at same
    exact same

theorem growth_resultId : Growth fun b b' => b'.resultId = b.resultId where
  refl := fun _ => rfl
  trans := fun _ _ _ first second => second.trans first
  declare := fun parameter b => (Builder.growth_extends.declare parameter b).result
  create := fun operation arguments id description b =>
    (Builder.growth_extends.create operation arguments id description b).result

theorem settles_markResult {b : Builder} (h : b.WellFormed) (target : Value) (outer : List Scope) :
    (Request.markResult target).Settles b ((Request.markResult target).perform outer b) := by
  rw [perform]
  rcases Builder.markResult_cases target b with ⟨fault, failed⟩ | ⟨id, n, named, found, marked⟩
  · rw [map_of_error _ failed]
    exact rfl
  · have same : n.id = id := h.keyed _ (NameMap.mem_of_get? found)
    rw [map_of_ok _ marked, Settles, marked?, Builder.targetId?_of_nodeName named, Option.some_or, ← same]
    rfl

/-- What compiling leaves as the result, by what it has come to. -/
theorem resultId_compile {b : Builder} (h : b.WellFormed) (outer : List Scope) (source : Formula.Source)
    (options : Formula.Options) : match Formula.compile outer source options b with
      | .ok (.node n) b' => b'.resultId = (if options.mark then some n.id else none).or b.resultId
      | .ok _ b' | .error _ b' => b'.resultId = b.resultId := by
  have settled := Formula.settled_compile h outer source options
  cases compiled : Formula.compile outer source options b with
  | error fault b' =>
    rw [compiled] at settled
    exact settled.2.1
  | ok v b' =>
    rw [compiled] at settled
    rcases settled.2 with ⟨unmarked, kept⟩ | ⟨marked, n, rfl, only⟩
    · cases v with
      | node n =>
        rw [unmarked]
        exact kept.1
      | scalar | list | tuple | obj | nodeRef | paramRef | element | param | graph | callback | expr =>
        exact kept.1
    · rw [marked]
      exact only.1

theorem settles_compile {b : Builder} (h : b.WellFormed) (outer : List Scope) (source : Formula.Source)
    (options : Formula.Options) :
    (Request.compile source options).Settles b ((Request.compile source options).perform outer b) := by
  have result := resultId_compile h outer source options
  rw [perform]
  cases compiled : Formula.compile outer source options b with
  | error fault b' =>
    rw [compiled] at result
    rw [map_of_error _ compiled]
    exact result
  | ok v b' =>
    rw [compiled] at result
    rw [map_of_ok _ compiled]
    cases v with
    | node n => exact result
    | scalar | list | tuple | obj | nodeRef | paramRef | element | param | graph | callback | expr =>
      exact result

/-- A fault of building becomes an outcome, and any other is passed on. -/
theorem tryCompile_of_error {outer : List Scope} {source : Formula.Source} {options : Formula.Options}
    {b b' : Builder} {fault : Fault} (failed : Formula.compile outer source options b = .error fault b') :
    (∃ cause, Formula.tryCompile outer source options b =
      .ok (.failure cause) (b'.record (.failed cause.message))) ∨
    Formula.tryCompile outer source options b = .error fault b' := by
  unfold Formula.tryCompile
  rw [failed]
  cases fault with
  | formula cause => exact Or.inl ⟨cause, rfl⟩
  | misuse | unreadable | entry | config | file | markup | handler => exact Or.inr rfl

theorem settles_tryCompile {b : Builder} (h : b.WellFormed) (outer : List Scope) (source : Formula.Source)
    (options : Formula.Options) :
    (Request.tryCompile source options).Settles b ((Request.tryCompile source options).perform outer b) := by
  have result := resultId_compile h outer source options
  rw [perform]
  cases compiled : Formula.compile outer source options b with
  | error fault b' =>
    rw [compiled] at result
    rcases tryCompile_of_error compiled with ⟨cause, tried⟩ | tried
    · rw [map_of_ok _ tried]
      exact result
    · rw [map_of_error _ tried]
      exact result
  | ok v b' =>
    rw [compiled] at result
    have tried : Formula.tryCompile outer source options b = .ok (.value v) b' := by
      rw [Formula.tryCompile, compiled]
    rw [map_of_ok _ tried]
    cases v with
    | node n => exact result
    | scalar | list | tuple | obj | nodeRef | paramRef | element | param | graph | callback | expr =>
      exact result

theorem settles_perform {b : Builder} (h : b.WellFormed) (request : Request) (outer : List Scope) :
    request.Settles b (request.perform outer b) := by
  cases request with
  | markResult target => exact settles_markResult h target outer
  | compile source options => exact settles_compile h outer source options
  | tryCompile source options => exact settles_tryCompile h outer source options
  | createNode operation arguments id description =>
    exact settles_of_keeps ((growth_resultId.create operation arguments id description).map _) fun _ => rfl
  | declare parameter => exact settles_of_keeps ((growth_resultId.declare parameter).map _) fun _ => rfl
  | pushScope scope =>
    have kept : Keeps (fun b b' => b'.resultId = b.resultId) (Builder.pushScope scope) := fun _ => rfl
    exact settles_of_keeps (kept.map _) fun _ => rfl
  | popScope =>
    refine settles_of_keeps (Keeps.map (fun b => ?_) _) fun _ => rfl
    unfold final Builder.popScope
    cases b.scopes <;> rfl
  | resolve labels name =>
    refine settles_of_keeps (Keeps.map (fun b => ?_) _) fun _ => rfl
    match name with
    | .scalar (.str s) => exact growth_resultId.resolve ⟨outer, labels⟩ s b
    | .scalar .null | .scalar (.bool _) | .scalar (.number _) | .arr _ | .obj _ => rfl
  | lower labels e => exact settles_of_keeps ((growth_resultId.lower ⟨outer, labels⟩ e).map _) fun _ => rfl

end Request

/-! ### A run -/

namespace Session

theorem resultAt_append_singleton {builders : List Builder} {b : Builder} (place : Nat)
    (none : b.resultId = none) :
    (⟨builders ++ [b]⟩ : Session).resultAt place = (⟨builders⟩ : Session).resultAt place := by
  unfold resultAt builder?
  rcases Nat.lt_trichotomy place builders.length with before | rfl | behind
  · rw [List.getElem?_append_left before]
  · simp [none]
  · simp only
    rw [List.getElem?_eq_none (by simp; omega), List.getElem?_eq_none (by omega)]

theorem resultAt_set_of_ne {s : Session} {asked place : Nat} (different : place ≠ asked) (b : Builder) :
    (⟨s.builders.set asked b⟩ : Session).resultAt place = s.resultAt place := by
  rw [resultAt, builder?_set_of_ne different, resultAt]

/-- After a move the result of a builder is the node that the move has marked, or else the one before. -/
theorem resultAt_play {s : Session} (reachable : s.Reachable) (place : Nat) (m : Move) :
    (s.play m).2.resultAt place = (s.marked? place m).or (s.resultAt place) := by
  cases m with
  | begin catalog parent =>
    rw [marked?, Option.none_or]
    simp only [play, addBuilder]
    split
    · exact resultAt_append_singleton place rfl
    · rfl
  | callback parent scope =>
    rw [marked?, Option.none_or]
    simp only [play, addChild]
    cases s.builders[parent]? with
    | none => rfl
    | some b =>
      cases scope with
      | none | some scope => exact resultAt_append_singleton place rfl
  | ask asked request =>
    rw [marked?]
    cases found : s.builders[asked]? with
    | none =>
      have unmarked : s.run asked request.perform = none := by rw [run, found, Option.map_none]
      rw [play_ask_of_none found]
      split
      · rename_i same
        rw [← same, unmarked, Option.none_or]
      · rw [Option.none_or]
    | some b =>
      by_cases same : asked = place
      · subst same
        have settled := Request.settles_perform (Builder.Reachable.wellFormed ⟨s, asked, reachable, found⟩)
          request (s.outerScopes asked)
        have before : s.resultAt asked = b.resultId := by
          rw [resultAt, show s.builder? asked = some b from found, Option.bind_some]
        rw [if_pos rfl, play_ask found, resultAt, builder?_set_self found, Option.bind_some, before]
        cases performed : request.perform (s.outerScopes asked) b with
        | ok answer b' =>
          rw [performed] at settled
          rw [run_of_ok found performed, final_of_ok performed]
          exact settled
        | error fault b' =>
          rw [performed] at settled
          rw [run_of_error found performed, final_of_error performed]
          exact settled
      · rw [if_neg same, Option.none_or, play_ask found]
        exact resultAt_set_of_ne (Ne.symm same) _

theorem resultAt_playAll {s : Session} (reachable : s.Reachable) (place : Nat) (moves : List Move) :
    (s.playAll moves).resultAt place = (s.lastMark place moves).or (s.resultAt place) := by
  induction moves generalizing s with
  | nil => rfl
  | cons m rest ih =>
    have later := ih (Reachable.move m reachable)
    rw [resultAt_play reachable, ← Option.or_assoc] at later
    exact later

/-- In every builder that a run leads to, the result is the node that was marked last, if any was. It is
one of the nodes, it is flagged and no other node is, in the builder as in its document, which there is
as soon as all arguments have written forms. A mark that fails changes nothing. -/
theorem result_is_last_mark (moves : List Move) {place : Nat} {b : Builder}
    (found : ((⟨[]⟩ : Session).playAll moves).builder? place = some b) :
    b.resultId = (⟨[]⟩ : Session).lastMark place moves ∧
    (∀ id, b.resultId = some id → b.has id = true) ∧
    (∀ id n, (id, n) ∈ b.nodes → (n.isResult = true ↔ b.resultId = some id)) ∧
    ((∃ document, b.write = .ok document) ↔ ∀ value ∈ b.toGraph.values, value.Writable) ∧
    (∀ document, b.write = .ok document → ∃ members, document = .obj members ∧
      List.Forall₂ (fun entry member => member.1 = entry.1 ∧
        member.2.resultFlag? = if b.resultId = some entry.1 then some (.bool true) else none)
        b.nodes members) ∧
    (∀ target fault b', Builder.markResult target b = .error fault b' → b' = b) := by
  have reached : ((⟨[]⟩ : Session).playAll moves).Reachable := Reachable.start.playAll moves
  have h := Builder.Reachable.wellFormed ⟨_, place, reached, found⟩
  refine ⟨?_, h.marked, fun id n member => h.flagged _ member, ?_, ?_, ?_⟩
  · have last := resultAt_playAll Reachable.start place moves
    rw [resultAt, found, Option.bind_some] at last
    rw [last]
    exact Option.or_none
  · refine Graph.exists_write_iff fun entry member => ⟨?_, h.described entry member⟩
    obtain ⟨name, operation, _⟩ := h.offered entry member
    exact ⟨.str name, operation⟩
  · intro document written
    obtain ⟨members, nodes, rfl⟩ := Graph.write_eq_ok.mp written
    refine ⟨members, rfl, ?_⟩
    have each := (List.forall₂_and_left _ _).mpr ⟨h.flagged, Graph.forall₂_writeNodes nodes⟩
    refine each.imp fun entry member ⟨flagged, key, write⟩ => ⟨key, ?_⟩
    rw [Node.resultFlag?_of_write write]
    exact if_congr flagged rfl rfl
  · intro target fault b' failed
    rcases Builder.markResult_cases target b with ⟨other, same⟩ | ⟨id, n, _, _, marked⟩
    · rw [same] at failed
      cases failed
      rfl
    · rw [marked] at failed
      cases failed

/-- Nodes are marked by an id, by compiling a formula, and by a node of another builder; marking a node
that is not there fails, and so does a formula without a node. -/
def markingRun : List Move :=
  [.begin sampleCatalog none,
    .ask 0 (.createNode (.str "add") (.list [.number (.int 1), .number (.int 2)]) (some "a") .null),
    .ask 0 (.createNode (.str "add") (.list [.nodeRef "a"]) (some "b") .null),
    .ask 0 (.markResult (.str "b")),
    .ask 0 (.markResult (.nodeRef "c")),
    .ask 0 (.compile (.expr (.binary (.str "+") (.identifier "#b") (.identifier "x"))) ⟨true, none, .index⟩),
    .callback 0 none,
    .ask 1 (.createNode (.str "multiply") (.list []) (some "a") .null),
    .ask 0 (.markResult (.node ⟨"a", .str "multiply", [], .null, false⟩)),
    .ask 0 (.compile (.expr (.identifier "y")) ⟨true, none, .index⟩)]

theorem markingRun_result : ∃ b, ((⟨[]⟩ : Session).playAll markingRun).builder? 0 = some b ∧
    NameMap.keys b.nodes = ["a", "b", "add1"] ∧ b.resultId = some "a" ∧ b.has "a" = true ∧
    ∀ id n, (id, n) ∈ b.nodes → (n.isResult = true ↔ id = "a") := by
  have reached : (((⟨[]⟩ : Session).playAll markingRun).builder? 0).map (fun b => NameMap.keys b.nodes) =
      some ["a", "b", "add1"] := by
    decide +kernel
  have last : (⟨[]⟩ : Session).lastMark 0 markingRun = some "a" := by decide +kernel
  obtain ⟨b, found, keys⟩ := Option.map_eq_some_iff.mp reached
  obtain ⟨result, present, flagged, _⟩ := result_is_last_mark markingRun found
  rw [last] at result
  refine ⟨b, found, keys, result, present "a" result, fun id n member => ?_⟩
  rw [flagged id n member, result, Option.some.injEq, eq_comm]

end Session
end FormulaGraph
