import FormulaGraph.Proofs.Builder.Extends
import FormulaGraph.Proofs.Session.WellFormed

/-!
# The effect of compiling a formula

On every way out the scopes are those that there were before, and no other builder is touched. A
compilation that fails, or that marks nothing, leaves the result as it was; any other marks the node
that it gives, and no other node.
-/

namespace FormulaGraph

open Build

namespace Builder

def KeepsResult (b b' : Builder) : Prop :=
  b'.resultId = b.resultId ∧
    ∃ added, b'.nodes = b.nodes ++ added ∧ ∀ entry ∈ added, entry.2.isResult = false

def OnlyResult (b : Builder) (n : Node) : Prop :=
  b.resultId = some n.id ∧ b.node? n.id = some n ∧ n.isResult = true ∧
    ∀ id m, (id, m) ∈ b.nodes → m.isResult = true → id = n.id

theorem Extends.keepsResult {b b' : Builder} (grown : Extends b b') : KeepsResult b b' :=
  ⟨grown.result, grown.nodes⟩

theorem WellFormed.onlyResult {b : Builder} (h : WellFormed b) {n : Node}
    (result : b.resultId = some n.id) (found : b.node? n.id = some n) : OnlyResult b n := by
  have member := NameMap.mem_of_get? found
  refine ⟨result, found, (h.flagged _ member).mpr result, ?_⟩
  intro id m present on
  have same := (h.flagged _ present).mp on
  rw [result] at same
  exact (Option.some.inj same).symm

theorem getNode_text (id : String) (b : Builder) :
    getNode (.str id) b = match b.node? id with
      | none => .error (.formula (.unknownNode id)) b
      | some n => .ok n b := by
  have named : find b (.str id) = .ok (b.node? id) := rfl
  unfold getNode
  rw [named]
  cases b.node? id with
  | none => rfl
  | some n => rfl

theorem node?_mark {b : Builder} (h : WellFormed b) {id : String} {n : Node}
    (found : b.node? id = some n) : (b.mark id).node? id = some { n with isResult := true } := by
  have member := NameMap.mem_of_get? found
  have marked := h.mark (NameMap.has_iff.mpr (NameMap.mem_keys member))
  apply NameMap.get?_of_mem marked.distinct
  rw [mark_nodes id h.flagged, mem_flagOnly]
  exact ⟨(id, n), member, by simp⟩

theorem markResult_node {b : Builder} (h : WellFormed b) {id : String} {n : Node}
    (found : b.node? id = some n) :
    markResult (.node n) b = .ok () ((b.mark id).record (.marked id)) := by
  have same : n.id = id := h.keyed _ (NameMap.mem_of_get? found)
  have named : nodeName (.node n) = .str id := congrArg Value.str same
  unfold markResult
  rw [named, getNode_text, found]
  dsimp only
  rw [same]

end Builder

namespace Formula

open Builder

theorem nodeRef_or_not (v : Value) : (∃ id, v = .nodeRef id) ∨ ∀ id, v ≠ .nodeRef id := by
  by_cases refers : ∃ id, v = .nodeRef id
  · exact Or.inl refers
  · exact Or.inr (not_exists.mp refers)

theorem finish_of_other {v : Value} (other : ∀ id, v ≠ .nodeRef id) (mark : Bool) :
    finish v mark = if mark then throw (.formula (.nonNodeResult v)) else pure v := by
  unfold finish
  split
  · exact absurd rfl (other _)
  · rfl

theorem finish_of_absent {b : Builder} {id : String} (absent : b.node? id = none) (mark : Bool) :
    finish (.nodeRef id) mark b = .error (.formula (.unknownNode id)) b := by
  have failed : getNode (.str id) b = .error (.formula (.unknownNode id)) b := by rw [getNode_text, absent]
  unfold finish
  exact bind_of_error _ failed

theorem finish_of_found {b : Builder} (h : WellFormed b) {id : String} {n : Node}
    (found : b.node? id = some n) (mark : Bool) :
    finish (.nodeRef id) mark b =
      if mark then .ok (.node { n with isResult := true }) ((b.mark id).record (.marked id))
      else .ok (.node n) b := by
  have got : getNode (.str id) b = .ok n b := by rw [getNode_text, found]
  unfold finish
  dsimp only
  rw [bind_of_ok _ got]
  cases mark with
  | false => rfl
  | true =>
    have marked := markResult_node h found
    have reread : getNode (.str id) ((b.mark id).record (.marked id)) =
        .ok { n with isResult := true } ((b.mark id).record (.marked id)) := by
      rw [getNode_text, show ((b.mark id).record (.marked id)).node? id = _ from node?_mark h found]
    rw [if_pos rfl, bind_of_ok _ marked, bind_of_ok _ reread]
    rfl

/-- What may come of turning a lowered value into a result. -/
theorem finish_cases {b : Builder} (h : WellFormed b) (value : Value) (mark : Bool) :
    (∃ fault, finish value mark b = .error fault b) ∨
    (mark = false ∧ ∃ v, finish value mark b = .ok v b) ∨
    (mark = true ∧ ∃ n b', finish value mark b = .ok (.node n) b' ∧ b'.scopes = b.scopes ∧
      b'.resultId = some n.id ∧ b'.node? n.id = some n) := by
  rcases nodeRef_or_not value with ⟨id, rfl⟩ | other
  · cases found : b.node? id with
    | none => exact Or.inl ⟨_, finish_of_absent found mark⟩
    | some n =>
      rw [finish_of_found h found mark]
      cases mark with
      | false => exact Or.inr (Or.inl ⟨rfl, .node n, rfl⟩)
      | true =>
        have same : n.id = id := h.keyed _ (NameMap.mem_of_get? found)
        refine Or.inr (Or.inr ⟨rfl, { n with isResult := true }, _, rfl, rfl, ?_, ?_⟩)
        · exact congrArg some same.symm
        · exact (congrArg _ same).trans (node?_mark h found)
  · rw [finish_of_other other]
    cases mark with
    | false => exact Or.inr (Or.inl ⟨rfl, _, rfl⟩)
    | true => exact Or.inl ⟨_, rfl⟩

theorem finish_error {b c : Builder} (h : WellFormed b) {value : Value} {mark : Bool} {fault : Fault}
    (failed : finish value mark b = .error fault c) : c = b := by
  rcases finish_cases h value mark with ⟨_, same⟩ | ⟨_, _, same⟩ | ⟨_, _, _, same, _⟩
  all_goals rw [same] at failed; cases failed
  rfl

/-- What an action on the way to a result may come to: it fails or marks nothing, and the builder only
grows; or it gives the node that it has marked. -/
def Settled (mark : Bool) (b : Builder) : EStateM.Result Fault Builder Value → Prop
  | .error _ b' => b'.scopes = b.scopes ∧ KeepsResult b b'
  | .ok v b' => b'.scopes = b.scopes ∧
      ((mark = false ∧ KeepsResult b b') ∨ (mark = true ∧ ∃ n, v = .node n ∧ OnlyResult b' n))

theorem settled_compileExpr {b : Builder} (h : WellFormed b) (ctx : Context) (e : Expr) (mark : Bool) :
    Settled mark b (compileExpr ctx e mark b) := by
  have grown := extends_lower ctx e b
  have kept := conduct_wellFormed.compileExpr ctx e mark b h
  have sound := conduct_wellFormed.lower ctx e b h
  unfold compileExpr at kept ⊢
  cases lowered : lower ctx e b with
  | error fault c =>
    rw [final_of_error lowered] at grown
    rw [bind_of_error _ lowered]
    exact ⟨grown.scopes, grown.keepsResult⟩
  | ok value c =>
    rw [final_of_ok lowered] at grown sound
    rw [final, bind_of_ok _ lowered] at kept
    rw [bind_of_ok _ lowered]
    rcases finish_cases sound value mark with
      ⟨fault, failed⟩ | ⟨unmarked, v, given⟩ | ⟨marked, n, c', given, scopes, result, found⟩
    · rw [failed]
      exact ⟨grown.scopes, grown.keepsResult⟩
    · rw [given]
      exact ⟨grown.scopes, Or.inl ⟨unmarked, grown.keepsResult⟩⟩
    · rw [given] at kept ⊢
      exact ⟨scopes.trans grown.scopes,
        Or.inr ⟨marked, n, rfl, WellFormed.onlyResult kept result found⟩⟩

theorem settled_source {b : Builder} (h : WellFormed b) (ctx : Context) (mark : Bool)
    (source : Source) : Settled mark b (source.compile ctx mark b) := by
  cases source with
  | expr e => exact settled_compileExpr h ctx e mark
  | datum data => exact ⟨rfl, (Extends.refl b).keepsResult⟩
  | foreign kind text => exact ⟨rfl, (Extends.refl b).keepsResult⟩

/-- A scope around an action that leaves the scopes as they are is left again. -/
theorem settled_withScope {b : Builder} {mark : Bool} (scope : Scope) {action : Build Value}
    (inside : ∀ c, c.nodes = b.nodes → c.catalog = b.catalog → c.resultId = b.resultId →
      Settled mark c (action c)) : Settled mark b (withScope scope action b) := by
  unfold withScope pushScope
  dsimp only
  have settled := inside (({ b with scopes := scope :: b.scopes } : Builder).record
    (.entered (scope.map (·.name)) ({ b with scopes := scope :: b.scopes } : Builder).depth)) rfl rfl rfl
  revert settled
  generalize action _ = result
  intro settled
  -- on both ways out the scope that is popped is the one that was pushed
  cases result with
  | error fault c | ok v c =>
    obtain ⟨scopes, kept⟩ := settled
    dsimp only
    unfold popScope
    rw [scopes]
    exact ⟨rfl, kept⟩

/-! ### What a source is read as -/

theorem accept_cases {source parsed : Source} (read : source.parse = .ok parsed) :
    (parsed.hasText = true ∧ source.accept = .ok parsed) ∨
      parsed.hasText = false ∧ source.accept = .error (.misuse .hugeInteger) := by
  rw [Source.accept, read]
  cases worded : parsed.hasText with
  | true => exact Or.inl ⟨rfl, if_pos worded⟩
  | false => exact Or.inr ⟨rfl, if_neg (Bool.eq_false_iff.mp worded)⟩

theorem compile_of_accept_error {source : Source} {fault : Fault} (refused : source.accept = .error fault)
    (outer : List Scope) (options : Options) (b : Builder) :
    compile outer source options b = .error fault b := by
  rw [compile, refused]

theorem accept_of_compile {source parsed : Source} (read : source.parse = .ok parsed) {outer : List Scope}
    {options : Options} {b c : Builder} {v : Value} (compiled : compile outer source options b = .ok v c) :
    source.accept = .ok parsed := by
  rcases accept_cases read with ⟨_, accepted⟩ | ⟨_, refused⟩
  · exact accepted
  · rw [compile_of_accept_error refused] at compiled
    cases compiled

theorem settled_compile {b : Builder} (h : WellFormed b) (outer : List Scope) (source : Source)
    (options : Options) : Settled options.mark b (compile outer source options b) := by
  unfold compile
  cases source.accept with
  | error fault => exact ⟨rfl, (Extends.refl b).keepsResult⟩
  | ok parsed =>
    dsimp only
    cases options.scope with
    | none => exact settled_source (h.record _) ⟨outer, options.labels⟩ options.mark parsed
    | some scope =>
      refine settled_withScope (b := b.record _) scope fun c nodes catalog result => ?_
      exact settled_source ((h.record _).congr nodes catalog result) _ _ parsed

end Formula

namespace Session

/-- Compiling a formula, whether it fails or not, leaves the scopes of its builder and all other
builders as they were. If it fails or is not to mark a node, the result stays as it was; else it gives
a node, and this node is the result and the only one that is flagged. -/
theorem compile_controlled {s : Session} (reachable : s.Reachable) {place : Nat} {b : Builder}
    (found : s.builder? place = some b) (source : Formula.Source) (options : Formula.Options) :
    ∃ result s' b',
      s.run place (fun outer => Formula.compile outer source options) = some (result, s') ∧
      s'.builder? place = some b' ∧ b'.scopes = b.scopes ∧
      s'.builders.length = s.builders.length ∧
      (∀ other, other ≠ place → s'.builder? other = s.builder? other) ∧
      (∀ fault, result = .error fault → Builder.KeepsResult b b') ∧
      (options.mark = false → Builder.KeepsResult b b') ∧
      (∀ v, result = .ok v → options.mark = true → ∃ n, v = .node n ∧ Builder.OnlyResult b' n) := by
  have h := Builder.Reachable.wellFormed ⟨s, place, reachable, found⟩
  have settled := Formula.settled_compile h (s.outerScopes place) source options
  cases ran : Formula.compile (s.outerScopes place) source options b with
  | error fault c =>
    rw [ran] at settled
    refine ⟨.error fault, ⟨s.builders.set place c⟩, c, run_of_error found ran,
      builder?_set_self found c, settled.1, List.length_set,
      fun other different => builder?_set_of_ne different c, fun _ _ => settled.2,
      fun _ => settled.2, ?_⟩
    intro v same
    cases same
  | ok value c =>
    rw [ran] at settled
    refine ⟨.ok value, ⟨s.builders.set place c⟩, c, run_of_ok found ran,
      builder?_set_self found c, settled.1, List.length_set,
      fun other different => builder?_set_of_ne different c, ?_, ?_, ?_⟩
    · intro fault same
      cases same
    · intro unmarked
      rcases settled.2 with ⟨_, kept⟩ | ⟨marked, _⟩
      · exact kept
      · rw [unmarked] at marked
        cases marked
    · intro v same marked
      cases same
      rcases settled.2 with ⟨unmarked, _⟩ | ⟨_, given⟩
      · rw [marked] at unmarked
        cases unmarked
      · exact given

def nodeId? : Except Fault Value → Option String
  | .ok (.node n) => some n.id
  | _ => none

theorem sample_compile_controlled : ∃ b result s' b', sample.builder? 0 = some b ∧
    sample.run 0 (fun outer => Formula.compile outer
      (.expr (.binary (.str "+") (.identifier "#add2") (.identifier "y")))
      ⟨true, some [⟨"y", ""⟩], .index⟩) = some (result, s') ∧
    s'.builder? 0 = some b' ∧ b'.scopes = b.scopes ∧
    ∃ n, result = .ok (.node n) ∧ n.id = "add3" ∧ Builder.OnlyResult b' n := by
  obtain ⟨b, found, _⟩ := Option.map_eq_some_iff.mp sample_first
  obtain ⟨result, s', b', ran, left, scopes, _, _, _, _, marked⟩ :=
    compile_controlled sample_reachable found
      (.expr (.binary (.str "+") (.identifier "#add2") (.identifier "y")))
      ⟨true, some [⟨"y", ""⟩], .index⟩
  have given : (sample.run 0 fun outer => Formula.compile outer
      (.expr (.binary (.str "+") (.identifier "#add2") (.identifier "y")))
      ⟨true, some [⟨"y", ""⟩], .index⟩).bind (fun ran => nodeId? ran.1) = some "add3" := by
    decide +kernel
  rw [ran, Option.bind_some] at given
  cases result with
  | error fault => cases given
  | ok v =>
    obtain ⟨n, rfl, only⟩ := marked v rfl rfl
    exact ⟨b, _, s', b', found, ran, left, scopes, n, rfl, Option.some.inj given, only⟩

end Session
end FormulaGraph
