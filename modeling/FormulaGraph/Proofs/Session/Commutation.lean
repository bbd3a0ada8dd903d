import FormulaGraph.Proofs.Formula.Effect
import FormulaGraph.Proofs.Session.Lineage

/-!
# Compilations in different builders commute

A formula is compiled in one builder, and of the others it sees no more than their scopes. On every way
out compiling leaves the scopes as they were, so what is compiled in another builder, be it a child or an
ancestor, sees the same before and after.
-/

namespace FormulaGraph

open Build

def Build.answer {α : Type} (action : Build α) (b : Builder) : Except Fault α :=
  match action b with
  | .ok a _ => .ok a
  | .error fault _ => .error fault

namespace Session

variable {α β : Type} {s : Session} {p q : Nat} {b c : Builder}

theorem run_eq (found : s.builder? p = some b) (action : List Scope → Build α) :
    s.run p action = some ((action (s.outerScopes p)).answer b,
      ⟨s.builders.set p ((action (s.outerScopes p)).final b)⟩) := by
  cases h : action (s.outerScopes p) b with
  | ok a after => rw [run_of_ok found h, answer, final, h]
  | error fault after => rw [run_of_error found h, answer, final, h]

/-- An action answers as before, and leaves the same, where a builder at another place has been
exchanged for one that shows the same. -/
theorem run_set (different : p ≠ q) (found : s.builder? p = some b) (other : s.builder? q = some c)
    {b' : Builder} (shown : b'.sight = b.sight) (action : List Scope → Build α) :
    (⟨s.builders.set p b'⟩ : Session).run q action = some ((action (s.outerScopes q)).answer c,
      ⟨(s.builders.set p b').set q ((action (s.outerScopes q)).final c)⟩) := by
  have still : (⟨s.builders.set p b'⟩ : Session).builder? q = some c := by
    rw [builder?_set_of_ne different.symm, other]
  rw [run_eq still action, outerScopes_set found shown]

/-- Actions on different builders that show no change of them to others commute. -/
theorem run_commute (different : p ≠ q) (found : s.builder? p = some b) (other : s.builder? q = some c)
    {first : List Scope → Build α} {second : List Scope → Build β}
    (quiet₁ : ((first (s.outerScopes p)).final b).sight = b.sight)
    (quiet₂ : ((second (s.outerScopes q)).final c).sight = c.sight) :
    ∃ r₁ r₂ s₁ s₂ t, s.run p first = some (r₁, s₁) ∧ s₁.run q second = some (r₂, t) ∧
      s.run q second = some (r₂, s₂) ∧ s₂.run p first = some (r₁, t) := by
  refine ⟨_, _, _, _, _, run_eq found first, run_set different found other quiet₁ second,
    run_eq other second, ?_⟩
  rw [run_set different.symm other found quiet₂ first, List.set_comm _ _ different.symm]

theorem scopes_of_settled {mark : Bool} {action : Build Value}
    (settled : Formula.Settled mark b (action b)) : (action.final b).scopes = b.scopes := by
  unfold final
  cases ran : action b with
  | ok v b' | error fault b' =>
    rw [ran] at settled
    exact settled.1

theorem sight_compile (h : b.WellFormed) (outer : List Scope) (source : Formula.Source)
    (options : Formula.Options) : ((Formula.compile outer source options).final b).sight = b.sight := by
  have parent := (Builder.conduct_continues.compile outer source options b).parent
  have scopes := scopes_of_settled (Formula.settled_compile h outer source options)
  rw [Builder.sight, scopes, parent, Builder.sight]

/-- Two formulas that are compiled in different builders, one of which may be an ancestor of the other,
come to the same in both orders: each gives the same value or fails in the same way, and every builder
is left the same. -/
theorem compile_commute (reachable : s.Reachable) (different : p ≠ q) (found : s.builder? p = some b)
    (other : s.builder? q = some c) (source₁ source₂ : Formula.Source)
    (options₁ options₂ : Formula.Options) :
    ∃ r₁ r₂ s₁ s₂ t,
      s.run p (fun outer => Formula.compile outer source₁ options₁) = some (r₁, s₁) ∧
      s₁.run q (fun outer => Formula.compile outer source₂ options₂) = some (r₂, t) ∧
      s.run q (fun outer => Formula.compile outer source₂ options₂) = some (r₂, s₂) ∧
      s₂.run p (fun outer => Formula.compile outer source₁ options₁) = some (r₁, t) := by
  have sound₁ := Builder.Reachable.wellFormed ⟨s, p, reachable, found⟩
  have sound₂ := Builder.Reachable.wellFormed ⟨s, q, reachable, other⟩
  exact run_commute different found other (sight_compile sound₁ _ source₁ options₁)
    (sight_compile sound₂ _ source₂ options₂)

/-- A scope is active around the graph whose callback is made. -/
def nestedSample : Session := sample.playAll [.ask 0 (.pushScope [⟨"z", ""⟩])]

/-- A formula that is left by its last call, of no operation, for a scope of its own. -/
def compileAround (outer : List Scope) : Build Value :=
  Formula.compile outer
    (.expr (.call (.str "divide") [.binary (.str "+") (.identifier "w") (.identifier "z")]))
    ⟨true, some [⟨"w", ""⟩], .index⟩

/-- A formula over the parameters of both scopes, for the graph inside. -/
def compileInside (outer : List Scope) : Build Value :=
  Formula.compile outer (.expr (.binary (.str "*") (.identifier "z") (.identifier "w")))
    ⟨true, none, .index⟩

/-- In both orders the formula inside finds the scope that is active around it, and not the scope that was
left when the formula around it failed. -/
theorem nestedSample_commute : ∃ r₁ r₂ s₁ s₂ t,
    nestedSample.run 0 compileAround = some (r₁, s₁) ∧ s₁.run 1 compileInside = some (r₂, t) ∧
    nestedSample.run 1 compileInside = some (r₂, s₂) ∧ s₂.run 0 compileAround = some (r₁, t) ∧
    nodeId? r₁ = none ∧ nodeId? r₂ = some "multiply1" ∧
    t.builders.map (·.parameters) = [[⟨"x", ""⟩], [⟨"w", ""⟩]] := by
  have reached : nestedSample.Reachable := sample_reachable.playAll _
  have places : (nestedSample.builder? 0).isSome ∧ (nestedSample.builder? 1).isSome := by decide +kernel
  obtain ⟨b, found⟩ := Option.isSome_iff_exists.mp places.1
  obtain ⟨c, other⟩ := Option.isSome_iff_exists.mp places.2
  obtain ⟨r₁, r₂, s₁, s₂, t, first, after, second, before⟩ :
      ∃ r₁ r₂ s₁ s₂ t, nestedSample.run 0 compileAround = some (r₁, s₁) ∧
        s₁.run 1 compileInside = some (r₂, t) ∧ nestedSample.run 1 compileInside = some (r₂, s₂) ∧
        s₂.run 0 compileAround = some (r₁, t) :=
    compile_commute reached (by decide) found other _ _ _ _
  have given : (nestedSample.run 1 compileInside).bind (fun ran => (ran.2.run 0 compileAround).map
      fun again => (nodeId? again.1, nodeId? ran.1, again.2.builders.map (·.parameters))) =
        some (none, some "multiply1", [[⟨"x", ""⟩], [⟨"w", ""⟩]]) := by
    decide +kernel
  rw [second, Option.bind_some] at given
  dsimp only at given
  rw [before, Option.map_some, Option.some.injEq, Prod.mk.injEq, Prod.mk.injEq] at given
  exact ⟨r₁, r₂, s₁, s₂, t, first, after, second, before, given⟩

end Session
end FormulaGraph
