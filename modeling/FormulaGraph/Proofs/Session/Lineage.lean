import FormulaGraph.Proofs.Session.History

/-!
# What a builder sees of its ancestors

Parents come before their children, so the ancestors of a builder are finitely many, and the scopes that
it sees are those of its lineage: of the builder itself and of its ancestors. Nothing else about the
other builders of a session matters to it.
-/

namespace FormulaGraph

open Build

/-- What other builders may see of a builder: its scopes, and where to look for more of them. -/
def Builder.sight (b : Builder) : List Scope × Option Nat := (b.scopes, b.parent)

namespace Session

/-- The builder at a place, and its ancestors. -/
inductive Lineage (s : Session) : Nat → Builder → Prop
  | self {place : Nat} {b : Builder} (found : s.builder? place = some b) : Lineage s place b
  | parent {place up : Nat} {b a : Builder} (found : s.builder? place = some b)
      (child : b.parent = some up) (above : Lineage s up a) : Lineage s place a

theorem Reachable.parent_lt {s : Session} (reachable : s.Reachable) {place up : Nat} {b : Builder}
    (found : s.builder? place = some b) (child : b.parent = some up) : up < place := by
  induction reachable generalizing b with
  | start => simp [builder?] at found
  | move m _ ih =>
    rcases origin_of_play Builder.conduct_continues found with
      ⟨a, before, changed⟩ | ⟨last, catalog, parent, earlier, changed⟩
    · exact ih before (changed.parent.symm.trans child)
    · rw [last]
      exact earlier up (changed.parent.symm.trans child)

section Scopes

variable {s : Session} {place : Nat} {b : Builder}

/-- The scopes that a builder sees, the innermost first. -/
theorem scopesAt_eq (found : s.builder? place = some b) :
    s.scopesAt place = b.visible (s.outerScopes place) := by
  have there : s.builders[place]? = some b := found
  rw [scopesAt, outerScopes, there]
  rfl

theorem outerScopes_eq (reachable : s.Reachable) (found : s.builder? place = some b) :
    s.outerScopes place = (b.parent.map s.scopesAt).getD [] := by
  have there : s.builders[place]? = some b := found
  rw [outerScopes, there, Option.bind_some]
  cases child : b.parent with
  | none => rfl
  | some up => exact if_pos (reachable.parent_lt found child)

theorem mem_scopesAt_iff (reachable : s.Reachable) {scope : Scope} :
    scope ∈ s.scopesAt place ↔ ∃ a, s.Lineage place a ∧ scope ∈ a.scopes := by
  induction place using Nat.strongRecOn with
  | ind place ih =>
    constructor
    · intro visible
      cases found : s.builder? place with
      | none =>
        have absent : s.builders[place]? = none := found
        rw [scopesAt, absent] at visible
        cases visible
      | some b =>
        rw [scopesAt_eq found, outerScopes_eq reachable found, Builder.visible, List.mem_append] at visible
        rcases visible with own | above
        · exact ⟨b, .self found, own⟩
        · cases child : b.parent with
          | none => simp [child] at above
          | some up =>
            rw [child] at above
            obtain ⟨a, line, inside⟩ := (ih up (reachable.parent_lt found child)).mp above
            exact ⟨a, .parent found child line, inside⟩
    · rintro ⟨a, line, inside⟩
      cases line with
      | self found =>
        rw [scopesAt_eq found]
        exact List.mem_append_left _ inside
      | parent found child above =>
        rw [scopesAt_eq found, outerScopes_eq reachable found, child]
        exact List.mem_append_right _ ((ih _ (reachable.parent_lt found child)).mpr ⟨a, above, inside⟩)

/-- What a builder sees depends on nothing but what builders show. -/
theorem scopesAt_congr {s s' : Session}
    (same : ∀ place, (s.builder? place).map Builder.sight = (s'.builder? place).map Builder.sight)
    (place : Nat) : s.scopesAt place = s'.scopesAt place := by
  induction place using Nat.strongRecOn with
  | ind place ih =>
    have here := same place
    unfold builder? at here
    unfold scopesAt
    cases before : s.builders[place]? with
    | none =>
      rw [before] at here
      rw [Option.map_eq_none_iff.mp here.symm]
    | some b =>
      rw [before] at here
      obtain ⟨c, after, shown⟩ := Option.map_eq_some_iff.mp here.symm
      obtain ⟨scopes, parent⟩ := Prod.mk.inj shown
      rw [after]
      dsimp only
      rw [scopes, parent]
      cases b.parent with
      | none => rfl
      | some up =>
        dsimp only
        split
        · rw [ih up ‹_›]
        · rfl

/-- An action that leaves its builder's scopes as they were changes what no builder sees. -/
theorem outerScopes_set (found : s.builder? place = some b) {c : Builder} (shown : c.sight = b.sight)
    (other : Nat) : (⟨s.builders.set place c⟩ : Session).outerScopes other = s.outerScopes other := by
  have same (at_ : Nat) : ((⟨s.builders.set place c⟩ : Session).builder? at_).map Builder.sight =
      (s.builder? at_).map Builder.sight := by
    by_cases here : at_ = place
    · subst here
      rw [builder?_set_self found, found, Option.map_some, Option.map_some, shown]
    · rw [builder?_set_of_ne here]
  have parents : ((s.builders.set place c)[other]?).bind Builder.parent =
      (s.builders[other]?).bind Builder.parent := by
    have there := congrArg (fun sight => sight.bind Prod.snd) (same other)
    rw [Option.bind_map, Option.bind_map] at there
    exact there
  unfold outerScopes
  rw [parents]
  cases (s.builders[other]?).bind Builder.parent with
  | none => rfl
  | some up => simp only [scopesAt_congr same up]

end Scopes

end Session
end FormulaGraph
