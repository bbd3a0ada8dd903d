import FormulaGraph.Proofs.Builder.History
import FormulaGraph.Proofs.Session.WellFormed

/-!
# The history of a builder

A builder stays at its place in a session, and what every change of a builder keeps is kept there from one
move to the next, whichever builders are asked. So what a builder holds at one time it holds later, in
front of all that has come since.
-/

namespace FormulaGraph

open Build

/-- What survives every step of a conduct survives every change of a builder. -/
theorem Conduct.preserves {R : Builder → Builder → Prop} {P : Builder → Prop} (conduct : Conduct R)
    (kept : ∀ b b', R b b' → P b → P b') : Conduct fun b b' => P b → P b' where
  refl := fun _ holds => holds
  trans := fun _ _ _ first second holds => second (first holds)
  declare := fun parameter b => kept _ _ (conduct.declare parameter b)
  create := fun operation arguments id description b =>
    kept _ _ (conduct.create operation arguments id description b)
  mark := fun target b => kept _ _ (conduct.mark target b)
  push := fun scope b => kept _ _ (conduct.push scope b)
  pop := fun b => kept _ _ (conduct.pop b)
  record := fun event b => kept _ _ (conduct.record event b)

namespace Session

variable {R : Builder → Builder → Prop}

theorem builder?_append_singleton {builders : List Builder} {a b : Builder} {place : Nat}
    (found : (⟨builders ++ [a]⟩ : Session).builder? place = some b) :
    (⟨builders⟩ : Session).builder? place = some b ∨ place = builders.length ∧ b = a := by
  unfold builder? at found ⊢
  rw [List.getElem?_append] at found
  split at found
  · exact Or.inl found
  · obtain ⟨inside, last⟩ := List.getElem?_eq_some_iff.mp found
    have place : place = builders.length := by
      simp only [List.length_singleton] at inside
      omega
    refine Or.inr ⟨place, ?_⟩
    simpa [place] using last.symm

theorem length_play (s : Session) (m : Move) : s.builders.length ≤ (s.play m).2.builders.length := by
  cases m with
  | begin catalog parent =>
    simp only [play, addBuilder]
    split <;> simp
  | callback parent scope =>
    simp only [play, addChild]
    cases s.builders[parent]? <;> simp
  | ask place request =>
    cases found : s.builders[place]? with
    | none => simp [play_ask_of_none found]
    | some b => simp [play_ask found]

/-- Where a builder comes from by a move: it was at its place before and has changed as a builder changes,
or it is new, with a parent that was there, if it has one. -/
theorem origin_of_play (conduct : Conduct R) {s : Session} {m : Move} {place : Nat} {c : Builder}
    (found : (s.play m).2.builder? place = some c) :
    (∃ b, s.builder? place = some b ∧ R b c) ∨
    place = s.builders.length ∧ ∃ catalog parent, (∀ up, parent = some up → up < s.builders.length) ∧
      R (.empty catalog parent) c := by
  cases m with
  | begin catalog parent =>
    simp only [play, addBuilder] at found
    split at found
    · rename_i earlier
      rcases builder?_append_singleton found with old | ⟨last, rfl⟩
      · exact Or.inl ⟨c, old, conduct.refl c⟩
      · refine Or.inr ⟨last, catalog, parent, ?_, conduct.refl _⟩
        rintro up rfl
        simpa using earlier
    · exact Or.inl ⟨c, found, conduct.refl c⟩
  | callback parent scope =>
    simp only [play, addChild] at found
    cases known : s.builders[parent]? with
    | none =>
      rw [known] at found
      exact Or.inl ⟨c, found, conduct.refl c⟩
    | some p =>
      rw [known] at found
      rcases builder?_append_singleton found with old | ⟨last, rfl⟩
      · exact Or.inl ⟨c, old, conduct.refl c⟩
      · refine Or.inr ⟨last, p.catalog, some parent, ?_, ?_⟩
        · rintro up ⟨rfl⟩
          exact (List.getElem?_eq_some_iff.mp known).1
        · cases scope with
          | none => exact conduct.refl _
          | some scope => exact conduct.push scope _
  | ask asked request =>
    refine Or.inl ?_
    cases target : s.builders[asked]? with
    | none =>
      rw [play_ask_of_none target] at found
      exact ⟨c, found, conduct.refl c⟩
    | some a =>
      rw [play_ask target] at found
      by_cases same : place = asked
      · subst same
        rw [builder?_set_self target, Option.some.injEq] at found
        subst found
        exact ⟨a, target, conduct.request _ request a⟩
      · rw [builder?_set_of_ne same] at found
        exact ⟨c, found, conduct.refl c⟩

/-- After a move a builder is still at its place, as a change of a builder may have left it. -/
theorem builder?_play (conduct : Conduct R) {s : Session} {place : Nat} {b : Builder}
    (found : s.builder? place = some b) (m : Move) :
    ∃ c, (s.play m).2.builder? place = some c ∧ R b c := by
  have inside : place < s.builders.length := (List.getElem?_eq_some_iff.mp found).1
  have there : (s.play m).2.builder? place = some _ :=
    List.getElem?_eq_getElem (Nat.lt_of_lt_of_le inside (length_play s m))
  rcases origin_of_play conduct there with ⟨a, before, changed⟩ | ⟨last, _⟩
  · rw [Option.some.inj (found.symm.trans before)]
    exact ⟨_, there, changed⟩
  · omega

theorem builder?_playAll (conduct : Conduct R) {s : Session} {place : Nat} {b : Builder}
    (found : s.builder? place = some b) (moves : List Move) :
    ∃ c, (s.playAll moves).builder? place = some c ∧ R b c := by
  induction moves generalizing s b with
  | nil => exact ⟨b, found, conduct.refl b⟩
  | cons m rest ih =>
    obtain ⟨middle, there, first⟩ := builder?_play conduct found m
    obtain ⟨c, last, later⟩ := ih there
    exact ⟨c, last, conduct.trans _ _ _ first later⟩

theorem Reachable.parameters_nodup {s : Session} (reachable : s.Reachable) {place : Nat} {b : Builder}
    (found : s.builder? place = some b) : (b.parameters.map (·.name)).Nodup := by
  have kept := Builder.conduct_continues.preserves
    (P := fun b => (b.parameters.map (·.name)).Nodup) fun _ _ continued => continued.names
  have empty (catalog parent) : ((Builder.empty catalog parent).parameters.map (·.name)).Nodup :=
    List.nodup_nil
  exact reachable.forall_builders empty kept b (List.mem_of_getElem? found)

/-- However a session goes on, the nodes of a builder stay in front, under their ids and changed in nothing
but their flags; the nodes that come behind them have ids that no node had, and no two nodes ever have
one id. The free parameters stay in front as they were declared, and no two ever have one name. -/
theorem history_append_only {s : Session} (reachable : s.Reachable) {place : Nat} {b : Builder}
    (found : s.builder? place = some b) (moves : List Move) :
    ∃ c, (s.playAll moves).builder? place = some c ∧
      NameMap.keys b.nodes <+: NameMap.keys c.nodes ∧
      (∀ id n, b.node? id = some n → ∃ flag, c.node? id = some { n with isResult := flag }) ∧
      (∀ entry ∈ c.nodes.drop b.nodes.length, b.has entry.1 = false) ∧
      (NameMap.keys c.nodes).Nodup ∧
      b.parameters <+: c.parameters ∧
      (c.parameters.map (·.name)).Nodup := by
  obtain ⟨c, there, continued⟩ := builder?_playAll Builder.conduct_continues found moves
  have reached := reachable.playAll moves
  have distinct := (Builder.Reachable.wellFormed ⟨_, place, reached, there⟩).distinct
  exact ⟨c, there, continued.keys, fun _ _ known => continued.node? known, continued.fresh distinct,
    distinct, continued.parameters, reached.parameters_nodup there⟩

/-- An operation whose name is the first id of another one, so that ids made for the two could meet. -/
def crossingCatalog : Catalog :=
  .ofOperations [⟨"add", "", "", [⟨"x", "", false⟩, ⟨"y", "", false⟩]⟩, ⟨"add1", "", "", []⟩]

def crossingRun : List Move :=
  [.begin crossingCatalog none,
    .ask 0 (.createNode (.str "add") (.list []) none .null),
    .ask 0 (.createNode (.str "add1") (.list []) none .null),
    .ask 0 (.createNode (.str "add") (.list [.nodeRef "add1"]) (some "add2") .null),
    .ask 0 (.declare ⟨"x", "the first"⟩)]

/-- Ids that are taken are handed in and come up again, the result moves, and names are declared again. -/
def crossingSequel : List Move :=
  [.ask 0 (.markResult (.str "add1")),
    .ask 0 (.createNode (.str "add") (.list []) (some "add11") .null),
    .ask 0 (.createNode (.str "add") (.list []) (some "add12") .null),
    .ask 0 (.createNode (.str "add1") (.list []) none .null),
    .ask 0 (.declare ⟨"x", ""⟩),
    .callback 0 (some [⟨"y", ""⟩]),
    .ask 0 (.compile (.expr (.binary (.str "+") (.identifier "x") (.identifier "y"))) ⟨true, none, .index⟩),
    .ask 0 (.declare ⟨"y", "the second"⟩)]

theorem crossingSequel_append_only : ∃ b c,
    ((⟨[]⟩ : Session).playAll crossingRun).builder? 0 = some b ∧
    (((⟨[]⟩ : Session).playAll crossingRun).playAll crossingSequel).builder? 0 = some c ∧
    NameMap.keys b.nodes = ["add1", "add11", "add2"] ∧
    NameMap.keys c.nodes = ["add1", "add11", "add2", "add12", "add13", "add3"] ∧
    (NameMap.keys c.nodes).Nodup ∧
    b.parameters = [⟨"x", "the first"⟩] ∧ c.parameters = [⟨"x", "the first"⟩, ⟨"y", ""⟩] ∧
    ∀ id n, b.node? id = some n → ∃ flag, c.node? id = some { n with isResult := flag } := by
  have early : (((⟨[]⟩ : Session).playAll crossingRun).builder? 0).map
      (fun b => (NameMap.keys b.nodes, b.parameters)) =
        some (["add1", "add11", "add2"], [⟨"x", "the first"⟩]) := by
    decide +kernel
  have late : ((((⟨[]⟩ : Session).playAll crossingRun).playAll crossingSequel).builder? 0).map
      (fun c => (NameMap.keys c.nodes, c.parameters)) =
        some (["add1", "add11", "add2", "add12", "add13", "add3"], [⟨"x", "the first"⟩, ⟨"y", ""⟩]) := by
    decide +kernel
  obtain ⟨b, found, before⟩ := Option.map_eq_some_iff.mp early
  obtain ⟨keys, parameters⟩ := Prod.mk.inj before
  obtain ⟨c, there, _, nodes, _, distinct, _, _⟩ :=
    history_append_only (Reachable.start.playAll crossingRun) found crossingSequel
  rw [there, Option.map_some, Option.some.injEq] at late
  obtain ⟨laterKeys, laterParameters⟩ := Prod.mk.inj late
  exact ⟨b, c, found, there, keys, laterKeys, distinct, parameters, laterParameters, nodes⟩

end Session
end FormulaGraph
