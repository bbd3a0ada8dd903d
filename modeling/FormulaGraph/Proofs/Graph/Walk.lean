import FormulaGraph.Graph.Outline
import FormulaGraph.Proofs.Document.RoundTrip
import FormulaGraph.Proofs.Document.Written
import FormulaGraph.Proofs.Graph.Reach

/-!
# The walk behind an outline

An outline is drawn by a walk along the arguments that are references. `Walk` says what is drawn of a list of
arguments, without a bound for the depth: below a reference stands its node, with its own arguments where the
walk meets it first. Each node that is entered is one less to be entered, so with a bound above the number of
nodes that have not been shown the walk comes to its end, or to a node that is `Blocked`: one whose operation is
no text, or with an argument that has none.
-/

namespace FormulaGraph

open Relation

namespace Graph

variable {g : Graph} {key d : String} {seen after : List String}

/-- An argument of the node under a key is a reference to another key of the graph. -/
def RefersTo (g : Graph) (key d : String) : Prop :=
  ∃ n, g.node? key = some n ∧ Value.nodeRef d ∈ n.values ∧ g.has d = true

theorem RefersTo.dependsOn (refers : g.RefersTo key d) : g.DependsOn key d := by
  obtain ⟨n, found, member, present⟩ := refers
  obtain ⟨argument, bound, same⟩ := List.mem_map.mp member
  refine ⟨n, found, List.mem_eraseDups.mpr (List.mem_flatMap.mpr ⟨argument, bound, ?_⟩), present⟩
  simp [same, Value.nodeRefs]

theorem length_unvisited_le (more : seen ⊆ after) : (g.unvisited after).length ≤ (g.unvisited seen).length := by
  refine (List.monotone_filter_right g.keys fun key fresh => ?_).length_le
  simp only [Bool.not_eq_true', List.contains_eq_mem, decide_eq_false_iff_not] at fresh ⊢
  exact fun before => fresh (more before)

end Graph

/-- A callback is shown by the number of its nodes, and any other argument in words. -/
def Value.showable : Value → Bool
  | .callback _ => true
  | other => other.hasText

theorem Value.showable_eq_hasText {v : Value} (other : ∀ g, v = .callback g → False) : v.showable = v.hasText := by
  unfold showable
  split
  · rename_i g
    exact (other g rfl).elim
  · rfl

/-- Why a node cannot be shown with its arguments. -/
inductive Node.Blocked (n : Node) : Misuse → Prop where
  | operation (unnamed : ∀ operation, n.operation ≠ .str operation) : Blocked n (.notText n.operation.kind)
  | argument {value : Value} (member : value ∈ n.values) (unshown : value.showable = false) :
      Blocked n .hugeInteger

namespace Outline

/-- The parts that stand for arguments, when some nodes have been shown before them, and the nodes that have
been shown then. -/
inductive Walk (g : Graph) : List String → NameMap Value → List Outline → List String → Prop where
  | nil (seen : List String) : Walk g seen [] [] seen
  | leaf {seen after : List String} {name : String} {value : Value} {rest : NameMap Value}
      {parts : List Outline} {argument : ShownArgument} (alone : target? g value = none)
      (shown : showArgument value = .ok argument) (later : Walk g seen rest parts after) :
      Walk g seen ((name, value) :: rest) (.leaf name argument :: parts) after
  | again {seen after : List String} {name id operation : String} {value : Value} {rest : NameMap Value}
      {parts : List Outline} {n : Node} (target : target? g value = some id) (found : g.node? id = some n)
      (text : n.operation = .str operation) (before : id ∈ seen) (later : Walk g seen rest parts after) :
      Walk g seen ((name, value) :: rest) (.link name (.again id operation) :: parts) after
  | node {seen between after : List String} {name id operation : String} {value : Value} {rest : NameMap Value}
      {inner parts : List Outline} {n : Node} (target : target? g value = some id)
      (found : g.node? id = some n) (text : n.operation = .str operation) (fresh : id ∉ seen)
      (below : Walk g (id :: seen) n.arguments inner between) (later : Walk g between rest parts after) :
      Walk g seen ((name, value) :: rest) (.link name (.node id operation inner) :: parts) after

/-- The part that stands for the node under a key. -/
inductive Drawn (g : Graph) (seen : List String) (key : String) : Outline → List String → Prop where
  | again {operation : String} {n : Node} (found : g.node? key = some n) (text : n.operation = .str operation)
      (before : key ∈ seen) : Drawn g seen key (.again key operation) seen
  | node {operation : String} {n : Node} {parts : List Outline} {after : List String}
      (found : g.node? key = some n) (text : n.operation = .str operation) (fresh : key ∉ seen)
      (below : Walk g (key :: seen) n.arguments parts after) : Drawn g seen key (.node key operation parts) after

variable {g : Graph} {key d id name operation : String} {n : Node} {value : Value} {part : Outline}
  {seen between after : List String} {arguments rest : NameMap Value} {parts inner : List Outline}
  {fuel : Nat} {cause : Misuse}

theorem target?_eq_some : target? g value = some id ↔ value = .nodeRef id ∧ g.has id = true := by
  unfold target?
  split
  · rename_i other
    by_cases present : g.has other = true
    · simp only [present, if_true, Option.some.injEq, Value.nodeRef.injEq]
      constructor
      · rintro rfl
        exact ⟨rfl, present⟩
      · exact And.left
    · simp only [present, Bool.false_eq_true, if_false, reduceCtorEq, Value.nodeRef.injEq, false_iff]
      rintro ⟨rfl, again⟩
      exact present again
  · rename_i other
    simp only [reduceCtorEq, false_iff]
    rintro ⟨rfl, _⟩
    exact other id rfl

theorem Drawn.walk (drawn : Drawn g seen id part between) (target : target? g value = some id)
    (later : Walk g between rest parts after) :
    Walk g seen ((name, value) :: rest) (.link name part :: parts) after := by
  cases drawn with
  | again found text before => exact .again target found text before later
  | node found text fresh below => exact .node target found text fresh below later

theorem Walk.subset (walk : Walk g seen arguments parts after) : seen ⊆ after := by
  induction walk with
  | nil => exact List.Subset.refl _
  | leaf _ _ _ ih | again _ _ _ _ _ ih => exact ih
  | node _ _ _ _ _ _ inside ih => exact fun id member => ih (inside (List.mem_cons_of_mem _ member))

theorem Drawn.subset (drawn : Drawn g seen key part after) : seen ⊆ after := by
  cases drawn with
  | again => exact List.Subset.refl _
  | node _ _ _ below => exact fun id member => below.subset (List.mem_cons_of_mem _ member)

theorem Walk.unique {others : List Outline} {last : List String} (walk : Walk g seen arguments parts after)
    (other : Walk g seen arguments others last) : parts = others ∧ after = last := by
  -- what an argument refers to and what has been shown leave one way to draw it
  induction walk generalizing others last with
  | nil =>
    cases other
    exact ⟨rfl, rfl⟩
  | leaf alone shown later ih =>
    cases other with
    | leaf _ again later' =>
      obtain ⟨rfl, rfl⟩ := ih later'
      rw [Except.ok.inj (shown.symm.trans again)]
      exact ⟨rfl, rfl⟩
    | again target | node target =>
      rw [alone] at target
      cases target
  | again target found text before later ih =>
    cases other with
    | leaf alone =>
      rw [alone] at target
      cases target
    | again target' found' text' before' later' =>
      obtain ⟨rfl, rfl⟩ := ih later'
      obtain rfl := Option.some.inj (target.symm.trans target')
      obtain rfl := Option.some.inj (found.symm.trans found')
      rw [text] at text'
      cases text'
      exact ⟨rfl, rfl⟩
    | node target' _ _ fresh =>
      obtain rfl := Option.some.inj (target.symm.trans target')
      exact absurd before fresh
  | node target found text fresh below later inside ih =>
    cases other with
    | leaf alone =>
      rw [alone] at target
      cases target
    | again target' _ _ before =>
      obtain rfl := Option.some.inj (target.symm.trans target')
      exact absurd before fresh
    | node target' found' text' fresh' below' later' =>
      obtain rfl := Option.some.inj (target.symm.trans target')
      obtain rfl := Option.some.inj (found.symm.trans found')
      obtain ⟨rfl, rfl⟩ := inside below'
      obtain ⟨rfl, rfl⟩ := ih later'
      rw [text] at text'
      cases text'
      exact ⟨rfl, rfl⟩

/-! ### The walk of an outline -/

theorem showArgument_cases (portable : value.Portable) :
    (value.showable = true ∧ ∃ shown, showArgument value = .ok shown) ∨
      (value.showable = false ∧ showArgument value = .error .hugeInteger) := by
  obtain ⟨document, written, _⟩ := portable.roundTrips
  have same := portable.worded document written
  unfold showArgument
  split
  · exact .inl ⟨rfl, _, rfl⟩
  · exact .inl ⟨rfl, _, rfl⟩
  · rename_i callback
    rw [Value.showable_eq_hasText callback, ← same, written]
    cases told : document.hasText with
    | true => exact .inl ⟨rfl, .written document, by simp [bind, Except.bind, told]; rfl⟩
    | false => exact .inr ⟨rfl, by simp [bind, Except.bind, told]; rfl⟩

/-- One more argument behind the parts that are drawn, as `expand` takes the arguments of a node one by one. -/
def addArgument (g : Graph) (fuel : Nat) (drawn : List Outline × List String) (argument : String × Value) :
    Except Misuse (List Outline × List String) :=
  match target? g argument.2 with
  | some id => do
    let (part, seen) ← expand g fuel drawn.2 id
    return (drawn.1 ++ [.link argument.1 part], seen)
  | none => return (drawn.1 ++ [.leaf argument.1 (← showArgument argument.2)], drawn.2)

theorem expand_succ (found : g.node? key = some n) (keyed : n.id = key) :
    expand g (fuel + 1) seen key = (do
      let operation ← operationName n.operation
      if key ∈ seen then return (.again key operation, seen)
      else
        let (parts, after) ← n.arguments.foldlM (addArgument g fuel) ([], key :: seen)
        return (.node key operation parts, after)) := by
  subst keyed
  rw [expand, Graph.node, found]
  rfl

/-- References lead to a node that cannot be shown with its arguments. -/
def Stops (g : Graph) (key : String) (cause : Misuse) : Prop :=
  ∃ d n, ReflTransGen g.RefersTo key d ∧ g.node? d = some n ∧ n.Blocked cause

theorem Stops.of_refersTo (stops : Stops g d cause) (refers : g.RefersTo key d) : Stops g key cause := by
  obtain ⟨last, n, path, found, blocked⟩ := stops
  exact ⟨last, n, path.head refers, found, blocked⟩

/-- The walk stops at an argument or below it. -/
inductive Halts (g : Graph) (value : Value) : Misuse → Prop where
  | here (unshown : value.showable = false) : Halts g value .hugeInteger
  | below {id : String} {cause : Misuse} (target : target? g value = some id) (stops : Stops g id cause) :
      Halts g value cause

theorem Halts.stops (halts : Halts g value cause) (found : g.node? key = some n) (member : value ∈ n.values) :
    Stops g key cause := by
  cases halts with
  | here unshown => exact ⟨key, n, .refl, found, .argument member unshown⟩
  | below target stops =>
    obtain ⟨rfl, present⟩ := target?_eq_some.mp target
    exact stops.of_refersTo ⟨n, found, member, present⟩

/-- A node is drawn, or the walk from it stops. -/
def Ends (g : Graph) (seen : List String) (key : String) (result : Except Misuse (Outline × List String)) : Prop :=
  (∃ part after, result = .ok (part, after) ∧ Drawn g seen key part after) ∨
    ∃ cause, result = .error cause ∧ Stops g key cause

theorem operationName_eq_ok {v : Value} : operationName v = .ok operation ↔ v = .str operation := by
  unfold operationName
  split
  · simp [Value.str]
  · rename_i other
    simp only [reduceCtorEq, false_iff]
    exact other operation

instance (v : Value) : Decidable (∃ operation, v = .str operation) :=
  match named : operationName v with
  | .ok operation => .isTrue ⟨operation, operationName_eq_ok.mp named⟩
  | .error _ => .isFalse (by
      rintro ⟨operation, rfl⟩
      cases named)

theorem operationName_of_ne {v : Value} (unnamed : ∀ operation, v ≠ .str operation) :
    operationName v = .error (.notText v.kind) := by
  unfold operationName
  split
  · rename_i s
    exact absurd rfl (unnamed s)
  · rfl

/-- A node can be drawn with what is left of the bound for the depth, or the walk from it stops. -/
def Draws (g : Graph) (fuel : Nat) : Prop :=
  ∀ seen key, g.has key = true → (g.unvisited seen).length < fuel → Ends g seen key (expand g fuel seen key)

theorem addArgument_cases {argument : String × Value} (draws : Draws g fuel) (portable : argument.2.Portable)
    (drawn : List Outline) (room : (g.unvisited seen).length < fuel) :
    (∃ part between, addArgument g fuel (drawn, seen) argument = .ok (drawn ++ [part], between) ∧
        seen ⊆ between ∧ ∀ rest parts after, Walk g between rest parts after →
          Walk g seen (argument :: rest) (part :: parts) after) ∨
      ∃ cause, addArgument g fuel (drawn, seen) argument = .error cause ∧ Halts g argument.2 cause := by
  obtain ⟨name, value⟩ := argument
  cases target : target? g value with
  | none =>
    rcases showArgument_cases portable with ⟨_, shown, same⟩ | ⟨unshown, same⟩
    · left
      refine ⟨.leaf name shown, seen, ?_, List.Subset.refl _, fun rest parts after walk => .leaf target same walk⟩
      simp only [addArgument, target, same]
      rfl
    · right
      refine ⟨.hugeInteger, ?_, .here unshown⟩
      simp only [addArgument, target, same]
      rfl
  | some id =>
    have present : g.has id = true := (target?_eq_some.mp target).2
    rcases draws seen id present room with ⟨part, between, done, here⟩ | ⟨cause, failed, stops⟩
    · left
      refine ⟨.link name part, between, ?_, here.subset, fun rest parts after walk => here.walk target walk⟩
      simp only [addArgument, target, done]
      rfl
    · right
      refine ⟨cause, ?_, .below target stops⟩
      simp only [addArgument, target, failed]
      rfl

theorem foldlM_addArgument (draws : Draws g fuel) (portable : ∀ argument ∈ arguments, argument.2.Portable)
    (drawn : List Outline) (seen : List String) (room : (g.unvisited seen).length < fuel) :
    (∃ parts after, arguments.foldlM (addArgument g fuel) (drawn, seen) = .ok (drawn ++ parts, after) ∧
        Walk g seen arguments parts after) ∨
      ∃ argument ∈ arguments, ∃ cause,
        arguments.foldlM (addArgument g fuel) (drawn, seen) = .error cause ∧ Halts g argument.2 cause := by
  induction arguments generalizing drawn seen with
  | nil =>
    left
    exact ⟨[], seen, by simp [pure, Except.pure], .nil seen⟩
  | cons argument rest ih =>
    rw [List.foldlM_cons]
    have head := portable argument List.mem_cons_self
    rcases addArgument_cases draws head drawn room with
      ⟨part, between, step, more, walk⟩ | ⟨cause, failed, halts⟩
    · have fewer := Graph.length_unvisited_le (g := g) more
      have tail : ∀ argument ∈ rest, argument.2.Portable := fun argument member =>
        portable argument (List.mem_cons_of_mem _ member)
      simp only [step, bind, Except.bind]
      rcases ih tail (drawn ++ [part]) between (by omega) with
        ⟨parts, after, all, later⟩ | ⟨argument, member, stop⟩
      · left
        refine ⟨part :: parts, after, ?_, walk rest parts after later⟩
        rw [all, List.append_assoc, List.singleton_append]
      · right
        exact ⟨argument, List.mem_cons_of_mem _ member, stop⟩
    · right
      refine ⟨argument, List.mem_cons_self, cause, ?_, halts⟩
      simp only [failed, bind, Except.bind]

/-- With a bound for the depth above the number of nodes that have not been shown, a walk ends. -/
theorem draws_of_loaded (loaded : g.Loaded) (fuel : Nat) : Draws g fuel := by
  -- by the bound: a node that is entered has not been shown before, so there is one less for what is below it
  induction fuel with
  | zero =>
    intro seen key _ room
    omega
  | succ fuel ih =>
    intro seen key present room
    obtain ⟨n, found⟩ := Graph.has_iff_exists.mp present
    have member := NameMap.mem_of_get? found
    have keyed : n.id = key := loaded.regular.keyed _ member
    rw [expand_succ found keyed]
    by_cases named : ∃ operation, n.operation = .str operation
    · obtain ⟨operation, text⟩ := named
      have shown := operationName_eq_ok.mpr text
      simp only [shown, bind, Except.bind]
      by_cases before : key ∈ seen
      · left
        exact ⟨.again key operation, seen, by rw [if_pos before]; rfl, .again found text before⟩
      · have fewer : (g.unvisited (key :: seen)).length < (g.unvisited seen).length :=
          Graph.length_unvisited_cons_lt found (by simpa using before)
        have writable : ∀ argument ∈ n.arguments, argument.2.Portable := by
          intro argument bound
          have inside : argument.2 ∈ g.values :=
            List.mem_flatMap.mpr ⟨(key, n), member, List.mem_map_of_mem bound⟩
          exact (loaded.arguments _ inside).portable
        simp only [before, if_false]
        rcases foldlM_addArgument ih writable [] (key :: seen) (by omega) with
          ⟨parts, after, all, walk⟩ | ⟨argument, bound, cause, failed, halts⟩
        · left
          exact ⟨.node key operation parts, after, by rw [all]; rfl, .node found text before walk⟩
        · right
          exact ⟨cause, by rw [failed], halts.stops found (List.mem_map_of_mem bound)⟩
    · right
      have unnamed : ∀ operation, n.operation ≠ .str operation := fun operation text => named ⟨operation, text⟩
      refine ⟨.notText n.operation.kind, ?_, key, n, .refl, found, .operation unnamed⟩
      rw [operationName_of_ne unnamed]
      rfl

end Outline
end FormulaGraph
