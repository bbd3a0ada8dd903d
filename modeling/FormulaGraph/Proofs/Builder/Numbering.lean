import FormulaGraph.Proofs.Builder.History
import FormulaGraph.Proofs.Session.WellFormed
import Mathlib.Order.Bounds.Basic
import Mathlib.Tactic.IntervalCases

/-!
# The numbers of new ids

The search for a new id begins behind the last number that an id was made with. All numbers up to this one
are taken, whatever ids callers have given and whatever has failed: `Counted`. So it comes to the same
number as a search that begins at one, and this is the least that makes a new id.
-/

namespace FormulaGraph.Builder

open Build

variable {b b' : Builder} {operation name : String} {n m k : Nat}

/-- The last number that an id was made with for an operation, or zero. -/
def lastNumber (b : Builder) (operation : String) : Nat := (NameMap.get? b.counters operation).getD 0

/-! ### Searching -/

/-- A search looks at one number after the other, without a bound, and ends at the first that makes a new
id. -/
inductive Search (b : Builder) (operation : String) : Nat → Nat → Prop
  | stop {n : Nat} (free : b.has (makeId operation n) = false) : Search b operation n n
  | next {n k : Nat} (taken : b.has (makeId operation n) = true) (later : Search b operation (n + 1) k) :
      Search b operation n k

theorem search_firstFree {fuel : Nat} (free : b.has (makeId operation (b.firstFree operation fuel n)) = false) :
    b.Search operation n (b.firstFree operation fuel n) := by
  induction fuel generalizing n with
  | zero => exact .stop free
  | succ fuel ih =>
    rw [firstFree] at free ⊢
    cases taken : b.has (makeId operation n) with
    | true =>
      rw [taken, if_pos rfl] at free
      rw [if_pos rfl]
      exact .next taken (ih free)
    | false =>
      rw [if_neg Bool.false_ne_true]
      exact .stop taken

/-- The search for the next number ends, within as many steps as there are nodes and one more. -/
theorem search_nextNumber (b : Builder) (operation : String) :
    b.Search operation (b.lastNumber operation + 1) (b.nextNumber operation) :=
  search_firstFree (not_has_nextId b operation)

namespace Search

theorem free (search : b.Search operation n k) : b.has (makeId operation k) = false := by
  induction search with
  | stop free => exact free
  | next _ _ ih => exact ih

theorem le (search : b.Search operation n k) : n ≤ k := by
  induction search with
  | stop _ => exact Nat.le_refl _
  | next _ _ ih => exact Nat.le_of_succ_le ih

theorem taken (search : b.Search operation n k) (low : n ≤ m) (high : m < k) :
    b.has (makeId operation m) = true := by
  induction search with
  | stop _ => omega
  | @next n k taken _ ih =>
    by_cases first : m = n
    · exact first ▸ taken
    · exact ih (by omega) high

/-- A search may as well begin earlier, where all numbers in between are taken. -/
theorem earlier (search : b.Search operation m k) (low : n ≤ m)
    (between : ∀ j, n ≤ j → j < m → b.has (makeId operation j) = true) : b.Search operation n k := by
  induction low with
  | refl => exact search
  | @step m low ih =>
    exact ih (.next (between m low (Nat.lt_succ_self m)) search)
      fun j from_ upTo => between j from_ (Nat.lt_succ_of_lt upTo)

/-- A search from the first number comes to the least one that makes a new id. -/
theorem isLeast (search : b.Search operation 1 k) :
    IsLeast {j | 0 < j ∧ b.has (makeId operation j) = false} k := by
  refine ⟨⟨search.le, search.free⟩, fun j ⟨positive, free⟩ => ?_⟩
  by_contra lower
  rw [search.taken positive (Nat.lt_of_not_le lower)] at free
  cases free

end Search

/-! ### Counting -/

/-- All numbers are taken up to the last that an id was made with. -/
def Counted (b : Builder) : Prop :=
  ∀ operation k, 0 < k → k ≤ b.lastNumber operation → b.has (makeId operation k) = true

theorem counted_empty (catalog : Catalog) (parent : Option Nat) : Counted (empty catalog parent) := by
  intro operation k positive low
  have none : (empty catalog parent).lastNumber operation = 0 := rfl
  omega

theorem Counted.mono (counted : b.Counted) (continued : Continues b b') (counters : b'.counters = b.counters) :
    b'.Counted := by
  intro operation k positive low
  rw [lastNumber, counters] at low
  exact continued.has (counted operation k positive low)

theorem lastNumber_grown (n : Node) (number : Nat) (operation : String) :
    (b.grown (NameMap.put b.counters name number) n name).lastNumber operation =
      if operation = name then number else b.lastNumber operation := by
  change (NameMap.get? (NameMap.put b.counters name number) operation).getD 0 = _
  split
  · rename_i same
    rw [same, NameMap.get?_put_self, Option.getD_some]
  · rename_i different
    rw [NameMap.get?_put_of_ne _ _ different, lastNumber]

/-- The number of the new id is the last one now; below it, what the search has passed over is taken, and
what was counted before. -/
theorem Counted.generated (counted : b.Counted) {n : Node} (id : n.id = makeId name (b.nextNumber name)) :
    (b.grown (NameMap.put b.counters name (b.nextNumber name)) n name).Counted := by
  intro operation k positive low
  have continued := continues_grown b (NameMap.put b.counters name (b.nextNumber name)) n name
  rw [lastNumber_grown] at low
  by_cases same : operation = name
  · subst same
    rw [if_pos rfl] at low
    rcases Nat.lt_or_eq_of_le low with below | rfl
    · apply continued.has
      by_cases old : k ≤ b.lastNumber operation
      · exact counted operation k positive old
      · exact (search_nextNumber b operation).taken (by omega) below
    · rw [← id, has, NameMap.has_iff, grown, record, add, NameMap.keys_append]
      exact List.mem_append_right _ List.mem_cons_self
  · rw [if_neg same] at low
    exact continued.has (counted operation k positive low)

theorem counted_createNode (counted : b.Counted) (operation : Json) (arguments : Value) (id : Option String)
    (description : Json) : ((createNode operation arguments id description).final b).Counted := by
  cases checked : b.bindArguments operation arguments with
  | error fault =>
    rw [final_of_error (createNode_of_refused checked id description)]
    exact counted
  | ok result =>
    obtain ⟨name, bound⟩ := result
    cases id with
    | none =>
      rw [final_of_ok (createNode_generated checked description)]
      exact counted.generated rfl
    | some given =>
      cases taken : b.has given with
      | true =>
        rw [final_of_error (createNode_of_taken checked description taken)]
        exact counted
      | false =>
        -- a given id is not counted, even where it could have been made
        rw [final_of_ok (createNode_of_free checked description taken)]
        exact counted.mono (continues_grown b b.counters _ name) rfl

theorem counted_of_keeps {α : Type} {action : Build α} (continues : Keeps Continues action)
    (counters : Keeps (fun b b' => b'.counters = b.counters) action) :
    Keeps (fun b b' => b.Counted → b'.Counted) action :=
  fun b counted => counted.mono (continues b) (counters b)

theorem conduct_counted : Conduct fun b b' => b.Counted → b'.Counted where
  refl := fun _ => id
  trans := fun _ _ _ first second => second ∘ first
  declare := fun parameter => counted_of_keeps (conduct_continues.declare parameter) fun b => by
    unfold final declare
    cases b.parameter? parameter.name <;> rfl
  create := fun operation arguments id description b counted =>
    counted_createNode counted operation arguments id description
  mark := fun target => counted_of_keeps (conduct_continues.mark target) fun b => by
    rcases markResult_cases target b with ⟨fault, failed⟩ | ⟨id, n, _, _, marked⟩
    · rw [final_of_error failed]
    · rw [final_of_ok marked]
      rfl
  push := fun scope => counted_of_keeps (conduct_continues.push scope) fun _ => rfl
  pop := counted_of_keeps conduct_continues.pop fun b => by
    unfold final popScope
    cases b.scopes <;> rfl
  record := fun event b counted => counted.mono (conduct_continues.record event b) rfl

theorem Reachable.counted (reachable : b.Reachable) : b.Counted :=
  reachable.of_conduct counted_empty conduct_counted

/-- The number of an id that is made is the least that makes a new one. The search behind the last number
ends with it, and so does the one that looks at all numbers; from then on it is the last one. -/
theorem Reachable.generated_id_least (reachable : b.Reachable) (name : String) :
    ∃ k, IsLeast {j | 0 < j ∧ b.has (makeId name j) = false} k ∧
      b.Search name (b.lastNumber name + 1) k ∧ b.Search name 1 k ∧
      ∀ arguments description n b', createNode (.str name) arguments none description b = .ok n b' →
        n.id = name ++ Number.intText k ∧ b'.nodes = b.nodes ++ [(n.id, n)] ∧ b'.lastNumber name = k := by
  have near := search_nextNumber b name
  have whole : b.Search name 1 (b.nextNumber name) :=
    near.earlier (by omega) fun j positive upTo => reachable.counted name j positive (by omega)
  refine ⟨b.nextNumber name, whole.isLeast, near, whole, fun arguments description n b' created => ?_⟩
  cases checked : b.bindArguments (.str name) arguments with
  | error fault =>
    rw [createNode_of_refused checked] at created
    cases created
  | ok result =>
    obtain ⟨operation, bound⟩ := result
    obtain ⟨_, _, _, _, same, _⟩ := bindArguments_ok checked
    injection same with same
    injection same with same
    subst same
    rw [createNode_generated checked] at created
    cases created
    exact ⟨rfl, rfl, by rw [lastNumber_grown, if_pos rfl]⟩

/-! ### Ids that look like others -/

/-- An operation is named like an id of the other; ids are given that could have been made, and two calls
fail. -/
def imitations : Session :=
  (⟨[]⟩ : Session).playAll
    [.begin (.ofOperations [⟨"add", "", "", []⟩, ⟨"add1", "", "", []⟩]) none,
      .ask 0 (.createNode (.str "add1") (.list []) none .null),
      .ask 0 (.createNode (.str "add") (.list []) (some "add1") .null),
      .ask 0 (.createNode (.str "add") (.list []) none .null),
      .ask 0 (.createNode (.str "add") (.list []) (some "add4") .null),
      .ask 0 (.createNode (.str "add") (.list []) (some "add2") .null),
      .ask 0 (.createNode (.str "add") (.list [.null]) none .null),
      .ask 0 (.createNode (.str "add") (.list []) none .null)]

theorem imitations_generated_id : ∃ b n b', imitations.builder? 0 = some b ∧
    NameMap.keys b.nodes = ["add11", "add1", "add2", "add4", "add3"] ∧
    IsLeast {j | 0 < j ∧ b.has (makeId "add" j) = false} 5 ∧
    createNode (.str "add") (.list []) none .null b = .ok n b' ∧ n.id = "add5" ∧ b'.lastNumber "add" = 5 := by
  obtain ⟨b, n, b', found, keys, created⟩ : ∃ b n b', imitations.builder? 0 = some b ∧
      NameMap.keys b.nodes = ["add11", "add1", "add2", "add4", "add3"] ∧
      createNode (.str "add") (.list []) none .null b = .ok n b' :=
    ⟨_, _, _, rfl, rfl, rfl⟩
  have reached : b.Reachable := ⟨_, _, Session.Reachable.start.playAll _, found⟩
  have free (j : Nat) : b.has (makeId "add" j) = false ↔
      makeId "add" j ∉ ["add11", "add1", "add2", "add4", "add3"] := by
    rw [← keys, ← NameMap.has_iff, Builder.has, Bool.not_eq_true]
  have fifth : IsLeast {j | 0 < j ∧ b.has (makeId "add" j) = false} 5 := by
    refine ⟨⟨by decide, (free 5).mpr (by decide +kernel)⟩, fun j there => ?_⟩
    obtain ⟨positive, new⟩ := there
    by_contra lower
    rw [free] at new
    interval_cases j <;> exact new (by decide +kernel)
  obtain ⟨k, least, _, _, made⟩ := reached.generated_id_least "add"
  obtain rfl := least.unique fifth
  obtain ⟨id, _, last⟩ := made _ _ _ _ created
  exact ⟨b, n, b', found, keys, fifth, created, id, last⟩

end FormulaGraph.Builder
