import FormulaGraph.Graph.Order
import FormulaGraph.Proofs.NameMap

/-!
# What is left without an order

The search for an order may leave nodes over. Each of them was waiting at the start, and waits for
another one that is left: `mem_of_mem_left` and `unmet_of_mem_left`. Where every node has a rank above
those of its dependencies nothing can be left, so there is an order: `exists_order_of_rank`.
-/

namespace FormulaGraph

/-- What stands before an entry of a list without repetitions has a lower place. -/
theorem idxOf_lt_of_mem_before {names before after : List String} {name earlier : String}
    (distinct : names.Nodup) (split : names = before ++ name :: after) (inside : earlier ∈ before) :
    names.idxOf earlier < names.idxOf name := by
  rw [split, List.nodup_append] at distinct
  have fresh : name ∉ before := fun again => distinct.2.2 name again name List.mem_cons_self rfl
  rw [split, List.idxOf_append, List.idxOf_append, if_pos inside, if_neg fresh]
  have low := List.idxOf_lt_length_iff.mpr inside
  omega

namespace Graph

theorem mem_settle {id : String} {waiting : Waiting} {entry : String × List String} :
    entry ∈ settle id waiting ↔
      ∃ unmet, (entry.1, unmet) ∈ waiting ∧ entry.2 = unmet.filter (· ≠ id) := by
  simp only [settle, List.mem_map]
  constructor
  · rintro ⟨⟨key, unmet⟩, member, rfl⟩
    exact ⟨unmet, member, rfl⟩
  · rintro ⟨unmet, member, same⟩
    exact ⟨(entry.1, unmet), member, by rw [← same]⟩

theorem mem_readyKeys_or_stillWaiting {waiting : Waiting} {key : String}
    (member : key ∈ NameMap.keys waiting) :
    key ∈ readyKeys waiting ∨ key ∈ NameMap.keys (stillWaiting waiting) := by
  obtain ⟨unmet, present⟩ := NameMap.exists_of_mem_keys member
  cases empty : unmet.isEmpty with
  | true =>
    refine Or.inl (List.mem_map.mpr ⟨(key, unmet), ?_, rfl⟩)
    exact List.mem_filter.mpr ⟨present, empty⟩
  | false =>
    have kept : (key, unmet) ∈ stillWaiting waiting := List.mem_filter.mpr ⟨present, by simp [empty]⟩
    exact Or.inr (NameMap.mem_keys kept)

theorem mem_stillWaiting {waiting : Waiting} {entry : String × List String} :
    entry ∈ stillWaiting waiting ↔ entry ∈ waiting ∧ entry.2 ≠ [] := by
  simp [stillWaiting, List.mem_filter]

theorem mem_of_mem_left {ready : List String} {waiting : Waiting} {entry : String × List String}
    (member : entry ∈ (drain ready waiting).2) :
    ∃ unmet, (entry.1, unmet) ∈ waiting ∧ entry.2 ⊆ unmet := by
  induction ready, waiting using drain.induct with
  | case1 waiting =>
    rw [drain] at member
    exact ⟨entry.2, member, List.Subset.refl _⟩
  | case2 waiting id rest settled _ _ _ ih =>
    rw [drain] at member
    obtain ⟨middle, still, fewer⟩ := ih member
    obtain ⟨unmet, before, same⟩ := mem_settle.mp (mem_stillWaiting.mp still).1
    refine ⟨unmet, before, fun d inside => ?_⟩
    have kept := fewer inside
    rw [show middle = unmet.filter (· ≠ id) from same] at kept
    exact (List.mem_filter.mp kept).1

/-- Whatever waits, waits for something that is ready or waits itself. -/
def Known (ready : List String) (waiting : Waiting) : Prop :=
  ∀ entry ∈ waiting, ∀ d ∈ entry.2, d ∈ ready ∨ d ∈ NameMap.keys waiting

theorem known_settle {id : String} {rest : List String} {waiting : Waiting}
    (known : Known (id :: rest) waiting) :
    Known (rest ++ readyKeys (settle id waiting)) (stillWaiting (settle id waiting)) := by
  intro entry member d inside
  obtain ⟨unmet, before, same⟩ := mem_settle.mp (mem_stillWaiting.mp member).1
  rw [same] at inside
  obtain ⟨old, other⟩ := List.mem_filter.mp inside
  have other : d ≠ id := by simpa using other
  rcases known _ before d old with ready | waits
  · rcases List.mem_cons.mp ready with first | later
    · exact absurd first other
    · exact Or.inl (List.mem_append_left _ later)
  · have settled : d ∈ NameMap.keys (settle id waiting) := by
      simpa [NameMap.keys, settle] using waits
    rcases mem_readyKeys_or_stillWaiting settled with now | still
    · exact Or.inl (List.mem_append_right _ now)
    · exact Or.inr still

theorem unmet_of_mem_left {ready : List String} {waiting : Waiting}
    (blocked : ∀ entry ∈ waiting, entry.2 ≠ []) (known : Known ready waiting) :
    ∀ entry ∈ (drain ready waiting).2,
      entry.2 ≠ [] ∧ ∀ d ∈ entry.2, d ∈ NameMap.keys (drain ready waiting).2 := by
  induction ready, waiting using drain.induct with
  | case1 waiting =>
    rw [drain]
    intro entry member
    refine ⟨blocked entry member, fun d inside => ?_⟩
    rcases known entry member d inside with ready | waits
    · simp at ready
    · exact waits
  | case2 waiting id rest settled _ _ _ ih =>
    rw [drain]
    exact ih (fun entry member => (mem_stillWaiting.mp member).2) (known_settle known)

/-- If every node ranks above its dependencies inside the graph, there is an order. -/
theorem exists_order_of_rank {g : Graph} (rank : String → Nat)
    (above : ∀ entry ∈ g.internalDependencies, ∀ d ∈ entry.2, rank d < rank entry.1) :
    ∃ order, g.order? = some order := by
  have known : Known (readyKeys g.internalDependencies) (stillWaiting g.internalDependencies) := by
    intro entry member d inside
    obtain ⟨⟨key, n⟩, _, rfl⟩ := List.mem_map.mp (mem_stillWaiting.mp member).1
    have present := NameMap.has_iff.mp (List.mem_filter.mp inside).2
    have listed : d ∈ NameMap.keys g.internalDependencies := by
      simpa [NameMap.keys, internalDependencies] using present
    exact mem_readyKeys_or_stillWaiting listed
  have stuck := unmet_of_mem_left (fun entry member => (mem_stillWaiting.mp member).2) known
  rcases result : drain (readyKeys g.internalDependencies) (stillWaiting g.internalDependencies) with
    ⟨order, left⟩
  rw [result] at stuck
  have none : ∀ bound, ∀ entry ∈ left, rank entry.1 ≠ bound := by
    intro bound
    induction bound using Nat.strongRecOn with
    | ind bound ih =>
      intro entry member same
      obtain ⟨some, inside⟩ := stuck entry member
      obtain ⟨d, waits⟩ := List.exists_mem_of_ne_nil _ some
      obtain ⟨unmet, next⟩ := NameMap.exists_of_mem_keys (inside d waits)
      obtain ⟨whole, before, fewer⟩ := mem_of_mem_left (by rw [result]; exact member)
      have lower := above _ (mem_stillWaiting.mp before).1 d (fewer waits)
      have lower : rank d < rank entry.1 := lower
      exact ih (rank d) (by omega) _ next rfl
  have empty : left = [] := by
    cases left with
    | nil => rfl
    | cons entry rest => exact absurd rfl (none _ entry List.mem_cons_self)
  subst empty
  exact ⟨order, by simp only [order?, result]⟩

end Graph
end FormulaGraph
