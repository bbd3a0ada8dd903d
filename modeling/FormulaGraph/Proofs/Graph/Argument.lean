import FormulaGraph.Proofs.Except
import FormulaGraph.Proofs.Graph.Induction
import FormulaGraph.Graph.Argument

/-!
# Coercion to arguments

What comes out of a coercion is an argument, and an argument is coerced to itself. The references of
a sequence are those of its items.
-/

namespace FormulaGraph.Value

theorem areArguments_iff {items : List Value} :
    areArguments items = true ↔ ∀ item ∈ items, item.isArgument = true := by
  induction items with
  | nil => simp [areArguments]
  | cons item rest ih => simp [areArguments, ih]

theorem nodeRefsAll_eq (items : List Value) : nodeRefsAll items = items.flatMap nodeRefs := by
  induction items with
  | nil => rfl
  | cons item rest ih => rw [nodeRefsAll, ih, List.flatMap_cons]

theorem coerceAll_itemwise : Itemwise coerce (fun _ a => a) coerceAll :=
  ⟨rfl, fun _ _ => rfl⟩

theorem coerceAll_cons {item : Value} {rest out : List Value} :
    coerceAll (item :: rest) = .ok out ↔
      ∃ first others, item.coerce = .ok first ∧ coerceAll rest = .ok others ∧ out = first :: others := by
  rw [coerceAll]
  exact cons_eq_ok

theorem areArguments_of_coerceAll {items out : List Value}
    (each : ∀ item ∈ items, ∀ a, item.coerce = .ok a → a.isArgument = true)
    (h : coerceAll items = .ok out) : areArguments out = true :=
  areArguments_iff.mpr (coerceAll_itemwise.forall_of_ok each h)

theorem isArgument_of_coerce {v a : Value} (h : v.coerce = .ok a) : a.isArgument = true := by
  induction v using Value.induct generalizing a with
  | list items ih | tuple items ih =>
    rw [coerce, map_eq_ok] at h
    obtain ⟨out, coerced, rfl⟩ := h
    exact areArguments_of_coerceAll (fun item member a => ih item member) coerced
  | obj | expr => cases h
  | scalar | nodeRef | paramRef | element | param | node | graph | callback =>
    cases h
    rfl

theorem coerceAll_of_areArguments {items : List Value}
    (each : ∀ item ∈ items, item.isArgument = true → item.coerce = .ok item)
    (arguments : areArguments items = true) : coerceAll items = .ok items := by
  induction items with
  | nil => rfl
  | cons item rest ih =>
    rw [areArguments, Bool.and_eq_true] at arguments
    have here := each item List.mem_cons_self arguments.1
    have later := ih (fun item member => each item (List.mem_cons_of_mem _ member)) arguments.2
    exact coerceAll_cons.mpr ⟨item, rest, here, later, rfl⟩

theorem coerce_of_isArgument {v : Value} (argument : v.isArgument = true) : v.coerce = .ok v := by
  induction v using Value.induct with
  | tuple items ih =>
    have items := coerceAll_of_areArguments ih argument
    exact map_eq_ok.mpr ⟨_, items, rfl⟩
  | scalar | nodeRef | paramRef | element | callback => rfl
  | list | obj | param | node | graph | expr => cases argument

end FormulaGraph.Value
