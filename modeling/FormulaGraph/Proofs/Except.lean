import Mathlib.Data.List.Forall2

/-!
# Results that may be errors

A chain of results is no error exactly if none of its links is one, and its error is that of the first
link that is one. A function that is `Itemwise` makes such a chain of a list.
-/

namespace FormulaGraph

variable {ε α β γ : Type}

theorem bind_eq_ok {x : Except ε α} {f : α → Except ε β} {c : β} :
    x >>= f = .ok c ↔ ∃ a, x = .ok a ∧ f a = .ok c := by
  cases x with
  | ok a => simp [bind, Except.bind]
  | error cause => simp [bind, Except.bind]

theorem map_eq_ok {x : Except ε α} {f : α → β} {c : β} :
    x.map f = .ok c ↔ ∃ a, x = .ok a ∧ f a = c := by
  cases x with
  | ok a => simp [Except.map]
  | error cause => simp [Except.map]

theorem exists_map_ok {x : Except ε α} {f : α → β} : (∃ c, x.map f = .ok c) ↔ ∃ a, x = .ok a := by
  cases x with
  | ok a => simp [Except.map]
  | error cause => simp [Except.map]

theorem map_eq_error {x : Except ε α} {f : α → β} {cause : ε} :
    x.map f = .error cause ↔ x = .error cause := by
  cases x with
  | ok a => simp [Except.map]
  | error other => simp [Except.map]

theorem cons_eq_ok {x : Except ε α} {rest : Except ε (List β)} {f : α → β} {out : List β} :
    (do
      let first ← x
      let others ← rest
      return f first :: others) = .ok out ↔
      ∃ first others, x = .ok first ∧ rest = .ok others ∧ out = f first :: others := by
  rw [bind_eq_ok]
  constructor
  · rintro ⟨first, head, h⟩
    obtain ⟨others, tail, same⟩ := bind_eq_ok.mp h
    exact ⟨first, others, head, tail, (Except.ok.inj same).symm⟩
  · rintro ⟨first, others, head, tail, rfl⟩
    exact ⟨first, head, bind_eq_ok.mpr ⟨others, tail, rfl⟩⟩

theorem exists_cons_ok {x : Except ε α} {rest : Except ε (List β)} {f : α → β} :
    (∃ out, (do
      let first ← x
      let others ← rest
      return f first :: others) = .ok out) ↔ (∃ first, x = .ok first) ∧ ∃ others, rest = .ok others := by
  constructor
  · rintro ⟨out, h⟩
    obtain ⟨first, others, head, tail, _⟩ := cons_eq_ok.mp h
    exact ⟨⟨first, head⟩, others, tail⟩
  · rintro ⟨⟨first, head⟩, others, tail⟩
    exact ⟨f first :: others, cons_eq_ok.mpr ⟨first, others, head, tail, rfl⟩⟩

/-- A function on lists that has the result `f a` for each item `a`, up to the first error, and puts it into
its list as `g a`. -/
structure Itemwise (f : α → Except ε β) (g : α → β → γ) (F : List α → Except ε (List γ)) : Prop where
  nil : F [] = .ok []
  cons : ∀ a rest, F (a :: rest) = do
    let first ← f a
    let others ← F rest
    return g a first :: others

namespace Itemwise

variable {f : α → Except ε β} {g : α → β → γ} {F : List α → Except ε (List γ)}

theorem eq_ok_iff (each : Itemwise f g F) {items : List α} {out : List γ} :
    F items = .ok out ↔ List.Forall₂ (fun a c => ∃ b, f a = .ok b ∧ c = g a b) items out := by
  induction items generalizing out with
  | nil =>
    rw [each.nil, Except.ok.injEq, List.forall₂_nil_left_iff, eq_comm]
  | cons a rest ih =>
    rw [each.cons, cons_eq_ok, List.forall₂_cons_left_iff]
    constructor
    · rintro ⟨b, others, head, tail, rfl⟩
      exact ⟨g a b, others, ⟨b, head, rfl⟩, ih.mp tail, rfl⟩
    · rintro ⟨_, others, ⟨b, head, rfl⟩, tail, rfl⟩
      exact ⟨b, others, head, ih.mpr tail, rfl⟩

theorem exists_ok_iff (each : Itemwise f g F) {items : List α} :
    (∃ out, F items = .ok out) ↔ ∀ a ∈ items, ∃ b, f a = .ok b := by
  induction items with
  | nil => exact ⟨fun _ => by simp, fun _ => ⟨[], each.nil⟩⟩
  | cons a rest ih =>
    rw [List.forall_mem_cons, ← ih, each.cons]
    exact exists_cons_ok

theorem forall_of_ok (each : Itemwise f g F) {P : γ → Prop} {items : List α} {out : List γ}
    (holds : ∀ a ∈ items, ∀ b, f a = .ok b → P (g a b)) (result : F items = .ok out) : ∀ c ∈ out, P c := by
  induction items generalizing out with
  | nil =>
    cases each.nil.symm.trans result
    simp
  | cons a rest ih =>
    rw [each.cons] at result
    obtain ⟨b, others, head, tail, rfl⟩ := cons_eq_ok.mp result
    refine List.forall_mem_cons.mpr ⟨holds a List.mem_cons_self b head, ?_⟩
    exact ih (fun a member => holds a (List.mem_cons_of_mem _ member)) tail

theorem all_eq (each : Itemwise f g F) {p : α → Bool} {q : γ → Bool} {items : List α} {out : List γ}
    (same : ∀ a ∈ items, ∀ b, f a = .ok b → q (g a b) = p a) (result : F items = .ok out) :
    out.all q = items.all p := by
  induction items generalizing out with
  | nil =>
    cases each.nil.symm.trans result
    rfl
  | cons a rest ih =>
    rw [each.cons] at result
    obtain ⟨b, others, head, tail, rfl⟩ := cons_eq_ok.mp result
    rw [List.all_cons, List.all_cons, same a List.mem_cons_self b head,
      ih (fun a member => same a (List.mem_cons_of_mem _ member)) tail]

theorem named_eq_ok_iff {f : String × α → Except ε β} {F : List (String × α) → Except ε (List (String × β))}
    (each : Itemwise f (fun entry b => (entry.1, b)) F) {items : List (String × α)} {out : List (String × β)} :
    F items = .ok out ↔
      List.Forall₂ (fun entry entry' => entry'.1 = entry.1 ∧ f entry = .ok entry'.2) items out := by
  have same (entry : String × α) (entry' : String × β) :
      (∃ b, f entry = .ok b ∧ entry' = (entry.1, b)) ↔ entry'.1 = entry.1 ∧ f entry = .ok entry'.2 := by
    constructor
    · rintro ⟨b, result, rfl⟩
      exact ⟨rfl, result⟩
    · rintro ⟨name, result⟩
      exact ⟨entry'.2, result, Prod.ext name rfl⟩
  simp only [each.eq_ok_iff, same]

end Itemwise

def error? : Except ε α → Option ε
  | .ok _ => none
  | .error cause => some cause

theorem error?_eq_none {x : Except ε α} : error? x = none ↔ ∃ a, x = .ok a := by
  cases x <;> simp [error?]

theorem error?_eq_some {x : Except ε α} {cause : ε} : error? x = some cause ↔ x = .error cause := by
  cases x <;> simp [error?]

theorem error?_map (x : Except ε α) (f : α → β) : error? (x.map f) = error? x := by
  cases x <;> rfl

theorem error?_bind (x : Except ε α) {f : α → Except ε β} (fine : ∀ a, error? (f a) = none) :
    error? (x >>= f) = error? x := by
  cases x with
  | error cause => rfl
  | ok a => exact fine a

theorem error?_pair (x : Except ε α) (y : Except ε β) (f : α → β → γ) :
    error? (do
      let a ← x
      let b ← y
      return f a b) = (error? x).or (error? y) := by
  cases x with
  | error cause => rfl
  | ok a => cases y <;> rfl

theorem Itemwise.error?_eq {f : α → Except ε β} {g : α → β → γ} {F : List α → Except ε (List γ)}
    (each : Itemwise f g F) (items : List α) : error? (F items) = items.findSome? fun a => error? (f a) := by
  induction items with
  | nil =>
    rw [each.nil]
    rfl
  | cons a rest ih =>
    rw [each.cons, error?_pair, ih, List.findSome?_cons]
    cases error? (f a) <;> rfl

end FormulaGraph
