/-!
# Maps from names, in insertion order

A map is a list of entries. `put` keeps the place of a name that is there already and adds a new
one at the end, so `keys_put` says which names a map has, and in which order; `get?_put_self` and
`get?_put_of_ne` say what it holds.
-/

namespace FormulaGraph

/-- Entries with a name each. The first entry of a name counts. -/
abbrev NameMap (α : Type) := List (String × α)

namespace NameMap

variable {α β : Type}

def get? (map : NameMap α) (name : String) : Option α :=
  match map with
  | [] => none
  | (key, value) :: rest => if key = name then some value else get? rest name

def keys (map : NameMap α) : List String := map.map Prod.fst

def values (map : NameMap α) : List α := map.map Prod.snd

def has (map : NameMap α) (name : String) : Bool := (get? map name).isSome

/-- The map with a value under a name: in the place of the old one, or at the end. -/
def put (map : NameMap α) (name : String) (value : α) : NameMap α :=
  match map with
  | [] => [(name, value)]
  | (key, old) :: rest => if key = name then (name, value) :: rest else (key, old) :: put rest name value

/-- The map of a list of entries of which a later one replaces an earlier one of its name. -/
def ofList (entries : List (String × α)) : NameMap α :=
  entries.foldl (fun map (name, value) => put map name value) []

def mapValues (f : α → β) (map : NameMap α) : NameMap β := map.map fun (name, value) => (name, f value)

theorem get?_eq_none_iff {map : NameMap α} {name : String} :
    get? map name = none ↔ name ∉ keys map := by
  induction map with
  | nil => simp [get?, keys]
  | cons entry rest ih =>
    obtain ⟨key, value⟩ := entry
    by_cases same : key = name
    · simp [get?, keys, same]
    · simp only [get?, same, if_false, ih, keys, List.map_cons, List.mem_cons, not_or]
      exact ⟨fun absent => ⟨fun h => same h.symm, absent⟩, fun absent => absent.2⟩

theorem has_iff {map : NameMap α} {name : String} : has map name = true ↔ name ∈ keys map := by
  rw [has, Option.isSome_iff_ne_none, ne_eq, get?_eq_none_iff, Classical.not_not]

theorem mem_of_get? {map : NameMap α} {name : String} {value : α}
    (found : get? map name = some value) : (name, value) ∈ map := by
  induction map with
  | nil => simp [get?] at found
  | cons entry rest ih =>
    obtain ⟨key, first⟩ := entry
    by_cases same : key = name
    · simp only [get?, same, if_true, Option.some.injEq] at found
      simp [same, found]
    · simp only [get?, same, if_false] at found
      exact List.mem_cons_of_mem _ (ih found)

theorem keys_put (map : NameMap α) (name : String) (value : α) :
    keys (put map name value) = if name ∈ keys map then keys map else keys map ++ [name] := by
  induction map with
  | nil => simp [put, keys]
  | cons entry rest ih =>
    obtain ⟨key, old⟩ := entry
    by_cases same : key = name
    · simp [put, keys, same]
    · have other : ¬ name = key := fun h => same h.symm
      rw [put, if_neg same]
      simp only [keys, List.map_cons, List.mem_cons, other, false_or] at ih ⊢
      rw [ih]
      by_cases member : name ∈ List.map Prod.fst rest <;> simp [member]

theorem get?_put_self (map : NameMap α) (name : String) (value : α) :
    get? (put map name value) name = some value := by
  induction map with
  | nil => simp [put, get?]
  | cons entry rest ih =>
    obtain ⟨key, old⟩ := entry
    by_cases same : key = name
    · simp [put, get?, same]
    · simp [put, get?, same, ih]

theorem get?_put_of_ne (map : NameMap α) {name other : String} (value : α) (different : other ≠ name) :
    get? (put map name value) other = get? map other := by
  induction map with
  | nil => simp [put, get?, different.symm]
  | cons entry rest ih =>
    obtain ⟨key, old⟩ := entry
    by_cases same : key = name
    · subst same
      simp [put, get?, different.symm]
    · simp only [put, same, if_false, get?, ih]

theorem nodup_keys_put {map : NameMap α} (distinct : (keys map).Nodup) (name : String) (value : α) :
    (keys (put map name value)).Nodup := by
  rw [keys_put]
  split
  · exact distinct
  · rename_i absent
    rw [List.nodup_append]
    refine ⟨distinct, by simp, ?_⟩
    intro a member b single
    simp only [List.mem_singleton] at single
    subst single
    exact fun equal => absent (equal ▸ member)

end NameMap
end FormulaGraph
