import FormulaGraph.NameMap
import Mathlib.Data.List.Forall2
import Mathlib.Data.List.Induction
import Mathlib.Data.List.Perm.Subperm

/-!
# Laws of maps from names

A name that stands once has the value it stands with. Of a list of entries `NameMap.ofList` keeps
only entries of the list, and the whole list if no name stands in it twice.
-/

namespace FormulaGraph.NameMap

variable {α β : Type}

theorem keys_append (map rest : NameMap α) : keys (map ++ rest) = keys map ++ keys rest :=
  List.map_append

theorem keys_mapValues (f : α → β) (map : NameMap α) : keys (mapValues f map) = keys map := by
  rw [keys, mapValues, List.map_map]
  rfl

theorem mem_keys {map : NameMap α} {name : String} {value : α} (member : (name, value) ∈ map) :
    name ∈ keys map :=
  List.mem_map_of_mem member

theorem exists_of_mem_keys {map : NameMap α} {name : String} (member : name ∈ keys map) :
    ∃ value, (name, value) ∈ map := by
  obtain ⟨⟨key, value⟩, present, same⟩ := List.mem_map.mp member
  subst same
  exact ⟨value, present⟩

theorem get?_of_mem {map : NameMap α} {name : String} {value : α} (distinct : (keys map).Nodup)
    (member : (name, value) ∈ map) : get? map name = some value := by
  induction map with
  | nil => simp at member
  | cons entry rest ih =>
    obtain ⟨key, first⟩ := entry
    simp only [keys, List.map_cons, List.nodup_cons] at distinct
    rcases List.mem_cons.mp member with same | later
    · obtain ⟨rfl, rfl⟩ := Prod.mk.inj same
      simp [get?]
    · have different : ¬ key = name := by
        intro same
        subst same
        exact distinct.1 (mem_keys later)
      simp only [get?, different, if_false]
      exact ih distinct.2 later

theorem get?_mapValues (f : α → β) (map : NameMap α) (name : String) :
    get? (mapValues f map) name = (get? map name).map f := by
  induction map with
  | nil => rfl
  | cons entry rest ih =>
    obtain ⟨key, value⟩ := entry
    by_cases same : key = name
    · simp [mapValues, get?, same]
    · simp only [mapValues, List.map_cons, get?, same, if_false]
      exact ih

theorem keys_of_forall₂ {R : α → β → Prop} {map : NameMap α} {map' : NameMap β}
    (related : List.Forall₂ (fun entry entry' => entry'.1 = entry.1 ∧ R entry.2 entry'.2) map map') :
    keys map' = keys map := by
  induction related with
  | nil => rfl
  | cons here _ ih => exact congrArg₂ List.cons here.1 ih

theorem get?_of_forall₂ {R : α → β → Prop} {map : NameMap α} {map' : NameMap β}
    (related : List.Forall₂ (fun entry entry' => entry'.1 = entry.1 ∧ R entry.2 entry'.2) map map') (name : String) :
    (get? map name = none ∧ get? map' name = none) ∨
      ∃ value value', get? map name = some value ∧ get? map' name = some value' ∧ R value value' := by
  induction related with
  | nil => exact Or.inl ⟨rfl, rfl⟩
  | @cons entry entry' rest rest' here _ ih =>
    obtain ⟨key, value⟩ := entry
    obtain ⟨key', value'⟩ := entry'
    obtain ⟨rfl, values⟩ := here
    by_cases same : key' = name
    · exact Or.inr ⟨value, value', by rw [get?, if_pos same], by rw [get?, if_pos same], values⟩
    · rw [get?, get?, if_neg same, if_neg same]
      exact ih

theorem get?_append (map rest : NameMap α) (name : String) :
    get? (map ++ rest) name = (get? map name).or (get? rest name) := by
  induction map with
  | nil => rfl
  | cons entry others ih =>
    obtain ⟨key, value⟩ := entry
    by_cases same : key = name
    · simp [get?, same]
    · simp only [List.cons_append, get?, same, if_false, ih]

theorem mapValues_put (f : α → β) (map : NameMap α) (name : String) (value : α) :
    mapValues f (put map name value) = put (mapValues f map) name (f value) := by
  induction map with
  | nil => rfl
  | cons entry rest ih =>
    obtain ⟨key, old⟩ := entry
    by_cases same : key = name
    · simp [mapValues, put, same]
    · simp only [mapValues] at ih
      simp [mapValues, put, same, ih]

theorem mem_of_mem_put {map : NameMap α} {name : String} {value : α} {entry : String × α}
    (member : entry ∈ put map name value) : entry = (name, value) ∨ entry ∈ map := by
  induction map with
  | nil => simpa [put] using member
  | cons first rest ih =>
    obtain ⟨key, old⟩ := first
    by_cases same : key = name
    · simp only [put, same, if_true] at member
      rcases List.mem_cons.mp member with new | later
      · exact Or.inl new
      · exact Or.inr (List.mem_cons_of_mem _ later)
    · simp only [put, same, if_false] at member
      rcases List.mem_cons.mp member with new | later
      · exact Or.inr (List.mem_cons.mpr (Or.inl new))
      · exact (ih later).imp_right (List.mem_cons_of_mem _)

theorem put_of_not_mem {map : NameMap α} {name : String} (value : α) (absent : name ∉ keys map) :
    put map name value = map ++ [(name, value)] := by
  induction map with
  | nil => rfl
  | cons entry rest ih =>
    obtain ⟨key, old⟩ := entry
    simp only [keys, List.map_cons, List.mem_cons, not_or] at absent
    have different : ¬ key = name := fun same => absent.1 same.symm
    rw [put, if_neg different, ih absent.2, List.cons_append]

theorem ofList_append_singleton (entries : List (String × α)) (name : String) (value : α) :
    ofList (entries ++ [(name, value)]) = put (ofList entries) name value := by
  simp [ofList, List.foldl_append]

theorem mapValues_ofList (f : α → β) (entries : NameMap α) :
    mapValues f (ofList entries) = ofList (mapValues f entries) := by
  induction entries using List.reverseRecOn with
  | nil => rfl
  | append_singleton entries last ih =>
    obtain ⟨name, value⟩ := last
    rw [ofList_append_singleton, mapValues_put, ih, ← ofList_append_singleton]
    simp [mapValues]

theorem mem_of_mem_ofList {entries : List (String × α)} {entry : String × α}
    (member : entry ∈ ofList entries) : entry ∈ entries := by
  induction entries using List.reverseRecOn with
  | nil => simp [ofList] at member
  | append_singleton entries last ih =>
    obtain ⟨name, value⟩ := last
    rw [ofList_append_singleton] at member
    rcases mem_of_mem_put member with new | old
    · simp [new]
    · exact List.mem_append_left _ (ih old)

theorem ofList_of_nodup {entries : List (String × α)} (distinct : (keys entries).Nodup) :
    ofList entries = entries := by
  induction entries using List.reverseRecOn with
  | nil => rfl
  | append_singleton entries last ih =>
    obtain ⟨name, value⟩ := last
    rw [keys_append, List.nodup_append] at distinct
    obtain ⟨before, _, apart⟩ := distinct
    have absent : name ∉ keys entries := by
      intro member
      exact apart name member name (by simp [keys]) rfl
    rw [ofList_append_singleton, ih before, put_of_not_mem value absent]

theorem keys_ofList (entries : List (String × α)) : keys (ofList entries) = (keys entries).eraseDups := by
  induction entries using List.reverseRecOn with
  | nil => rfl
  | append_singleton entries last ih =>
    obtain ⟨name, value⟩ := last
    have single : keys [(name, value)] = [name] := rfl
    rw [ofList_append_singleton, keys_put, ih, keys_append, single, List.eraseDups_append]
    by_cases seen : name ∈ keys entries
    · simp [List.removeAll, seen]
    · simp [List.removeAll, seen, List.eraseDups_cons]

theorem pairwise_keys_ofList (entries : List (String × α)) :
    (keys (ofList entries)).Pairwise fun first second =>
      (keys entries).idxOf first < (keys entries).idxOf second := by
  rw [keys_ofList]
  induction keys entries using List.reverseRecOn with
  | nil => exact .nil
  | append_singleton names name ih =>
    have kept {other : String} (inside : other ∈ names.eraseDups) :
        (names ++ [name]).idxOf other = names.idxOf other := by
      rw [List.idxOf_append, if_pos (List.mem_eraseDups.mp inside)]
    have before : names.eraseDups.Pairwise fun first second =>
        (names ++ [name]).idxOf first < (names ++ [name]).idxOf second :=
      ih.imp_of_mem fun one two less => by rwa [kept one, kept two]
    rw [List.eraseDups_append]
    by_cases seen : name ∈ names
    · simpa [List.removeAll, seen] using before
    · have single : ([name].removeAll names).eraseDups = [name] := by
        simp [List.removeAll, seen, List.eraseDups_cons]
      rw [single, List.pairwise_append]
      refine ⟨before, List.pairwise_singleton _ _, fun other inside new member => ?_⟩
      obtain rfl := List.mem_singleton.mp member
      have low := List.idxOf_lt_length_of_mem (List.mem_eraseDups.mp inside)
      rw [kept inside, List.idxOf_append, if_neg seen]
      omega

theorem nodup_keys_ofList (entries : List (String × α)) : (keys (ofList entries)).Nodup := by
  induction entries using List.reverseRecOn with
  | nil => exact List.nodup_nil
  | append_singleton entries last ih =>
    rw [ofList_append_singleton]
    exact nodup_keys_put ih last.1 last.2

/-- A list of entries of which none is replaced has no name twice. -/
theorem nodup_of_length_ofList {entries : List (String × α)} (all : (ofList entries).length = entries.length) :
    (keys entries).Nodup := by
  have inside : keys (ofList entries) ⊆ keys entries := by
    intro name member
    obtain ⟨value, present⟩ := exists_of_mem_keys member
    exact mem_keys (mem_of_mem_ofList present)
  have part := (nodup_keys_ofList entries).subperm inside
  have same := part.perm_of_length_le (by simp [keys, all])
  exact same.nodup_iff.mp (nodup_keys_ofList entries)

theorem get?_ofList (entries : List (String × α)) (name : String) :
    get? (ofList entries) name = (entries.reverse.find? fun entry => entry.1 = name).map Prod.snd := by
  induction entries using List.reverseRecOn with
  | nil => rfl
  | append_singleton entries last ih =>
    obtain ⟨key, value⟩ := last
    rw [ofList_append_singleton, List.reverse_append, List.reverse_singleton, List.singleton_append]
    by_cases same : key = name
    · subst same
      rw [get?_put_self, List.find?_cons_of_pos (by simp), Option.map_some]
    · rw [get?_put_of_ne _ _ (Ne.symm same), ih, List.find?_cons_of_neg (by simpa using same)]

theorem values_eq {map : NameMap α} (distinct : (keys map).Nodup) :
    (values map).map some = (keys map).map (get? map) := by
  rw [values, keys, List.map_map, List.map_map]
  exact List.map_congr_left fun entry member => (get?_of_mem distinct member).symm

/-- Of the entries with one name the last one counts. -/
theorem get?_ofList_of_last {before after : List (String × α)} {name : String} (value : α)
    (last : name ∉ keys after) : get? (ofList (before ++ (name, value) :: after)) name = some value := by
  have later : (after.reverse.find? fun entry => entry.1 = name) = none := by
    refine List.find?_eq_none.mpr fun entry member same => last ?_
    rw [← of_decide_eq_true same]
    exact List.mem_map_of_mem (List.mem_reverse.mp member)
  rw [get?_ofList, List.reverse_append, List.reverse_cons, List.append_assoc, List.find?_append, later]
  simp

theorem keys_zip_sublist (names : List String) (values : List α) :
    (keys (names.zip values)).Sublist names := by
  induction names generalizing values with
  | nil => simp [keys]
  | cons name rest ih =>
    cases values with
    | nil => simp [keys]
    | cons value others => exact (ih others).cons_cons name

end FormulaGraph.NameMap
