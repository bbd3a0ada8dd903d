import FormulaGraph.Proofs.Graph.Sorting
import Mathlib.Data.List.Nodup

/-!
# Orders by counting

An order can be found without a look at what a node still waits for: it is enough to count this, and to know
for each node which others it holds up. A node that is put is counted off for those, and the ones that are
down to nothing come next. As long as the counts and the lists agree with what the waiting nodes wait for, this
is the same order: `putAll_eq_drain`.
-/

namespace FormulaGraph.Graph

/-- For each node the number of nodes that it waits for. -/
abbrev Counts := NameMap Nat

def release (counts : Counts) : List String → Counts × List String
  | [] => (counts, [])
  | name :: rest =>
    match NameMap.get? counts name with
    | none | some 0 => release counts rest
    | some (n + 1) =>
      let (after, free) := release (NameMap.put counts name n) rest
      (after, if n = 0 then name :: free else free)

def outstanding : Counts → Nat
  | [] => 0
  | (_, count) :: rest => count + outstanding rest

theorem outstanding_put {counts : Counts} {name : String} {n : Nat}
    (found : NameMap.get? counts name = some (n + 1)) :
    outstanding (NameMap.put counts name n) + 1 = outstanding counts := by
  induction counts with
  | nil => cases found
  | cons entry rest ih =>
    obtain ⟨key, count⟩ := entry
    by_cases same : key = name
    · rw [NameMap.get?, if_pos same] at found
      cases found
      rw [NameMap.put, if_pos same, outstanding, outstanding]
      omega
    · rw [NameMap.get?, if_neg same] at found
      have later := ih found
      rw [NameMap.put, if_neg same, outstanding, outstanding]
      omega

theorem outstanding_release (counts : Counts) (names : List String) :
    outstanding (release counts names).1 + (release counts names).2.length ≤ outstanding counts := by
  induction names generalizing counts with
  | nil => exact Nat.le_refl _
  | cons name rest ih =>
    unfold release
    split
    · exact ih counts
    · exact ih counts
    · rename_i n found
      have fewer := outstanding_put found
      have later := ih (NameMap.put counts name n)
      dsimp only
      split
      · rw [List.length_cons]
        omega
      · omega

/-- The order in which ready nodes are put, each followed in the queue by the nodes that it sets free. -/
def putAll (followers : String → List String) (counts : Counts) (queue : List String) : List String :=
  match queue with
  | [] => []
  | id :: rest =>
    let released := release counts (followers id)
    id :: putAll followers released.1 (rest ++ released.2)
termination_by outstanding counts + queue.length
decreasing_by
  have fewer := outstanding_release counts (followers id)
  simp only [List.length_append, List.length_cons]
  omega

/-! ### One count for each name -/

variable {counts : Counts} {names : List String}

theorem get?_release (distinct : names.Nodup) (key : String) : NameMap.get? (release counts names).1 key =
    if key ∈ names then (NameMap.get? counts key).map (· - 1) else NameMap.get? counts key := by
  induction names generalizing counts with
  | nil => rfl
  | cons name rest ih =>
    obtain ⟨fresh, distinct⟩ := List.nodup_cons.mp distinct
    have passed (nothing : NameMap.get? counts name = none ∨ NameMap.get? counts name = some 0) :
        NameMap.get? (release counts rest).1 key =
          if key ∈ name :: rest then (NameMap.get? counts key).map (· - 1) else NameMap.get? counts key := by
      rw [ih distinct]
      by_cases same : key = name
      · subst same
        rw [if_neg fresh, if_pos List.mem_cons_self]
        rcases nothing with absent | zero
        · rw [absent]
          rfl
        · rw [zero]
          rfl
      · simp only [List.mem_cons, same, false_or]
    unfold release
    split
    · exact passed (Or.inl ‹_›)
    · exact passed (Or.inr ‹_›)
    · rename_i n found
      dsimp only
      rw [ih distinct]
      by_cases same : key = name
      · subst same
        rw [if_neg fresh, if_pos List.mem_cons_self, NameMap.get?_put_self, found]
        rfl
      · rw [NameMap.get?_put_of_ne _ _ same]
        simp only [List.mem_cons, same, false_or]

theorem release_free (distinct : names.Nodup) :
    (release counts names).2 = names.filter fun name => NameMap.get? counts name = some 1 := by
  induction names generalizing counts with
  | nil => rfl
  | cons name rest ih =>
    obtain ⟨fresh, distinct⟩ := List.nodup_cons.mp distinct
    unfold release
    split
    · rename_i nothing
      rw [ih distinct, List.filter_cons_of_neg (by simp [nothing])]
    · rename_i nothing
      rw [ih distinct, List.filter_cons_of_neg (by simp [nothing])]
    · rename_i n found
      -- a count is taken off once, so the names behind this one have their old counts
      have others : (rest.filter fun other => NameMap.get? (NameMap.put counts name n) other = some 1) =
          rest.filter fun other => NameMap.get? counts other = some 1 := by
        refine List.filter_congr fun other member => ?_
        have different : other ≠ name := by
          rintro rfl
          exact fresh member
        rw [NameMap.get?_put_of_ne _ _ different]
      dsimp only
      rw [ih distinct, others]
      by_cases last : n = 0
      · rw [if_pos last, List.filter_cons_of_pos (by simp [found, last])]
      · rw [if_neg last, List.filter_cons_of_neg (by simp [found, last])]

/-! ### Counts beside what is waited for -/

/-- The counts and the lists of followers agree with what the waiting nodes wait for. -/
structure Tracks (followers : String → List String) (ready : List String) (waiting : Waiting) (counts : Counts) :
    Prop where
  distinct : (ready ++ NameMap.keys waiting).Nodup
  blocked : ∀ entry ∈ waiting, entry.2 ≠ []
  once : ∀ entry ∈ waiting, entry.2.Nodup
  counted : ∀ entry ∈ waiting, NameMap.get? counts entry.1 = some entry.2.length
  followed : ∀ d ∈ ready ++ NameMap.keys waiting,
    followers d = NameMap.keys (waiting.filter fun entry => entry.2.contains d)

theorem length_filter_ne {unmet : List String} (once : unmet.Nodup) (id : String) :
    (unmet.filter (· ≠ id)).length = if id ∈ unmet then unmet.length - 1 else unmet.length := by
  have removed : unmet.filter (· ≠ id) = unmet.erase id := by
    rw [once.erase_eq_filter]
    refine List.filter_congr fun d _ => ?_
    rw [Bool.eq_iff_iff, decide_eq_true_eq, bne_iff_ne]
  rw [removed, List.length_erase]

theorem isEmpty_filter_ne {unmet : List String} (once : unmet.Nodup) (blocked : unmet ≠ []) (id : String) :
    (unmet.filter (· ≠ id)).isEmpty = (unmet.contains id && decide (unmet.length = 1)) := by
  have remaining := length_filter_ne once id
  have present := List.length_pos_of_ne_nil blocked
  rw [Bool.eq_iff_iff, List.isEmpty_iff_length_eq_zero, remaining]
  by_cases inside : id ∈ unmet
  · rw [if_pos inside]
    simp only [List.contains_iff_mem, inside, decide_eq_true_eq, Bool.and_eq_true, true_and]
    omega
  · rw [if_neg inside]
    simp only [List.contains_iff_mem, inside, Bool.and_eq_true, false_and, iff_false]
    omega

theorem readyKeys_settle (id : String) (waiting : Waiting) : readyKeys (settle id waiting) =
    NameMap.keys (waiting.filter fun entry => (entry.2.filter (· ≠ id)).isEmpty) := by
  rw [readyKeys, settle, List.filter_map, List.map_map, NameMap.keys]
  rfl

theorem keys_filter_settle {id d : String} (other : d ≠ id) (waiting : Waiting) :
    NameMap.keys ((stillWaiting (settle id waiting)).filter fun entry => entry.2.contains d) =
      NameMap.keys (waiting.filter fun entry => entry.2.contains d) := by
  rw [stillWaiting, settle, List.filter_filter, List.filter_map, NameMap.keys, NameMap.keys, List.map_map]
  refine congrArg _ (List.filter_congr fun entry _ => ?_)
  rw [Bool.eq_iff_iff]
  simp only [Function.comp_apply, Bool.and_eq_true, List.contains_iff_mem, List.mem_filter]
  constructor
  · rintro ⟨⟨inside, _⟩, _⟩
    exact inside
  · intro inside
    have kept : d ∈ entry.2.filter (· ≠ id) := List.mem_filter.mpr ⟨inside, by simpa using other⟩
    refine ⟨⟨inside, by simpa using other⟩, ?_⟩
    rw [Bool.not_eq_true', List.isEmpty_eq_false_iff]
    exact List.ne_nil_of_mem kept

namespace Tracks

variable {followers : String → List String} {id : String} {rest ready : List String} {waiting : Waiting}

theorem nodup_followers (tracks : Tracks followers (id :: rest) waiting counts) : (followers id).Nodup := by
  rw [tracks.followed id List.mem_cons_self, NameMap.keys]
  have distinct := (List.nodup_append.mp tracks.distinct).2.1
  exact distinct.sublist (List.filter_sublist.map Prod.fst)

theorem mem_followers_iff (tracks : Tracks followers (id :: rest) waiting counts) {key : String}
    {unmet : List String} (waits : (key, unmet) ∈ waiting) : key ∈ followers id ↔ id ∈ unmet := by
  have distinct : (NameMap.keys waiting).Nodup := (List.nodup_append.mp tracks.distinct).2.1
  rw [tracks.followed id List.mem_cons_self]
  constructor
  · intro follows
    obtain ⟨other, member⟩ := NameMap.exists_of_mem_keys follows
    obtain ⟨present, inside⟩ := List.mem_filter.mp member
    have same := (NameMap.get?_of_mem distinct present).symm.trans (NameMap.get?_of_mem distinct waits)
    cases same
    simpa using inside
  · intro inside
    exact NameMap.mem_keys (List.mem_filter.mpr ⟨waits, by simpa using inside⟩)

/-- What a node that is put sets free is what is ready after it. -/
theorem free (tracks : Tracks followers (id :: rest) waiting counts) :
    (release counts (followers id)).2 = readyKeys (settle id waiting) := by
  rw [release_free tracks.nodup_followers, tracks.followed id List.mem_cons_self, readyKeys_settle, NameMap.keys,
    List.filter_map, List.filter_filter, NameMap.keys]
  refine congrArg _ (List.filter_congr fun entry member => ?_)
  rw [isEmpty_filter_ne (tracks.once entry member) (tracks.blocked entry member), Function.comp_apply,
    tracks.counted entry member, Bool.and_comm]
  simp

theorem settled (tracks : Tracks followers (id :: rest) waiting counts) :
    Tracks followers (rest ++ readyKeys (settle id waiting)) (stillWaiting (settle id waiting))
      (release counts (followers id)).1 := by
  have step := step_perm id rest waiting
  obtain ⟨first, distinct⟩ := List.nodup_cons.mp tracks.distinct
  have before {entry : String × List String} (member : entry ∈ stillWaiting (settle id waiting)) :
      ∃ unmet, (entry.1, unmet) ∈ waiting ∧ entry.2 = unmet.filter (· ≠ id) :=
    mem_settle.mp (mem_stillWaiting.mp member).1
  refine ⟨step.nodup_iff.mpr distinct, fun entry member => (mem_stillWaiting.mp member).2, ?_, ?_, ?_⟩
  · intro entry member
    obtain ⟨unmet, waits, same⟩ := before member
    rw [same]
    exact (tracks.once _ waits).filter _
  · intro entry member
    obtain ⟨unmet, waits, same⟩ := before member
    have follows := tracks.mem_followers_iff waits
    rw [get?_release tracks.nodup_followers, tracks.counted _ waits, same, length_filter_ne (tracks.once _ waits)]
    by_cases inside : id ∈ unmet
    · rw [if_pos (follows.mpr inside), if_pos inside]
      rfl
    · rw [if_neg (mt follows.mp inside), if_neg inside]
  · intro d member
    have old := step.mem_iff.mp member
    have other : d ≠ id := by
      rintro rfl
      exact first old
    rw [tracks.followed d (List.mem_cons_of_mem id old), keys_filter_settle other]

end Tracks

/-- Counting puts the same nodes in the same order. -/
theorem putAll_eq_drain {followers : String → List String} {ready : List String} {waiting : Waiting}
    (tracks : Tracks followers ready waiting counts) : putAll followers counts ready = (drain ready waiting).1 := by
  fun_induction drain ready waiting generalizing counts with
  | case1 waiting => rw [putAll]
  | case2 waiting id rest settled order left result =>
    rename_i ih
    have later := ih tracks.settled
    rw [result] at later
    rw [putAll, tracks.free]
    exact congrArg (List.cons id) later

end FormulaGraph.Graph
