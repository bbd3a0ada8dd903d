import FormulaGraph.Builder.Node
import Mathlib.Data.List.Nodup
import Mathlib.Data.List.Perm.Subperm

/-!
# Ids of new nodes

`makeId_injective` says that the ids made from one operation differ. Of more ids than there are
nodes one is new, so `not_has_nextId`: the number that is chosen makes an id that no node has,
whatever ids callers have given.
-/

namespace FormulaGraph.Builder

theorem makeId_injective (operation : String) : Function.Injective (makeId operation) := by
  intro a b same
  have texts := congrArg String.toList same
  simp only [makeId, Number.intText, String.toList_append, String.toList_ofList] at texts
  have digits : Nat.toDigits 10 a = Nat.toDigits 10 b := List.append_cancel_left texts
  rw [← Nat.ofDigitChars_ten_toDigits (n := a), digits, Nat.ofDigitChars_ten_toDigits]

theorem has_of_has_firstFree {b : Builder} {operation : String} {fuel n : Nat}
    (taken : b.has (makeId operation (b.firstFree operation fuel n)) = true) :
    ∀ k ≤ fuel, b.has (makeId operation (n + k)) = true := by
  induction fuel generalizing n with
  | zero =>
    intro k low
    obtain rfl : k = 0 := by omega
    exact taken
  | succ fuel ih =>
    rw [firstFree] at taken
    split at taken
    · rename_i first
      intro k low
      cases k with
      | zero => exact first
      | succ k =>
        have later := ih taken k (by omega)
        rwa [show n + 1 + k = n + (k + 1) by omega] at later
    · rename_i free
      exact absurd taken free

/-- More ids than there are nodes are not all taken. -/
theorem exists_free (b : Builder) (operation : String) (n : Nat) :
    ∃ k ≤ b.size, b.has (makeId operation (n + k)) = false := by
  by_contra none
  let ids := (List.range (b.size + 1)).map fun k => makeId operation (n + k)
  have distinct : ids.Nodup := by
    refine List.Nodup.map (fun j k same => ?_) List.nodup_range
    have equal := makeId_injective operation same
    omega
  have present : ids ⊆ NameMap.keys b.nodes := by
    intro id member
    obtain ⟨k, inRange, rfl⟩ := List.mem_map.mp member
    apply NameMap.has_iff.mp
    by_contra free
    rw [List.mem_range] at inRange
    exact none ⟨k, by omega, by simpa [has] using free⟩
  have bound := (distinct.subperm present).length_le
  simp only [ids, NameMap.keys, List.length_map, List.length_range] at bound
  exact absurd bound (by simp [size])

theorem not_has_firstFree (b : Builder) (operation : String) (n : Nat) :
    b.has (makeId operation (b.firstFree operation b.size n)) = false := by
  rw [Bool.eq_false_iff]
  intro taken
  obtain ⟨k, low, free⟩ := exists_free b operation n
  rw [has_of_has_firstFree taken k low] at free
  exact absurd free (by decide)

theorem not_has_nextId (b : Builder) (operation : String) :
    b.has (makeId operation (b.nextNumber operation)) = false :=
  not_has_firstFree b operation _

end FormulaGraph.Builder
