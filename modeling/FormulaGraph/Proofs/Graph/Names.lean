import FormulaGraph.Graph.Check
import Mathlib.Data.List.Sort

/-!
# Names in order

Names are put in the order of the codes of their characters. No two names have the same codes, as the characters
that stand for halves of pairs have codes that no other character has; so the order does not depend on that in
which the names are handed in: `sortNames_eq_of_perm`.
-/

namespace FormulaGraph

open Text

/-- The codes of halves are those that no character has for its own. -/
theorem Text.codeOf_cases (c : Char) :
    codeOf c = c.toNat ∧ ¬ (0xd800 ≤ codeOf c ∧ codeOf c < 0xe000) ∨
    codeOf c + halfShift = c.toNat ∧ 0xd800 ≤ codeOf c ∧ codeOf c < 0xe000 := by
  have valid : c.toNat < 0xd800 ∨ 0xdfff < c.toNat ∧ c.toNat < 0x110000 := c.valid
  unfold codeOf halfShift
  by_cases half : isHalf c = true
  · rw [if_pos half]
    simp only [isHalf, Bool.and_eq_true, decide_eq_true_eq] at half
    omega
  · rw [if_neg half]
    omega

theorem Text.codeOf_injective : Function.Injective codeOf := by
  intro c d same
  have first := codeOf_cases c
  have second := codeOf_cases d
  exact Char.toNat_inj.mp (by omega)

theorem nameCodes_injective : Function.Injective nameCodes := fun _ _ same =>
  String.toList_inj.mp (codeOf_injective.list_map same)

theorem sortNames_perm (names : List String) : (sortNames names).Perm names := List.mergeSort_perm names _

/-- Of two sorted names the codes of the second do not come before those of the first. -/
theorem pairwise_sortNames (names : List String) :
    (sortNames names).Pairwise fun a b => (nameCodes b).lex (nameCodes a) = false := by
  have transitive (a b c : String) (first : (!(nameCodes b).lex (nameCodes a)) = true)
      (second : (!(nameCodes c).lex (nameCodes b)) = true) : (!(nameCodes c).lex (nameCodes a)) = true := by
    rw [Bool.not_eq_true', List.lex_eq_false_iff_ge] at first second ⊢
    exact List.le_trans first second
  have total (a b : String) : (!(nameCodes b).lex (nameCodes a) || !(nameCodes a).lex (nameCodes b)) = true := by
    rw [Bool.or_eq_true, Bool.not_eq_true', Bool.not_eq_true', List.lex_eq_false_iff_ge, List.lex_eq_false_iff_ge]
    exact List.le_total _ _
  exact (List.pairwise_mergeSort transitive total names).imp fun {a b} => Bool.not_eq_true' _ |>.mp

theorem sortNames_eq_of_perm {names names' : List String} (same : names.Perm names') :
    sortNames names = sortNames names' := by
  have arranged := (sortNames_perm names).trans (same.trans (sortNames_perm names').symm)
  refine List.Perm.eq_of_pairwise (fun a b _ _ first second => nameCodes_injective ?_)
    (pairwise_sortNames names) (pairwise_sortNames names') arranged
  exact List.le_antisymm (List.lex_eq_false_iff_ge.mp first) (List.lex_eq_false_iff_ge.mp second)

end FormulaGraph
