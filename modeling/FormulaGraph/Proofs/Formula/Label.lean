import FormulaGraph.Formula.Label
import FormulaGraph.Proofs.Number.Numeral

/-!
# Labels that are refused

A label is refused with a fault of building, but for one case: as a position, ASCII digits are read as an
integer, and there may be too many of them for one.
-/

namespace FormulaGraph

open Text

namespace Label

theorem isDigits_iff {text : List Char} :
    isDigits text = true ↔ text ≠ [] ∧ ∀ c ∈ text, c.isDigit = true := by
  simp [isDigits]

/-- A label is refused for one of the reasons for this, or it is a position of too many digits. -/
theorem selector_error {mode : NumericLabels} {label : String} {fault : Fault}
    (refused : selector mode label = .error fault) :
    (∃ reason, fault = .formula (.unsupportedLabel label reason)) ∨
    mode = .index ∧ isDigits label.toList = true ∧ Number.maxDigits < label.length ∧
      fault = .misuse (.longInteger label.length) := by
  unfold selector at refused
  dsimp only at refused
  split at refused
  · cases refused
    exact Or.inl ⟨_, rfl⟩
  · split at refused
    · rename_i digits
      cases mode with
      | label => cases refused
      | reject =>
        cases refused
        exact Or.inl ⟨_, rfl⟩
      | index =>
        obtain ⟨present, each⟩ := isDigits_iff.mp digits
        dsimp only at refused
        rw [Number.readInt_of_digits present each, String.length_toList] at refused
        by_cases long : Number.maxDigits < label.length
        · rw [if_pos long] at refused
          cases refused
          exact Or.inr ⟨rfl, digits, long, rfl⟩
        · rw [if_neg long] at refused
          cases refused
    · split at refused
      · cases refused
        exact Or.inl ⟨_, rfl⟩
      · cases refused

end Label
end FormulaGraph
