import FormulaGraph.Expr.Tree
import FormulaGraph.Proofs.Formula.Label

/-!
# What is no number token

The text of a token begins with a digit, a mark or a word for infinity or for no number. The literals of
data with parts begin with a bracket, and those of null and the truth values with other words, so among the
data that are no numbers only texts are read as numbers: `ofJson_eq_ok`.
-/

namespace FormulaGraph

open Text

theorem Text.trimEnd_cons {skip : Char → Bool} {c : Char} (kept : skip c = false) (rest : List Char) :
    ∃ others, trimEnd skip (c :: rest) = c :: others := by
  have split : (c :: rest).reverse.dropWhile skip = rest.reverse.dropWhile skip ++ [c] := by
    rw [List.reverse_cons, List.dropWhile_append]
    cases dropped : rest.reverse.dropWhile skip <;> simp [kept]
  refine ⟨trimEnd skip rest, ?_⟩
  rw [trimEnd, split, List.reverse_append]
  rfl

theorem Text.trimList_cons {skip : Char → Bool} {c : Char} (kept : skip c = false) (rest : List Char) :
    ∃ others, trimList skip (c :: rest) = c :: others := by
  rw [trimList, trimStart_eq_self kept]
  exact trimEnd_cons kept rest

namespace Number

/-- A character with which no number begins. -/
structure Foreign (c : Char) : Prop where
  visible : isBlank c = false
  nondigit : digitValue? c = none
  unmarked : c ∉ ['_', '-', '+', '.']
  wordless : c.toLower ∉ ['i', 'n']

variable {c : Char}

theorem foreign_of_bracket (bracket : c = '[' ∨ c = '\x7b') : Foreign c := by
  rcases bracket with rfl | rfl
  · constructor <;> decide
  · constructor <;> decide

theorem Foreign.not_isBlankInNumeral (foreign : Foreign c) : isBlankInNumeral c = false := by
  simp [isBlankInNumeral, foreign.visible]

theorem Foreign.not_inDigits (foreign : Foreign c) : inDigits c = false := by
  have other : c ≠ '_' := fun same => foreign.unmarked (by simp [same])
  simp [inDigits, isDigit, foreign.nondigit, other]

theorem Foreign.not_isDigit (foreign : Foreign c) : c.isDigit = false := by
  cases digit : c.isDigit with
  | false => rfl
  | true =>
    have value := digitValue?_of_isDigit digit
    rw [foreign.nondigit] at value
    cases value

theorem Foreign.takeSign (foreign : Foreign c) (rest : List Char) :
    takeSign (c :: rest) = (false, c :: rest) := by
  have unmarked := foreign.unmarked
  unfold Number.takeSign
  split
  · rename_i same
    cases same
    simp at unmarked
  · rename_i same
    cases same
    simp at unmarked
  · rfl

theorem Foreign.readInt (foreign : Foreign c) (rest : List Char) :
    readInt (c :: rest) = .error .malformed := by
  rw [Number.readInt, trimStart_eq_self foreign.not_isBlankInNumeral, foreign.takeSign]
  simp only [List.takeWhile_cons, foreign.not_inDigits]
  rfl

theorem Foreign.plainDigits? (foreign : Foreign c) {rest plain : List Char}
    (read : plainDigits? (c :: rest) = some plain) : ∃ others, plain = c :: others := by
  unfold Number.plainDigits? at read
  split at read
  · rename_i same
    cases same
  · cases read
  · rename_i same
    cases same
    simp [foreign.nondigit] at read
  · rename_i same
    cases same
    obtain ⟨others, _, rfl⟩ := Option.map_eq_some_iff.mp read
    exact ⟨others, by simp [foreign.nondigit]⟩

theorem Foreign.readDecimal? (foreign : Foreign c) (negative : Bool) (rest : List Char) :
    readDecimal? negative (c :: rest) = none := by
  have point : c ≠ '.' := fun same => foreign.unmarked (by simp [same])
  have taken : (c :: rest).takeWhile Char.isDigit = [] := by simp [foreign.not_isDigit]
  have left : (c :: rest).dropWhile Char.isDigit = c :: rest := by simp [foreign.not_isDigit]
  rw [Number.readDecimal?, taken, left]
  simp [point]

theorem Foreign.readFloat? (foreign : Foreign c) (rest : List Char) : readFloat? (c :: rest) = none := by
  obtain ⟨others, trimmed⟩ := trimList_cons foreign.not_isBlankInNumeral rest
  unfold Number.readFloat?
  rw [trimmed]
  cases plain : Number.plainDigits? (c :: others) with
  | none => rfl
  | some text =>
    obtain ⟨tail, rfl⟩ := foreign.plainDigits? plain
    have other (word : String) (first : word.toList.head? ∈ [some 'i', some 'n']) :
        String.ofList ((c :: tail).map Char.toLower) ≠ word := by
      rintro rfl
      have wordless := foreign.wordless
      simp only [String.toList_ofList, List.map_cons, List.head?_cons, List.mem_cons, Option.some.injEq,
        List.not_mem_nil, or_false] at first wordless
      exact wordless first
    have inf := other "inf" (by decide)
    have infinity := other "infinity" (by decide)
    have nan := other "nan" (by decide)
    simp only [Option.bind_eq_bind, Option.bind_some, foreign.takeSign, foreign.readDecimal?]
    rw [if_neg (not_or.mpr ⟨inf, infinity⟩), if_neg nan]

theorem Foreign.read? (foreign : Foreign c) {text : String} (first : text.toList.head? = some c) :
    read? (trim text) = none := by
  obtain ⟨rest, whole⟩ := List.head?_eq_some_iff.mp first
  obtain ⟨others, trimmed⟩ := trimList_cons foreign.visible rest
  rw [Number.read?, trim, String.toList_ofList, whole, trimmed, foreign.readInt, foreign.readFloat?]
  rfl

theorem read?_text_literal {datum : Json} (compound : ∀ s, datum ≠ .scalar s) :
    read? (trim datum.text) = none := by
  cases datum with
  | scalar s => exact absurd rfl (compound s)
  | arr items =>
    have first : (Json.arr items).text.toList.head? = some '[' := by
      simp [Json.text, Json.literal]
    exact (foreign_of_bracket (Or.inl rfl)).read? first
  | obj members =>
    have first : (Json.obj members).text.toList.head? = some '\x7b' := by
      simp [Json.text, Json.literal]
    exact (foreign_of_bracket (Or.inr rfl)).read? first

theorem ofJson_of_ne {datum : Json} {n : Number} (other : ∀ m, datum ≠ .scalar (.number m)) :
    ofJson datum = .ok n ↔ datum.hasText = true ∧ read? (trim datum.text) = some n := by
  unfold ofJson
  split
  · rename_i m
    exact absurd rfl (other m)
  · rw [Json.toText]
    cases datum.hasText with
    | false => exact ⟨nofun, nofun⟩
    | true => cases read : read? (trim datum.text) <;> simp [read, bind, Except.bind]

theorem ofJson_eq_ok {datum : Json} {n : Number} :
    ofJson datum = .ok n ↔ datum = .scalar (.number n) ∨
      ∃ token, datum = .str token ∧ read? (trim token) = some n := by
  have words : read? (trim "None") = none ∧ read? (trim "True") = none ∧ read? (trim "False") = none := by
    decide +kernel
  match datum with
  | .scalar (.number m) =>
    have same : ofJson (.scalar (.number m)) = .ok m := rfl
    simp [same]
  | .scalar (.str token) => simp [ofJson_of_ne, Json.hasText, Scalar.hasText, Json.text, Scalar.text]
  | .scalar .null | .scalar (.bool true) | .scalar (.bool false) =>
    simp [ofJson_of_ne, Json.text, Scalar.text, Scalar.literal, words]
  | .arr items | .obj members => simp [ofJson_of_ne, read?_text_literal]

end Number
end FormulaGraph
