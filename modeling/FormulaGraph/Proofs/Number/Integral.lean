import FormulaGraph.Proofs.Number.Token

/-!
# Integral number tokens

A token is an integer just if it is a numeral with blanks around it: `ofJson_eq_int`. Every other token is a
floating-point number or none at all, so that no integer is rounded, however long it is.
-/

namespace FormulaGraph

open Text

/-! ### Blanks at the ends -/

section

variable {skip : Char → Bool} {before core after : List Char}

theorem Text.exists_trimList (skip : Char → Bool) (text : List Char) : ∃ before after,
    (∀ c ∈ before, skip c = true) ∧ (∀ c ∈ after, skip c = true) ∧
      text = before ++ (trimList skip text ++ after) := by
  refine ⟨text.takeWhile skip, ((trimStart skip text).reverse.takeWhile skip).reverse,
    fun c => List.mem_takeWhile_imp, fun c member => List.mem_takeWhile_imp (List.mem_reverse.mp member), ?_⟩
  have back : trimList skip text ++ ((trimStart skip text).reverse.takeWhile skip).reverse = trimStart skip text := by
    rw [trimList, trimEnd, ← List.reverse_append, List.takeWhile_append_dropWhile, List.reverse_reverse]
  rw [back]
  exact List.takeWhile_append_dropWhile.symm

theorem Text.trimList_append (front : ∀ c ∈ before, skip c = true) (back : ∀ c ∈ after, skip c = true)
    (first : ∃ c rest, core = c :: rest ∧ skip c = false)
    (last : ∃ c rest, core = rest ++ [c] ∧ skip c = false) :
    trimList skip (before ++ (core ++ after)) = core := by
  have begun : trimStart skip (before ++ (core ++ after)) = core ++ after := by
    obtain ⟨c, rest, rfl, kept⟩ := first
    rw [trimStart, List.dropWhile_append_of_pos front]
    exact trimStart_eq_self kept
  obtain ⟨c, rest, rfl, kept⟩ := last
  rw [trimList, begun, trimEnd, List.reverse_append,
    List.dropWhile_append_of_pos fun d member => back d (List.mem_reverse.mp member)]
  exact trimEnd_eq_self kept

end

namespace Number

/-- A text that writes an integer: a numeral with at most so many digits as are read, and blanks around it. -/
inductive Writes : List Char → Int → Prop
  | mk {before sign numeral after : List Char} {negative : Bool} {digits : List Nat}
      (front : ∀ c ∈ before, isBlank c = true) (signed : Sign sign negative) (run : Digits numeral digits)
      (short : digits.length ≤ maxDigits) (back : ∀ c ∈ after, isBlank c = true) :
      Writes (before ++ (sign ++ numeral ++ after)) (signedValue negative digits)

variable {sign numeral : List Char} {negative : Bool} {digits : List Nat}

theorem exists_first_of_numeral (signed : Sign sign negative) (run : Digits numeral digits) :
    ∃ c rest, sign ++ numeral = c :: rest ∧ isBlank c = false := by
  cases signed with
  | plus | minus => exact ⟨_, _, rfl, by decide⟩
  | absent =>
    obtain ⟨c, d, rest, digit, rfl⟩ := run.exists_first
    exact ⟨c, rest, rfl, not_isBlank_of_digit digit⟩

theorem exists_last_of_numeral (sign : List Char) (run : Digits numeral digits) :
    ∃ c rest, sign ++ numeral = rest ++ [c] ∧ isBlank c = false := by
  obtain ⟨c, d, rest, digit, rfl⟩ := run.exists_last
  exact ⟨c, sign ++ rest, by simp, not_isBlank_of_digit digit⟩

/-- A text without the blanks at its ends is read as an integer if the text writes one, and only then. -/
theorem readInt_trimList {text : List Char} {n : Int} :
    readInt (trimList isBlank text) = .ok n ↔ Writes text n := by
  constructor
  · intro read
    obtain ⟨before, after, front, back, split⟩ := exists_trimList isBlank text
    obtain ⟨inner, sign, negative, numeral, digits, outer, inFront, signed, run, short, behind, same, rfl⟩ :=
      readInt_eq_ok.mp read
    have whole : text = (before ++ inner) ++ (sign ++ numeral ++ (outer ++ after)) := by
      rw [split, same]
      simp only [List.append_assoc]
    rw [whole]
    refine .mk (fun c member => ?_) signed run short fun c member => ?_
    · rcases List.mem_append.mp member with outside | inside
      · exact front c outside
      · exact isBlank_of_inNumeral (inFront c inside)
    · rcases List.mem_append.mp member with inside | outside
      · exact isBlank_of_inNumeral (behind c inside)
      · exact back c outside
  · rintro ⟨front, signed, run, short, back⟩
    rw [trimList_append front back (exists_first_of_numeral signed run) (exists_last_of_numeral _ run)]
    exact readInt_eq_ok.mpr
      ⟨[], _, _, _, _, [], nofun, signed, run, short, nofun, by rw [List.append_nil, List.nil_append], rfl⟩

theorem ofJson_text (s : String) : ofJson (.str s) =
    match readInt (trimList isBlank s.toList) with
    | .ok n => .ok (.int n)
    | .error _ =>
      match readFloat? (trimList isBlank s.toList) with
      | some x => .ok (.float x)
      | none => .error (.badNumber (trim s)) := by
  have trimmed : (trim s).toList = trimList isBlank s.toList := String.toList_ofList
  rw [ofJson.eq_2 (.str s) nofun, Json.toText_str]
  dsimp only [bind, Except.bind]
  rw [read?, trimmed]
  cases readInt (trimList isBlank s.toList) with
  | ok n => rfl
  | error cause => cases readFloat? (trimList isBlank s.toList) <;> rfl

theorem ofJson_eq_int {s : String} {n : Int} : ofJson (.str s) = .ok (.int n) ↔ Writes s.toList n := by
  rw [← readInt_trimList, ofJson_text]
  cases readInt (trimList isBlank s.toList) with
  | ok m => simp
  | error cause => cases readFloat? (trimList isBlank s.toList) <;> simp

theorem ofJson_error {s : String} {cause : Misuse} (refused : ofJson (.str s) = .error cause) :
    cause = .badNumber (trim s) := by
  rw [ofJson_text] at refused
  split at refused
  · cases refused
  · split at refused
    · cases refused
    · exact (Except.error.inj refused).symm

/-! ### The texts of integers -/

theorem ofDigitChars_eq (text : List Char) : Nat.ofDigitChars 10 text 0 = ofDigits (asciiValues text) := by
  rw [Nat.ofDigitChars, ofDigits, asciiValues, List.foldl_map]

theorem digits_toDigits (m : Nat) : Digits (Nat.toDigits 10 m) (asciiValues (Nat.toDigits 10 m)) :=
  digits_of_ascii Nat.toDigits_ne_nil fun _ => Nat.isDigit_of_mem_toDigits (by decide) (by decide)

theorem value_toDigits (m : Nat) : Nat.ofDigits 10 (asciiValues (Nat.toDigits 10 m)).reverse = m := by
  rw [← ofDigits_eq, ← ofDigitChars_eq, Nat.ofDigitChars_ten_toDigits]

theorem length_toDigits {m : Nat} (small : m < 10 ^ maxDigits) :
    (asciiValues (Nat.toDigits 10 m)).length ≤ maxDigits := by
  rw [asciiValues, List.length_map]
  exact (Nat.length_toDigits_le_iff (by decide) (by decide)).mpr small

theorem writes_intText {n : Int} (small : n.natAbs < 10 ^ maxDigits) : Writes (intText n).toList n := by
  have none : ∀ c ∈ ([] : List Char), isBlank c = true := nofun
  cases n with
  | ofNat m =>
    have writes := Writes.mk none .absent (digits_toDigits m) (length_toDigits small) none
    rw [signedValue, if_neg Bool.false_ne_true, value_toDigits] at writes
    simpa [intText] using writes
  | negSucc m =>
    have writes := Writes.mk none .minus (digits_toDigits (m + 1)) (length_toDigits small) none
    rw [signedValue, if_pos rfl, value_toDigits, Int.neg_ofNat_succ] at writes
    simpa [intText] using writes

/-- A token is an integer just if it writes one, and it is the integer that it writes. Any other token is a
floating-point number or is refused for its content. The texts of integers are tokens that write them. -/
theorem integer_tokens :
    (∀ (s : String) (n : Int), ofJson (.str s) = .ok (.int n) ↔ Writes s.toList n) ∧
    (∀ s : String, (∀ n, ¬ Writes s.toList n) →
      (∃ x, ofJson (.str s) = .ok (.float x)) ∨
        ∃ cause, ofJson (.str s) = .error cause ∧ cause.toClass = .content) ∧
    ∀ n : Int, n.natAbs < 10 ^ maxDigits → ofJson (.str (intText n)) = .ok (.int n) := by
  refine ⟨fun s n => ofJson_eq_int, fun s other => ?_, fun n small => ofJson_eq_int.mpr (writes_intText small)⟩
  cases read : ofJson (.str s) with
  | ok number =>
    cases number with
    | int n => exact absurd (ofJson_eq_int.mp read) (other n)
    | float x => exact Or.inl ⟨x, rfl⟩
  | error cause =>
    obtain rfl := ofJson_error read
    exact Or.inr ⟨_, rfl, rfl⟩

/-- A digit of another script between unusual blanks, two underscores side by side, and an odd integer that no
floating-point number is. -/
theorem unusual_integer_tokens :
    ofJson (.str "\u2003-0_\u0663\u001f") = .ok (.int (-3)) ∧
    (∀ n, ¬ Writes "1__0".toList n) ∧
    ((∃ x, ofJson (.str "1__0") = .ok (.float x)) ∨
      ∃ cause, ofJson (.str "1__0") = .error cause ∧ cause.toClass = .content) ∧
    ofJson (.str (intText (-9007199254740993))) = .ok (.int (-9007199254740993)) := by
  have front : ∀ c ∈ ['\u2003'], isBlank c = true := List.forall_mem_singleton.mpr (by decide)
  have back : ∀ c ∈ ['\u001f'], isBlank c = true := List.forall_mem_singleton.mpr (by decide)
  have run : Digits ['0', '_', '\u0663'] [0, 3] := .grouped (by decide) (.last (by decide))
  have refused : read? (trim "1__0") = none := by decide +kernel
  have other : ∀ n, ¬ Writes "1__0".toList n := by
    intro n writes
    have read : read? (trim "1__0") = some (.int n) :=
      ((@ofJson_of_ne (.str "1__0") _ nofun).mp ((integer_tokens.1 "1__0" n).mpr writes)).2
    rw [refused] at read
    cases read
  have small : (-9007199254740993 : Int).natAbs < 10 ^ maxDigits :=
    Nat.lt_of_lt_of_le (by decide : _ < 10 ^ 16) (Nat.pow_le_pow_right (by decide) (by decide))
  exact ⟨(integer_tokens.1 _ _).mpr (.mk front .minus run (by decide) back), other, integer_tokens.2.1 _ other,
    integer_tokens.2.2 _ small⟩

end Number
end FormulaGraph
