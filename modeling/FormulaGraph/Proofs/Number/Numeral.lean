import FormulaGraph.Number.Reader
import Mathlib.Data.List.Induction
import Mathlib.Data.List.TakeWhile
import Mathlib.Data.Nat.Digits.Defs

/-!
# Numerals of integers

A numeral is a sign, which may be missing, and decimal digits of any script with single underscores between them.
The reader takes as many digits as there are, which is never too many, as neither a sign nor a blank is one. So it
reads numerals with blanks around them, and refuses one only for the number of its digits: `readInt_eq_ok`.
-/

namespace FormulaGraph

open Text

theorem Text.ofDigits_eq (digits : List Nat) : ofDigits digits = Nat.ofDigits 10 digits.reverse := by
  induction digits using List.reverseRecOn with
  | nil => rfl
  | append_singleton digits d ih =>
    rw [ofDigits, List.foldl_append, ← ofDigits, ih, List.reverse_append, List.reverse_singleton,
      List.singleton_append, Nat.ofDigits_cons, List.foldl_cons, List.foldl_nil]
    omega

def Text.blankCodes : List Nat :=
  List.range' 9 5 ++ List.range' 28 5 ++ [0x85, 0xa0, 0x1680] ++ List.range' 0x2000 11 ++
    [0x2028, 0x2029, 0x202f, 0x205f, 0x3000]

theorem Text.toNat_mem_blankCodes {c : Char} (blank : isBlank c = true) : c.toNat ∈ blankCodes := by
  simp only [isBlank, Bool.or_eq_true, Bool.and_eq_true, decide_eq_true_eq, beq_iff_eq] at blank
  simp only [blankCodes, List.mem_append, List.mem_range'_1, List.mem_cons, List.not_mem_nil, or_false]
  omega

theorem Text.not_isBlank_of_digit {c : Char} {d : Nat} (digit : digitValue? c = some d) : isBlank c = false := by
  refine Bool.eq_false_iff.mpr fun blank => ?_
  have none : ∀ code ∈ blankCodes, digitValue? (Char.ofNat code) = none := by decide +kernel
  have here := none c.toNat (toNat_mem_blankCodes blank)
  rw [Char.ofNat_toNat, digit] at here
  cases here

theorem Text.isDigit_of_digit {c : Char} {d : Nat} (digit : digitValue? c = some d) : isDigit c = true := by
  rw [isDigit, digit]
  rfl

theorem Text.bounds_of_isDigit {c : Char} (digit : c.isDigit = true) : '0' ≤ c ∧ c ≤ '9' := by
  rw [Char.isDigit, Bool.and_eq_true, decide_eq_true_eq, decide_eq_true_eq] at digit
  exact digit

theorem Text.digitValue?_of_isDigit {c : Char} (digit : c.isDigit = true) :
    digitValue? c = some (c.toNat - '0'.toNat) := by
  have bounds := bounds_of_isDigit digit
  have small : c.toNat < 128 := Nat.lt_of_le_of_lt bounds.2 (by decide)
  rw [digitValue?, if_pos small, if_pos bounds]

theorem Text.not_sign_of_isDigit {c : Char} (digit : isDigit c = true) : c ≠ '+' ∧ c ≠ '-' := by
  constructor
  · rintro rfl
    exact absurd digit (by decide)
  · rintro rfl
    exact absurd digit (by decide)

theorem Text.not_underscore_of_isDigit {c : Char} (digit : isDigit c = true) : c ≠ '_' := by
  rintro rfl
  exact absurd digit (by decide)

namespace Number

/-! ### The grammar -/

inductive Sign : List Char → Bool → Prop
  | absent : Sign [] false
  | plus : Sign ['+'] false
  | minus : Sign ['-'] true

/-- Decimal digits of any script with single underscores between them, and what each digit stands for. -/
inductive Digits : List Char → List Nat → Prop
  | last {c : Char} {d : Nat} (digit : digitValue? c = some d) : Digits [c] [d]
  | next {c : Char} {d : Nat} {text : List Char} {digits : List Nat} (digit : digitValue? c = some d)
      (later : Digits text digits) : Digits (c :: text) (d :: digits)
  | grouped {c : Char} {d : Nat} {text : List Char} {digits : List Nat} (digit : digitValue? c = some d)
      (later : Digits text digits) : Digits (c :: '_' :: text) (d :: digits)

def signedValue (negative : Bool) (digits : List Nat) : Int :=
  if negative then -(Nat.ofDigits 10 digits.reverse : Nat) else (Nat.ofDigits 10 digits.reverse : Nat)

variable {text rest before after sign : List Char} {digits : List Nat} {negative : Bool}

theorem Digits.exists_first (run : Digits text digits) :
    ∃ c d others, digitValue? c = some d ∧ text = c :: others := by
  cases run with
  | last digit | next digit | grouped digit => exact ⟨_, _, _, digit, rfl⟩

theorem Digits.exists_last (run : Digits text digits) :
    ∃ c d others, digitValue? c = some d ∧ text = others ++ [c] := by
  induction run with
  | last digit => exact ⟨_, _, [], digit, rfl⟩
  | @next first _ _ _ _ _ ih =>
    obtain ⟨c, d, others, digit, rfl⟩ := ih
    exact ⟨c, d, first :: others, digit, rfl⟩
  | @grouped first _ _ _ _ _ ih =>
    obtain ⟨c, d, others, digit, rfl⟩ := ih
    exact ⟨c, d, first :: '_' :: others, digit, rfl⟩

theorem Digits.inDigits (run : Digits text digits) : ∀ c ∈ text, inDigits c = true := by
  have inside {c : Char} {d : Nat} (digit : digitValue? c = some d) : Number.inDigits c = true := by
    simp [Number.inDigits, isDigit_of_digit digit]
  induction run with
  | last digit => exact List.forall_mem_singleton.mpr (inside digit)
  | next digit _ ih => exact List.forall_mem_cons.mpr ⟨inside digit, ih⟩
  | grouped digit _ ih => exact List.forall_mem_cons.mpr ⟨inside digit, List.forall_mem_cons.mpr ⟨rfl, ih⟩⟩

theorem digits_of_ascii (present : text ≠ []) (ascii : ∀ c ∈ text, c.isDigit = true) :
    Digits text (asciiValues text) := by
  induction text with
  | nil => exact absurd rfl present
  | cons c rest ih =>
    have first := digitValue?_of_isDigit (ascii c List.mem_cons_self)
    cases rest with
    | nil => exact .last first
    | cons d others => exact .next first (ih (by simp) fun other member => ascii other (List.mem_cons_of_mem c member))

/-! ### The reader -/

theorem digits_of_groupedDigits? (read : groupedDigits? text = some digits) : Digits text digits := by
  fun_induction groupedDigits? text generalizing digits with
  | case1 => cases read
  | case2 c =>
    obtain ⟨d, digit, rfl⟩ := Option.map_eq_some_iff.mp read
    exact .last digit
  | case3 c others ih =>
    simp only [Option.bind_eq_bind, Option.bind_eq_some_iff, Option.pure_def, Option.some.injEq] at read
    obtain ⟨d, digit, later, run, rfl⟩ := read
    exact .grouped digit (ih run)
  | case4 c second others plain ih =>
    simp only [Option.bind_eq_bind, Option.bind_eq_some_iff, Option.pure_def, Option.some.injEq] at read
    obtain ⟨d, digit, later, run, rfl⟩ := read
    exact .next digit (ih run)

theorem Digits.groupedDigits? (run : Digits text digits) : groupedDigits? text = some digits := by
  induction run with
  | last digit => simp [Number.groupedDigits?, digit]
  | next digit later ih =>
    obtain ⟨c, d, others, first, rfl⟩ := later.exists_first
    rw [Number.groupedDigits?.eq_4 _ _ _ (not_underscore_of_isDigit (isDigit_of_digit first)), digit, ih]
    rfl
  | grouped digit later ih => simp [Number.groupedDigits?, digit, ih]

theorem exists_of_takeSign (text : List Char) : ∃ sign, Sign sign (takeSign text).1 ∧ text = sign ++ (takeSign text).2 := by
  unfold takeSign
  split
  · exact ⟨['-'], .minus, rfl⟩
  · exact ⟨['+'], .plus, rfl⟩
  · exact ⟨[], .absent, rfl⟩

theorem Sign.takeSign_append (signed : Sign sign negative) (run : Digits text digits) (rest : List Char) :
    takeSign (sign ++ (text ++ rest)) = (negative, text ++ rest) := by
  cases signed with
  | plus | minus => rfl
  | absent =>
    obtain ⟨c, d, others, digit, rfl⟩ := run.exists_first
    obtain ⟨notPlus, notMinus⟩ := not_sign_of_isDigit (isDigit_of_digit digit)
    simp [takeSign, notPlus, notMinus]

theorem isBlank_of_inNumeral {c : Char} (blank : isBlankInNumeral c = true) : isBlank c = true :=
  (Bool.and_eq_true_iff.mp blank).1

theorem not_inDigits_of_isBlank {c : Char} (blank : isBlank c = true) : inDigits c = false := by
  have nodigit : isDigit c = false := by
    cases digit : digitValue? c with
    | none => simp [isDigit, digit]
    | some d =>
      rw [not_isBlank_of_digit digit] at blank
      cases blank
  have other : c ≠ '_' := by
    rintro rfl
    exact absurd blank (by decide)
  simp [inDigits, nodigit, other]

theorem readInt_of_numeral (front : ∀ c ∈ before, isBlankInNumeral c = true) (signed : Sign sign negative)
    (run : Digits text digits) (back : ∀ c ∈ after, isBlankInNumeral c = true) :
    readInt (before ++ (sign ++ (text ++ after))) =
      if maxDigits < digits.length then .error (.tooLong digits.length) else .ok (signedValue negative digits) := by
  have begun : trimStart isBlankInNumeral (before ++ (sign ++ (text ++ after))) = sign ++ (text ++ after) := by
    rw [trimStart, List.dropWhile_append_of_pos front]
    cases signed with
    | plus | minus => exact trimStart_eq_self (by decide)
    | absent =>
      obtain ⟨c, d, others, digit, rfl⟩ := run.exists_first
      exact trimStart_eq_self (by simp [isBlankInNumeral, not_isBlank_of_digit digit])
  have ended : after.takeWhile inDigits = [] ∧ after.dropWhile inDigits = after := by
    cases after with
    | nil => exact ⟨rfl, rfl⟩
    | cons c others =>
      have outside := not_inDigits_of_isBlank (isBlank_of_inNumeral (back c List.mem_cons_self))
      simp [outside]
  have taken : (text ++ after).takeWhile inDigits = text := by
    rw [List.takeWhile_append_of_pos run.inDigits, ended.1, List.append_nil]
  have left : (text ++ after).dropWhile inDigits = after := by
    rw [List.dropWhile_append_of_pos run.inDigits, ended.2]
  unfold readInt
  rw [begun, signed.takeSign_append run]
  dsimp only
  rw [taken, left, run.groupedDigits?]
  dsimp only
  rw [List.all_eq_true.mpr back, if_pos rfl, ofDigits_eq]
  rfl

theorem readInt_of_digits (present : text ≠ []) (digits : ∀ c ∈ text, c.isDigit = true) :
    readInt text = if maxDigits < text.length then .error (.tooLong text.length)
      else .ok (ofDigits (asciiValues text)) := by
  have none : ∀ c ∈ ([] : List Char), isBlankInNumeral c = true := nofun
  have read := readInt_of_numeral none .absent (digits_of_ascii present digits) none
  rw [List.nil_append, List.nil_append, List.append_nil, asciiValues, List.length_map] at read
  rw [read, ofDigits_eq]
  rfl

/-- The reader reads the numerals with at most so many digits and with blanks around them, and nothing else. -/
theorem readInt_eq_ok {n : Int} : readInt text = .ok n ↔
    ∃ before sign negative numeral digits after, (∀ c ∈ before, isBlankInNumeral c = true) ∧
      Sign sign negative ∧ Digits numeral digits ∧ digits.length ≤ maxDigits ∧
      (∀ c ∈ after, isBlankInNumeral c = true) ∧ text = before ++ (sign ++ (numeral ++ after)) ∧
      n = signedValue negative digits := by
  constructor
  · intro read
    unfold readInt at read
    obtain ⟨sign, signed, split⟩ := exists_of_takeSign (trimStart isBlankInNumeral text)
    generalize takeSign (trimStart isBlankInNumeral text) = found at read signed split
    obtain ⟨negative, body⟩ := found
    dsimp only at read signed split
    cases grouped : groupedDigits? (body.takeWhile inDigits) with
    | none =>
      rw [grouped] at read
      cases read
    | some digits =>
      rw [grouped] at read
      dsimp only at read
      split at read
      · cases read
      · split at read
        · rename_i short back
          refine ⟨text.takeWhile isBlankInNumeral, sign, negative, body.takeWhile inDigits, digits,
            body.dropWhile inDigits, fun c => List.mem_takeWhile_imp, signed, digits_of_groupedDigits? grouped,
            Nat.le_of_not_lt short, List.all_eq_true.mp back, ?_, ?_⟩
          · rw [List.takeWhile_append_dropWhile, ← split]
            exact List.takeWhile_append_dropWhile.symm
          · rw [← Except.ok.inj read, ofDigits_eq]
            rfl
        · cases read
  · rintro ⟨before, sign, negative, numeral, digits, after, front, signed, run, short, back, rfl, rfl⟩
    rw [readInt_of_numeral front signed run back, if_neg (Nat.not_lt.mpr short)]

end Number
end FormulaGraph
