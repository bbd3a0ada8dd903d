import FormulaGraph.Proofs.Formula.Steps

/-!
# Labels by their form

A decimal number is a sign, digits of any script with a point among or around them, and an exponent; a line
feed may follow it. The matcher takes as many digits as there are, which is never too many, as no other part of a
number begins with one: `isNumeric_iff`. So each label is ASCII digits, or another decimal number, or no number
at all, and an element is selected by a position or by the label itself, or not at all.
-/

namespace FormulaGraph

open Text

namespace Label

/-! ### Decimal numbers -/

def AreDigits (text : List Char) : Prop := text ≠ [] ∧ ∀ c ∈ text, isDigit c = true

inductive IsSign : List Char → Prop
  | absent : IsSign []
  | plus : IsSign ['+']
  | minus : IsSign ['-']

/-- The digits of a number, with a point or without. -/
inductive IsMantissa : List Char → Prop
  | whole {whole : List Char} (digits : AreDigits whole) : IsMantissa whole
  | pointed {whole fraction : List Char} (digits : AreDigits whole) (more : ∀ c ∈ fraction, isDigit c = true) :
      IsMantissa (whole ++ '.' :: fraction)
  | fraction {fraction : List Char} (digits : AreDigits fraction) : IsMantissa ('.' :: fraction)

inductive IsExponent : List Char → Prop
  | absent : IsExponent []
  | marked {mark : Char} {sign digits : List Char} (letter : mark = 'e' ∨ mark = 'E') (signed : IsSign sign)
      (power : AreDigits digits) : IsExponent (mark :: (sign ++ digits))

inductive IsEnd : List Char → Prop
  | absent : IsEnd []
  | newline : IsEnd ['\n']

/-- Decimal numbers, with a line feed at the end or without. -/
inductive IsDecimal : List Char → Prop
  | mk {sign mantissa exponent ending : List Char} (signed : IsSign sign) (digits : IsMantissa mantissa)
      (power : IsExponent exponent) (ends : IsEnd ending) :
      IsDecimal (sign ++ (mantissa ++ (exponent ++ ending)))

/-! ### The matcher -/

variable {text rest digits sign mantissa : List Char}

/-- What may stand behind digits that are taken as far as they go. -/
def NoDigitFirst (text : List Char) : Prop := ∀ c ∈ text.head?, isDigit c = false

theorem dropWhile_append_digits (all : ∀ c ∈ digits, isDigit c = true) (stop : NoDigitFirst rest) :
    (digits ++ rest).dropWhile isDigit = rest := by
  rw [List.dropWhile_append_of_pos all]
  cases rest with
  | nil => rfl
  | cons c others => rw [List.dropWhile_cons_of_neg (by simp [stop c rfl])]

theorem skipDigits?_append (run : AreDigits digits) (stop : NoDigitFirst rest) :
    skipDigits? (digits ++ rest) = some rest := by
  obtain ⟨present, all⟩ := run
  cases digits with
  | nil => exact absurd rfl present
  | cons c others =>
    have later := fun d member => all d (List.mem_cons_of_mem c member)
    rw [List.cons_append, skipDigits?, if_pos (all c List.mem_cons_self), dropWhile_append_digits later stop]

theorem exists_of_skipDigits? (skipped : skipDigits? text = some rest) :
    ∃ digits, AreDigits digits ∧ text = digits ++ rest := by
  unfold skipDigits? at skipped
  split at skipped
  · cases skipped
  · rename_i c others
    split at skipped
    · rename_i first
      cases skipped
      refine ⟨c :: others.takeWhile isDigit, ⟨by simp, ?_⟩, ?_⟩
      · exact List.forall_mem_cons.mpr ⟨first, fun d member => List.mem_takeWhile_imp member⟩
      · rw [List.cons_append, List.takeWhile_append_dropWhile]
    · cases skipped

theorem exists_of_skipSign (text : List Char) : ∃ sign, IsSign sign ∧ text = sign ++ skipSign text := by
  unfold skipSign
  split
  · exact ⟨['+'], .plus, rfl⟩
  · exact ⟨['-'], .minus, rfl⟩
  · exact ⟨[], .absent, rfl⟩

theorem skipSign_append (signed : IsSign sign) (other : ∀ c ∈ rest.head?, c ≠ '+' ∧ c ≠ '-') :
    skipSign (sign ++ rest) = rest := by
  cases signed with
  | plus | minus => rfl
  | absent =>
    rw [List.nil_append]
    unfold skipSign
    split
    · exact absurd rfl (other '+' rfl).1
    · exact absurd rfl (other '-' rfl).2
    · rfl

theorem head?_of_areDigits (run : AreDigits digits) (rest : List Char) :
    ∀ c ∈ (digits ++ rest).head?, isDigit c = true := by
  obtain ⟨present, all⟩ := run
  cases digits with
  | nil => exact absurd rfl present
  | cons d others =>
    rintro c ⟨⟩
    exact all d List.mem_cons_self

theorem IsEnd.noDigitFirst (ends : IsEnd text) : NoDigitFirst text := by
  cases ends with
  | absent => exact nofun
  | newline =>
    rintro c ⟨⟩
    decide

theorem isExponentTail_iff : isExponentTail text = true ↔
    ∃ exponent ending, IsExponent exponent ∧ IsEnd ending ∧ text = exponent ++ ending := by
  constructor
  · intro tail
    unfold isExponentTail at tail
    split at tail
    · exact ⟨[], [], .absent, .absent, rfl⟩
    · exact ⟨[], ['\n'], .absent, .newline, rfl⟩
    · rename_i mark rest _
      split at tail
      · rename_i letter
        obtain ⟨sign, signed, same⟩ := exists_of_skipSign rest
        have taken {ending : List Char} (ends : IsEnd ending)
            (skipped : skipDigits? (skipSign rest) = some ending) :
            ∃ exponent ending, IsExponent exponent ∧ IsEnd ending ∧ mark :: rest = exponent ++ ending := by
          obtain ⟨digits, power, split⟩ := exists_of_skipDigits? skipped
          refine ⟨mark :: (sign ++ digits), ending, .marked letter signed power, ends, ?_⟩
          rw [List.cons_append, List.append_assoc, ← split, ← same]
        split at tail
        · exact taken .absent ‹_›
        · exact taken .newline ‹_›
        · cases tail
      · cases tail
  · rintro ⟨exponent, ending, power, ends, rfl⟩
    cases power with
    | absent => cases ends <;> rfl
    | @marked mark sign digits letter signed power =>
      have skipped : skipDigits? (skipSign (sign ++ (digits ++ ending))) = some ending := by
        rw [skipSign_append signed fun c first => not_sign_of_isDigit (head?_of_areDigits power ending c first),
          skipDigits?_append power ends.noDigitFirst]
      rw [List.cons_append, List.append_assoc]
      unfold isExponentTail
      split
      · rfl
      · rfl
      · rename_i same
        cases same
        rw [if_pos letter, skipped]
        cases ends <;> rfl

theorem head?_of_tail {exponent ending : List Char} (power : IsExponent exponent) (ends : IsEnd ending) :
    ∀ c ∈ (exponent ++ ending).head?, isDigit c = false ∧ c ≠ '.' := by
  cases power with
  | absent =>
    cases ends with
    | absent => exact nofun
    | newline =>
      rintro c ⟨⟩
      decide
  | marked letter signed power =>
    rintro c ⟨⟩
    rcases letter with rfl | rfl <;> decide

theorem exists_of_skipMantissa? (skipped : skipMantissa? text = some rest) :
    ∃ mantissa, IsMantissa mantissa ∧ text = mantissa ++ rest := by
  unfold skipMantissa? at skipped
  split at skipped
  · obtain ⟨digits, run, rfl⟩ := exists_of_skipDigits? skipped
    exact ⟨'.' :: digits, .fraction run, rfl⟩
  · obtain ⟨behind, first, same⟩ := Option.map_eq_some_iff.mp skipped
    obtain ⟨digits, run, rfl⟩ := exists_of_skipDigits? first
    split at same
    · rename_i more _
      subst same
      refine ⟨digits ++ '.' :: more.takeWhile isDigit, .pointed run fun c => List.mem_takeWhile_imp, ?_⟩
      rw [List.append_assoc, List.cons_append, List.takeWhile_append_dropWhile]
    · subst same
      exact ⟨digits, .whole run, rfl⟩

theorem skipMantissa?_digits (run : AreDigits digits) (rest : List Char) :
    skipMantissa? (digits ++ rest) = (skipDigits? (digits ++ rest)).map fun rest =>
      match rest with
      | '.' :: more => more.dropWhile isDigit
      | more => more := by
  have first := head?_of_areDigits run rest
  unfold skipMantissa?
  split
  · rename_i same
    rw [same] at first
    exact absurd (first '.' rfl) (by decide)
  · rfl

theorem skipMantissa?_append (number : IsMantissa mantissa)
    (stop : ∀ c ∈ rest.head?, isDigit c = false ∧ c ≠ '.') : skipMantissa? (mantissa ++ rest) = some rest := by
  have nodigit : NoDigitFirst rest := fun c first => (stop c first).1
  cases number with
  | whole run =>
    rw [skipMantissa?_digits run, skipDigits?_append run nodigit, Option.map_some]
    split
    · exact absurd rfl (stop '.' rfl).2
    · rfl
  | @pointed whole fraction run more =>
    have point : NoDigitFirst ('.' :: (fraction ++ rest)) := by
      rintro c ⟨⟩
      decide
    rw [List.append_assoc, List.cons_append, skipMantissa?_digits run, skipDigits?_append run point,
      Option.map_some]
    exact congrArg some (dropWhile_append_digits more nodigit)
  | fraction run => exact skipDigits?_append run nodigit

theorem not_sign_of_isMantissa (number : IsMantissa mantissa) (rest : List Char) :
    ∀ c ∈ (mantissa ++ rest).head?, c ≠ '+' ∧ c ≠ '-' := by
  cases number with
  | whole run => exact fun c first => not_sign_of_isDigit (head?_of_areDigits run rest c first)
  | pointed run more =>
    rw [List.append_assoc]
    exact fun c first => not_sign_of_isDigit (head?_of_areDigits run _ c first)
  | fraction run =>
    rintro c ⟨⟩
    decide

/-- The matcher finds the decimal numbers, and nothing else. -/
theorem isNumeric_iff : isNumeric text = true ↔ IsDecimal text := by
  unfold isNumeric
  constructor
  · intro numeric
    split at numeric
    · rename_i rest skipped
      obtain ⟨sign, signed, same⟩ := exists_of_skipSign text
      obtain ⟨mantissa, number, split⟩ := exists_of_skipMantissa? skipped
      obtain ⟨exponent, ending, power, ends, rfl⟩ := isExponentTail_iff.mp numeric
      rw [same, split]
      exact .mk signed number power ends
    · cases numeric
  · rintro ⟨signed, number, power, ends⟩
    rw [skipSign_append signed (not_sign_of_isMantissa number _),
      skipMantissa?_append number (head?_of_tail power ends)]
    exact isExponentTail_iff.mpr ⟨_, _, power, ends, rfl⟩

/-! ### ASCII digits -/

def AsciiDigits (text : List Char) : Prop := text ≠ [] ∧ ∀ c ∈ text, c.isDigit = true

/-- The number that ASCII digits write, by the places of the digits. -/
def decimalValue (text : List Char) : Nat := Nat.ofDigits 10 (text.reverse.map fun c => c.toNat - '0'.toNat)

theorem AsciiDigits.isDecimal (ascii : AsciiDigits text) : IsDecimal text := by
  have run : AreDigits text := by
    refine ⟨ascii.1, fun c member => ?_⟩
    rw [isDigit, digitValue?_of_isDigit (ascii.2 c member)]
    rfl
  have number := IsDecimal.mk .absent (.whole run) .absent .absent
  simpa using number

theorem AsciiDigits.readInt (ascii : AsciiDigits text) (short : text.length ≤ Number.maxDigits) :
    Number.readInt text = .ok (decimalValue text) := by
  rw [Number.readInt_of_digits ascii.1 ascii.2, if_neg (Nat.not_lt.mpr short), Text.ofDigits_eq,
    Number.asciiValues, ← List.map_reverse]
  rfl

/-! ### Selectors -/

variable {label : String} {mode : NumericLabels}

theorem selector_of_empty (empty : label = "") (mode : NumericLabels) :
    selector mode label = .error (.formula (.unsupportedLabel label .empty)) := by
  subst empty
  rfl

theorem selector_of_digits (ascii : AsciiDigits label.toList) :
    selector mode label = match mode with
      | .index => if Number.maxDigits < label.length then .error (.misuse (.longInteger label.length))
        else .ok (.number (.int (decimalValue label.toList)))
      | .label => .ok (.str label)
      | .reject => .error (.formula (.unsupportedLabel label .numeric)) := by
  have present : label.toList.isEmpty = false := List.isEmpty_eq_false_iff.mpr ascii.1
  unfold selector
  dsimp only
  rw [present, isDigits_iff.mpr ascii, if_neg Bool.false_ne_true, if_pos rfl]
  cases mode with
  | label | reject => rfl
  | index =>
    dsimp only
    by_cases long : Number.maxDigits < label.length
    · rw [Number.readInt_of_digits ascii.1 ascii.2, String.length_toList, if_pos long, if_pos long]
      rfl
    · rw [ascii.readInt (by rw [String.length_toList]; omega), if_neg long]

theorem selector_of_other (present : label ≠ "") (other : ¬ AsciiDigits label.toList) (mode : NumericLabels) :
    selector mode label =
      if isNumeric label.toList then .error (.formula (.unsupportedLabel label .notIndex))
      else .ok (.str label) := by
  have nonempty : label.toList.isEmpty = false := by
    rw [List.isEmpty_eq_false_iff]
    simpa using present
  have nodigits : isDigits label.toList = false :=
    Bool.eq_false_iff.mpr fun digits => other (isDigits_iff.mp digits)
  unfold selector
  dsimp only
  rw [nonempty, nodigits, if_neg Bool.false_ne_true, if_neg Bool.false_ne_true]

end Label

namespace Formula

theorem resolve_element (ctx : Context) {b : Builder} {first : Parameter} {rest : Scope}
    (current : b.currentScope ctx.outer = first :: rest) (label : String) :
    resolve ctx ("$" ++ label) b = match Label.selector ctx.labels label with
      | .ok selector => .ok (.element first.name selector) b
      | .error fault => .error fault b := by
  unfold resolve
  rw [identifierForm_eq_element.mpr rfl]
  dsimp only
  generalize b.currentScope ctx.outer = scope at current
  subst current
  rfl

/-- Where a parameter is visible, a dollar sign and a label select an element of the first one. ASCII digits
are the position that they write, or the label itself, or refused, as the options say; this is the only label
that is a position. Any other decimal number and the empty label are refused, and all else is a label as it
stands, whatever the options say. -/
theorem element_by_label {outer : List Scope} {b : Builder} {first : Parameter} {rest : Scope}
    (current : b.currentScope outer = first :: rest) {label : String}
    (short : label.length ≤ Number.maxDigits) :
    (∀ n : Int, resolve ⟨outer, .index⟩ ("$" ++ label) b = .ok (.element first.name (.number (.int n))) b ↔
      Label.AsciiDigits label.toList ∧ n = Label.decimalValue label.toList) ∧
    (Label.AsciiDigits label.toList → Label.IsDecimal label.toList ∧
      resolve ⟨outer, .label⟩ ("$" ++ label) b = .ok (.element first.name (.str label)) b ∧
      resolve ⟨outer, .reject⟩ ("$" ++ label) b = .error (.formula (.unsupportedLabel label .numeric)) b) ∧
    ∀ labels,
      (label ≠ "" → ¬ Label.IsDecimal label.toList →
        resolve ⟨outer, labels⟩ ("$" ++ label) b = .ok (.element first.name (.str label)) b) ∧
      (label = "" → resolve ⟨outer, labels⟩ ("$" ++ label) b =
        .error (.formula (.unsupportedLabel label .empty)) b) ∧
      (Label.IsDecimal label.toList → ¬ Label.AsciiDigits label.toList →
        resolve ⟨outer, labels⟩ ("$" ++ label) b = .error (.formula (.unsupportedLabel label .notIndex)) b) := by
  have resolves (labels : NumericLabels) := resolve_element ⟨outer, labels⟩ current label
  have other (labels : NumericLabels) (present : label ≠ "") (nondigits : ¬ Label.AsciiDigits label.toList) :
      resolve ⟨outer, labels⟩ ("$" ++ label) b =
        if Label.isNumeric label.toList then .error (.formula (.unsupportedLabel label .notIndex)) b
        else .ok (.element first.name (.str label)) b := by
    rw [resolves, Label.selector_of_other present nondigits]
    cases Label.isNumeric label.toList <;> rfl
  have empty : ¬ Label.IsDecimal [] := by
    rw [← Label.isNumeric_iff]
    decide
  refine ⟨fun n => ?_, fun ascii => ⟨ascii.isDecimal, ?_, ?_⟩, fun labels => ⟨fun present text => ?_,
    fun absent => ?_, fun decimal nondigits => ?_⟩⟩
  · by_cases ascii : Label.AsciiDigits label.toList
    · rw [resolves, Label.selector_of_digits ascii]
      dsimp only
      rw [if_neg (Nat.not_lt.mpr short)]
      simp [ascii, eq_comm]
    · -- any other label is itself the selector, or it is refused
      have refuted : resolve ⟨outer, .index⟩ ("$" ++ label) b ≠ .ok (.element first.name (.number (.int n))) b := by
        by_cases absent : label = ""
        · rw [resolves, Label.selector_of_empty absent]
          exact nofun
        · rw [other .index absent ascii]
          split <;> exact nofun
      exact iff_of_false refuted fun position => ascii position.1
  · rw [resolves, Label.selector_of_digits ascii]
  · rw [resolves, Label.selector_of_digits ascii]
  · have nondigits : ¬ Label.AsciiDigits label.toList := fun ascii => text ascii.isDecimal
    rw [other labels present nondigits, if_neg fun numeric => text (Label.isNumeric_iff.mp numeric)]
  · rw [resolves, Label.selector_of_empty absent]
  · have present : label ≠ "" := by
      rintro rfl
      exact empty decimal
    rw [other labels present nondigits, if_pos (Label.isNumeric_iff.mpr decimal)]

/-- What a label selects in a callback over data, where there are no nodes. -/
def callbackLabel (labels : NumericLabels) (label : String) : EStateM.Result Fault Builder Value :=
  resolve ⟨[[⟨"data", ""⟩]], labels⟩ ("$" ++ label) (.empty (.ofOperations []) none)

/-- Leading zeros count in a label and not in a position. A digit of another script with a line feed behind it is
a number, and two points are none. -/
theorem callbackLabel_by_label : ∃ b,
    callbackLabel .index "007" = .ok (.element "data" (.number (.int 7))) b ∧
    callbackLabel .label "007" = .ok (.element "data" (.str "007")) b ∧
    callbackLabel .reject "007" = .error (.formula (.unsupportedLabel "007" .numeric)) b ∧
    (∀ labels, callbackLabel labels "\u0663.e-1\n" =
      .error (.formula (.unsupportedLabel "\u0663.e-1\n" .notIndex)) b) ∧
    (∀ labels, callbackLabel labels "" = .error (.formula (.unsupportedLabel "" .empty)) b) ∧
    ∀ labels, callbackLabel labels "1..2" = .ok (.element "data" (.str "1..2")) b := by
  have classified (label : String) (short : label.length ≤ Number.maxDigits) :=
    @element_by_label [[⟨"data", ""⟩]] (.empty (.ofOperations []) none) _ _ rfl label short
  obtain ⟨position, named, _⟩ := classified "007" (by decide)
  obtain ⟨_, _, scripted⟩ := classified "\u0663.e-1\n" (by decide)
  obtain ⟨_, _, empty⟩ := classified "" (by decide)
  obtain ⟨_, _, pointed⟩ := classified "1..2" (by decide)
  have ascii : Label.AsciiDigits "007".toList := Label.isDigits_iff.mp (by decide)
  obtain ⟨_, label, reject⟩ := named ascii
  refine ⟨_, (position 7).mpr ⟨ascii, by decide⟩, label, reject, fun labels => ?_,
    fun labels => (empty labels).2.1 rfl, fun labels => (pointed labels).1 (by decide) ?_⟩
  · refine (scripted labels).2.2 (Label.isNumeric_iff.mp (by decide)) fun ascii => ?_
    exact absurd (ascii.2 '\u0663' (by decide)) (by decide)
  · rw [← Label.isNumeric_iff]
    decide

end Formula
end FormulaGraph
