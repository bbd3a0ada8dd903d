import FormulaGraph.Number.Basic
import FormulaGraph.Text.Blank
import FormulaGraph.Text.Digit

/-!
# Reading numbers

An integer is an optional sign and decimal digits, with single underscores between them; a
floating-point number may have a point, an exponent, or be a word for infinity or for no number.
Blanks around a number do not count. `Number.read?` prefers the integer.
-/

namespace FormulaGraph.Number

open Text

def tooLongMessage (digits : Nat) : String :=
  "Exceeds the limit (" ++ intText maxDigits ++
    " digits) for integer string conversion: value has " ++ intText digits ++
    " digits; use sys.set_int_max_str_digits() to increase the limit"

def hugeMessage : String :=
  "Exceeds the limit (" ++ intText maxDigits ++
    " digits) for integer string conversion; use sys.set_int_max_str_digits() to increase the limit"

inductive IntFault where
  /-- It is not a sign and digits. -/
  | malformed
  /-- It has more digits than are read. -/
  | tooLong (digits : Nat)
deriving DecidableEq

def takeSign : List Char → Bool × List Char
  | '-' :: rest => (true, rest)
  | '+' :: rest => (false, rest)
  | rest => (false, rest)

def inDigits (c : Char) : Bool := isDigit c || c == '_'

/-- Digits with single underscores between them, as the list of their values. -/
def groupedDigits? : List Char → Option (List Nat)
  | [] => none
  | [c] => (digitValue? c).map ([·])
  | c :: '_' :: rest => do return (← digitValue? c) :: (← groupedDigits? rest)
  | c :: d :: rest => do return (← digitValue? c) :: (← groupedDigits? (d :: rest))

/-- The integer that a text writes. Digits beyond the limit are refused before what follows them
is looked at. -/
def readInt (text : List Char) : Except IntFault Int :=
  let (negative, body) := takeSign (trimStart isBlankInNumeral text)
  match groupedDigits? (body.takeWhile inDigits) with
  | none => .error .malformed
  | some digits =>
    if maxDigits < digits.length then .error (.tooLong digits.length)
    else if (body.dropWhile inDigits).all isBlankInNumeral then
      .ok (if negative then -(ofDigits digits : Int) else ofDigits digits)
    else .error .malformed

/-- The characters of a text with each decimal digit in ASCII and each underscore between two
digits left out; none if an underscore stands elsewhere. -/
def plainDigits? : List Char → Option (List Char)
  | [] => some []
  | '_' :: _ => none
  | c :: '_' :: d :: rest =>
    match digitValue? c, digitValue? d with
    | some n, some _ => (plainDigits? (d :: rest)).map (Char.ofNat ('0'.toNat + n) :: ·)
    | _, _ => none
  | c :: rest =>
    let plain := match digitValue? c with
      | some n => Char.ofNat ('0'.toNat + n)
      | none => c
    (plainDigits? rest).map (plain :: ·)

def asciiValues (digits : List Char) : List Nat := digits.map fun c => c.toNat - '0'.toNat

/-- An exponent with its mark; an absent one is zero. -/
def readExponent? : List Char → Option Int
  | [] => some 0
  | mark :: rest =>
    if mark = 'e' ∨ mark = 'E' then
      let (negative, digits) := takeSign rest
      if digits ≠ [] ∧ digits.all Char.isDigit then
        let n := ofDigits (asciiValues digits)
        some (if negative then -(n : Int) else n)
      else none
    else none

def readDecimal? (negative : Bool) (text : List Char) : Option Binary64 :=
  let whole := text.takeWhile Char.isDigit
  let (fraction, rest) := match text.dropWhile Char.isDigit with
    | '.' :: rest => (rest.takeWhile Char.isDigit, rest.dropWhile Char.isDigit)
    | rest => ([], rest)
  if whole = [] ∧ fraction = [] then none
  else
    (readExponent? rest).map fun exponent =>
      let digits := ofDigits (asciiValues (whole ++ fraction))
      Binary64.ofDecimal negative digits (exponent - fraction.length)

def readFloat? (text : List Char) : Option Binary64 := do
  let plain ← plainDigits? (trimList isBlankInNumeral text)
  let (negative, body) := takeSign plain
  let word := String.ofList (body.map Char.toLower)
  if word = "inf" ∨ word = "infinity" then
    return Binary64.infinity negative
  else if word = "nan" then
    return if negative then Binary64.nan.neg else Binary64.nan
  else readDecimal? negative body

/-- The number that a text without blanks at its ends writes, an integer if it can be. -/
def read? (text : String) : Option Number :=
  match readInt text.toList with
  | .ok n => some (.int n)
  | .error _ => (readFloat? text.toList).map .float

end FormulaGraph.Number
