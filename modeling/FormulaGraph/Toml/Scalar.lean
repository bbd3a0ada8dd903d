import FormulaGraph.Number.Reader
import FormulaGraph.Toml.Basic

/-!
# Numbers and moments in configuration files

Integers are decimal, or have a base of sixteen, eight or two; a single underscore may stand between
two digits. A moment is a date, a time of the day, or a date with a time and perhaps an offset.
-/

namespace FormulaGraph.Toml

inductive TextFault where
  | malformed
  /-- An integer has more digits than are read. -/
  | longInteger (digits : Nat)
deriving DecidableEq

/-! ### Numbers -/

/-- The digits that come next, with single underscores between them. -/
def digitRun (isDigit : Char → Bool) : List Char → List Char
  | c :: '_' :: d :: rest =>
    if isDigit c then
      if isDigit d then c :: '_' :: digitRun isDigit (d :: rest) else [c]
    else []
  | c :: rest => if isDigit c then c :: digitRun isDigit rest else []
  | [] => []

def runNumber (base : Nat) (run : List Char) : Nat :=
  (run.filterMap Text.hexValue?).foldl (fun n d => base * n + d) 0

def isDigitOf (base : Nat) (c : Char) : Bool := (Text.hexValue? c).any (· < base)

def readBased? (text : List Char) : Option (Int × List Char) :=
  let read (base : Nat) (rest : List Char) : Option (Int × List Char) :=
    let run := digitRun (isDigitOf base) rest
    if run.isEmpty then none else some (runNumber base run, rest.drop run.length)
  match text with
  | '0' :: 'x' :: rest => read 16 rest
  | '0' :: 'o' :: rest => read 8 rest
  | '0' :: 'b' :: rest => read 2 rest
  | _ => none

def signRun : List Char → List Char
  | c :: _ => if c == '+' || c == '-' then [c] else []
  | [] => []

/-- The whole part that comes next: a zero alone, or digits that start with another one. -/
def wholeRun (text : List Char) : List Char :=
  match text with
  | '0' :: _ => ['0']
  | _ => digitRun Char.isDigit text

def fractionRun : List Char → List Char
  | '.' :: rest =>
    let run := digitRun Char.isDigit rest
    if run.isEmpty then [] else '.' :: run
  | _ => []

def exponentRun : List Char → List Char
  | mark :: rest =>
    let sign := signRun rest
    let run := digitRun Char.isDigit (rest.drop sign.length)
    if (mark == 'e' || mark == 'E') && !run.isEmpty then mark :: (sign ++ run) else []
  | [] => []

/-- The decimal number that comes next; an integer, unless it has a fraction or an exponent. -/
def readDecimal? (text : List Char) : Option (Except TextFault (Number × List Char)) :=
  let sign := signRun text
  let rest := text.drop sign.length
  let whole := wholeRun rest
  let rest := rest.drop whole.length
  let fraction := fractionRun rest
  let rest := rest.drop fraction.length
  let exponent := exponentRun rest
  let rest := rest.drop exponent.length
  if whole.isEmpty then none
  else if fraction.isEmpty && exponent.isEmpty then
    match Number.readInt (sign ++ whole) with
    | .ok n => some (.ok (.int n, rest))
    | .error (.tooLong digits) => some (.error (.longInteger digits))
    | .error .malformed => none
  else
    (Number.readFloat? (sign ++ whole ++ fraction ++ exponent)).map fun x => .ok (.float x, rest)

def readNumberWord? (text : List Char) : Option (Number × List Char) :=
  let sign := signRun text
  let rest := text.drop sign.length
  let word := rest.take 3
  if word = "inf".toList ∨ word = "nan".toList then
    (Number.readFloat? (sign ++ word)).map fun x => (.float x, rest.drop 3)
  else none

def readNumber? (text : List Char) : Option (Except TextFault (Number × List Char)) :=
  match readBased? text with
  | some (n, rest) => some (.ok (.int n, rest))
  | none =>
    match readDecimal? text with
    | some result => some result
    | none => (readNumberWord? text).map .ok

/-! ### Moments -/

def twoDigits? (a b : Char) : Option Nat :=
  if a.isDigit && b.isDigit then some (10 * (a.toNat - '0'.toNat) + (b.toNat - '0'.toNat)) else none

structure Date where
  year : Nat
  month : Nat
  day : Nat

namespace Date

def isLeapYear (year : Nat) : Bool := year % 4 == 0 && (year % 100 != 0 || year % 400 == 0)

def daysIn (year month : Nat) : Nat :=
  if month = 2 then if isLeapYear year then 29 else 28
  else if month ∈ [4, 6, 9, 11] then 30
  else 31

/-- Whether there is a day of this date; years count from one. -/
def isValid (d : Date) : Bool := 0 < d.year && d.day ≤ daysIn d.year d.month

end Date

def readDate? : List Char → Option (Date × List Char)
  | a :: b :: c :: d :: '-' :: e :: f :: '-' :: g :: h :: rest => do
    let year := 100 * (← twoDigits? a b) + (← twoDigits? c d)
    let month ← twoDigits? e f
    let day ← twoDigits? g h
    guard (1 ≤ month ∧ month ≤ 12 ∧ 1 ≤ day ∧ day ≤ 31)
    return (⟨year, month, day⟩, rest)
  | _ => none

def skipPlaces (text : List Char) : List Char :=
  match text with
  | '.' :: rest => if (rest.head?).any Char.isDigit then rest.dropWhile Char.isDigit else text
  | _ => text

def skipTime? : List Char → Option (List Char)
  | a :: b :: ':' :: c :: d :: ':' :: e :: f :: rest => do
    let hour ← twoDigits? a b
    let minute ← twoDigits? c d
    let second ← twoDigits? e f
    if hour < 24 ∧ minute < 60 ∧ second < 60 then some (skipPlaces rest) else none
  | _ => none

def skipOffset (text : List Char) : List Char :=
  match text with
  | 'Z' :: rest => rest
  | 'z' :: rest => rest
  | sign :: a :: b :: ':' :: c :: d :: rest =>
    match twoDigits? a b, twoDigits? c d with
    | some hour, some minute =>
      if (sign == '+' || sign == '-') && hour < 24 && minute < 60 then rest else text
    | _, _ => text
  | _ => text

/-- What follows the time with its offset that comes next, behind the letter or space between it and a
date. -/
def skipTimeOfDate? : List Char → Option (List Char)
  | mark :: rest =>
    if mark == 'T' || mark == 't' || mark == ' ' then (skipTime? rest).map skipOffset else none
  | [] => none

def momentBefore (kind : MomentKind) (text rest : List Char) : Toml × List Char :=
  (.moment kind (String.ofList (text.take (text.length - rest.length))), rest)

/-- The moment that comes next; a date that no calendar has is refused. -/
def readMoment? (text : List Char) : Option (Except TextFault (Toml × List Char)) :=
  match readDate? text with
  | some (date, afterDate) =>
    if date.isValid then
      match skipTimeOfDate? afterDate with
      | some rest => some (.ok (momentBefore .dateTime text rest))
      | none => some (.ok (momentBefore .date text afterDate))
    else some (.error .malformed)
  | none => (skipTime? text).map fun rest => .ok (momentBefore .time text rest)

end FormulaGraph.Toml
