import FormulaGraph.Number.Reader

/-!
# Integers on a command line

An integer is written with ASCII digits. Zeros in front do not count, nor does a fraction of zeros,
and single underscores may stand between digits.
-/

namespace FormulaGraph.CommandLine

open Text (isBlankInNumeral ofDigits trimList)

/-- The integer that characters write with an optional minus and digits, the first of them zero only
if it is the only one. There may be as many characters as an integer may have digits. -/
def plainInteger? (cs : List Char) : Option Int :=
  let (negative, digits) := match cs with
    | '-' :: rest => (true, rest)
    | rest => (false, rest)
  let zeroFirst := digits.head? = some '0' && digits ≠ ['0']
  if digits.isEmpty || !digits.all Char.isDigit || zeroFirst || Number.maxDigits < cs.length then none
  else
    let n := ofDigits (Number.asciiValues digits)
    some (if negative then -n else n)

/-- The characters behind zeros and underscores; `last` is the one before them. Of zeros alone the
last one is left, and so it is before a point. -/
def dropZeros (last : Char) : List Char → Option (List Char)
  | [] => some [last]
  | c :: rest =>
    if c = '0' ∨ c = '_' then dropZeros c rest
    else if c.isDigit ∨ c = '-' then some (c :: rest)
    else if c = '.' then some (last :: c :: rest)
    else none

def withoutZeros : List Char → Option (List Char)
  | [] => none
  | c :: rest =>
    if c = '0' then dropZeros c rest
    else if c.isDigit ∨ c = '-' then some (c :: rest)
    else none

def withoutFraction (cs : List Char) : List Char :=
  match cs.dropWhile (· ≠ '.') with
  | '.' :: c :: rest => if (c :: rest).all (· = '0') then cs.takeWhile (· ≠ '.') else cs
  | _ => cs

/-- Characters without single underscores between other ones; none if there are others. -/
def withoutUnderscores : List Char → Option (List Char)
  | [] => some []
  | ['_'] => none
  | '_' :: _ => none
  | c :: '_' :: d :: rest => if d = '_' then none else (withoutUnderscores (d :: rest)).map (c :: ·)
  | c :: rest => (withoutUnderscores rest).map (c :: ·)

/-- The integer that characters without a sign write in any of the ways there are; what is left of
them may bring a sign of its own. -/
def looseInteger? (negative : Bool) (cs : List Char) : Option Int := do
  let digits ← withoutUnderscores (withoutFraction (← withoutZeros cs))
  plainInteger? (if negative then '-' :: digits else digits)

def readInteger? (text : String) : Option Int :=
  let cs := trimList isBlankInNumeral text.toList
  match plainInteger? cs with
  | some n => some n
  | none =>
    match cs with
    | '-' :: rest => looseInteger? true rest
    | '+' :: '-' :: _ => none
    | '+' :: rest => looseInteger? false rest
    | rest => looseInteger? false rest

end FormulaGraph.CommandLine
