/-!
# Blank characters

`isBlank` holds of spaces, line ends and the other characters that separate words without being
seen; `isBlankInNumeral` leaves out the four information separators, which a numeral may not have
around it. `trim` takes the blanks off both ends: `trimStart_eq_self` says that nothing else is
taken.
-/

namespace FormulaGraph.Text

def isBlank (c : Char) : Bool :=
  let n := c.toNat
  (9 ≤ n && n ≤ 13) || (28 ≤ n && n ≤ 32) || n == 0x85 || n == 0xa0 || n == 0x1680 ||
    (0x2000 ≤ n && n ≤ 0x200a) || n == 0x2028 || n == 0x2029 || n == 0x202f || n == 0x205f ||
    n == 0x3000

/-- Whether a character is blank and may stand before or after a numeral. -/
def isBlankInNumeral (c : Char) : Bool :=
  isBlank c && !(28 ≤ c.toNat && c.toNat ≤ 31)

def trimStart (skip : Char → Bool) (cs : List Char) : List Char := cs.dropWhile skip

def trimEnd (skip : Char → Bool) (cs : List Char) : List Char :=
  (cs.reverse.dropWhile skip).reverse

/-- The characters between the first and the last one that do not satisfy `skip`. -/
def trimList (skip : Char → Bool) (cs : List Char) : List Char := trimEnd skip (trimStart skip cs)

theorem trimStart_eq_self {skip : Char → Bool} {c : Char} {cs : List Char}
    (kept : skip c = false) : trimStart skip (c :: cs) = c :: cs := by
  simp [trimStart, kept]

theorem trimEnd_eq_self {skip : Char → Bool} {c : Char} {cs : List Char}
    (kept : skip c = false) : trimEnd skip (cs ++ [c]) = cs ++ [c] := by
  simp [trimEnd, kept]

def trim (text : String) : String := String.ofList (trimList isBlank text.toList)

end FormulaGraph.Text
