/-!
# Halves of code pairs

A character beyond sixteen bits is written as a pair of codes, a high and a low one. Half a pair by
itself is no character, and still a text may have one. It is held as a character of the last private
plane, and `codeOf` gives the code back: `codeOf_ofCode` says that no code is lost.
-/

namespace FormulaGraph.Text

def isHighHalf (code : Nat) : Bool := 0xd800 ≤ code && code < 0xdc00

def isLowHalf (code : Nat) : Bool := 0xdc00 ≤ code && code < 0xe000

/-- How far the characters that stand for halves are from their codes. -/
def halfShift : Nat := 0x100000

def ofPair (high low : Nat) : Char := Char.ofNat (0x10000 + (high - 0xd800) * 0x400 + (low - 0xdc00))

/-- The character of a code, or the one that stands for half a pair. -/
def ofCode (code : Nat) : Char :=
  if isHighHalf code || isLowHalf code then Char.ofNat (halfShift + code) else Char.ofNat code

def isHalf (c : Char) : Bool := 0x10d800 ≤ c.toNat && c.toNat < 0x10e000

def codeOf (c : Char) : Nat := if isHalf c then c.toNat - halfShift else c.toNat

/-- Where the first halves of pairs in a text are: how many characters stand before them, and their
codes. -/
def halves? (text : List Char) : Option (Nat × List Nat) :=
  match text.span fun c => !isHalf c with
  | (_, []) => none
  | (before, rest) => some (before.length, (rest.takeWhile isHalf).map codeOf)

theorem toNat_ofNat_of_isValidChar {code : Nat} (valid : code.isValidChar) :
    (Char.ofNat code).toNat = code := by
  rw [Char.ofNat, dif_pos valid]
  rfl

theorem codeOf_ofCode {code : Nat} (small : code < 0x10000) : codeOf (ofCode code) = code := by
  unfold ofCode
  split
  · rename_i half
    simp only [isHighHalf, isLowHalf, Bool.or_eq_true, Bool.and_eq_true, decide_eq_true_eq] at half
    have same : (Char.ofNat (halfShift + code)).toNat = halfShift + code := by
      apply toNat_ofNat_of_isValidChar
      unfold Nat.isValidChar halfShift
      omega
    have stands : isHalf (Char.ofNat (halfShift + code)) = true := by
      unfold isHalf
      rw [same, Bool.and_eq_true, decide_eq_true_eq, decide_eq_true_eq]
      unfold halfShift
      omega
    rw [codeOf, if_pos stands, same]
    omega
  · rename_i whole
    simp only [isHighHalf, isLowHalf, Bool.or_eq_true, Bool.and_eq_true, decide_eq_true_eq, not_or] at whole
    have same : (Char.ofNat code).toNat = code := by
      apply toNat_ofNat_of_isValidChar
      unfold Nat.isValidChar
      omega
    have itself : ¬ isHalf (Char.ofNat code) = true := by
      unfold isHalf
      simp only [same, Bool.and_eq_true, decide_eq_true_eq]
      omega
    rw [codeOf, if_neg itself, same]

end FormulaGraph.Text
