import FormulaGraph.Number.Shortest

/-!
# Numbers

A number is an integer of any size or a floating-point number; the two never mix, so `1` and `1.0`
are different numbers. An integer with more than `maxDigits` digits is a number like any other, but it
is neither read from a text nor written as one: `hasText` says which numbers are.
-/

namespace FormulaGraph

/-- A whole number, or a binary floating-point number. -/
inductive Number where
  | int (value : Int)
  | float (value : Binary64)
deriving DecidableEq, Inhabited

namespace Number

def neg : Number → Number
  | .int n => .int (-n)
  | .float x => .float x.neg

/-- The largest number of digits that an integer is read or written with. -/
def maxDigits : Nat := 4300

def hasText : Number → Bool
  | .int n => (Nat.toDigits 10 n.natAbs).length ≤ maxDigits
  | .float _ => true

def intText (n : Int) : String :=
  match n with
  | .ofNat m => String.ofList (Nat.toDigits 10 m)
  | .negSucc m => String.ofList ('-' :: Nat.toDigits 10 (m + 1))

/-- The decimal text of a number; that of a floating-point number has a point, an exponent or
letters, so the text tells the two kinds apart. -/
def text : Number → String
  | .int n => intText n
  | .float x => x.decimal

def isZero : Number → Bool
  | .int n => n == 0
  | .float x => x.isZero

theorem neg_neg (n : Number) : n.neg.neg = n := by
  cases n with
  | int n => simp [neg]
  | float x => simp [neg, Binary64.neg_neg]

end Number
end FormulaGraph
