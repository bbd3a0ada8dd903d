/-!
# Binary floating-point numbers of 64 bits

A number is its bits: a sign, eleven bits of exponent and fifty-two of fraction. All arithmetic on
the values is exact arithmetic of natural numbers. `ofRatio` rounds a quotient to the nearest
number, a half to the even one; `magnitude?` takes the bits apart again.
-/

namespace FormulaGraph

structure Binary64 where
  /-- Sign, exponent and fraction, from the highest bit to the lowest. -/
  bits : UInt64
deriving DecidableEq, Inhabited

namespace Binary64

def signBit : Nat := 0x8000000000000000

/-- The weight of the lowest bit of the exponent. -/
def exponentUnit : Nat := 0x10000000000000

def infinityBits : Nat := 2047 * exponentUnit

/-- A number by its sign and the bits of its magnitude. -/
def ofMagnitude (negative : Bool) (magnitude : Nat) : Binary64 :=
  ⟨UInt64.ofNat (magnitude + if negative then signBit else 0)⟩

def infinity (negative : Bool) : Binary64 := ofMagnitude negative infinityBits

def nan : Binary64 := ofMagnitude false (infinityBits + exponentUnit / 2)

def zero : Binary64 := ofMagnitude false 0

def isNegative (x : Binary64) : Bool := signBit ≤ x.bits.toNat

def magnitudeBits (x : Binary64) : Nat := x.bits.toNat % signBit

def isNan (x : Binary64) : Bool := infinityBits < x.magnitudeBits

def isInfinite (x : Binary64) : Bool := x.magnitudeBits == infinityBits

def isZero (x : Binary64) : Bool := x.magnitudeBits == 0

def neg (x : Binary64) : Binary64 := ofMagnitude (!x.isNegative) x.magnitudeBits

/-- The exponent of the lowest bit of every number below the smallest normal one. -/
def minExponent : Int := -1074

/-- The magnitude of a finite number as `m * 2 ^ q`. -/
def magnitude? (x : Binary64) : Option (Nat × Int) :=
  let exponent := x.magnitudeBits / exponentUnit
  let fraction := x.magnitudeBits % exponentUnit
  if exponent = 2047 then none
  else if exponent = 0 then some (fraction, minExponent)
  else some (exponentUnit + fraction, (exponent : Int) - 1 + minExponent)

/-- The quotient of two natural numbers as the nearest natural number, a half as the even one. -/
def roundHalfEven (num den : Nat) : Nat :=
  let floor := num / den
  let rest := num % den
  if 2 * rest < den then floor
  else if den < 2 * rest then floor + 1
  else floor + floor % 2

def scaled (num den : Nat) (q : Int) : Nat × Nat :=
  if 0 ≤ q then (num, den * Nat.pow 2 q.toNat) else (num * Nat.pow 2 (-q).toNat, den)

/-- The exponent at which the quotient `num / den` has fifty-three binary digits before the point,
or the smallest exponent there is. -/
def exponentFor (num den : Nat) : Int :=
  let high := max ((num.log2 : Int) - den.log2 - 52) minExponent
  let (n, d) := scaled num den high
  if n < exponentUnit * d ∧ minExponent < high then high - 1 else high

def ofRatio (negative : Bool) (num den : Nat) : Binary64 :=
  let q := exponentFor num den
  let (n, d) := scaled num den q
  let magnitude := (q - minExponent).toNat * exponentUnit + roundHalfEven n d
  ofMagnitude negative (min magnitude infinityBits)

def decimalLength (n : Nat) : Nat := if n = 0 then 0 else (Nat.toDigits 10 n).length

/-- The number nearest to `digits * 10 ^ exponent`. Beyond 310 places before the point it is
infinity, and beyond 330 zeros after it zero, so that no power is larger than the digits need. -/
def ofDecimal (negative : Bool) (digits : Nat) (exponent : Int) : Binary64 :=
  let places := exponent + decimalLength digits
  if digits = 0 ∨ places < -330 then ofMagnitude negative 0
  else if 310 < places then infinity negative
  else if 0 ≤ exponent then ofRatio negative (digits * Nat.pow 10 exponent.toNat) 1
  else ofRatio negative digits (Nat.pow 10 (-exponent).toNat)

def truncate? (x : Binary64) : Option Int :=
  x.magnitude?.map fun (m, q) =>
    let whole := if 0 ≤ q then m * Nat.pow 2 q.toNat else m / Nat.pow 2 (-q).toNat
    if x.isNegative then -(whole : Int) else whole

/-- The integer that a number is; none for a fraction. -/
def integer? (x : Binary64) : Option Int :=
  match x.magnitude? with
  | none => none
  | some (m, q) => if 0 ≤ q ∨ m % Nat.pow 2 (-q).toNat = 0 then x.truncate? else none

theorem magnitudeBits_lt (x : Binary64) : x.magnitudeBits < signBit :=
  Nat.mod_lt _ (by decide)

theorem toNat_ofMagnitude (negative : Bool) {magnitude : Nat} (small : magnitude < signBit) :
    (ofMagnitude negative magnitude).bits.toNat = magnitude + if negative then signBit else 0 := by
  have bound : signBit + signBit = UInt64.size := rfl
  have fits : (magnitude + if negative then signBit else 0) < UInt64.size := by
    split <;> omega
  rw [ofMagnitude, UInt64.toNat_ofNat', Nat.mod_eq_of_lt fits]

theorem magnitudeBits_ofMagnitude (negative : Bool) {magnitude : Nat}
    (small : magnitude < signBit) : (ofMagnitude negative magnitude).magnitudeBits = magnitude := by
  rw [magnitudeBits, toNat_ofMagnitude negative small]
  cases negative
  · simpa using Nat.mod_eq_of_lt small
  · simpa using Nat.mod_eq_of_lt small

theorem isNegative_ofMagnitude (negative : Bool) {magnitude : Nat} (small : magnitude < signBit) :
    (ofMagnitude negative magnitude).isNegative = negative := by
  rw [isNegative, toNat_ofMagnitude negative small]
  cases negative
  · simpa using small
  · simp

theorem ofMagnitude_isNegative_magnitudeBits (x : Binary64) :
    ofMagnitude x.isNegative x.magnitudeBits = x := by
  obtain ⟨bits⟩ := x
  have bound : signBit + signBit = UInt64.size := rfl
  have low := bits.toNat_lt_size
  rw [ofMagnitude, isNegative, magnitudeBits]
  congr 1
  apply UInt64.toNat_inj.mp
  rw [UInt64.toNat_ofNat']
  by_cases high : signBit ≤ bits.toNat
  · have lower : bits.toNat % signBit = bits.toNat - signBit := by
      rw [Nat.mod_eq_sub_mod high, Nat.mod_eq_of_lt (by omega)]
    have same : bits.toNat - signBit + signBit = bits.toNat := by omega
    simp only [high, decide_true, if_true, lower, same]
    exact Nat.mod_eq_of_lt low
  · have lower : bits.toNat % signBit = bits.toNat := Nat.mod_eq_of_lt (by omega)
    simp only [high, decide_false, Bool.false_eq_true, if_false, lower, Nat.add_zero]
    exact Nat.mod_eq_of_lt low

theorem neg_neg (x : Binary64) : x.neg.neg = x := by
  have small := x.magnitudeBits_lt
  rw [neg, neg, isNegative_ofMagnitude _ small, magnitudeBits_ofMagnitude _ small, Bool.not_not,
    ofMagnitude_isNegative_magnitudeBits]

end Binary64
end FormulaGraph
