/-!
# Decimal digits

Every script of Unicode that counts in tens has ten consecutive digits. `digitValue?` reads a
digit of any of them; `digitValue?_lt` says that what it reads is below ten. A hexadecimal digit is one
of ASCII, or a letter up to f.
-/

namespace FormulaGraph.Text

/-- The code points of the digit zero in each script, in order. -/
def zeroDigits : List Nat :=
  [48, 1632, 1776, 1984, 2406, 2534, 2662, 2790, 2918, 3046, 3174, 3302, 3430, 3558, 3664, 3792,
   3872, 4160, 4240, 6112, 6160, 6470, 6608, 6784, 6800, 6992, 7088, 7232, 7248, 42528, 43216,
   43264, 43472, 43504, 43600, 44016, 65296, 66720, 68912, 69734, 69872, 69942, 70096, 70384,
   70736, 70864, 71248, 71360, 71472, 71904, 72016, 72784, 73040, 73120, 92768, 92864, 93008,
   120782, 120792, 120802, 120812, 120822, 123200, 123632, 125264, 130032]

def digitValue? (c : Char) : Option Nat :=
  if c.toNat < 128 then
    if '0' ≤ c ∧ c ≤ '9' then some (c.toNat - '0'.toNat) else none
  else
    (zeroDigits.find? fun start => start ≤ c.toNat && c.toNat < start + 10).map (c.toNat - ·)

def isDigit (c : Char) : Bool := (digitValue? c).isSome

theorem digitValue?_lt {c : Char} {d : Nat} (found : digitValue? c = some d) : d < 10 := by
  unfold digitValue? at found
  split at found
  · split at found
    · rename_i bounds
      have upper : c.toNat ≤ 57 := bounds.2
      simp only [Option.some.injEq] at found
      have : '0'.toNat = 48 := rfl
      omega
    · simp at found
  · rw [Option.map_eq_some_iff] at found
    obtain ⟨start, member, rfl⟩ := found
    have bounds := List.find?_some member
    simp only [Bool.and_eq_true, decide_eq_true_eq] at bounds
    omega

def hexValue? (c : Char) : Option Nat :=
  if '0' ≤ c ∧ c ≤ '9' then some (c.toNat - '0'.toNat)
  else if 'a' ≤ c ∧ c ≤ 'f' then some (c.toNat - 'a'.toNat + 10)
  else if 'A' ≤ c ∧ c ≤ 'F' then some (c.toNat - 'A'.toNat + 10)
  else none

/-- The number that a list of decimal digits writes, most significant digit first. -/
def ofDigits (digits : List Nat) : Nat := digits.foldl (fun n d => 10 * n + d) 0

end FormulaGraph.Text
