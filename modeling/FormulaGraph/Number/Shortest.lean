import FormulaGraph.Number.Binary64

/-!
# The shortest decimal that reads back

Among the decimals that round to a binary number, those with the fewest digits are chosen, and of
them the nearest. A candidate is a point of a decimal grid: on the grid of `10 ^ k`, only the two
neighbours of the number can be the nearest point inside its rounding interval.
-/

namespace FormulaGraph.Binary64

/-- The rounding interval of a finite number in units of a quarter of its lowest bit: the ends, and
whether they belong to it. -/
structure Interval where
  low : Nat
  high : Nat
  closed : Bool

/-- The rounding interval of `m * 2 ^ q`, in units of `2 ^ (q - 2)`. Below a power of two the
neighbours are twice as near as above it. -/
def interval (m : Nat) (q : Int) : Interval where
  low := if m = exponentUnit ∧ minExponent < q then 4 * m - 1 else 4 * m - 2
  high := 4 * m + 2
  closed := m % 2 == 0

def Interval.contains (i : Interval) (p : Int) (n : Nat) (k : Int) : Bool :=
  -- n * 10 ^ k compared with end * 2 ^ p, all powers moved to the side where they are natural
  let point := n * Nat.pow 10 k.toNat * Nat.pow 2 (-p).toNat
  let unit := Nat.pow 2 p.toNat * Nat.pow 10 (-k).toNat
  if i.closed then i.low * unit ≤ point && point ≤ i.high * unit
  else i.low * unit < point && point < i.high * unit

def overGrid (m : Nat) (q k : Int) : Nat × Nat :=
  (m * Nat.pow 2 q.toNat * Nat.pow 10 (-k).toNat, Nat.pow 2 (-q).toNat * Nat.pow 10 k.toNat)

/-- The point of the grid of `10 ^ k` that reads back as `m * 2 ^ q`, the nearer one if both
neighbours do, the even one if they are equally near. -/
def gridPoint? (m : Nat) (q k : Int) : Option Nat :=
  let (num, den) := overGrid m q k
  let below := num / den
  let inside (n : Nat) : Bool := (interval m q).contains (q - 2) n k
  match inside below, inside (below + 1) with
  | true, true => some (roundHalfEven num den)
  | true, false => some below
  | false, true => some (below + 1)
  | false, false => none

/-- The decimal exponent of the first digit of `m * 2 ^ q`, where `m` is positive: the largest `e`
with `10 ^ e` not above the number. It is sought from an estimate that is never too small. -/
def leadingExponent (m : Nat) (q : Int) : Int :=
  let estimate : Int := (((m.log2 : Int) + 1 + q) * 30103).fdiv 100000 + 1
  let notAbove (e : Int) : Bool :=
    let (num, den) := overGrid m q e
    den ≤ num
  if notAbove estimate then estimate
  else if notAbove (estimate - 1) then estimate - 1
  else if notAbove (estimate - 2) then estimate - 2
  else estimate - 3

def firstPoint (m : Nat) (q : Int) : Nat → Int → Nat × Int
  | 0, k => (roundHalfEven (overGrid m q k).1 (overGrid m q k).2, k)
  | fuel + 1, k =>
    match gridPoint? m q k with
    | some n => (n, k)
    | none => firstPoint m q fuel (k - 1)

/-- Digits `n` and an exponent `k` such that `n * 10 ^ k` is the shortest decimal that reads back
as `m * 2 ^ q`, for positive `m`. Seventeen digits always do. -/
def shortest (m : Nat) (q : Int) : Nat × Int :=
  firstPoint m q 17 (leadingExponent m q + 1)

def stripZeros : Nat → Nat → Nat × Nat
  | 0, n => (n, 0)
  | fuel + 1, n =>
    if n % 10 = 0 ∧ n ≠ 0 then
      let (rest, count) := stripZeros fuel (n / 10)
      (rest, count + 1)
    else (n, 0)

/-- The digits of the shortest decimal of a finite number, none of them trailing zeros, and the
place of the decimal point counted from before the first digit. Zero has the one digit `0`. -/
def shortestDigits (m : Nat) (q : Int) : List Char × Int :=
  if m = 0 then (['0'], 1)
  else
    let (n, k) := shortest m q
    let (n, zeros) := stripZeros 20 n
    let digits := Nat.toDigits 10 n
    (digits, k + zeros + digits.length)

/-- Digits with the point after `point` of them. From sixteen places before the point and from four
zeros after it, the exponent is written apart with a sign and at least two digits; a whole number
keeps one zero after the point. -/
def placePoint (digits : List Char) (point : Int) : List Char :=
  if -4 < point ∧ point ≤ 16 then
    if point ≤ 0 then
      ['0', '.'] ++ List.replicate (-point).toNat '0' ++ digits
    else
      let whole := digits.take point.toNat ++ List.replicate (point.toNat - digits.length) '0'
      let rest := digits.drop point.toNat
      whole ++ '.' :: (if rest.isEmpty then ['0'] else rest)
  else
    let exponent := point - 1
    let mark := if exponent < 0 then '-' else '+'
    let places := Nat.toDigits 10 exponent.natAbs
    let padded := if places.length < 2 then '0' :: places else places
    let mantissa := match digits with
      | first :: second :: rest => first :: '.' :: second :: rest
      | short => short
    mantissa ++ 'e' :: mark :: padded

def decimal (x : Binary64) : String :=
  if x.isNan then "nan"
  else
    let mark := if x.isNegative then ['-'] else []
    match x.magnitude? with
    | none => String.ofList (mark ++ ['i', 'n', 'f'])
    | some (m, q) =>
      let (digits, point) := shortestDigits m q
      String.ofList (mark ++ placePoint digits point)

end FormulaGraph.Binary64
