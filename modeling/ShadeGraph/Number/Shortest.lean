import ShadeGraph.Number.Binary

/-!
# Shortest decimals

The decimal with the fewest significant digits that reads back as a given
double, and of those the nearest to it. A decimal reads back when it lies in
the interval of reals that round to the double, whose ends belong to it exactly
when the significand is even. All comparisons are of whole numbers.
-/

namespace ShadeGraph

/-- The number `0.d₁d₂… * 10 ^ point` for the digits `d₁d₂…`. -/
structure Decimal where
  digits : List Char
  point : Int
deriving DecidableEq

namespace Decimal

def digitCount (n : Nat) : Nat := (Nat.toDigits 10 n).length

/-- The number `c * 10 ^ exponent`, without trailing zeros. -/
def ofScaled (c : Nat) (exponent : Int) : Decimal :=
  let digits := Nat.toDigits 10 c
  ⟨(digits.reverse.dropWhile (· = '0')).reverse, exponent + digits.length⟩

/-- The `point` of `num / den`: the `p` with `10 ^ (p - 1) ≤ num / den < 10 ^ p`. -/
def pointOf (num den : Nat) : Int :=
  if den ≤ num then digitCount (num / den)
  else 1 - (digitCount ((den + num - 1) / num - 1) : Int)

/-- The reals that round to a double: those from `low / den` to `high / den`
around `value / den`, the ends included if `closed`. -/
structure Interval where
  low : Nat
  value : Nat
  high : Nat
  den : Nat
  closed : Bool

/-- A quarter of the last binary place is the unit, and the interval is half as
wide below a power of two, where doubles lie twice as dense. -/
def Interval.of (m : Nat) (q : Int) : Interval :=
  let up := Nat.pow 2 q.toNat
  let below := if m = Nat.pow 2 52 ∧ -1074 < q then 1 else 2
  ⟨(4 * m - below) * up, 4 * m * up, (4 * m + 2) * up, 4 * Nat.pow 2 (-q).toNat, m % 2 = 0⟩

/-- Whether `c * 10 ^ exponent` lies in the interval. -/
def Interval.contains (r : Interval) (c : Nat) (exponent : Int) : Bool :=
  let x := c * Nat.pow 10 exponent.toNat * r.den
  let scale := Nat.pow 10 (-exponent).toNat
  if r.closed then r.low * scale ≤ x && x ≤ r.high * scale
  else r.low * scale < x && x < r.high * scale

/-- Of the two neighbours of the value on the grid of multiples of
`10 ^ exponent` the nearer one in the interval; an exact tie goes to the even. -/
def Interval.neighbour? (r : Interval) (exponent : Int) : Option Nat :=
  let num := r.value * Nat.pow 10 (-exponent).toNat
  let den := r.den * Nat.pow 10 exponent.toNat
  let c := num / den
  let twice := 2 * (num % den)
  match r.contains c exponent && c ≠ 0, r.contains (c + 1) exponent with
  | true, true =>
    if twice < den then some c
    else if den < twice then some (c + 1)
    else some (if c % 2 = 0 then c else c + 1)
  | true, false => some c
  | false, true => some (c + 1)
  | false, false => none

/-- The grids of one to seventeen digits, the coarsest first; the finest always
has a neighbour in the interval. -/
def shortest (m : Nat) (q : Int) : Decimal :=
  let r := Interval.of m q
  let point := pointOf r.value r.den
  let grid (digits : Nat) : Option Decimal :=
    (r.neighbour? (point - digits)).map (ofScaled · (point - digits))
  ((List.range' 1 17).findSome? grid).getD ⟨[], 0⟩

example : shortest (3 * 2 ^ 51) (-52) = ⟨['1', '5'], 1⟩ := by decide +kernel
example : shortest 1 (-1074) = ⟨['5'], -323⟩ := by decide +kernel
example : shortest (2 ^ 52) (-52) = ⟨['1'], 1⟩ := by decide +kernel

end Decimal
end ShadeGraph
