import ShadeGraph.Number.Arithmetic
import ShadeGraph.Number.Binary

/-! Doubles as numbers of the library. A number that is not one spreads
through `min` and `max`, which order the zeros as they are signed, and every
rounding keeps the sign of a zero that it yields. -/

namespace ShadeGraph.Double

def isNegative (x : Float) : Bool := (Binary.ofFloat x).isNegative

def min (a b : Float) : Float :=
  if a.isNaN then a
  else if b.isNaN then b
  else if a < b then a
  else if b < a then b
  else if isNegative a then a else b

def max (a b : Float) : Float :=
  if a.isNaN then a
  else if b.isNaN then b
  else if a < b then b
  else if b < a then a
  else if isNegative a then b else a

def trunc (x : Float) : Float := if x < 0 then x.ceil else x.floor

/-- The nearest whole number, a half going up. The distance to the floor is
compared, because adding a half may round. -/
def round (x : Float) : Float :=
  let below := x.floor
  let nearest := if x - below ≥ 0.5 then below + 1 else below
  if nearest == 0 && isNegative x then -0.0 else nearest

def sign (x : Float) : Float := if x > 0 then 1 else if x < 0 then -1 else x

def rem (a b : Float) : Float := ((Binary.ofFloat a).rem (Binary.ofFloat b)).toFloat

/-- A power, except that an unknown exponent gives an unknown power and that a
base of magnitude one has no limit at an infinite exponent. -/
def pow (x y : Float) : Float :=
  if y.isNaN then y
  else if y.isInf && x.abs == 1 then 0 / 0
  else x.pow y

instance : Arithmetic Float where
  toAdd := instAddFloat
  toSub := instSubFloat
  toMul := instMulFloat
  toDiv := instDivFloat
  toNeg := instNegFloat
  toLT := instLTFloat
  toLE := instLEFloat
  toBEq := instBEqFloat
  toMin := ⟨min⟩
  toMax := ⟨max⟩
  toOfScientific := instOfScientificFloat
  toOfNat n := ⟨Float.ofNat n⟩
  decideLT := Float.decLt
  decideLE := Float.decLe
  abs := Float.abs
  floor := Float.floor
  ceil := Float.ceil
  trunc := trunc
  round := round
  sign := sign
  rem := rem
  natural? x := (Binary.ofFloat x).natural?

instance : Elementary Float where
  pi := 3.141592653589793
  sqrt := Float.sqrt
  pow := pow
  exp := Float.exp
  log := Float.log
  sin := Float.sin
  cos := Float.cos
  tan := Float.tan
  asin := Float.asin
  acos := Float.acos
  atan := Float.atan
  atan2 := Float.atan2
  sinh := Float.sinh
  cosh := Float.cosh
  tanh := Float.tanh

end ShadeGraph.Double
