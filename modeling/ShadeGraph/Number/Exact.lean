import ShadeGraph.Number.Arithmetic

/-! The exact rationals as numbers of the library: no rounding, no signed
zero, no infinities. -/

namespace ShadeGraph

instance : Arithmetic Rat where
  toAdd := Rat.instAdd
  toSub := Rat.instSub
  toMul := Rat.instMul
  toDiv := Rat.instDiv
  toNeg := Rat.instNeg
  toLT := Rat.instLT
  toLE := Rat.instLE
  toBEq := instBEqOfDecidableEq
  toMin := Rat.instMin
  toMax := Rat.instMax
  toOfScientific := Rat.instOfScientific
  toOfNat _ := Rat.instOfNat
  decideLT := Rat.instDecidableLt
  decideLE := Rat.instDecidableLe
  abs := Rat.abs
  floor x := x.floor
  ceil x := x.ceil
  trunc x := if x < 0 then x.ceil else x.floor
  round x := (x + 1 / 2).floor
  sign x := if x < 0 then -1 else if 0 < x then 1 else 0
  rem a b := a - b * (if a / b < 0 then (a / b).ceil else (a / b).floor)
  natural? x := if x.den = 1 then x.num.toNat? else none

example : Arithmetic.rem (-7 / 2 : Rat) 2 = -3 / 2 := by decide +kernel
example : Arithmetic.round (-1 / 2 : Rat) = 0 := by decide +kernel

end ShadeGraph
