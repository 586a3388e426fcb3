import ShadeGraph.Number.Arithmetic

/-! Scalar functions that the colour operations are made of: clamping, guarded
division, rounding and the smooth steps. -/

namespace ShadeGraph

variable {α : Type} [Arithmetic α]

/-- With crossed bounds the lower one wins. -/
def clamp (x lo hi : α) : α := max (min x hi) lo

def saturate (x : α) : α := clamp x 0 1

def fract (x : α) : α := x - Arithmetic.floor x

def safeDivide (a b : α) : α := if b == 0 then 0 else a / b

/-- The nearest integer, a half going to the even neighbour. -/
def roundHalfEven (x : α) : α :=
  if Arithmetic.abs (Arithmetic.rem x 1) == 0.5 then 2 * Arithmetic.round (x / 2)
  else Arithmetic.round x

def smoothstep (edge0 edge1 x : α) : α :=
  let t := safeDivide (x - edge0) (edge1 - edge0)
  if x < edge0 then 0
  else if edge1 ≤ x then 1
  else (3 - 2 * t) * (t * t)

def smootherstep (edge0 edge1 x : α) : α :=
  let t := clamp (safeDivide (x - edge0) (edge1 - edge0)) 0 1
  t * t * t * (t * (t * 6 - 15) + 10)

/-- The lesser of two numbers, rounded off where they are less than `c` apart. -/
def smoothMin (a b c : α) : α :=
  if c == 0 then min a b
  else
    let h := safeDivide (max (c - Arithmetic.abs (a - b)) 0) c
    min a b - h * h * h * c * (1 / 6)

def smoothMax (a b c : α) : α := -smoothMin (-a) (-b) c

end ShadeGraph
