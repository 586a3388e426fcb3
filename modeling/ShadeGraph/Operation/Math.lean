import ShadeGraph.Named
import ShadeGraph.Number.Shaping

/-! Scalar operations on up to three operands. Every one is total: outside its
domain it gives zero, or what the numbers themselves give. -/

namespace ShadeGraph

inductive MathOp
  | add | subtract | multiply | divide | multiplyAdd
  | power | logarithm | sqrt | inverseSqrt | absolute | exponent
  | minimum | maximum | lessThan | greaterThan | sign | compare
  | smoothMin | smoothMax
  | round | floor | ceil | trunc | fract | modulo | wrap | snap | pingpong
  | sine | cosine | tangent | arcsine | arccosine | arctangent | arctan2
  | sinh | cosh | tanh
  | radians | degrees
deriving DecidableEq

instance : Named MathOp where
  all := [.add, .subtract, .multiply, .divide, .multiplyAdd,
    .power, .logarithm, .sqrt, .inverseSqrt, .absolute, .exponent,
    .minimum, .maximum, .lessThan, .greaterThan, .sign, .compare,
    .smoothMin, .smoothMax,
    .round, .floor, .ceil, .trunc, .fract, .modulo, .wrap, .snap, .pingpong,
    .sine, .cosine, .tangent, .arcsine, .arccosine, .arctangent, .arctan2,
    .sinh, .cosh, .tanh,
    .radians, .degrees]
  name
    | .add => "ADD"
    | .subtract => "SUBTRACT"
    | .multiply => "MULTIPLY"
    | .divide => "DIVIDE"
    | .multiplyAdd => "MULTIPLY_ADD"
    | .power => "POWER"
    | .logarithm => "LOGARITHM"
    | .sqrt => "SQRT"
    | .inverseSqrt => "INVERSE_SQRT"
    | .absolute => "ABSOLUTE"
    | .exponent => "EXPONENT"
    | .minimum => "MINIMUM"
    | .maximum => "MAXIMUM"
    | .lessThan => "LESS_THAN"
    | .greaterThan => "GREATER_THAN"
    | .sign => "SIGN"
    | .compare => "COMPARE"
    | .smoothMin => "SMOOTH_MIN"
    | .smoothMax => "SMOOTH_MAX"
    | .round => "ROUND"
    | .floor => "FLOOR"
    | .ceil => "CEIL"
    | .trunc => "TRUNC"
    | .fract => "FRACT"
    | .modulo => "MODULO"
    | .wrap => "WRAP"
    | .snap => "SNAP"
    | .pingpong => "PINGPONG"
    | .sine => "SINE"
    | .cosine => "COSINE"
    | .tangent => "TANGENT"
    | .arcsine => "ARCSINE"
    | .arccosine => "ARCCOSINE"
    | .arctangent => "ARCTANGENT"
    | .arctan2 => "ARCTAN2"
    | .sinh => "SINH"
    | .cosh => "COSH"
    | .tanh => "TANH"
    | .radians => "RADIANS"
    | .degrees => "DEGREES"

section
variable {α : Type} [Arithmetic α]

/-- The remainder of division towards zero, zero for a zero divisor. -/
def modulo (a b : α) : α := if b == 0 then 0 else Arithmetic.rem a b

/-- Moves `a` by whole multiples of `b - c` into the range from `c` to `b`. -/
def wrap (a b c : α) : α :=
  let range := b - c
  if range == 0 then c else a - range * Arithmetic.floor ((a - c) / range)

def snap (a b : α) : α := if a == 0 || b == 0 then 0 else Arithmetic.floor (a / b) * b

/-- A triangle wave of height `b` and period `2 * b`. -/
def pingpong (a b : α) : α :=
  if b == 0 then 0 else Arithmetic.abs (fract ((a - b) / (b * 2)) * b * 2 - b)

variable [Elementary α]

/-- A negative base takes only exponents within a thousandth of an integer. -/
def power (a b : α) : α :=
  if 0 ≤ a then Elementary.pow a b
  else
    let part := Arithmetic.abs (Arithmetic.rem b 1)
    if 1 - 0.001 < part ∨ part < 0.001 then Elementary.pow a (Arithmetic.floor (b + 0.5)) else 0

def MathOp.apply (op : MathOp) (a b c : α) : α :=
  match op with
  | .add => a + b
  | .subtract => a - b
  | .multiply => a * b
  | .divide => safeDivide a b
  | .multiplyAdd => a * b + c
  | .power => ShadeGraph.power a b
  | .logarithm => if 0 < a ∧ 0 < b then Elementary.log a / Elementary.log b else 0
  | .sqrt => if 0 < a then Elementary.sqrt a else 0
  | .inverseSqrt => if 0 < a then 1 / Elementary.sqrt a else 0
  | .absolute => Arithmetic.abs a
  | .exponent => Elementary.exp a
  | .minimum => min a b
  | .maximum => max a b
  | .lessThan => if a < b then 1 else 0
  | .greaterThan => if b < a then 1 else 0
  | .sign => Arithmetic.sign a
  | .compare => if Arithmetic.abs (a - b) ≤ max c 1e-5 then 1 else 0
  | .smoothMin => ShadeGraph.smoothMin a b c
  | .smoothMax => ShadeGraph.smoothMax a b c
  | .round => roundHalfEven a
  | .floor => Arithmetic.floor a
  | .ceil => Arithmetic.ceil a
  | .trunc => Arithmetic.trunc a
  | .fract => ShadeGraph.fract a
  | .modulo => ShadeGraph.modulo a b
  | .wrap => ShadeGraph.wrap a b c
  | .snap => ShadeGraph.snap a b
  | .pingpong => ShadeGraph.pingpong a b
  | .sine => Elementary.sin a
  | .cosine => Elementary.cos a
  | .tangent => Elementary.tan a
  | .arcsine => Elementary.asin a
  | .arccosine => Elementary.acos a
  | .arctangent => Elementary.atan a
  | .arctan2 => Elementary.atan2 a b
  | .sinh => Elementary.sinh a
  | .cosh => Elementary.cosh a
  | .tanh => Elementary.tanh a
  | .radians => a * Elementary.pi / 180
  | .degrees => a * 180 / Elementary.pi

end
end ShadeGraph
