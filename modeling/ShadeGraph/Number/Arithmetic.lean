/-!
# Arithmetic

Every rule of the library is written once, over a type of numbers with the
operations below, and is read over doubles when it runs and over exact
rationals when it is reasoned about. The transcendental functions stand in a
class of their own, because rationals have none.
-/

namespace ShadeGraph

class Arithmetic (α : Type) where
  toAdd : Add α
  toSub : Sub α
  toMul : Mul α
  toDiv : Div α
  toNeg : Neg α
  toLT : LT α
  toLE : LE α
  toBEq : BEq α
  toMin : Min α
  toMax : Max α
  toOfScientific : OfScientific α
  toOfNat : (n : Nat) → OfNat α n
  decideLT : DecidableLT α
  decideLE : DecidableLE α
  abs : α → α
  floor : α → α
  ceil : α → α
  trunc : α → α
  /-- The nearest integer, a half going up. -/
  round : α → α
  sign : α → α
  /-- The remainder of division towards zero. -/
  rem : α → α → α
  /-- The number as a count, if it is one. -/
  natural? : α → Option Nat

namespace Arithmetic

variable {α : Type} [numbers : Arithmetic α]

instance (priority := low) addition : Add α := numbers.toAdd
instance (priority := low) subtraction : Sub α := numbers.toSub
instance (priority := low) multiplication : Mul α := numbers.toMul
instance (priority := low) division : Div α := numbers.toDiv
instance (priority := low) negation : Neg α := numbers.toNeg
instance (priority := low) less : LT α := numbers.toLT
instance (priority := low) lessOrEqual : LE α := numbers.toLE
instance (priority := low) equality : BEq α := numbers.toBEq
instance (priority := low) minimum : Min α := numbers.toMin
instance (priority := low) maximum : Max α := numbers.toMax
instance (priority := low) decimals : OfScientific α := numbers.toOfScientific
instance (priority := low) numerals (n : Nat) : OfNat α n := numbers.toOfNat n
instance (priority := low) decidableLess : DecidableLT α := numbers.decideLT
instance (priority := low) decidableLessOrEqual : DecidableLE α := numbers.decideLE

end Arithmetic

class Elementary (α : Type) where
  pi : α
  sqrt : α → α
  pow : α → α → α
  exp : α → α
  log : α → α
  sin : α → α
  cos : α → α
  tan : α → α
  asin : α → α
  acos : α → α
  atan : α → α
  atan2 : α → α → α
  sinh : α → α
  cosh : α → α
  tanh : α → α

end ShadeGraph
