/-!
# Binary floating point

The exact value of a double, read off its 64 bits: a sign, a whole significand
and a power of two, or one of the values that are not finite.
-/

namespace ShadeGraph

inductive Binary
  /-- The number `significand * 2 ^ exponent`, negated if `negative`. -/
  | finite (negative : Bool) (significand : Nat) (exponent : Int)
  | infinite (negative : Bool)
  | notANumber
deriving DecidableEq

namespace Binary

def ofBits (bits : Nat) : Binary :=
  let negative : Bool := bits / Nat.pow 2 63 % 2 = 1
  let biased : Nat := bits / Nat.pow 2 52 % 2048
  let fraction : Nat := bits % Nat.pow 2 52
  if biased = 2047 then if fraction = 0 then infinite negative else notANumber
  else if biased = 0 then finite negative fraction (-1074)
  else finite negative (Nat.pow 2 52 + fraction) ((biased : Int) - 1075)

def ofFloat (x : Float) : Binary := ofBits x.toBits.toNat

def isNegative : Binary → Bool
  | finite negative _ _ => negative
  | infinite negative => negative
  | notANumber => false

/-- The value as a count, if it is whole and not below zero. -/
def natural? : Binary → Option Nat
  | finite negative m q =>
    if m = 0 then some 0
    else if negative then none
    else if 0 ≤ q then some (m * Nat.pow 2 q.toNat)
    else if m % Nat.pow 2 (-q).toNat = 0 then some (m / Nat.pow 2 (-q).toNat)
    else none
  | _ => none

/-- The remainder of division towards zero, exact: both magnitudes are whole
multiples of the smaller unit, and so is what is left of the first. A remainder
has the sign of the dividend, zero included. -/
def rem : Binary → Binary → Binary
  | finite negative m q, finite _ m' q' =>
    if m' = 0 then notANumber
    else
      let unit := min q q'
      finite negative (m * Nat.pow 2 (q - unit).toNat % (m' * Nat.pow 2 (q' - unit).toNat)) unit
  | finite negative m q, infinite _ => finite negative m q
  | _, _ => notANumber

/-- The double of this value, if there is one. -/
def toFloat : Binary → Float
  | finite negative m q =>
    let magnitude := (Float.ofNat m).scaleB q
    if negative then -magnitude else magnitude
  | infinite negative => if negative then -1 / 0 else 1 / 0
  | notANumber => 0 / 0

example : ofBits 0x3ff8000000000000 = finite false (3 * 2 ^ 51) (-52) := by decide +kernel
example : rem (finite true 7 (-1)) (finite false 1 1) = finite true 3 (-1) := by decide +kernel
example : natural? (finite false 12 (-2)) = some 3 := by decide +kernel

end Binary
end ShadeGraph
