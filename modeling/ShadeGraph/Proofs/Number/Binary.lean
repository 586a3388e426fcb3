import Mathlib.Algebra.Group.Nat.Defs
import ShadeGraph.Number.Double

/-!
# The value of a double

A double is settled by its value: two of them share one only if they are the same,
the one that is not a number included, which has a single bit pattern.
-/

namespace ShadeGraph

/-- The significand and the exponent of a positive double. -/
structure Binary.Normal (m : Nat) (q : Int) : Prop where
  pos : 0 < m
  small : m < 2 ^ 53
  least : -1074 ≤ q
  dense : -1074 < q → 2 ^ 52 ≤ m

namespace Binary

/-- The value of a double by its sign, its biased exponent and its fraction. -/
def ofFields (negative : Bool) (biased fraction : Nat) : Binary :=
  if biased = 2047 then if fraction = 0 then infinite negative else notANumber
  else if biased = 0 then finite negative fraction (-1074)
  else finite negative (2 ^ 52 + fraction) (biased - 1075)

theorem ofBits_eq (bits : Nat) :
    ofBits bits = ofFields (bits / 2 ^ 63 % 2 = 1) (bits / 2 ^ 52 % 2048) (bits % 2 ^ 52) := rfl

theorem ofFields_inj {negative negative' : Bool} {biased biased' fraction fraction' : Nat}
    (small : fraction < 2 ^ 52) (small' : fraction' < 2 ^ 52)
    (same : ofFields negative biased fraction = ofFields negative' biased' fraction')
    (number : ofFields negative biased fraction ≠ notANumber) :
    negative = negative' ∧ biased = biased' ∧ fraction = fraction' := by
  unfold ofFields at same number
  grind

theorem ofBits_inj {a b : Nat} (ha : a < 2 ^ 64) (hb : b < 2 ^ 64) (same : ofBits a = ofBits b)
    (number : ofBits a ≠ notANumber) : a = b := by
  rw [ofBits_eq, ofBits_eq] at same
  rw [ofBits_eq] at number
  have bound (bits : Nat) : bits % 2 ^ 52 < 2 ^ 52 := Nat.mod_lt _ (by decide)
  obtain ⟨sign, biased, fraction⟩ := ofFields_inj (bound a) (bound b) same number
  rw [decide_eq_decide] at sign
  omega

theorem eq_of_toBits {x y : Float} (same : x.toBits.toNat = y.toBits.toNat) : x = y := by
  obtain ⟨⟨bits, valid⟩⟩ := x
  obtain ⟨⟨bits', valid'⟩⟩ := y
  obtain rfl : bits = bits' := UInt64.toNat_inj.1 same
  rfl

theorem toBits_of_notANumber {x : Float} (h : ofFloat x = notANumber) :
    x.toBits.toBitVec = Float.Model.UnpackedFloat.packedNaN Float.Model.Format.binary64 := by
  have fields : x.toBits.toNat / 2 ^ 52 % 2048 = 2047 ∧ x.toBits.toNat % 2 ^ 52 ≠ 0 := by
    rw [ofFloat, ofBits_eq, ofFields] at h
    grind
  apply Float.Model.Format.Valid.eq_packedNaN x.toModel.valid
  · apply BitVec.eq_of_toNat_eq
    simp only [Float.Model.UnpackedFloat.unpackExponent, BitVec.toNat_cast, BitVec.extractLsb,
      BitVec.extractLsb'_toNat, Nat.shiftRight_eq_div_pow]
    exact fields.1
  · intro zero
    apply fields.2
    have low := congrArg BitVec.toNat zero
    simp only [Float.Model.UnpackedFloat.unpackMantissa, BitVec.toNat_cast, BitVec.extractLsb,
      BitVec.extractLsb'_toNat, Nat.shiftRight_zero] at low
    exact low

theorem ofFloat_inj {x y : Float} (same : ofFloat x = ofFloat y) : x = y := by
  apply eq_of_toBits
  by_cases nan : ofFloat x = notANumber
  · have first := toBits_of_notANumber nan
    rw [same] at nan
    exact congrArg BitVec.toNat (first.trans (toBits_of_notANumber nan).symm)
  · exact ofBits_inj x.toBits.toNat_lt y.toBits.toNat_lt same nan

theorem normal_ofFloat {x : Float} {negative : Bool} {m : Nat} {q : Int}
    (same : ofFloat x = finite negative m q) (pos : 0 < m) : Normal m q := by
  rw [ofFloat, ofBits_eq, ofFields] at same
  split at same
  · split at same <;> cases same
  · split at same <;> cases same <;> constructor <;> omega

theorem eq_zero_of_ofFloat {x : Float} {negative : Bool} {q : Int}
    (same : ofFloat x = finite negative 0 q) : x == 0 := by
  have bits : x.toBits.toNat = 0 ∨ x.toBits.toNat = 2 ^ 63 := by
    have bound := x.toBits.toNat_lt
    rw [ofFloat, ofBits_eq, ofFields] at same
    split at same
    · split at same <;> cases same
    · split at same <;> injection same <;> omega
  rcases bits with plus | minus
  · have zero : (0 : Float).toBits.toNat = 0 := by decide +kernel
    rw [eq_of_toBits (plus.trans zero.symm)]
    decide +kernel
  · have zero : (-0 : Float).toBits.toNat = 2 ^ 63 := by decide +kernel
    rw [eq_of_toBits (minus.trans zero.symm)]
    decide +kernel

end Binary
end ShadeGraph
