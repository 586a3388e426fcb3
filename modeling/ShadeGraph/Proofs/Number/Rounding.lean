import Mathlib.Algebra.Order.Round
import Mathlib.Data.Rat.Floor
import Mathlib.Tactic.Linarith
import ShadeGraph.Proofs.Number.Shaping

/-!
# Rounding exact numbers

Over the rationals the remainder of a division by one is the part behind the
point, with the sign of the number. Rounding to the nearest integer, of two to
the even one, is fixed by the integer that it gives: no other is as near. That
it keeps the order of numbers and turns with their sign needs only this.
-/

namespace ShadeGraph

theorem floor_rat (x : Rat) : Arithmetic.floor x = ⌊x⌋ := rfl

theorem ceil_rat (x : Rat) : x.ceil = ⌈x⌉ :=
  eq_of_forall_ge_iff fun _ => Rat.ceil_le_iff.trans Int.ceil_le.symm

theorem fract_rat (x : Rat) : fract x = Int.fract x := rfl

theorem round_rat (x : Rat) : Arithmetic.round x = round x := by
  rw [round_eq]
  rfl

theorem half_rat : (0.5 : Rat) = 1 / 2 := by norm_num

/-- The remainder of a division by one is cut off towards zero. -/
theorem rem_one (x : Rat) :
    Arithmetic.rem x 1 = if x < 0 then -Int.fract (-x) else Int.fract x := by
  show x - 1 * ((if x / 1 < 0 then (x / 1).ceil else ⌊x / 1⌋ : Int) : Rat) = _
  rw [one_mul, div_one]
  split
  · rw [ceil_rat, ← Int.self_sub_floor, Int.floor_neg, Int.cast_neg]
    ring
  · exact Int.self_sub_floor x

theorem rem_one_of_nonneg {x : Rat} (nonneg : 0 ≤ x) : Arithmetic.rem x 1 = Int.fract x := by
  rw [rem_one, if_neg (not_lt.2 nonneg)]

theorem rem_one_of_nonpos {x : Rat} (nonpos : x ≤ 0) :
    Arithmetic.rem x 1 = -Int.fract (-x) := by
  rcases eq_or_lt_of_le nonpos with rfl | neg
  · simp [rem_one]
  · rw [rem_one, if_pos neg]

theorem abs_rem_one (x : Rat) : |Arithmetic.rem x 1| = Int.fract |x| := by
  rcases le_total 0 x with nonneg | nonpos
  · rw [rem_one_of_nonneg nonneg, abs_of_nonneg nonneg, abs_of_nonneg (Int.fract_nonneg x)]
  · rw [rem_one_of_nonpos nonpos, abs_of_nonpos nonpos, abs_neg,
      abs_of_nonneg (Int.fract_nonneg (-x))]

/-- A number is half way between two integers whichever side of zero it is seen from. -/
theorem fract_abs_eq_half {x : Rat} : Int.fract |x| = 1 / 2 ↔ Int.fract x = 1 / 2 := by
  rcases le_total 0 x with nonneg | nonpos
  · rw [abs_of_nonneg nonneg]
  · rw [abs_of_nonpos nonpos]
    by_cases whole : Int.fract x = 0
    · rw [Int.fract_neg_eq_zero.2 whole, whole]
    · rw [Int.fract_neg whole]
      constructor <;> intro half <;> linarith

/-- An integer that no other is nearer than, and the even one of two that are as
near. -/
structure IsNearestEven (x : Rat) (r : Int) : Prop where
  near : |x - r| ≤ 1 / 2
  even : |x - r| = 1 / 2 → Even r

namespace IsNearestEven

variable {x y : Rat} {r s : Int}

theorem le (hx : IsNearestEven x r) (hy : IsNearestEven y s) (xy : x ≤ y) : r ≤ s := by
  by_contra back
  have apart : (s : Rat) + 1 ≤ r := by exact_mod_cast Int.add_one_le_iff.2 (not_le.1 back)
  obtain ⟨-, up⟩ := abs_le.1 hy.near
  obtain ⟨down, -⟩ := abs_le.1 hx.near
  -- Only a number half way between the two is as near to both.
  have below : x - r = -(1 / 2) := by linarith
  have above : y - s = 1 / 2 := by linarith
  have next : r = s + 1 := by
    have cast : (r : Rat) = s + 1 := by linarith
    exact_mod_cast cast
  obtain ⟨i, hi⟩ := hx.even (by rw [below]; norm_num)
  obtain ⟨j, hj⟩ := hy.even (by rw [above]; norm_num)
  omega

theorem unique (hr : IsNearestEven x r) (hs : IsNearestEven x s) : r = s :=
  le_antisymm (hr.le hs le_rfl) (hs.le hr le_rfl)

theorem neg (h : IsNearestEven x r) : IsNearestEven (-x) (-r) := by
  have turned : |-x - ((-r : Int) : Rat)| = |x - r| := by
    rw [← abs_neg]
    congr 1
    push_cast
    ring
  constructor
  · rw [turned]
    exact h.near
  · rw [turned]
    exact fun half => (h.even half).neg

theorem intCast (k : Int) : IsNearestEven k k := by
  constructor
  · rw [sub_self, abs_zero]
    norm_num
  · intro half
    rw [sub_self, abs_zero] at half
    norm_num at half

/-- Half way between two integers the even one is twice the integer nearest to
half of the number. -/
theorem of_half (half : Int.fract x = 1 / 2) : IsNearestEven x (2 * round (x / 2)) := by
  have place : x = ⌊x⌋ + 1 / 2 := by rw [← half, Int.floor_add_fract]
  refine ⟨?_, fun _ => even_two_mul _⟩
  obtain ⟨m, down | up⟩ := Int.even_or_odd' ⌊x⌋
  · rw [down] at place
    push_cast at place
    have nearest : round (x / 2) = m := round_eq_iff.2 ⟨by linarith, by linarith⟩
    rw [nearest]
    push_cast
    exact abs_le.2 ⟨by linarith, by linarith⟩
  · rw [up] at place
    push_cast at place
    have nearest : round (x / 2) = m + 1 := by
      refine round_eq_iff.2 ⟨?_, ?_⟩ <;> push_cast <;> linarith
    rw [nearest]
    push_cast
    exact abs_le.2 ⟨by linarith, by linarith⟩

theorem of_not_half (off : Int.fract x ≠ 1 / 2) : IsNearestEven x (round x) := by
  refine ⟨abs_sub_round x, fun half => absurd ?_ off⟩
  rw [abs_sub_round_eq_min] at half
  rcases min_choice (Int.fract x) (1 - Int.fract x) with left | right
  · exact left.symm.trans half
  · linarith

end IsNearestEven

/-- Rounding gives the nearest integer, and of two that are as near the even one. -/
theorem exists_nearest (x : Rat) : ∃ r : Int, roundHalfEven x = r ∧ IsNearestEven x r := by
  have test : (Arithmetic.abs (Arithmetic.rem x 1) == (0.5 : Rat)) = true ↔
      Int.fract x = 1 / 2 := by
    rw [beq_iff_eq, abs_rat, abs_rem_one, half_rat]
    exact fract_abs_eq_half
  by_cases half : Int.fract x = 1 / 2
  · refine ⟨2 * round (x / 2), ?_, .of_half half⟩
    rw [roundHalfEven, if_pos (test.2 half), round_rat]
    push_cast
    rfl
  · refine ⟨round x, ?_, .of_not_half half⟩
    rw [roundHalfEven, if_neg fun tie => half (test.1 tie), round_rat]

theorem roundHalfEven_of_nearest {x : Rat} {r : Int} (h : IsNearestEven x r) :
    roundHalfEven x = r := by
  obtain ⟨s, value, nearest⟩ := exists_nearest x
  rw [value, nearest.unique h]

theorem roundHalfEven_neg (x : Rat) : roundHalfEven (-x) = -roundHalfEven x := by
  obtain ⟨r, value, nearest⟩ := exists_nearest x
  rw [value, roundHalfEven_of_nearest nearest.neg, Int.cast_neg]

theorem roundHalfEven_mono : Monotone (roundHalfEven : Rat → Rat) := by
  intro x y le
  obtain ⟨r, hr, near⟩ := exists_nearest x
  obtain ⟨s, hs, near'⟩ := exists_nearest y
  rw [hr, hs]
  exact_mod_cast near.le near' le

theorem roundHalfEven_intCast (k : Int) : roundHalfEven (k : Rat) = k :=
  roundHalfEven_of_nearest (.intCast k)

end ShadeGraph
