import Mathlib.Algebra.Order.Field.Basic
import Mathlib.Algebra.Order.Field.Rat
import Mathlib.Algebra.Order.Interval.Set.Instances
import Mathlib.Tactic.NormNum
import Mathlib.Tactic.Positivity
import Mathlib.Tactic.Ring
import ShadeGraph.Number.Exact
import ShadeGraph.Number.Shaping

/-!
# Shaping exact numbers

Over the rationals the shaping functions are those of an ordered field: division
needs no guard and clamping projects to an interval. The smooth steps are one
easing each, applied to how far a number has come from one edge to the other,
and they are level outside the edges.
-/

namespace ShadeGraph

theorem abs_rat (x : Rat) : Arithmetic.abs x = |x| := by
  show (if 0 ≤ x then x else -x) = |x|
  split
  case isTrue above => rw [abs_of_nonneg above]
  case isFalse below => rw [abs_of_neg (not_le.1 below)]

theorem safeDivide_rat (a b : Rat) : safeDivide a b = a / b := by
  by_cases zero : b = 0
  · subst zero
    exact (div_zero a).symm
  · exact if_neg (by simpa using zero)

theorem clamp_rat (x lo hi : Rat) : clamp x lo hi = max (min x hi) lo := rfl

section

variable {x lo hi : Rat}

theorem clamp_mem (le : lo ≤ hi) (x : Rat) : clamp x lo hi ∈ Set.Icc lo hi :=
  ⟨le_max_right _ _, max_le (min_le_right _ _) le⟩

theorem clamp_mono (lo hi : Rat) : Monotone fun x : Rat => clamp x lo hi :=
  fun _ _ le => max_le_max (min_le_min le le_rfl) le_rfl

theorem clamp_below (below : x ≤ lo) : clamp x lo hi = lo :=
  max_eq_right (le_trans (min_le_left _ _) below)

theorem clamp_above (le : lo ≤ hi) (above : hi ≤ x) : clamp x lo hi = hi := by
  rw [clamp_rat, min_eq_right above, max_eq_left le]

theorem clamp_of_mem (mem : x ∈ Set.Icc lo hi) : clamp x lo hi = x := by
  rw [clamp_rat, min_eq_left mem.2, max_eq_left mem.1]

theorem saturate_mem (x : Rat) : saturate x ∈ Set.Icc (0 : Rat) 1 := clamp_mem zero_le_one x

end

theorem mul_mem_unit {x y : Rat} (hx : x ∈ Set.Icc (0 : Rat) 1) (hy : y ∈ Set.Icc (0 : Rat) 1) :
    x * y ∈ Set.Icc (0 : Rat) 1 :=
  ⟨mul_nonneg hx.1 hy.1, mul_le_one₀ hx.2 hy.1 hy.2⟩

/-- A function that climbs from zero at one edge to one at the other. -/
structure Rises (lo hi : Rat) (f : Rat → Rat) : Prop where
  start : f lo = 0
  finish : f hi = 1
  monotone : Monotone f

/-- A function that is level outside two edges. -/
structure Levels (lo hi : Rat) (f : Rat → Rat) : Prop where
  below : ∀ x ≤ lo, f x = 0
  above : ∀ x, hi ≤ x → f x = 1

/-- A curve that climbs from zero to one over the unit interval. -/
structure Eases (ease : Rat → Rat) : Prop where
  start : ease 0 = 0
  finish : ease 1 = 1
  monotone : MonotoneOn ease (Set.Icc 0 1)

section

variable {lo hi : Rat} {ease : Rat → Rat}

theorem straight_rises (lt : lo < hi) : Rises lo hi fun x => (x - lo) / (hi - lo) where
  start := by simp
  finish := div_self (sub_ne_zero.2 lt.ne')
  monotone _ _ le := div_le_div_of_nonneg_right (sub_le_sub_right le lo) (sub_pos.2 lt).le

theorem Eases.levels (eases : Eases ease) (lt : lo < hi) :
    Levels lo hi fun x => ease (clamp ((x - lo) / (hi - lo)) 0 1) where
  below x below := by
    have early : (x - lo) / (hi - lo) ≤ 0 :=
      (straight_rises lt).start ▸ (straight_rises lt).monotone below
    rw [clamp_below early, eases.start]
  above x above := by
    have late : 1 ≤ (x - lo) / (hi - lo) :=
      (straight_rises lt).finish ▸ (straight_rises lt).monotone above
    rw [clamp_above zero_le_one late, eases.finish]

theorem Eases.rises (eases : Eases ease) (lt : lo < hi) :
    Rises lo hi fun x => ease (clamp ((x - lo) / (hi - lo)) 0 1) where
  start := (eases.levels lt).below lo le_rfl
  finish := (eases.levels lt).above hi le_rfl
  monotone _ _ le := eases.monotone (clamp_mem zero_le_one _) (clamp_mem zero_le_one _)
    (clamp_mono 0 1 ((straight_rises lt).monotone le))

/-- The curve of the smooth step. -/
def cubic (t : Rat) : Rat := (3 - 2 * t) * (t * t)

theorem cubic_eases : Eases cubic where
  start := by norm_num [cubic]
  finish := by norm_num [cubic]
  monotone := by
    intro s hs t ht le
    have factors : cubic t - cubic s =
        (t - s) * (2 * (t * (1 - t)) + 2 * (s * (1 - s)) + t * (1 - s) + s * (1 - t)) := by
      unfold cubic
      ring
    have step : 0 ≤ t - s := sub_nonneg.2 le
    obtain ⟨s_start, s_finish⟩ := And.intro hs.1 (sub_nonneg.2 hs.2)
    obtain ⟨t_start, t_finish⟩ := And.intro ht.1 (sub_nonneg.2 ht.2)
    have grown : 0 ≤ cubic t - cubic s := by
      rw [factors]
      positivity
    exact sub_nonneg.1 grown

/-- The curve of the smoother step. -/
def quintic (t : Rat) : Rat := t * t * t * (t * (t * 6 - 15) + 10)

theorem quintic_eases : Eases quintic where
  start := by norm_num [quintic]
  finish := by norm_num [quintic]
  monotone := by
    intro s _ t _ le
    -- In the middle `m` of two places and half their distance `h`, the mean
    -- slope between them is a sum of squares.
    let m := (s + t) / 2
    let h := (t - s) / 2
    have factors : quintic t - quintic s = (t - s) * (30 * (m * (1 - m) - h ^ 2 / 3) ^ 2 +
        10 * ((1 - 2 * m) * h) ^ 2 + 8 / 3 * (h ^ 2) ^ 2) := by
      unfold quintic m h
      ring
    have step : 0 ≤ t - s := sub_nonneg.2 le
    have grown : 0 ≤ quintic t - quintic s := by
      rw [factors]
      positivity
    exact sub_nonneg.1 grown

theorem smoothstep_rat (lt : lo < hi) :
    smoothstep lo hi = fun x => cubic (clamp ((x - lo) / (hi - lo)) 0 1) := by
  funext x
  have level := cubic_eases.levels lt
  have straight := straight_rises lt
  have unfolded : smoothstep lo hi x =
      if x < lo then 0 else if hi ≤ x then 1 else cubic ((x - lo) / (hi - lo)) := by
    rw [smoothstep, safeDivide_rat]
    rfl
  rw [unfolded]
  split
  case isTrue before => exact (level.below x before.le).symm
  case isFalse after =>
    have after := not_lt.1 after
    split
    case isTrue above => exact (level.above x above).symm
    case isFalse before =>
      have inside : (x - lo) / (hi - lo) ∈ Set.Icc (0 : Rat) 1 :=
        ⟨straight.start ▸ straight.monotone after,
          straight.finish ▸ straight.monotone (not_le.1 before).le⟩
      rw [clamp_of_mem inside]

theorem smootherstep_rat (lo hi : Rat) :
    smootherstep lo hi = fun x => quintic (clamp ((x - lo) / (hi - lo)) 0 1) := by
  funext x
  rw [smootherstep, safeDivide_rat]
  rfl

end
end ShadeGraph
