import Mathlib.Algebra.Order.Field.Power
import Mathlib.Algebra.Order.Floor.Semifield
import Mathlib.Data.List.TakeWhile
import Mathlib.Data.Nat.Cast.Order.Field
import Mathlib.Data.Rat.Floor
import Mathlib.Tactic.FieldSimp
import Mathlib.Tactic.GCongr
import Mathlib.Tactic.Linarith
import ShadeGraph.Number.Shortest
import ShadeGraph.Proofs.Number.Binary

/-!
# Shortest decimals read back

The search for the shortest decimal always ends, on a grid of seventeen digits at
the latest, which is finer than the interval of any double is wide. What it finds
lies in that interval, and the intervals of different doubles are disjoint, so the
decimal tells the double.
-/

namespace ShadeGraph.Decimal

open Binary

theorem zpow_eq_div {b : ℚ} (nonzero : b ≠ 0) (e : Int) :
    b ^ e = b ^ e.toNat / b ^ (-e).toNat := by
  rw [← zpow_natCast, ← zpow_natCast, ← zpow_sub₀ nonzero]
  congr 1
  omega

/-! ### The value of a decimal -/

def value (d : Decimal) : ℚ :=
  Nat.ofDigitChars 10 d.digits 0 * 10 ^ (d.point - d.digits.length : Int)

theorem trailing_zeros (digits : List Char) : ∃ zeros,
    digits = (digits.reverse.dropWhile (· = '0')).reverse ++ List.replicate zeros '0' := by
  refine ⟨(digits.reverse.takeWhile (· = '0')).length, ?_⟩
  have zeros : digits.reverse.takeWhile (· = '0') =
      List.replicate (digits.reverse.takeWhile (· = '0')).length '0' :=
    List.eq_replicate_of_mem fun c mem => by simpa using List.mem_takeWhile_imp mem
  have whole := congrArg List.reverse
    (List.takeWhile_append_dropWhile (p := (· = '0')) (l := digits.reverse))
  rw [zeros, List.reverse_append, List.reverse_reverse, List.reverse_replicate] at whole
  exact whole.symm

theorem value_ofScaled (c : Nat) (e : Int) : (ofScaled c e).value = c * 10 ^ e := by
  obtain ⟨zeros, split⟩ := trailing_zeros (Nat.toDigits 10 c)
  set kept := ((Nat.toDigits 10 c).reverse.dropWhile (· = '0')).reverse
  have count : (Nat.toDigits 10 c).length = kept.length + zeros := by
    rw [split, List.length_append, List.length_replicate]
  have number : (c : ℚ) = 10 ^ zeros * Nat.ofDigitChars 10 kept 0 := by
    have digits : Nat.ofDigitChars 10 (Nat.toDigits 10 c) 0 = c := Nat.ofDigitChars_ten_toDigits
    rw [split, Nat.ofDigitChars_append, Nat.ofDigitChars_replicate_zero] at digits
    exact_mod_cast digits.symm
  calc (ofScaled c e).value = Nat.ofDigitChars 10 kept 0 *
          10 ^ (e + (Nat.toDigits 10 c).length - kept.length : Int) := rfl
    _ = Nat.ofDigitChars 10 kept 0 * 10 ^ (e + zeros) := by
      rw [count]
      congr 2
      omega
    _ = c * 10 ^ e := by
      rw [number, zpow_add₀ (by norm_num), zpow_natCast]
      ring

/-! ### The grid of a decimal -/

theorem le_of_digitCount {n : Nat} (pos : 0 < n) : 10 ^ (digitCount n - 1) ≤ n := by
  by_contra less
  by_cases one : digitCount n - 1 = 0
  · rw [one] at less
    omega
  · have few : digitCount n ≤ digitCount n - 1 :=
      (Nat.length_toDigits_le_iff (by norm_num) (Nat.pos_of_ne_zero one)).2 (not_le.1 less)
    omega

theorem lt_of_digitCount (n : Nat) : n < 10 ^ digitCount n :=
  (Nat.length_toDigits_le_iff (by norm_num) Nat.length_toDigits_pos).1 le_rfl

theorem pointOf_le {num den : Nat} (hn : 0 < num) (hd : 0 < den) :
    (10 : ℚ) ^ (pointOf num den - 1) ≤ num / den := by
  have unit : (0 : ℚ) < den := by exact_mod_cast hd
  unfold pointOf
  split
  next whole =>
    have pos : 0 < num / den := Nat.div_pos whole hd
    have some : 0 < digitCount (num / den) := Nat.length_toDigits_pos
    calc (10 : ℚ) ^ ((digitCount (num / den) : Int) - 1)
        = ((10 ^ (digitCount (num / den) - 1) : Nat) : ℚ) := by
          push_cast
          rw [← zpow_natCast]
          congr 1
          omega
      _ ≤ ((num / den : Nat) : ℚ) := by exact_mod_cast le_of_digitCount pos
      _ ≤ num / den := Nat.cast_div_le
  next part =>
    set k := (den + num - 1) / num - 1
    have bound : den ≤ num * 10 ^ digitCount k := by
      have few : (den + num - 1) / num < 10 ^ digitCount k + 1 := by
        have := lt_of_digitCount k
        omega
      have := (Nat.div_lt_iff_lt_mul hn).1 few
      rw [Nat.add_mul, Nat.mul_comm] at this
      omega
    have exponent : 1 - (digitCount k : Int) - 1 = -(digitCount k : Int) := by omega
    rw [exponent, zpow_neg, zpow_natCast, inv_le_iff_one_le_mul₀ (by positivity),
      div_mul_eq_mul_div, le_div_iff₀ unit, one_mul]
    exact_mod_cast bound

namespace Interval

variable {r : Interval}

def lower (r : Interval) : ℚ := r.low / r.den

def centre (r : Interval) : ℚ := r.value / r.den

def upper (r : Interval) : ℚ := r.high / r.den

/-- The ends belong to a closed interval only. -/
def Holds (r : Interval) (x : ℚ) : Prop :=
  if r.closed then r.lower ≤ x ∧ x ≤ r.upper else r.lower < x ∧ x < r.upper

theorem contains_iff (den : 0 < r.den) {c : Nat} {e : Int} :
    r.contains c e = true ↔ r.Holds (c * 10 ^ e) := by
  have scale : (0 : ℚ) < 10 ^ (-e).toNat := by positivity
  have unit : (0 : ℚ) < r.den := by exact_mod_cast den
  have spread : (c : ℚ) * 10 ^ e = c * 10 ^ e.toNat / 10 ^ (-e).toNat := by
    rw [zpow_eq_div (by norm_num), mul_div_assoc]
  unfold contains Holds lower upper
  rw [spread]
  cases r.closed <;>
    simp only [Bool.false_eq_true, if_true, if_false, Bool.and_eq_true, decide_eq_true_eq,
      div_le_div_iff₀ unit scale, div_le_div_iff₀ scale unit, div_lt_div_iff₀ unit scale,
      div_lt_div_iff₀ scale unit] <;>
    norm_cast

theorem Holds.of_inner {x : ℚ} (below : r.lower < x) (above : x < r.upper) : r.Holds x := by
  unfold Holds
  split
  · exact ⟨below.le, above.le⟩
  · exact ⟨below, above⟩

theorem Holds.outer {x : ℚ} (h : r.Holds x) : r.lower ≤ x ∧ x ≤ r.upper := by
  unfold Holds at h
  split at h
  · exact h
  · exact ⟨h.1.le, h.2.le⟩

theorem Holds.inner {x : ℚ} (h : r.Holds x) (isOpen : r.closed = false) :
    r.lower < x ∧ x < r.upper := by
  rw [Holds, isOpen] at h
  exact h

/-! ### Neighbours on a grid -/

/-- The last point of a grid that is not above the centre. -/
def floor (r : Interval) (e : Int) : Nat :=
  r.value * Nat.pow 10 (-e).toNat / (r.den * Nat.pow 10 e.toNat)

theorem floor_eq (r : Interval) (e : Int) : r.floor e = ⌊r.centre / 10 ^ e⌋₊ := by
  have spelled : r.floor e = r.value * 10 ^ (-e).toNat / (r.den * 10 ^ e.toNat) := rfl
  rw [spelled, ← Nat.floor_div_eq_div (K := ℚ)]
  congr 1
  rw [centre, zpow_eq_div (by norm_num)]
  push_cast
  field_simp

theorem isSome_neighbour? (e : Int) : (r.neighbour? e).isSome ↔
    (r.contains (r.floor e) e ∧ r.floor e ≠ 0) ∨ r.contains (r.floor e + 1) e := by
  unfold neighbour? floor
  grind

/-- Whichever neighbour is taken lies in the interval and is not zero. -/
theorem neighbour?_holds (den : 0 < r.den) {e : Int} {c : Nat} (taken : r.neighbour? e = some c) :
    0 < c ∧ r.Holds (c * 10 ^ e) := by
  rw [← contains_iff den]
  unfold neighbour? at taken
  grind

/-- On a grid that is finer than the interval is wide there is a neighbour. -/
theorem neighbour?_isSome (den : 0 < r.den) {e : Int} (below : r.lower < r.centre)
    (above : r.centre < r.upper) (least : (10 : ℚ) ^ e ≤ r.centre)
    (fine : (10 : ℚ) ^ e < r.upper - r.lower) : (r.neighbour? e).isSome := by
  have step : (0 : ℚ) < 10 ^ e := by positivity
  have short : r.floor e * (10 : ℚ) ^ e ≤ r.centre := by
    rw [floor_eq, ← le_div_iff₀ step]
    exact Nat.floor_le (div_nonneg (step.le.trans least) step.le)
  have past : r.centre < (r.floor e + 1) * (10 : ℚ) ^ e := by
    rw [floor_eq, ← div_lt_iff₀ step]
    exact Nat.lt_floor_add_one _
  have pos : 0 < r.floor e := by
    rw [floor_eq, Nat.floor_pos, one_le_div step]
    exact least
  rw [isSome_neighbour?, contains_iff den, contains_iff den, Nat.cast_add_one]
  -- With both neighbours outside, the whole interval would lie between them.
  by_contra outside
  rw [not_or] at outside
  have low : r.floor e * (10 : ℚ) ^ e ≤ r.lower := by
    by_contra h
    exact outside.1 ⟨.of_inner (not_le.1 h) (short.trans_lt above), pos.ne'⟩
  have high : r.upper ≤ (r.floor e + 1) * (10 : ℚ) ^ e := by
    by_contra h
    exact outside.2 (.of_inner (below.trans past) (not_le.1 h))
  linarith

/-! ### The interval of a double -/

/-- How far an interval reaches below its centre, in quarters of the last place. -/
def gap (m : Nat) (q : Int) : Nat := if m = 2 ^ 52 ∧ -1074 < q then 1 else 2

theorem gap_pos (m : Nat) (q : Int) : 0 < gap m q := by
  unfold gap
  split <;> omega

theorem gap_le (m : Nat) (q : Int) : gap m q ≤ 2 := by
  unfold gap
  split <;> omega

theorem den_of (m : Nat) (q : Int) : (of m q).den = 4 * 2 ^ (-q).toNat := rfl

theorem centre_of (m : Nat) (q : Int) : (of m q).centre = m * 2 ^ q := by
  have value : (of m q).value = 4 * m * 2 ^ q.toNat := rfl
  rw [centre, value, den_of, zpow_eq_div (by norm_num)]
  push_cast
  field_simp

theorem upper_of (m : Nat) (q : Int) : (of m q).upper = (m + 1 / 2) * 2 ^ q := by
  have high : (of m q).high = (4 * m + 2) * 2 ^ q.toNat := rfl
  rw [upper, high, den_of, zpow_eq_div (by norm_num)]
  push_cast
  field_simp
  ring

theorem lower_of {m : Nat} (pos : 0 < m) (q : Int) :
    (of m q).lower = (m - gap m q / 4) * 2 ^ q := by
  have room : gap m q ≤ 4 * m := (gap_le m q).trans (by omega)
  have low : (of m q).low = (4 * m - gap m q) * 2 ^ q.toNat := rfl
  rw [lower, low, den_of, zpow_eq_div (by norm_num)]
  push_cast [Nat.cast_sub room]
  field_simp

theorem centre_inside {m : Nat} (pos : 0 < m) (q : Int) :
    (of m q).lower < (of m q).centre ∧ (of m q).centre < (of m q).upper := by
  have scale : (0 : ℚ) < 2 ^ q := by positivity
  have gap : (0 : ℚ) < gap m q := by exact_mod_cast gap_pos m q
  rw [centre_of, upper_of, lower_of pos]
  constructor
  · exact mul_lt_mul_of_pos_right (by linarith) scale
  · exact mul_lt_mul_of_pos_right (by linarith) scale

/-- A grid of seventeen digits is finer than the interval of a double is wide. -/
theorem width_of {m : Nat} {q : Int} (normal : Normal m q) :
    (of m q).centre / 10 ^ 16 < (of m q).upper - (of m q).lower := by
  have scale : (0 : ℚ) < 2 ^ q := by positivity
  have fine : (m : ℚ) / 10 ^ 16 < 1 / 2 + gap m q / 4 := by
    unfold gap
    split
    next top =>
      rw [top.1]
      norm_num
    next =>
      have small : (m : ℚ) < 2 ^ 53 := by exact_mod_cast normal.small
      rw [div_lt_iff₀ (by norm_num)]
      norm_num at small ⊢
      linarith
  rw [centre_of, upper_of, lower_of normal.pos]
  calc (m : ℚ) * 2 ^ q / 10 ^ 16 = m / 10 ^ 16 * (2 : ℚ) ^ q := by ring
    _ < (1 / 2 + (gap m q : ℚ) / 4) * 2 ^ q := mul_lt_mul_of_pos_right fine scale
    _ = (m + 1 / 2) * 2 ^ q - (m - gap m q / 4) * 2 ^ q := by ring

/-! ### Different doubles have disjoint intervals -/

/-- An interval stays half a place above the smaller doubles, places counted as
theirs. The bound is even if the double is. -/
theorem lower_above {m m' : Nat} {q q' : Int} (normal : Normal m q) (normal' : Normal m' q')
    (before : q < q' ∨ q = q' ∧ m < m') :
    ∃ k, m < k ∧ (m' % 2 = 0 → k % 2 = 0) ∧ ((k : ℚ) - 1 / 2) * 2 ^ q ≤ (of m' q').lower := by
  rw [lower_of normal'.pos]
  rcases before with less | ⟨rfl, less⟩
  · refine ⟨2 ^ 53, normal.small, fun _ => by norm_num, ?_⟩
    have least : -1074 < q' := normal.least.trans_lt less
    have dense : (2 : ℚ) ^ 52 - 1 / 4 ≤ m' - gap m' q' / 4 := by
      unfold gap
      split
      next top =>
        rw [top.1]
        norm_num
      next more =>
        have above : 2 ^ 52 + 1 ≤ m' := by
          have := normal'.dense least
          have : m' ≠ 2 ^ 52 := fun top => more ⟨top, least⟩
          omega
        have : (2 : ℚ) ^ 52 + 1 ≤ m' := by exact_mod_cast above
        push_cast
        linarith
    have double : (2 : ℚ) * 2 ^ q ≤ 2 ^ q' := by
      rw [← zpow_one_add₀ (by norm_num)]
      exact zpow_le_zpow_right₀ (by norm_num) (by omega)
    calc (((2 ^ 53 : Nat) : ℚ) - 1 / 2) * 2 ^ q = (2 ^ 52 - 1 / 4) * (2 * 2 ^ q) := by
          push_cast
          ring
      _ ≤ (2 ^ 52 - 1 / 4) * 2 ^ q' := by gcongr
      _ ≤ (m' - (gap m' q' : ℚ) / 4) * 2 ^ q' := by gcongr
  · refine ⟨m', less, id, ?_⟩
    have half : (gap m' q : ℚ) ≤ 2 := by exact_mod_cast gap_le m' q
    exact mul_le_mul_of_nonneg_right (by linarith) (by positivity)

theorem disjoint {m m' : Nat} {q q' : Int} (normal : Normal m q) (normal' : Normal m' q')
    (before : q < q' ∨ q = q' ∧ m < m') {x : ℚ} (h : (of m q).Holds x)
    (h' : (of m' q').Holds x) : False := by
  have scale : (0 : ℚ) < 2 ^ q := by positivity
  obtain ⟨k, less, even, above⟩ := lower_above normal normal' before
  have upper : x ≤ (m + 1 / 2) * 2 ^ q := upper_of m q ▸ h.outer.2
  have lower : (of m' q').lower ≤ x := h'.outer.1
  by_cases next : k = m + 1
  · -- The end between two neighbours belongs to the even one of them.
    have same : ((k : ℚ) - 1 / 2) * 2 ^ q = (m + 1 / 2) * 2 ^ q := by
      rw [next]
      push_cast
      ring
    by_cases parity : m % 2 = 0
    · have odd : ¬ m' % 2 = 0 := fun even' => by
        have := even even'
        omega
      have strict := (h'.inner (decide_eq_false odd)).1
      linarith
    · have strict := (h.inner (decide_eq_false parity)).2
      rw [upper_of] at strict
      linarith
  · have far : (m : ℚ) + 2 ≤ k := by
      have : m + 2 ≤ k := by omega
      exact_mod_cast this
    have : ((m : ℚ) + 1 / 2) * 2 ^ q < (k - 1 / 2) * 2 ^ q :=
      mul_lt_mul_of_pos_right (by linarith) scale
    linarith

end Interval

/-! ### The shortest decimal -/

/-- The search ends with a decimal that rounds to the double. -/
theorem shortest_holds {m : Nat} {q : Int} (normal : Normal m q) :
    ∃ c e, shortest m q = ofScaled c e ∧ 0 < c ∧ (Interval.of m q).Holds (c * 10 ^ e) := by
  set r := Interval.of m q with interval
  set point := pointOf r.value r.den
  have unit : 0 < r.den := Nat.mul_pos (by norm_num) (Nat.pow_pos (by norm_num))
  have value : 0 < r.value :=
    Nat.mul_pos (Nat.mul_pos (by norm_num) normal.pos) (Nat.pow_pos (by norm_num))
  have least : (10 : ℚ) ^ (point - 1) ≤ r.centre := pointOf_le value unit
  have fine : (10 : ℚ) ^ (point - 17) ≤ r.centre / 10 ^ 16 := by
    have finer : point - 17 + ((16 : Nat) : Int) = point - 1 := by omega
    rw [le_div_iff₀ (by norm_num), ← zpow_natCast, ← zpow_add₀ (by norm_num), finer]
    exact least
  have last : (r.neighbour? (point - (17 : Nat))).isSome := by
    obtain ⟨below, above⟩ := Interval.centre_inside normal.pos q
    refine Interval.neighbour?_isSome unit below above ?_
      (fine.trans_lt (Interval.width_of normal))
    exact (zpow_le_zpow_right₀ (by norm_num) (by omega)).trans least
  let grid (digits : Nat) : Option Decimal :=
    (r.neighbour? (point - digits)).map (ofScaled · (point - digits))
  have found : ((List.range' 1 17).findSome? grid).isSome := by
    rw [List.isSome_findSome?, List.any_eq_true]
    exact ⟨17, by decide, by simpa [grid] using last⟩
  obtain ⟨d, found⟩ := Option.isSome_iff_exists.1 found
  have short : shortest m q = d := congrArg (Option.getD · _) found
  obtain ⟨digits, -, taken⟩ := List.exists_of_findSome?_eq_some found
  obtain ⟨c, neighbour, rfl⟩ := Option.map_eq_some_iff.1 taken
  exact ⟨c, _, short, Interval.neighbour?_holds unit neighbour⟩

/-- The shortest decimal tells the double. -/
theorem shortest_inj {m m' : Nat} {q q' : Int} (normal : Normal m q) (normal' : Normal m' q')
    (same : (shortest m q).value = (shortest m' q').value) : m = m' ∧ q = q' := by
  obtain ⟨c, e, short, -, holds⟩ := shortest_holds normal
  obtain ⟨c', e', short', -, holds'⟩ := shortest_holds normal'
  rw [short, short', value_ofScaled, value_ofScaled] at same
  rw [← same] at holds'
  rcases lt_trichotomy q q' with less | rfl | more
  · exact (Interval.disjoint normal normal' (.inl less) holds holds').elim
  · rcases lt_trichotomy m m' with less | rfl | more
    · exact (Interval.disjoint normal normal' (.inr ⟨rfl, less⟩) holds holds').elim
    · exact ⟨rfl, rfl⟩
    · exact (Interval.disjoint normal' normal (.inr ⟨rfl, more⟩) holds' holds).elim
  · exact (Interval.disjoint normal' normal (.inl more) holds' holds).elim

end ShadeGraph.Decimal
