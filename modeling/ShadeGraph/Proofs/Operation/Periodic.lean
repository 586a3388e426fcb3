import Mathlib.Algebra.Order.ToIntervalMod
import Mathlib.Tactic.Linarith
import ShadeGraph.Operation.Math
import ShadeGraph.Proofs.Document.Loaded
import ShadeGraph.Proofs.Number.Rounding

/-!
# Periodic operations

Wrapping, snapping and going to and fro are written apart from each other, but
all read one division: wrapping keeps the remainder, snapping the multiple, and
going to and fro the distance to the nearest multiple of twice the height.
-/

namespace ShadeGraph

section

variable {a b c p w : Rat}

/-- What is left of `a` in the range from `c` to `b`, which holds `c` but not `b`,
once whole lengths of the range are taken off. -/
structure Remains (a b c w : Rat) : Prop where
  ascending : c < b → w ∈ Set.Ico c b
  descending : b < c → w ∈ Set.Ioc b c
  whole : ∃ k : Int, a - w = k * (b - c)

theorem wrap_rat (apart : b ≠ c) :
    wrap a b c = c + Int.fract ((a - c) / (b - c)) * (b - c) := by
  have range : b - c ≠ 0 := sub_ne_zero.2 apart
  have length : (a - c) / (b - c) * (b - c) = a - c := div_mul_cancel₀ _ range
  rw [wrap, if_neg (by simpa using range), floor_rat, Int.fract]
  linear_combination -length

theorem wrap_ascending (lt : c < b) : wrap a b c = toIcoMod (sub_pos.2 lt) c a := by
  rw [wrap_rat lt.ne', toIcoMod_eq_add_fract_mul]

theorem wrap_descending (lt : b < c) : wrap a b c = toIocMod (sub_pos.2 lt) b a := by
  have turned : (b + (c - b) - a) / (c - b) = (a - c) / (b - c) := by
    rw [← neg_div_neg_eq]
    congr 1 <;> ring
  rw [wrap_rat lt.ne, toIocMod_eq_sub_fract_mul, turned]
  ring

theorem wrap_remains (apart : b ≠ c) : Remains a b c (wrap a b c) where
  ascending lt := by
    rw [wrap_ascending lt]
    simpa using toIcoMod_mem_Ico (sub_pos.2 lt) c a
  descending lt := by
    rw [wrap_descending lt]
    simpa using toIocMod_mem_Ioc (sub_pos.2 lt) b a
  whole := by
    have range : b - c ≠ 0 := sub_ne_zero.2 apart
    refine ⟨⌊(a - c) / (b - c)⌋, ?_⟩
    rw [wrap, if_neg (by simpa using range), floor_rat]
    ring

theorem snap_rat (a b : Rat) : snap a b = ⌊a / b⌋ * b := by
  rw [snap]
  split
  case isTrue none =>
    rcases Bool.or_eq_true_iff.1 none with zero | zero
    · rw [eq_of_beq zero, zero_div, Int.floor_zero, Int.cast_zero, zero_mul]
    · rw [eq_of_beq zero, mul_zero]
  case isFalse => rw [floor_rat]

/-- The multiple of `b` that snapping goes down to, beside what wrapping keeps. -/
structure Divides (a b multiple remainder : Rat) : Prop where
  sum : multiple + remainder = a
  whole : ∃ k : Int, multiple = k * b
  greatest : 0 < b → IsGreatest {m | m ≤ a ∧ ∃ k : Int, m = k * b} multiple

theorem snap_divides (nonzero : b ≠ 0) : Divides a b (snap a b) (wrap a b 0) where
  sum := by
    have length : a / b * b = a := div_mul_cancel₀ _ nonzero
    rw [snap_rat, wrap_rat nonzero, sub_zero, sub_zero, Int.fract]
    linear_combination length
  whole := ⟨⌊a / b⌋, snap_rat a b⟩
  greatest pos := by
    rw [snap_rat]
    refine ⟨⟨(le_div_iff₀ pos).1 (Int.floor_le (a / b)), _, rfl⟩, ?_⟩
    rintro _ ⟨below, k, rfl⟩
    have le : k ≤ ⌊a / b⌋ := Int.le_floor.2 ((le_div_iff₀ pos).2 below)
    exact mul_le_mul_of_nonneg_right (by exact_mod_cast le) pos.le

/-- The distances of `a` from the multiples of `p`. -/
def distances (a p : Rat) : Set Rat := Set.range fun k : Int => |a - k * p|

theorem distances_neg (a p : Rat) : distances (-a) p = distances a p := by
  have turned (k : Int) : |-a - k * p| = |a - (-k : Int) * p| := by
    rw [← abs_neg]
    congr 1
    push_cast
    ring
  unfold distances
  simp only [turned]
  exact (Equiv.neg Int).surjective.range_comp fun k : Int => |a - k * p|

theorem distances_add (a p : Rat) (turns : Int) :
    distances (a + turns * p) p = distances a p := by
  have shifted (k : Int) : |a + turns * p - k * p| = |a - (k - turns : Int) * p| := by
    congr 1
    push_cast
    ring
  unfold distances
  simp only [shifted]
  exact (Equiv.subRight turns).surjective.range_comp fun k : Int => |a - k * p|

/-- The nearest multiple is one of the two around. -/
theorem isLeast_distances (mem : w ∈ Set.Ico 0 p) {m : Int} (whole : a - w = m * p) :
    IsLeast (distances a p) (min w (p - w)) := by
  obtain ⟨start, finish⟩ := mem
  have place : a = w + m * p := by linarith
  constructor
  · rcases min_choice w (p - w) with below | above
    · refine ⟨m, ?_⟩
      show |a - m * p| = _
      rw [below, ← whole, sub_sub_cancel, abs_of_nonneg start]
    · refine ⟨m + 1, ?_⟩
      have past : a - ((m + 1 : Int) : Rat) * p = -(p - w) := by
        rw [place]
        push_cast
        ring
      show |a - ((m + 1 : Int) : Rat) * p| = _
      rw [above, past, abs_neg, abs_of_pos (sub_pos.2 finish)]
  · rintro _ ⟨k, rfl⟩
    have pos : 0 < p := lt_of_le_of_lt start finish
    show _ ≤ |a - k * p|
    rcases le_or_gt k m with before | after
    · have lengths : (k : Rat) * p ≤ m * p :=
        mul_le_mul_of_nonneg_right (by exact_mod_cast before) pos.le
      exact le_trans (min_le_left _ _) (le_trans (by linarith) (le_abs_self _))
    · have next : (m : Rat) + 1 ≤ k := by exact_mod_cast Int.add_one_le_iff.2 after
      have lengths : ((m : Rat) + 1) * p ≤ k * p := mul_le_mul_of_nonneg_right next pos.le
      exact le_trans (min_le_right _ _) (le_trans (by linarith) (neg_le_abs _))

theorem fract_sub_half (x : Rat) :
    Int.fract (x - 1 / 2) =
      if Int.fract x < 1 / 2 then Int.fract x + 1 / 2 else Int.fract x - 1 / 2 := by
  obtain ⟨start, finish⟩ := And.intro (Int.fract_nonneg x) (Int.fract_lt_one x)
  have place : x = ⌊x⌋ + Int.fract x := (Int.floor_add_fract x).symm
  split
  case isTrue early =>
    refine Int.fract_eq_iff.2 ⟨by linarith, by linarith, ⌊x⌋ - 1, ?_⟩
    push_cast
    linarith
  case isFalse late =>
    exact Int.fract_eq_iff.2 ⟨by linarith, by linarith, ⌊x⌋, by linarith⟩

/-- Half a period ahead, the wave climbs where the remainder is short of `b` and
falls where it is past it. -/
theorem pingpong_rat (pos : 0 < b) :
    pingpong a b = min (wrap a (2 * b) 0) (2 * b - wrap a (2 * b) 0) := by
  have period : 2 * b ≠ 0 := by positivity
  have ahead : (a - b) / (b * 2) = a / (2 * b) - 1 / 2 := by
    field_simp
  have remainder : wrap a (2 * b) 0 = Int.fract (a / (2 * b)) * (2 * b) := by
    rw [wrap_rat period, sub_zero, sub_zero, zero_add]
  have wave : pingpong a b = |Int.fract (a / (2 * b) - 1 / 2) * (2 * b) - b| := by
    rw [pingpong, if_neg (by simpa using pos.ne'), abs_rat, fract_rat, ahead, mul_assoc,
      mul_comm b 2]
  obtain ⟨start, finish⟩ :=
    And.intro (Int.fract_nonneg (a / (2 * b))) (Int.fract_lt_one (a / (2 * b)))
  rw [wave, remainder, fract_sub_half]
  generalize Int.fract (a / (2 * b)) = t at *
  split
  case isTrue early =>
    have climbed : (t + 1 / 2) * (2 * b) - b = t * (2 * b) := by ring
    have short : t * (2 * b) ≤ 2 * b - t * (2 * b) := by nlinarith
    rw [climbed, min_eq_left short, abs_of_nonneg (by positivity)]
  case isFalse late =>
    have fallen : (t - 1 / 2) * (2 * b) - b = -(2 * b - t * (2 * b)) := by ring
    have past : 2 * b - t * (2 * b) ≤ t * (2 * b) := by nlinarith
    rw [fallen, min_eq_right past, abs_neg, abs_of_nonneg (by nlinarith)]

theorem isLeast_pingpong (pos : 0 < b) (a : Rat) :
    IsLeast (distances a (2 * b)) (pingpong a b) := by
  have length : 0 < 2 * b := by positivity
  have remains : Remains a (2 * b) 0 (wrap a (2 * b) 0) := wrap_remains length.ne'
  obtain ⟨k, whole⟩ := remains.whole
  rw [pingpong_rat pos]
  exact isLeast_distances (remains.ascending length) (by simpa using whole)

/-- How high a wave from 0 to `b` is at `a`, which is `remainder` past a low of it. -/
structure Waves (a b remainder height : Rat) : Prop where
  folded : height = min remainder (2 * b - remainder)
  nearest : IsLeast (distances a (2 * b)) height
  mem : height ∈ Set.Icc 0 b

theorem pingpong_waves (pos : 0 < b) (a : Rat) :
    Waves a b (wrap a (2 * b) 0) (pingpong a b) where
  folded := pingpong_rat pos
  nearest := isLeast_pingpong pos a
  mem := by
    have length : 0 < 2 * b := by positivity
    obtain ⟨start, finish⟩ := (wrap_remains length.ne' (a := a)).ascending length
    rw [pingpong_rat pos]
    refine ⟨le_min start (by linarith), ?_⟩
    rcases le_total (wrap a (2 * b) 0) b with low | high
    · exact le_trans (min_le_left _ _) low
    · exact le_trans (min_le_right _ _) (by linarith)

theorem pingpong_neg (pos : 0 < b) (a : Rat) : pingpong (-a) b = pingpong a b := by
  have turned := isLeast_pingpong pos (-a)
  rw [distances_neg] at turned
  exact turned.unique (isLeast_pingpong pos a)

theorem pingpong_add (pos : 0 < b) (a : Rat) (turns : Int) :
    pingpong (a + turns * (2 * b)) b = pingpong a b := by
  have shifted := isLeast_pingpong pos (a + turns * (2 * b))
  rw [distances_add] at shifted
  exact shifted.unique (isLeast_pingpong pos a)

end

/-- Wrapping keeps the remainder of a division by the length of its range, snapping
the multiple of its step, and going to and fro the distance to the nearest multiple
of twice its height, which is even and periodic. -/
theorem MathOp.periodic_divide [Elementary Rat] (unread : Rat) :
    (∀ a b c : Rat, b ≠ c → Remains a b c (wrap.apply a b c)) ∧
      (∀ a b : Rat, b ≠ 0 → Divides a b (snap.apply a b unread) (wrap.apply a b 0)) ∧
      ∀ a b : Rat, 0 < b →
        Waves a b (wrap.apply a (2 * b) 0) (pingpong.apply a b unread) ∧
          pingpong.apply (-a) b unread = pingpong.apply a b unread ∧
          ∀ turns : Int,
            pingpong.apply (a + turns * (2 * b)) b unread = pingpong.apply a b unread :=
  ⟨fun _ _ _ apart => wrap_remains apart, fun _ _ nonzero => snap_divides nonzero,
    fun a _ pos => ⟨pingpong_waves pos a, pingpong_neg pos a, pingpong_add pos a⟩⟩

section

local instance periodicNumbers : Elementary Rat := Sample.elementary

/-- A range that runs down from 2 to -1, a step of 3 below zero, and a wave of
height 2 past its top. -/
theorem MathOp.periodic_divide_below :
    (-1 : Rat) ≠ 2 ∧ wrap.apply (7 / 2 : Rat) (-1) 2 ∈ Set.Ioc (-1) 2 ∧
      wrap.apply (7 / 2 : Rat) (-1) 2 = 1 / 2 ∧
      (3 : Rat) ≠ 0 ∧ snap.apply (-1 : Rat) 3 0 + wrap.apply (-1) 3 0 = -1 ∧
      snap.apply (-1 : Rat) 3 0 = -3 ∧
      (0 : Rat) < 2 ∧ IsLeast (distances (7 / 2) (2 * 2)) (pingpong.apply (7 / 2 : Rat) 2 0) ∧
      pingpong.apply (7 / 2 : Rat) 2 0 = 1 / 2 := by
  obtain ⟨wraps, snaps, waves⟩ := periodic_divide 0
  have down : (-1 : Rat) ≠ 2 := by decide
  have step : (3 : Rat) ≠ 0 := by decide
  have high : (0 : Rat) < 2 := by decide +kernel
  exact ⟨down, (wraps (7 / 2) (-1) 2 down).descending (by decide +kernel), by decide +kernel,
    step, (snaps (-1) 3 step).sum, by decide +kernel,
    high, (waves (7 / 2) 2 high).1.nearest, by decide +kernel⟩

end

end ShadeGraph
