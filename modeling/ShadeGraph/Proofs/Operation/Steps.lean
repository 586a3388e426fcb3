import Mathlib.Analysis.Convex.Segment
import ShadeGraph.Proofs.Number.Rounding
import ShadeGraph.Proofs.Operation.MapRange

/-!
# Carrying values in steps

The stepped map cuts its source range into `n + 1` equal parts, each without its
end, and gives the `k`-th of them the `k`-th of `n` equal steps through the
target range. The end of the source range belongs to no part, so that it goes one
step past the end of the target range.
-/

namespace ShadeGraph

/-- The place that lies a part `t` of the way from `a` to `b`. -/
def along (a b t : Rat) : Rat := a + t * (b - a)

section

variable {a b v s t : Rat}

theorem along_zero : along a b 0 = a := by rw [along, zero_mul, add_zero]

theorem along_one : along a b 1 = b := by rw [along, one_mul, add_sub_cancel]

theorem along_same : along a a t = a := by rw [along, sub_self, mul_zero, add_zero]

theorem mem_uIcc_iff_along : v ∈ Set.uIcc a b ↔ ∃ t ∈ Set.Icc (0 : Rat) 1, along a b t = v := by
  rw [← segment_eq_uIcc, segment_eq_image']
  exact Iff.rfl

theorem along_inj (apart : a ≠ b) : along a b s = along a b t ↔ s = t := by
  rw [along, along, add_right_inj]
  exact mul_left_inj' (sub_ne_zero.2 apart.symm)

theorem along_mem_uIcc_iff (apart : a ≠ b) :
    along a b t ∈ Set.uIcc a b ↔ t ∈ Set.Icc (0 : Rat) 1 := by
  simp only [mem_uIcc_iff_along, along_inj apart, exists_eq_right]

end

/-- A map that takes equal steps, `n` of which go through the target range, one
after another for equal parts, `n + 1` of which make up the source range. -/
structure StepsThrough (fromMin fromMax toMin toMax : Rat) (n : Nat) (line : Rat → Rat) :
    Prop where
  step : ∀ (k : Nat) (t : Rat), k ≤ t * (n + 1) → t * (n + 1) < k + 1 →
    line (along fromMin fromMax t) = along toMin toMax (k / n)

namespace StepsThrough

variable {fromMin fromMax toMin toMax v : Rat} {n : Nat} {line : Rat → Rat}

theorem start (h : StepsThrough fromMin fromMax toMin toMax n line) : line fromMin = toMin := by
  simpa [along_zero] using h.step 0 0 (by simp) (by simp)

theorem finish (h : StepsThrough fromMin fromMax toMin toMax n line) :
    line fromMax = along toMin toMax ((n + 1) / n) := by
  simpa [along_one] using h.step (n + 1) 1 (by simp) (by simp)

/-- Short of its end the source range is met by the steps of the target range. -/
theorem exists_step (h : StepsThrough fromMin fromMax toMin toMax n line)
    (mem : v ∈ Set.uIcc fromMin fromMax) (short : v ≠ fromMax) :
    ∃ k ≤ n, line v = along toMin toMax (k / n) := by
  obtain ⟨t, ⟨start, finish⟩, rfl⟩ := mem_uIcc_iff_along.1 mem
  have before : t < 1 := by
    refine lt_of_le_of_ne finish ?_
    rintro rfl
    exact short along_one
  have parts : (0 : Rat) < n + 1 := by positivity
  have nonneg : 0 ≤ t * (n + 1) := mul_nonneg start parts.le
  have inside : t * (n + 1) < n + 1 := mul_lt_of_lt_one_left parts before
  have bound : ⌊t * (n + 1)⌋₊ < n + 1 := (Nat.floor_lt nonneg).2 (by exact_mod_cast inside)
  exact ⟨⌊t * (n + 1)⌋₊, Nat.le_of_lt_succ bound,
    h.step _ t (Nat.floor_le nonneg) (Nat.lt_floor_add_one _)⟩

theorem step_mem (pos : 0 < n) {k : Nat} (le : k ≤ n) :
    along toMin toMax (k / n) ∈ Set.uIcc toMin toMax := by
  have whole : (0 : Rat) < n := by exact_mod_cast pos
  have part : (k : Rat) / n ≤ 1 := (div_le_one whole).2 (by exact_mod_cast le)
  exact mem_uIcc_iff_along.2 ⟨k / n, ⟨by positivity, part⟩, rfl⟩

/-- The last step leaves the target range, unless that range is a single place. -/
theorem finish_mem_iff (h : StepsThrough fromMin fromMax toMin toMax n line) (pos : 0 < n) :
    line fromMax ∈ Set.uIcc toMin toMax ↔ toMin = toMax := by
  have whole : (0 : Rat) < n := by exact_mod_cast pos
  have past : 1 < ((n : Rat) + 1) / n := (one_lt_div whole).2 (lt_add_one _)
  rw [h.finish]
  constructor
  · intro mem
    by_contra apart
    exact not_le.2 past ((along_mem_uIcc_iff apart).1 mem).2
  · rintro rfl
    rw [along_same]
    exact Set.left_mem_uIcc

theorem mem_iff (h : StepsThrough fromMin fromMax toMin toMax n line) (pos : 0 < n)
    (mem : v ∈ Set.uIcc fromMin fromMax) :
    line v ∈ Set.uIcc toMin toMax ↔ v ≠ fromMax ∨ toMin = toMax := by
  by_cases last : v = fromMax
  · subst last
    simpa using h.finish_mem_iff pos
  · obtain ⟨k, le, value⟩ := h.exists_step mem last
    rw [value]
    exact ⟨fun _ => .inl last, fun _ => step_mem pos le⟩

theorem exists_step_iff (h : StepsThrough fromMin fromMax toMin toMax n line) (pos : 0 < n)
    (mem : v ∈ Set.uIcc fromMin fromMax) :
    (∃ k ≤ n, line v = along toMin toMax (k / n)) ↔ v ≠ fromMax ∨ toMin = toMax := by
  constructor
  · rintro ⟨k, le, value⟩
    rw [← h.mem_iff pos mem, value]
    exact step_mem pos le
  · rintro (short | rfl)
    · exact h.exists_step mem short
    · obtain ⟨t, ⟨start, -⟩, rfl⟩ := mem_uIcc_iff_along.1 mem
      have nonneg : 0 ≤ t * (n + 1) := by positivity
      have value := h.step _ t (Nat.floor_le nonneg) (Nat.lt_floor_add_one _)
      exact ⟨0, Nat.zero_le n, value.trans (by rw [along_same, along_same])⟩

theorem finish_eq_iff (h : StepsThrough fromMin fromMax toMin toMax n line) (pos : 0 < n) :
    line fromMax = toMax ↔ toMin = toMax := by
  rw [← h.finish_mem_iff pos]
  constructor
  · intro value
    rw [value]
    exact Set.right_mem_uIcc
  · intro mem
    have same := (h.finish_mem_iff pos).1 mem
    rw [h.finish, same, along_same]

end StepsThrough

namespace MapRangeMode

/-- The stepped map with `n` steps, which nothing clamps. -/
def stairs (fromMin fromMax toMin toMax : Rat) (n : Nat) (v : Rat) : Rat :=
  stepped.apply false v fromMin fromMax toMin toMax n

variable {fromMin fromMax : Rat} {n : Nat}

theorem stepsThrough (apart : fromMin ≠ fromMax) (pos : 0 < n) (toMin toMax : Rat) :
    StepsThrough fromMin fromMax toMin toMax n (stairs fromMin fromMax toMin toMax n) where
  step k t start finish := by
    have whole : (0 : Rat) < n := by exact_mod_cast pos
    have reached : (along fromMin fromMax t - fromMin) / (fromMax - fromMin) = t := by
      rw [along, add_sub_cancel_left]
      exact mul_div_cancel_right₀ t (sub_ne_zero.2 apart.symm)
    have cut : ⌊t * (n + 1)⌋ = k := Int.floor_eq_iff.2 ⟨by exact_mod_cast start,
      by exact_mod_cast finish⟩
    have progress : stepped.progress (along fromMin fromMax t) fromMin fromMax n = k / n := by
      simp only [MapRangeMode.progress, safeDivide_rat]
      rw [if_pos whole, reached, floor_rat, cut, Int.cast_natCast]
    rw [stairs, apply, if_neg (by simpa using apart.symm), progress]
    rfl

/-- Short of the end of its source range the stepped map takes steps of the
target range only, the first one at the start; at the end it leaves the target
range by a step, and it keeps to it there only if that range is a single place. -/
theorem stepped_levels_iff (apart : fromMin ≠ fromMax) (pos : 0 < n) (toMin toMax : Rat) :
    StepsThrough fromMin fromMax toMin toMax n (stairs fromMin fromMax toMin toMax n) ∧
      (∀ v ∈ Set.uIcc fromMin fromMax,
        ((∃ k : Nat, k ≤ n ∧
            stairs fromMin fromMax toMin toMax n v = toMin + k / n * (toMax - toMin)) ↔
          v ≠ fromMax ∨ toMin = toMax) ∧
        (stairs fromMin fromMax toMin toMax n v ∈ Set.uIcc toMin toMax ↔
          v ≠ fromMax ∨ toMin = toMax)) ∧
      stairs fromMin fromMax toMin toMax n fromMin = toMin ∧
      (stairs fromMin fromMax toMin toMax n fromMax = toMax ↔ toMin = toMax) := by
  have steps := stepsThrough apart pos toMin toMax
  exact ⟨steps, fun v mem => ⟨steps.exists_step_iff pos mem, steps.mem_iff pos mem⟩, steps.start,
    steps.finish_eq_iff pos⟩

/-- A range that runs backwards in four steps: three quarters of the way, the
fourth part of five is reached. -/
theorem stepped_levels_backwards :
    (4 : Rat) ≠ 0 ∧ 0 < 4 ∧ (1 : Rat) ∈ Set.uIcc 4 0 ∧
      (∃ k : Nat, k ≤ 4 ∧ stairs 4 0 (-1) 3 4 1 = -1 + k / (4 : Nat) * (3 - -1)) ∧
      stairs 4 0 (-1) 3 4 1 = 2 ∧ stairs 4 0 (-1) 3 4 4 = -1 ∧
      stairs 4 0 (-1) 3 4 0 ∉ Set.uIcc (-1) 3 := by
  have apart : (4 : Rat) ≠ 0 := by decide
  obtain ⟨-, inside, start, -⟩ := stepped_levels_iff apart (by decide : 0 < 4) (-1) 3
  have mem : (1 : Rat) ∈ Set.uIcc 4 0 := Set.mem_uIcc.2 (.inr (by decide +kernel))
  have last : (0 : Rat) ∈ Set.uIcc 4 0 := Set.right_mem_uIcc
  refine ⟨apart, by decide, mem, (inside 1 mem).1.2 (.inl (by decide)), by decide +kernel, start,
    fun within => ?_⟩
  rcases (inside 0 last).2.1 within with short | same
  · exact short rfl
  · exact absurd same (by decide +kernel)

/-- At the end of a range in four steps the map is five steps up. -/
theorem stepped_past_end :
    stepped.apply false (1 : Rat) 0 1 0 1 (4 : Nat) = 5 / 4 ∧ (1 : Rat) ∈ Set.uIcc 0 1 ∧
      stairs 0 1 0 1 4 1 ≠ 1 ∧ stairs 0 1 0 1 4 1 ∉ Set.uIcc 0 1 ∧
      ¬∃ k : Nat, k ≤ 4 ∧ stairs 0 1 0 1 4 1 = 0 + k / (4 : Nat) * (1 - 0) := by
  have past : stairs 0 1 0 1 4 1 = 5 / 4 := by decide +kernel
  refine ⟨past, Set.right_mem_uIcc, by rw [past]; norm_num, ?_, ?_⟩
  · rw [past, Set.mem_uIcc]
    norm_num
  · rintro ⟨k, le, value⟩
    have level : (k : Rat) = 5 := by
      rw [past] at value
      push_cast at value
      linarith
    have five : k = 5 := by exact_mod_cast level
    omega

end MapRangeMode
end ShadeGraph
