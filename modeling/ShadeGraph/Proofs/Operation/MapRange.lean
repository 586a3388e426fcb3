import Mathlib.Order.Interval.Set.UnorderedInterval
import Mathlib.Tactic.Linarith
import ShadeGraph.Operation.MapRange
import ShadeGraph.Proofs.Number.Shaping

/-!
# Carrying values between ranges

A straight or smooth map climbs from the lower edge of its source range to the
upper one, and a range that runs backwards is met by the complement of that
climb. So both ways to write a pair of ranges give one map, which goes between
the target ends in one direction.
-/

namespace ShadeGraph

/-- A map that carries one range over to another and keeps or turns the order
of all values, as the ranges run the same way or against each other. -/
structure CarriesRange (fromMin fromMax toMin toMax : Rat) (line : Rat → Rat) : Prop where
  start : line fromMin = toMin
  finish : line fromMax = toMax
  between : ∀ v ∈ Set.uIcc fromMin fromMax, line v ∈ Set.uIcc toMin toMax
  monotone : 0 < (fromMax - fromMin) * (toMax - toMin) → Monotone line
  antitone : (fromMax - fromMin) * (toMax - toMin) ≤ 0 → Antitone line

/-- A map that stays at the ends of the target range outside the source range. -/
structure KeepsEnds (fromMin fromMax toMin toMax : Rat) (line : Rat → Rat) : Prop where
  start : ∀ v, v ≤ fromMin ∧ fromMin < fromMax ∨ fromMax < fromMin ∧ fromMin ≤ v → line v = toMin
  finish : ∀ v, v ≤ fromMax ∧ fromMax < fromMin ∨ fromMin < fromMax ∧ fromMax ≤ v → line v = toMax

section

variable {lo hi a b : Rat} {f line : Rat → Rat}

theorem CarriesRange.swap (h : CarriesRange lo hi a b line) : CarriesRange hi lo b a line := by
  have same : (lo - hi) * (a - b) = (hi - lo) * (b - a) := by ring
  refine ⟨h.finish, h.start, fun v mem => ?_, same ▸ h.monotone, same ▸ h.antitone⟩
  rw [Set.uIcc_comm] at mem ⊢
  exact h.between v mem

theorem KeepsEnds.swap (h : KeepsEnds lo hi a b line) : KeepsEnds hi lo b a line :=
  ⟨h.finish, h.start⟩

/-- A climb, scaled to the target range, carries the range between its edges. -/
theorem Rises.carriesRange (rises : Rises lo hi f) (lt : lo < hi) (a b : Rat) :
    CarriesRange lo hi a b fun v => a + f v * (b - a) := by
  have start : a + f lo * (b - a) = a := by rw [rises.start]; ring
  have finish : a + f hi * (b - a) = b := by rw [rises.finish]; ring
  have up (le : a ≤ b) : Monotone fun v => a + f v * (b - a) := by
    intro v w vw
    have scaled := mul_le_mul_of_nonneg_right (rises.monotone vw) (sub_nonneg.2 le)
    exact add_le_add le_rfl scaled
  have down (le : b ≤ a) : Antitone fun v => a + f v * (b - a) := by
    intro v w vw
    have scaled := mul_le_mul_of_nonpos_right (rises.monotone vw) (sub_nonpos.2 le)
    exact add_le_add le_rfl scaled
  have length : 0 < hi - lo := sub_pos.2 lt
  refine ⟨start, finish, fun v mem => ?_, fun same => up ?_, fun turned => down ?_⟩
  · rcases le_total a b with le | le
    · simpa only [start, finish] using (up le).mapsTo_uIcc mem
    · simpa only [start, finish] using (down le).mapsTo_uIcc mem
  · exact (sub_pos.1 (pos_of_mul_pos_right same length.le)).le
  · exact sub_nonpos.1 (nonpos_of_mul_nonpos_right turned length)

theorem Levels.keepsEnds (level : Levels lo hi f) (lt : lo < hi) (a b : Rat) :
    KeepsEnds lo hi a b fun v => a + f v * (b - a) where
  start v past := by
    rcases past with ⟨before, -⟩ | ⟨turned, -⟩
    · rw [level.below v before]
      ring
    · exact absurd turned (lt_asymm lt)
  finish v past := by
    rcases past with ⟨-, turned⟩ | ⟨-, after⟩
    · exact absurd turned (lt_asymm lt)
    · rw [level.above v after]
      ring

end

namespace MapRangeMode

/-- How far a mode has climbed from the lower edge of a range to the upper one,
before it is cut into steps. -/
def climb (mode : MapRangeMode) (lo hi v : Rat) : Rat :=
  match mode with
  | linear | stepped => (v - lo) / (hi - lo)
  | smoothstep => ShadeGraph.smoothstep lo hi v
  | smootherstep => ShadeGraph.smootherstep lo hi v

/-- The maps that follow their climb all the way: neither cut into steps nor
clamped. -/
def Unbroken (mode : MapRangeMode) (clamp : Bool) : Prop :=
  mode = linear ∧ clamp = false ∨ mode = smoothstep ∨ mode = smootherstep

section

variable {mode : MapRangeMode} {clamp : Bool} {lo hi a b v steps : Rat}

theorem climb_rises (mode : MapRangeMode) (lt : lo < hi) : Rises lo hi (mode.climb lo hi) := by
  cases mode with
  | linear | stepped => exact straight_rises lt
  | smoothstep =>
    show Rises lo hi (ShadeGraph.smoothstep lo hi)
    rw [smoothstep_rat lt]
    exact cubic_eases.rises lt
  | smootherstep =>
    show Rises lo hi (ShadeGraph.smootherstep lo hi)
    rw [smootherstep_rat]
    exact quintic_eases.rises lt

theorem climb_levels (smooth : mode = smoothstep ∨ mode = smootherstep) (lt : lo < hi) :
    Levels lo hi (mode.climb lo hi) := by
  rcases smooth with rfl | rfl
  · show Levels lo hi (ShadeGraph.smoothstep lo hi)
    rw [smoothstep_rat lt]
    exact cubic_eases.levels lt
  · show Levels lo hi (ShadeGraph.smootherstep lo hi)
    rw [smootherstep_rat]
    exact quintic_eases.levels lt

theorem progress_forth (unbroken : mode.Unbroken clamp) (lt : lo < hi) :
    mode.progress v lo hi steps = mode.climb lo hi v := by
  rcases unbroken with ⟨rfl, -⟩ | rfl | rfl
  · exact safeDivide_rat _ _
  · exact if_neg (lt_asymm lt)
  · exact if_neg (lt_asymm lt)

theorem progress_back (unbroken : mode.Unbroken clamp) (lt : lo < hi) :
    mode.progress v hi lo steps = 1 - mode.climb lo hi v := by
  rcases unbroken with ⟨rfl, -⟩ | rfl | rfl
  · have length : hi - lo ≠ 0 := sub_ne_zero.2 lt.ne'
    calc safeDivide (v - hi) (lo - hi)
      _ = (v - hi) / (lo - hi) := safeDivide_rat _ _
      _ = (hi - v) / (hi - lo) := by rw [← neg_sub hi v, ← neg_sub hi lo, neg_div_neg_eq]
      _ = (hi - lo - (v - lo)) / (hi - lo) := by rw [sub_sub_sub_cancel_right]
      _ = 1 - (v - lo) / (hi - lo) := by rw [sub_div, div_self length]
  · exact if_pos lt
  · exact if_pos lt

theorem apply_unbroken {fromMin fromMax toMin toMax : Rat} (unbroken : mode.Unbroken clamp)
    (apart : fromMin ≠ fromMax) :
    mode.apply clamp v fromMin fromMax toMin toMax steps =
      toMin + mode.progress v fromMin fromMax steps * (toMax - toMin) := by
  have unclamped : mode.clamps clamp = false := by
    rcases unbroken with ⟨rfl, rfl⟩ | rfl | rfl <;> rfl
  rw [apply, if_neg (by simpa using apart.symm), unclamped]
  rfl

theorem apply_forth (unbroken : mode.Unbroken clamp) (lt : lo < hi) :
    mode.apply clamp v lo hi a b steps = a + mode.climb lo hi v * (b - a) := by
  rw [apply_unbroken unbroken lt.ne, progress_forth unbroken lt]

theorem apply_back (unbroken : mode.Unbroken clamp) (lt : lo < hi) :
    mode.apply clamp v hi lo b a steps = a + mode.climb lo hi v * (b - a) := by
  rw [apply_unbroken unbroken lt.ne', progress_back unbroken lt]
  ring

end

/-- A straight or smooth map carries its source range over to its target range
in one direction, the smooth ones stay at the target ends outside it, and
turning both ranges round changes nothing. -/
theorem carries_range {mode : MapRangeMode} {clamp : Bool} {fromMin fromMax : Rat}
    (unbroken : mode.Unbroken clamp) (apart : fromMin ≠ fromMax) (toMin toMax steps : Rat) :
    let line := fun v => mode.apply clamp v fromMin fromMax toMin toMax steps
    CarriesRange fromMin fromMax toMin toMax line ∧
      (mode ≠ linear → KeepsEnds fromMin fromMax toMin toMax line) ∧
      ∀ v, mode.apply clamp v fromMax fromMin toMax toMin steps = line v := by
  intro line
  have smooth (curved : mode ≠ linear) : mode = smoothstep ∨ mode = smootherstep :=
    unbroken.resolve_left fun straight => curved straight.1
  rcases lt_or_gt_of_ne apart with lt | lt
  · have forth : line = fun v => toMin + mode.climb fromMin fromMax v * (toMax - toMin) :=
      funext fun v => apply_forth unbroken lt
    rw [forth]
    exact ⟨(mode.climb_rises lt).carriesRange lt toMin toMax,
      fun curved => (climb_levels (smooth curved) lt).keepsEnds lt toMin toMax,
      fun v => apply_back unbroken lt⟩
  · have back : line = fun v => toMax + mode.climb fromMax fromMin v * (toMin - toMax) :=
      funext fun v => apply_back unbroken lt
    rw [back]
    exact ⟨((mode.climb_rises lt).carriesRange lt toMax toMin).swap,
      fun curved => ((climb_levels (smooth curved) lt).keepsEnds lt toMax toMin).swap,
      fun v => apply_forth unbroken lt⟩

/-- A smooth map of a range that runs backwards, at the middle of the range. -/
theorem carries_range_backwards :
    let line := fun v => smoothstep.apply true v 4 0 (-1) 3 (0 : Rat)
    Unbroken smoothstep true ∧ (4 : Rat) ≠ 0 ∧ CarriesRange 4 0 (-1) 3 line ∧
      line 2 = 1 ∧ line 7 = -1 ∧ ∀ v, smoothstep.apply true v 0 4 3 (-1) 0 = line v := by
  intro line
  have unbroken : Unbroken smoothstep true := .inr (.inl rfl)
  have apart : (4 : Rat) ≠ 0 := by decide
  obtain ⟨carries, ends, turned⟩ := carries_range unbroken apart (-1) 3 0
  have past : line 7 = -1 :=
    (ends (by decide)).start 7 (.inr ⟨by decide +kernel, by decide +kernel⟩)
  exact ⟨unbroken, apart, carries, by decide +kernel, past, turned⟩

end MapRangeMode
end ShadeGraph
