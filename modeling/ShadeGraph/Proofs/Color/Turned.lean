import ShadeGraph.Operation.Adjust
import ShadeGraph.Proofs.Color.Hsv
import ShadeGraph.Proofs.Number.Rounding

/-!
# Turning hues

A hue is turned by an offset and brought back to the wheel by a remainder, which
has the sign of the turned hue. On the wheel that gives every whole turn the same
shares. Below zero there is no wheel: all hues there have the shares of red. So
hues a whole number of turns apart show the same colour as long as both are on
one side of zero.
-/

namespace ShadeGraph.Vec3

section

variable {hue : Rat}

theorem hueShares_of_nonpos (nonpos : hue ≤ 0) : hueShares hue = ⟨1, 0, 0⟩ := by
  simp only [hueShares, clamp_rat, mk.injEq]
  refine ⟨?_, ?_, ?_⟩ <;> grind

/-- On the wheel only its very start has the shares of red. -/
theorem hueShares_eq_red_iff (start : 0 ≤ hue) (finish : hue < 1) :
    hueShares hue = ⟨1, 0, 0⟩ ↔ hue = 0 := by
  constructor
  · simp only [hueShares, clamp_rat, mk.injEq]
    rintro ⟨-, green, blue⟩
    grind
  · rintro rfl
    exact hueShares_of_nonpos le_rfl

end

/-- The shares of a hue that is brought back to the wheel. -/
def turnedShares (x : Rat) : Vec3 Rat := hueShares (Arithmetic.rem x 1)

theorem turnedShares_of_nonneg {x : Rat} (nonneg : 0 ≤ x) :
    turnedShares x = hueShares (Int.fract x) := by
  rw [turnedShares, rem_one_of_nonneg nonneg]

theorem turnedShares_of_nonpos {x : Rat} (nonpos : x ≤ 0) : turnedShares x = ⟨1, 0, 0⟩ := by
  rw [turnedShares, rem_one_of_nonpos nonpos]
  exact hueShares_of_nonpos (neg_nonpos.2 (Int.fract_nonneg (-x)))

theorem turnedShares_eq_red_iff {x : Rat} (nonneg : 0 ≤ x) :
    turnedShares x = ⟨1, 0, 0⟩ ↔ Int.fract x = 0 := by
  rw [turnedShares_of_nonneg nonneg]
  exact hueShares_eq_red_iff (Int.fract_nonneg x) (Int.fract_lt_one x)

/-- On one side of zero, that is both from it upwards or both from it downwards. -/
def SameSide (x y : Rat) : Prop := 0 ≤ x ∧ 0 ≤ y ∨ x ≤ 0 ∧ y ≤ 0

theorem turnedShares_add_iff (x : Rat) (turns : Int) :
    turnedShares (x + turns) = turnedShares x ↔ Int.fract x = 0 ∨ SameSide x (x + turns) := by
  have same : Int.fract (x + turns) = Int.fract x := Int.fract_add_intCast x turns
  have start {y : Rat} (zero : y = 0) : Int.fract y = 0 := by rw [zero, Int.fract_zero]
  rcases le_or_gt 0 x with front | back <;> rcases le_or_gt 0 (x + turns) with front' | back'
  · rw [turnedShares_of_nonneg front, turnedShares_of_nonneg front', same]
    exact iff_of_true rfl (.inr (.inl ⟨front, front'⟩))
  · rw [turnedShares_of_nonpos back'.le, eq_comm, turnedShares_eq_red_iff front]
    refine ⟨.inl, ?_⟩
    rintro (whole | ⟨-, up⟩ | ⟨down, -⟩)
    · exact whole
    · exact absurd up (not_le.2 back')
    · exact start (le_antisymm down front)
  · rw [turnedShares_of_nonpos back.le, turnedShares_eq_red_iff front', same]
    refine ⟨.inl, ?_⟩
    rintro (whole | ⟨up, -⟩ | ⟨-, down⟩)
    · exact whole
    · exact absurd up (not_le.2 back)
    · exact same ▸ start (le_antisymm down front')
  · rw [turnedShares_of_nonpos back.le, turnedShares_of_nonpos back'.le]
    exact iff_of_true rfl (.inr (.inr ⟨back.le, back'.le⟩))

/-- The hue of a colour with an offset, before it is brought back to the wheel. -/
def turned (c : Vec3 Rat) (hue : Rat) : Rat := c.toHsv.x + hue + 1 / 2

variable {c : Vec3 Rat} {hue saturation value fac : Rat}

theorem turned_add (c : Vec3 Rat) (hue turns : Rat) :
    c.turned (hue + turns) = c.turned hue + turns := by
  unfold turned
  ring

theorem hueSaturation_rat :
    c.hueSaturation hue saturation value fac =
      ((turnedShares (c.turned hue)).map
        (shade (saturate (c.toHsv.y * saturation)) (c.toHsv.z * value))).zipWith
        (fun new old => max (fac * new + (1 - fac) * old) 0) c := by
  rw [hueSaturation, ofHsv_rat, half_rat]
  rfl

/-- A grey shows the same at every hue. -/
theorem hueSaturation_grey (v hue' : Rat) :
    (grey v).hueSaturation hue' saturation value fac =
      (grey v).hueSaturation hue saturation value fac := by
  have pale : saturate (0 : Rat) = 0 := clamp_below le_rfl
  simp only [hueSaturation_rat, (toHsv_grey v).1, zero_mul, pale, map, shade_zero]

/-- A colour that is not grey has some saturation and some value. -/
theorem Placed.colourful {greatest least : Rat} (h : Placed c greatest least)
    (coloured : ¬∃ v, c = grey v) : 0 < c.toHsv.y ∧ 0 < c.toHsv.z := by
  have apart : least < greatest := by
    by_contra level
    have same (k : Fin 3) : c.get k = greatest := by
      obtain ⟨low, high⟩ := (h.takes k).le h.le
      exact le_antisymm high (le_trans (not_lt.1 level) low)
    exact coloured ⟨greatest, ext_get fun k => by rw [same, get_grey]⟩
  have bright : 0 < greatest := lt_of_le_of_lt h.nonneg apart
  rw [h.saturation, h.value]
  exact ⟨div_pos (sub_pos.2 apart) (add_pos bright hsvGuard_pos), bright⟩

theorem shade_injective (dull : saturation ≠ 0) (dark : value ≠ 0) :
    Function.Injective (shade saturation value) := by
  intro p q same
  have scaled : (p - 1) * saturation + 1 = (q - 1) * saturation + 1 :=
    mul_right_cancel₀ dark same
  have apart : p - 1 = q - 1 := mul_right_cancel₀ dull (add_right_cancel scaled)
  exact sub_left_inj.1 apart

/-- At full factor, with saturation and value as they are, what is shown is the
colour of the turned hue. -/
theorem hueSaturation_full (bright : ∀ k, 0 ≤ c.get k) (hue : Rat) :
    c.hueSaturation hue 1 1 1 =
      (turnedShares (c.turned hue)).map (shade c.toHsv.y c.toHsv.z) := by
  obtain ⟨greatest, least, placed⟩ := exists_placed bright
  obtain ⟨dull, full⟩ := placed.saturation_mem
  have kept : saturate (c.toHsv.y * 1) = c.toHsv.y := by
    rw [mul_one]
    exact clamp_of_mem ⟨dull, full.le⟩
  have value : 0 ≤ c.toHsv.z := by
    rw [placed.value]
    exact le_trans placed.nonneg placed.le
  rw [hueSaturation_rat, kept, mul_one]
  refine ext_get fun k => ?_
  rw [get_zipWith, get_map, one_mul, sub_self, zero_mul, add_zero, shade_eq]
  have share := hueShares_mem (Arithmetic.rem (c.turned hue) 1) k
  have rest := mul_mem_unit (Set.Icc.one_sub_mem share) ⟨dull, full.le⟩
  exact max_eq_left (mul_nonneg (Set.Icc.one_sub_mem rest).1 value)

/-- Whole turns show the same colour: it has no hue, or the turned hue is at the
start of the wheel, or both turned hues lie on one side of zero. -/
def TurnsAlike (c : Vec3 Rat) (hue : Rat) (turns : Int) : Prop :=
  (∃ v, c = grey v) ∨ Int.fract (c.turned hue) = 0 ∨
    SameSide (c.turned hue) (c.turned (hue + turns))

theorem hueSaturation_add_iff (bright : ∀ k, 0 ≤ c.get k) (hue : Rat) (turns : Int) :
    (∀ saturation value fac, c.hueSaturation (hue + turns) saturation value fac =
      c.hueSaturation hue saturation value fac) ↔ c.TurnsAlike hue turns := by
  by_cases plain : ∃ v, c = grey v
  · obtain ⟨v, rfl⟩ := plain
    exact iff_of_true (fun _ _ _ => hueSaturation_grey v _) (.inl ⟨v, rfl⟩)
  · have shares : c.TurnsAlike hue turns ↔
        turnedShares (c.turned (hue + turns)) = turnedShares (c.turned hue) := by
      rw [TurnsAlike, turned_add, turnedShares_add_iff, or_iff_right plain]
    rw [shares]
    constructor
    · intro same
      obtain ⟨greatest, least, placed⟩ := exists_placed bright
      obtain ⟨coloured, lit⟩ := placed.colourful plain
      have full := same 1 1 1
      rw [hueSaturation_full bright, hueSaturation_full bright] at full
      refine ext_get fun k => shade_injective coloured.ne' lit.ne' ?_
      have channel : (map _ _).get k = (map _ _).get k := congrArg (get · k) full
      rwa [get_map, get_map] at channel
    · intro same saturation value fac
      rw [hueSaturation_rat, hueSaturation_rat, same]

end ShadeGraph.Vec3
