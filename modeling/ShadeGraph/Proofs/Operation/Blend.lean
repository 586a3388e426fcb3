import Mathlib.Analysis.Convex.Basic
import ShadeGraph.Operation.Blend
import ShadeGraph.Proofs.Color.Hsv

/-!
# Blending exact colours

Most modes are made of products, complements and mixes, and so keep colours in
the unit range; the modes that go through hue, saturation and value do because
their readings stay there. At factor zero a mode gives its first colour back.
-/

namespace ShadeGraph

section

variable {t a b : Rat}

theorem lerp_mem (ht : t ∈ Set.Icc (0 : Rat) 1) (ha : a ∈ Set.Icc (0 : Rat) 1)
    (hb : b ∈ Set.Icc (0 : Rat) 1) : lerp t a b ∈ Set.Icc (0 : Rat) 1 :=
  convex_Icc 0 1 ha hb (sub_nonneg.2 ht.2) ht.1 (sub_add_cancel 1 t)

theorem lerp_zero (a b : Rat) : lerp 0 a b = a := by
  show (1 - 0) * a + 0 * b = a
  ring

end

namespace BlendMode

section

variable {t a b : Rat} (ht : t ∈ Set.Icc (0 : Rat) 1) (ha : a ∈ Set.Icc (0 : Rat) 1)
  (hb : b ∈ Set.Icc (0 : Rat) 1)
include ht ha hb

theorem darken_mem : min a b * t + a * (1 - t) ∈ Set.Icc (0 : Rat) 1 := by
  have mixed : min a b * t + a * (1 - t) = lerp t a (min a b) := by
    show _ = (1 - t) * a + t * min a b
    ring
  rw [mixed]
  exact lerp_mem ht ha ⟨le_min ha.1 hb.1, min_le_of_left_le ha.2⟩

theorem multiply_mem : a * (1 - t + t * b) ∈ Set.Icc (0 : Rat) 1 := by
  have mixed : 1 - t + t * b = lerp t 1 b := by
    show _ = (1 - t) * 1 + t * b
    ring
  rw [mixed]
  exact mul_mem_unit ha (lerp_mem ht ⟨zero_le_one, le_rfl⟩ hb)

theorem lighten_mem : lightenChannel t a b ∈ Set.Icc (0 : Rat) 1 := by
  unfold lightenChannel
  dsimp only
  split
  · exact mul_mem_unit ht hb
  · exact ha

theorem screen_mem : 1 - (1 - t + t * (1 - b)) * (1 - a) ∈ Set.Icc (0 : Rat) 1 := by
  have product := multiply_mem ht (Set.Icc.one_sub_mem ha) (Set.Icc.one_sub_mem hb)
  rw [mul_comm] at product
  exact Set.Icc.one_sub_mem product

omit ht hb in
theorem dodge_mem : dodgeChannel t a b ∈ Set.Icc (0 : Rat) 1 := by
  unfold dodgeChannel
  split
  case isTrue => exact ⟨le_rfl, zero_le_one⟩
  case isFalse =>
    dsimp only
    split
    case isTrue => exact ⟨zero_le_one, le_rfl⟩
    case isFalse rest =>
      have quotient : 0 ≤ a / (1 - t * b) := div_nonneg ha.1 (not_le.1 rest).le
      exact ⟨le_min quotient zero_le_one, min_le_right _ _⟩

/-- A half keeps what twice the lower half of the range is mixed with in it. -/
theorem overlay_half (half : a ≤ 1 / 2) : a * (1 - t + 2 * t * b) ∈ Set.Icc (0 : Rat) 1 := by
  have mixed : a * (1 - t + 2 * t * b) = lerp t a (2 * a * b) := by
    show _ = (1 - t) * a + t * (2 * a * b)
    ring
  have double : 2 * a ∈ Set.Icc (0 : Rat) 1 := ⟨by linarith [ha.1], by linarith⟩
  rw [mixed]
  exact lerp_mem ht ha (mul_mem_unit double hb)

theorem overlay_mem : overlayChannel t a b ∈ Set.Icc (0 : Rat) 1 := by
  unfold overlayChannel
  split
  case isTrue dark =>
    have dark : a < 0.5 := dark
    exact overlay_half ht ha hb (by linarith)
  case isFalse bright =>
    have bright : 0.5 ≤ a := not_lt.1 bright
    have rest := overlay_half ht (Set.Icc.one_sub_mem ha) (Set.Icc.one_sub_mem hb) (by linarith)
    rw [mul_comm] at rest
    exact Set.Icc.one_sub_mem rest

theorem softLight_mem : softLightChannel t a b ∈ Set.Icc (0 : Rat) 1 := by
  have screen : 1 - (1 - b) * (1 - a) ∈ Set.Icc (0 : Rat) 1 :=
    Set.Icc.one_sub_mem (mul_mem_unit (Set.Icc.one_sub_mem hb) (Set.Icc.one_sub_mem ha))
  have mixed : softLightChannel t a b = lerp t a (lerp a (b * a) (1 - (1 - b) * (1 - a))) := by
    show (1 - t) * a + t * ((1 - a) * b * a + a * (1 - (1 - b) * (1 - a))) =
      (1 - t) * a + t * ((1 - a) * (b * a) + a * (1 - (1 - b) * (1 - a)))
    ring
  rw [mixed]
  exact lerp_mem ht ha (lerp_mem ha (mul_mem_unit hb ha) screen)

theorem difference_mem :
    (1 - t) * a + t * Arithmetic.abs (a - b) ∈ Set.Icc (0 : Rat) 1 := by
  rw [abs_rat]
  have apart : |a - b| ∈ Set.Icc (0 : Rat) 1 :=
    ⟨abs_nonneg _, abs_le.2 ⟨by linarith [ha.1, hb.2], by linarith [ha.2, hb.1]⟩⟩
  exact lerp_mem ht ha apart

end

/-- The modes whose blends of colours in the unit range stay there of themselves. -/
def keepsUnit : BlendMode → Bool
  | burn | add | linearLight | subtract | divide => false
  | _ => true

section

variable {mode : BlendMode} {clamp : Bool} {t : Rat} {c d : Vec3 Rat}

theorem inUnit_zipWith {f : Rat → Rat → Rat} (hc : c.InUnit) (hd : d.InUnit)
    (closed : ∀ {a b}, a ∈ Set.Icc (0 : Rat) 1 → b ∈ Set.Icc (0 : Rat) 1 →
      f a b ∈ Set.Icc (0 : Rat) 1) : (c.zipWith f d).InUnit := by
  intro k
  rw [Vec3.get_zipWith]
  exact closed (hc k) (hd k)

theorem inUnit_apply (keeps : mode.keepsUnit = true) (ht : t ∈ Set.Icc (0 : Rat) 1)
    (hc : c.InUnit) (hd : d.InUnit) : (mode.apply t c d).InUnit := by
  obtain ⟨saturation₁, value₁⟩ := hc.toHsv
  obtain ⟨saturation₂, value₂⟩ := hd.toHsv
  cases mode with
  | burn | add | linearLight | subtract | divide => cases keeps
  | mix => exact inUnit_zipWith hc hd (lerp_mem ht)
  | darken => exact inUnit_zipWith hc hd (darken_mem ht)
  | multiply => exact inUnit_zipWith hc hd (multiply_mem ht)
  | lighten => exact inUnit_zipWith hc hd (lighten_mem ht)
  | screen => exact inUnit_zipWith hc hd (screen_mem ht)
  | dodge => exact inUnit_zipWith hc hd fun ha _ => dodge_mem ha
  | overlay => exact inUnit_zipWith hc hd (overlay_mem ht)
  | softLight => exact inUnit_zipWith hc hd (softLight_mem ht)
  | difference => exact inUnit_zipWith hc hd (difference_mem ht)
  | hue =>
    refine inUnit_zipWith hc ?_ (lerp_mem ht)
    split
    · exact hc
    · exact Vec3.inUnit_ofHsv saturation₁ value₁
  | saturation =>
    unfold apply
    dsimp only
    split
    · exact hc
    · exact Vec3.inUnit_ofHsv (lerp_mem ht saturation₁ saturation₂) value₁
  | value => exact Vec3.inUnit_ofHsv saturation₁ (lerp_mem ht value₁ value₂)
  | color =>
    unfold apply
    dsimp only
    split
    · exact hc
    · exact inUnit_zipWith hc (Vec3.inUnit_ofHsv saturation₂ value₁) (lerp_mem ht)

/-- The other modes leave the unit range, each at a grey and a full factor. -/
theorem keepsUnit_iff (mode : BlendMode) :
    mode.keepsUnit = true ↔ ∀ t c d, t ∈ Set.Icc (0 : Rat) 1 → c.InUnit → d.InUnit →
      (mode.apply t c d).InUnit := by
  refine ⟨fun keeps t c d => inUnit_apply keeps, fun closed => ?_⟩
  have full : (1 : Rat) ∈ Set.Icc (0 : Rat) 1 := ⟨zero_le_one, le_rfl⟩
  have white : (Vec3.grey (1 : Rat)).InUnit := by decide +kernel
  have half : (Vec3.grey (1 / 2 : Rat)).InUnit := by decide +kernel
  have black : (Vec3.grey (0 : Rat)).InUnit := by decide +kernel
  cases mode with
  | burn => exact absurd (closed 1 _ _ full black half) (by decide +kernel)
  | add => exact absurd (closed 1 _ _ full white white) (by decide +kernel)
  | linearLight => exact absurd (closed 1 _ _ full white white) (by decide +kernel)
  | subtract => exact absurd (closed 1 _ _ full black white) (by decide +kernel)
  | divide => exact absurd (closed 1 _ _ full white half) (by decide +kernel)
  | _ => rfl

/-- A blend clamped to the unit range where its mode clamps. -/
def blend (mode : BlendMode) (clamp : Bool) (t : Rat) (c d : Vec3 Rat) : Vec3 Rat :=
  if mode.clamps clamp then (mode.apply t c d).map saturate else mode.apply t c d

theorem inUnit_map_saturate (c : Vec3 Rat) : (c.map saturate).InUnit := by
  intro k
  rw [Vec3.get_map]
  exact saturate_mem _

/-- A mode that leaves the unit range can be clamped. -/
theorem clamps_or_keepsUnit (mode : BlendMode) :
    mode.clamps true = true ∨ mode.keepsUnit = true := by
  cases mode <;> decide

theorem inUnit_blend (safe : clamp = true ∨ mode.keepsUnit = true)
    (ht : t ∈ Set.Icc (0 : Rat) 1) (hc : c.InUnit) (hd : d.InUnit) :
    (mode.blend clamp t c d).InUnit := by
  unfold blend
  split
  case isTrue => exact inUnit_map_saturate _
  case isFalse unclamped =>
    have keeps : mode.keepsUnit = true := by
      rcases safe with rfl | keeps
      · exact mode.clamps_or_keepsUnit.resolve_left unclamped
      · exact keeps
    exact inUnit_apply keeps ht hc hd

/-- Burning is always clamped. -/
theorem inUnit_blend_burn (clamp : Bool) (t : Rat) (c d : Vec3 Rat) :
    (burn.blend clamp t c d).InUnit := by
  have clamped : burn.clamps clamp = true := by cases clamp <;> decide
  rw [blend, if_pos clamped]
  exact inUnit_map_saturate _

end

section

variable {a b : Rat} {c d : Vec3 Rat}

theorem burnChannel_zero (a b : Rat) : burnChannel 0 a b = a := by
  have rest : 1 - 0 + 0 * b = 1 := by ring
  have unfolded : burnChannel 0 a b =
      if 1 - 0 + 0 * b ≤ 0 then 0 else 1 - (1 - a) / (1 - 0 + 0 * b) := rfl
  rw [unfolded, rest, if_neg (by decide), div_one]
  exact sub_sub_cancel 1 a

theorem lightenChannel_zero (nonneg : 0 ≤ a) (b : Rat) : lightenChannel 0 a b = a := by
  have dark : 0 * b = 0 := zero_mul b
  have unfolded : lightenChannel 0 a b = if a < 0 * b then 0 * b else a := rfl
  rw [unfolded, dark, if_neg (not_lt.2 nonneg)]

theorem dodgeChannel_zero (le : a ≤ 1) (b : Rat) : dodgeChannel 0 a b = a := by
  have rest : 1 - 0 * b = 1 := by ring
  have unfolded : dodgeChannel 0 a b =
      if a == 0 then 0 else if 1 - 0 * b ≤ 0 then 1 else min (a / (1 - 0 * b)) 1 := rfl
  rw [unfolded, rest, if_neg (by decide : ¬ (1 : Rat) ≤ 0), div_one, min_eq_left le]
  split
  case isTrue black => exact (eq_of_beq black).symm
  case isFalse => rfl

theorem overlayChannel_zero (a b : Rat) : overlayChannel 0 a b = a := by
  unfold overlayChannel
  split
  · show a * (1 - 0 + 2 * 0 * b) = a
    ring
  · show 1 - (1 - 0 + 2 * 0 * (1 - b)) * (1 - a) = a
    ring

theorem linearLightChannel_zero (a b : Rat) : linearLightChannel 0 a b = a := by
  unfold linearLightChannel
  split
  · show a + 0 * (2 * (b - 0.5)) = a
    ring
  · show a + 0 * (2 * b - 1) = a
    ring

theorem divideChannel_zero (a b : Rat) : divideChannel 0 a b = a := by
  unfold divideChannel
  split
  · rfl
  · show (1 - 0) * a + 0 * a / b = a
    ring

theorem zipWith_eq_left {f : Rat → Rat → Rat} (keeps : ∀ k, f (c.get k) (d.get k) = c.get k) :
    c.zipWith f d = c := by
  obtain ⟨x, y, z⟩ := c
  obtain ⟨x', y', z'⟩ := d
  exact congr (congr (congrArg Vec3.mk (keeps 0)) (keeps 1)) (keeps 2)

/-- The modes that give a colour out as it is read back from hue, saturation and
value, and not mixed into what it was. -/
def readsBack : BlendMode → Bool
  | saturation | value => true
  | _ => false

theorem apply_zero {mode : BlendMode} (direct : mode.readsBack = false) (hc : c.InUnit)
    (d : Vec3 Rat) : mode.apply 0 c d = c := by
  cases mode with
  | saturation | value => cases direct
  | mix => exact zipWith_eq_left fun k => lerp_zero _ _
  | darken =>
    rw [apply]
    refine zipWith_eq_left fun k => ?_
    show min (c.get k) (d.get k) * 0 + c.get k * (1 - 0) = c.get k
    ring
  | multiply =>
    rw [apply]
    refine zipWith_eq_left fun k => ?_
    show c.get k * (1 - 0 + 0 * d.get k) = c.get k
    ring
  | burn => exact zipWith_eq_left fun k => burnChannel_zero _ _
  | lighten => exact zipWith_eq_left fun k => lightenChannel_zero (hc k).1 _
  | screen =>
    rw [apply]
    refine zipWith_eq_left fun k => ?_
    show 1 - (1 - 0 + 0 * (1 - d.get k)) * (1 - c.get k) = c.get k
    ring
  | dodge => exact zipWith_eq_left fun k => dodgeChannel_zero (hc k).2 _
  | add =>
    rw [apply]
    refine zipWith_eq_left fun k => ?_
    show c.get k + 0 * d.get k = c.get k
    ring
  | overlay => exact zipWith_eq_left fun k => overlayChannel_zero _ _
  | softLight => exact zipWith_eq_left fun k => lerp_zero _ _
  | linearLight => exact zipWith_eq_left fun k => linearLightChannel_zero _ _
  | difference =>
    rw [apply]
    exact zipWith_eq_left fun k => lerp_zero _ _
  | subtract =>
    rw [apply]
    refine zipWith_eq_left fun k => ?_
    show c.get k - 0 * d.get k = c.get k
    ring
  | divide => exact zipWith_eq_left fun k => divideChannel_zero _ _
  | hue => exact zipWith_eq_left fun k => lerp_zero _ _
  | color =>
    unfold apply
    dsimp only
    split
    · rfl
    · exact zipWith_eq_left fun k => lerp_zero _ _

/-- What the other modes give at factor zero is the colour as it is read back. -/
theorem apply_zero_readsBack {mode : BlendMode} (reread : mode.readsBack = true)
    (c d : Vec3 Rat) : mode.apply 0 c d = c ∨ mode.apply 0 c d = Vec3.ofHsv c.toHsv := by
  cases mode with
  | saturation =>
    unfold apply
    dsimp only
    split
    · exact .inl rfl
    · rw [lerp_zero]
      exact .inr rfl
  | value =>
    unfold apply
    dsimp only
    rw [lerp_zero]
    exact .inr rfl
  | _ => cases reread

end

/-- At factor zero every mode leaves its first colour alone, but for what the
guard takes off a colour that is read back. -/
theorem keeps_color_at_zero (mode : BlendMode) {c : Vec3 Rat} (hc : c.InUnit) (d : Vec3 Rat) :
    (mode ≠ saturation → mode ≠ value → mode.apply 0 c d = c) ∧
      ∀ k, |(mode.apply 0 c d).get k - c.get k| ≤ 1e-20 := by
  have exact_or_near : mode.apply 0 c d = c ∨ mode.apply 0 c d = Vec3.ofHsv c.toHsv := by
    cases reread : mode.readsBack with
    | false => exact .inl (apply_zero reread hc d)
    | true => exact apply_zero_readsBack reread c d
  refine ⟨fun saturation value => apply_zero ?_ hc d, fun k => ?_⟩
  · cases mode with
    | saturation => exact absurd rfl saturation
    | value => exact absurd rfl value
    | _ => rfl
  · rcases exact_or_near with same | back
    · rw [same, sub_self, abs_zero]
      decide +kernel
    · rw [back]
      exact (Vec3.readsBack fun k => (hc k).1).near k

/-- Blending in none of a blue leaves an orange as it is, and in its value alone
changes it by little. -/
theorem keeps_color_at_zero_orange :
    let orange : Vec3 Rat := ⟨1, 1 / 2, 1 / 4⟩
    let blue : Vec3 Rat := ⟨0, 0, 1⟩
    orange.InUnit ∧ dodge.apply 0 orange blue = orange ∧ value.apply 0 orange blue ≠ orange ∧
      ∀ k, |(value.apply 0 orange blue).get k - orange.get k| ≤ 1e-20 := by
  intro orange blue
  have unit : orange.InUnit := by decide +kernel
  have dodged := (keeps_color_at_zero dodge unit blue).1 (by decide) (by decide)
  exact ⟨unit, dodged, by decide +kernel, (keeps_color_at_zero value unit blue).2⟩

end BlendMode
end ShadeGraph
