import Mathlib.Order.Bounds.Basic
import Mathlib.Tactic.Linarith
import Mathlib.Tactic.LinearCombination
import ShadeGraph.Color.Space
import ShadeGraph.Proofs.Mesh.Interleaved
import ShadeGraph.Proofs.Number.Shaping

/-!
# Hue, saturation and value of exact colours

A colour lies on the wheel where its greatest channel takes part in the hue in
full, its least channel not at all, and the third by as much of the chroma as it
rises above the least. Reading a colour back rests on that: each channel returns
from its share, but for what the guard takes off.
-/

namespace ShadeGraph

theorem hsvGuard_pos : (0 : Rat) < hsvGuard := by decide +kernel

namespace Vec3

/-- How much red, green and blue take part in a hue. -/
def hueShares (hue : Rat) : Vec3 Rat :=
  ⟨clamp (|hue * 6 - 3| - 1) 0 1, clamp (2 - |hue * 6 - 2|) 0 1, clamp (2 - |hue * 6 - 4|) 0 1⟩

/-- A channel that takes part in the hue by `share`. -/
def shade (saturation value share : Rat) : Rat := ((share - 1) * saturation + 1) * value

theorem hueShares_mem (hue : Rat) (k : Fin 3) : (hueShares hue).get k ∈ Set.Icc (0 : Rat) 1 := by
  match k with
  | 0 => exact clamp_mem zero_le_one _
  | 1 => exact clamp_mem zero_le_one _
  | 2 => exact clamp_mem zero_le_one _

/-- What a channel lacks of its share pales with the saturation. -/
theorem shade_eq (saturation value share : Rat) :
    shade saturation value share = (1 - (1 - share) * saturation) * value := by
  rw [shade]
  ring

theorem shade_zero (value share : Rat) : shade 0 value share = value := by
  rw [shade, mul_zero, zero_add, one_mul]

theorem ofHsv_rat (c : Vec3 Rat) : ofHsv c = (hueShares c.x).map (shade c.y c.z) := by
  simp only [ofHsv, abs_rat]
  rfl

section

variable {hue u : Rat}

theorem hueShares_yellow (place : hue * 6 = u) (start : 0 ≤ u) (finish : u < 1) :
    hueShares hue = ⟨1, max u 0, max (-u) 0⟩ := by
  simp only [hueShares, place, clamp_rat, mk.injEq]
  refine ⟨?_, ?_, ?_⟩ <;> grind

theorem hueShares_green (place : hue * 6 = 2 - u) (start : -1 < u) (finish : u < 1) :
    hueShares hue = ⟨max u 0, 1, max (-u) 0⟩ := by
  simp only [hueShares, place, clamp_rat, mk.injEq]
  refine ⟨?_, ?_, ?_⟩ <;> grind

theorem hueShares_blue (place : hue * 6 = 4 + u) (start : -1 < u) (finish : u < 1) :
    hueShares hue = ⟨max u 0, max (-u) 0, 1⟩ := by
  simp only [hueShares, place, clamp_rat, mk.injEq]
  refine ⟨?_, ?_, ?_⟩ <;> grind

theorem hueShares_magenta (place : hue * 6 = 6 - u) (start : 0 ≤ u) (finish : u < 1) :
    hueShares hue = ⟨1, max (-u) 0, max u 0⟩ := by
  simp only [hueShares, place, clamp_rat, mk.injEq]
  refine ⟨?_, ?_, ?_⟩ <;> grind

end

/-- The part of the chroma that two channels are apart, as a part of a sixth of
the wheel. -/
def lead (chroma apart : Rat) : Rat := 6 * (apart / (6 * chroma + hsvGuard))

theorem hsvAround_rat (greatest least offset ahead behind : Rat) :
    hsvAround greatest least offset ahead behind =
      ⟨|offset + lead (greatest - least) (ahead - behind) / 6|,
        (greatest - least) / (greatest + hsvGuard), greatest⟩ := by
  rw [hsvAround, abs_rat, lead, mul_div_cancel_left₀ _ (by decide : (6 : Rat) ≠ 0)]

section

variable {chroma apart : Rat}

theorem lead_bounds (within : |apart| ≤ chroma) :
    -1 < lead chroma apart ∧ lead chroma apart < 1 := by
  have guard := hsvGuard_pos
  obtain ⟨low, high⟩ := abs_le.1 within
  have whole : 0 < 6 * chroma + hsvGuard := by linarith
  rw [lead, ← mul_div_assoc]
  exact ⟨(lt_div_iff₀ whole).2 (by linarith), (div_lt_one whole).2 (by linarith)⟩

theorem lead_pos (up : 0 < apart) (within : apart ≤ chroma) : 0 < lead chroma apart := by
  have guard := hsvGuard_pos
  have whole : 0 < 6 * chroma + hsvGuard := by linarith
  exact mul_pos (by decide) (div_pos up whole)

theorem lead_zero : lead chroma 0 = 0 := by rw [lead, zero_div, mul_zero]

theorem lead_mul (nonneg : 0 ≤ chroma) :
    lead chroma apart * (6 * chroma + hsvGuard) = 6 * apart := by
  have whole : 6 * chroma + hsvGuard ≠ 0 := by linarith [hsvGuard_pos]
  rw [lead, mul_assoc, div_mul_cancel₀ _ whole]

theorem lead_mem (start : 0 ≤ apart) (finish : apart ≤ chroma) :
    0 ≤ lead chroma apart ∧ lead chroma apart ≤ 1 := by
  have within : |apart| ≤ chroma := by rwa [abs_of_nonneg start]
  rcases eq_or_lt_of_le start with rfl | up
  · rw [lead_zero]
    exact ⟨le_rfl, zero_le_one⟩
  · exact ⟨(lead_pos up finish).le, (lead_bounds within).2.le⟩

theorem lead_neg : lead chroma (-apart) = -lead chroma apart := by
  rw [lead, lead, neg_div, mul_neg]

theorem lead_max (within : |apart| ≤ chroma) :
    max (lead chroma apart) 0 = lead chroma (max apart 0) := by
  obtain ⟨low, high⟩ := abs_le.1 within
  rcases lt_trichotomy apart 0 with down | rfl | up
  · have back := lead_pos (neg_pos.2 down) (by linarith : -apart ≤ chroma)
    rw [lead_neg, neg_pos] at back
    rw [max_eq_right down.le, lead_zero, max_eq_right back.le]
  · rw [max_self, lead_zero, max_self]
  · rw [max_eq_left up.le, max_eq_left (lead_pos up high).le]

end

/-- A channel beside its share in the hue of a colour. -/
inductive Takes (greatest least : Rat) : Rat → Rat → Prop
  | full : Takes greatest least 1 greatest
  | part {rise : Rat} : 0 ≤ rise → rise ≤ greatest - least →
    Takes greatest least (lead (greatest - least) rise) (least + rise)

/-- The place of a colour on the wheel, and its reading there. -/
structure Placed (c : Vec3 Rat) (greatest least : Rat) : Prop where
  nonneg : 0 ≤ least
  le : least ≤ greatest
  attained : ∃ k, c.get k = greatest
  hue : 0 ≤ c.toHsv.x ∧ c.toHsv.x < 1
  saturation : c.toHsv.y = (greatest - least) / (greatest + hsvGuard)
  value : c.toHsv.z = greatest
  takes : ∀ k, Takes greatest least ((hueShares c.toHsv.x).get k) (c.get k)

section

variable {c : Vec3 Rat} {greatest least offset front back share channel apart : Rat}

theorem Takes.ahead (within : |apart| ≤ greatest - least) (eq : channel = least + max apart 0) :
    Takes greatest least (max (lead (greatest - least) apart) 0) channel := by
  have chroma : 0 ≤ greatest - least := le_trans (abs_nonneg _) within
  rw [lead_max within, eq]
  exact .part (le_max_right _ _) (max_le (le_trans (le_abs_self _) within) chroma)

theorem Takes.behind (within : |apart| ≤ greatest - least)
    (eq : channel = least + max (-apart) 0) :
    Takes greatest least (max (-lead (greatest - least) apart) 0) channel := by
  rw [← lead_neg]
  exact .ahead (by rwa [abs_neg]) eq

theorem Takes.le (takes : Takes greatest least share channel) (le : least ≤ greatest) :
    least ≤ channel ∧ channel ≤ greatest := by
  cases takes with
  | full => exact ⟨le, le_rfl⟩
  | part start finish => exact ⟨by linarith, by linarith⟩

theorem saturation_bounds (nonneg : 0 ≤ least) (le : least ≤ greatest) :
    0 ≤ (greatest - least) / (greatest + hsvGuard) ∧
      (greatest - least) / (greatest + hsvGuard) < 1 := by
  have guard := hsvGuard_pos
  have whole : 0 < greatest + hsvGuard := by linarith
  exact ⟨div_nonneg (sub_nonneg.2 le) whole.le, (div_lt_one whole).2 (by linarith)⟩

/-- A channel comes back from its share, but for what the guard takes off the
saturation and off the share. -/
theorem Takes.near (takes : Takes greatest least share channel) (nonneg : 0 ≤ least)
    (le : least ≤ greatest) :
    |shade ((greatest - least) / (greatest + hsvGuard)) greatest share - channel| ≤
      hsvGuard := by
  have guard := hsvGuard_pos
  cases takes with
  | full =>
    have same (s : Rat) : shade s greatest 1 - greatest = 0 := by
      rw [shade]
      ring
    rw [same, abs_zero]
    exact guard.le
  | part start finish =>
    rename_i rise
    have chroma : 0 ≤ greatest - least := sub_nonneg.2 le
    have saturated : (greatest - least) / (greatest + hsvGuard) * (greatest + hsvGuard) =
      greatest - least := div_mul_cancel₀ _ (by linarith)
    have led : lead (greatest - least) rise * (6 * (greatest - least) + hsvGuard) = 6 * rise :=
      lead_mul chroma
    obtain ⟨some, most⟩ := lead_mem start finish
    obtain ⟨dull, full⟩ := saturation_bounds nonneg le
    generalize lead (greatest - least) rise = p at *
    generalize (greatest - least) / (greatest + hsvGuard) = s at *
    -- What the guard takes off the saturation pales the channel, what it takes off
    -- the share darkens it; each is the guard with a weight below one.
    have error : shade s greatest p - (least + rise) =
        (1 - p) * s * hsvGuard - p * (hsvGuard / 6) := by
      rw [shade]
      linear_combination (-(1 - p)) * saturated + 1 / 6 * led
    have left : 0 ≤ (1 - p) * s * hsvGuard ∧ (1 - p) * s * hsvGuard ≤ hsvGuard := by
      have weight : 0 ≤ (1 - p) * s := mul_nonneg (by linarith) dull
      exact ⟨mul_nonneg weight guard.le,
        mul_le_of_le_one_left guard.le (mul_le_one₀ (by linarith) dull full.le)⟩
    have right : 0 ≤ p * (hsvGuard / 6) ∧ p * (hsvGuard / 6) ≤ hsvGuard / 6 :=
      ⟨mul_nonneg some (by linarith), mul_le_of_le_one_left (by linarith) most⟩
    rw [error]
    exact abs_le.2 ⟨by linarith, by linarith⟩

/-- The share of every channel at the hue that a colour is read with gives its
place. -/
theorem Placed.of_around (reading : c.toHsv = hsvAround greatest least offset front back)
    (nonneg : 0 ≤ least) (le : least ≤ greatest) (attained : ∃ k, c.get k = greatest)
    (hue : |offset + lead (greatest - least) (front - back) / 6| < 1)
    (takes : ∀ k, Takes greatest least
      ((hueShares |offset + lead (greatest - least) (front - back) / 6|).get k) (c.get k)) :
    Placed c greatest least := by
  rw [hsvAround_rat] at reading
  exact ⟨nonneg, le, attained, by rw [reading]; exact ⟨abs_nonneg _, hue⟩, by rw [reading],
    by rw [reading], by rw [reading]; exact takes⟩

theorem placed_yellow {x y z : Rat} (hz : 0 ≤ z) (zy : z ≤ y) (yx : y ≤ x) :
    Placed ⟨x, y, z⟩ x z := by
  have within : |y - z| ≤ x - z := by
    rw [abs_of_nonneg (sub_nonneg.2 zy)]
    linarith
  obtain ⟨-, finish⟩ := lead_bounds within
  have start := (lead_mem (sub_nonneg.2 zy) (by linarith : y - z ≤ x - z)).1
  have place : |0 + lead (x - z) (y - z) / 6| * 6 = lead (x - z) (y - z) := by
    rw [abs_of_nonneg (by linarith)]
    ring
  have shares := hueShares_yellow place start finish
  refine .of_around (by rw [toHsv, if_neg (not_lt.2 zy), if_neg (not_lt.2 yx)]) hz (by linarith)
    ⟨0, rfl⟩ (by linarith) fun k => ?_
  rw [shares]
  match k with
  | 0 => exact .full
  | 1 => exact .ahead within (show y = z + max (y - z) 0 by grind)
  | 2 => exact .behind within (show z = z + max (-(y - z)) 0 by grind)

theorem placed_green {x y z : Rat} (hx : 0 ≤ x) (hz : 0 ≤ z) (zy : z ≤ y) (xy : x < y) :
    Placed ⟨x, y, z⟩ y (min x z) := by
  have within : |x - z| ≤ y - min x z := by grind
  obtain ⟨start, finish⟩ := lead_bounds within
  have place : |-2 / 6 - 0 + lead (y - min x z) (x - z) / 6| * 6 =
      2 - lead (y - min x z) (x - z) := by
    rw [abs_of_neg (by linarith)]
    ring
  have shares := hueShares_green place start finish
  refine .of_around (by rw [toHsv, if_neg (not_lt.2 zy), if_pos xy]) (le_min hx hz)
    (le_trans (min_le_right x z) zy) ⟨1, rfl⟩ (by linarith) fun k => ?_
  rw [shares]
  match k with
  | 0 => exact .ahead within (show x = min x z + max (x - z) 0 by grind)
  | 1 => exact .full
  | 2 => exact .behind within (show z = min x z + max (-(x - z)) 0 by grind)

theorem placed_blue {x y z : Rat} (hx : 0 ≤ x) (hy : 0 ≤ y) (yz : y < z) (xz : x < z) :
    Placed ⟨x, y, z⟩ z (min x y) := by
  have within : |x - y| ≤ z - min x y := by grind
  obtain ⟨start, finish⟩ := lead_bounds within
  have place : |-2 / 6 - -1 + lead (z - min x y) (x - y) / 6| * 6 =
      4 + lead (z - min x y) (x - y) := by
    rw [abs_of_pos (by linarith)]
    ring
  have shares := hueShares_blue place start finish
  refine .of_around (by rw [toHsv, if_pos yz, if_pos xz]) (le_min hx hy)
    (le_trans (min_le_right x y) yz.le) ⟨2, rfl⟩ (by linarith) fun k => ?_
  rw [shares]
  match k with
  | 0 => exact .ahead within (show x = min x y + max (x - y) 0 by grind)
  | 1 => exact .behind within (show y = min x y + max (-(x - y)) 0 by grind)
  | 2 => exact .full

theorem placed_magenta {x y z : Rat} (hy : 0 ≤ y) (yz : y < z) (zx : z ≤ x) :
    Placed ⟨x, y, z⟩ x y := by
  have within : |z - y| ≤ x - y := by
    rw [abs_of_pos (sub_pos.2 yz)]
    linarith
  obtain ⟨-, finish⟩ := lead_bounds within
  have start : 0 < lead (x - y) (z - y) := lead_pos (sub_pos.2 yz) (by linarith)
  have place : |-1 + lead (x - y) (z - y) / 6| * 6 = 6 - lead (x - y) (z - y) := by
    rw [abs_of_neg (by linarith)]
    ring
  have shares := hueShares_magenta place start.le finish
  refine .of_around (by rw [toHsv, if_pos yz, if_neg (not_lt.2 zx)]) hy (by linarith) ⟨0, rfl⟩
    (by linarith) fun k => ?_
  rw [shares]
  match k with
  | 0 => exact .full
  | 1 => exact .behind within (show y = y + max (-(z - y)) 0 by grind)
  | 2 => exact .ahead within (show z = y + max (z - y) 0 by grind)

/-- Every colour has its place: its first greatest channel, and which of the
other two is ahead, decide where. -/
theorem exists_placed (bright : ∀ k, 0 ≤ c.get k) : ∃ greatest least, Placed c greatest least := by
  obtain ⟨x, y, z⟩ := c
  have hx : 0 ≤ x := bright 0
  have hy : 0 ≤ y := bright 1
  have hz : 0 ≤ z := bright 2
  rcases lt_or_ge y z with yz | zy
  · rcases lt_or_ge x z with xz | zx
    · exact ⟨z, min x y, placed_blue hx hy yz xz⟩
    · exact ⟨x, y, placed_magenta hy yz zx⟩
  · rcases lt_or_ge x y with xy | yx
    · exact ⟨y, min x z, placed_green hx hz zy xy⟩
    · exact ⟨x, z, placed_yellow hz zy yx⟩

end

namespace Placed

variable {c : Vec3 Rat} {greatest least : Rat}

theorem isGreatest (h : Placed c greatest least) : IsGreatest (Set.range c.get) c.toHsv.z := by
  rw [h.value]
  exact ⟨h.attained, Set.forall_mem_range.2 fun k => ((h.takes k).le h.le).2⟩

theorem saturation_mem (h : Placed c greatest least) : 0 ≤ c.toHsv.y ∧ c.toHsv.y < 1 := by
  rw [h.saturation]
  exact saturation_bounds h.nonneg h.le

theorem near (h : Placed c greatest least) (k : Fin 3) :
    |(ofHsv c.toHsv).get k - c.get k| ≤ hsvGuard := by
  rw [ofHsv_rat, get_map, h.saturation, h.value]
  exact (h.takes k).near h.nonneg h.le

end Placed

/-- The reading of a colour in hue, saturation and value, and the way back. -/
structure ReadsBack (c : Vec3 Rat) : Prop where
  hue : c.toHsv.x ∈ Set.Ico (0 : Rat) 1
  saturation : c.toHsv.y ∈ Set.Ico (0 : Rat) 1
  value : IsGreatest (Set.range c.get) c.toHsv.z
  near : ∀ k, |(ofHsv c.toHsv).get k - c.get k| ≤ 1e-20

theorem readsBack {c : Vec3 Rat} (bright : ∀ k, 0 ≤ c.get k) : c.ReadsBack := by
  obtain ⟨greatest, least, placed⟩ := exists_placed bright
  exact ⟨placed.hue, placed.saturation_mem, placed.isGreatest, placed.near⟩

/-- A grey has no saturation, so that its hue is of no account. -/
theorem toHsv_grey (v : Rat) : (grey v).toHsv.y = 0 ∧ (grey v).toHsv.z = v := by
  have reading : (grey v).toHsv = hsvAround v v 0 v v := by
    rw [toHsv, grey, if_neg (lt_irrefl v), if_neg (lt_irrefl v)]
  rw [reading, hsvAround_rat, sub_self, zero_div]
  exact ⟨rfl, rfl⟩

theorem ofHsv_toHsv_grey (v : Rat) : ofHsv (grey v).toHsv = grey v := by
  obtain ⟨dull, value⟩ := toHsv_grey v
  rw [ofHsv_rat, dull, value]
  simp only [map, shade_zero]
  rfl

/-- Every channel lies between zero and one. -/
def InUnit (c : Vec3 Rat) : Prop := ∀ k, c.get k ∈ Set.Icc (0 : Rat) 1

instance (c : Vec3 Rat) : Decidable c.InUnit :=
  inferInstanceAs (Decidable (∀ k, c.get k ∈ Set.Icc (0 : Rat) 1))

theorem InUnit.toHsv {c : Vec3 Rat} (h : c.InUnit) :
    c.toHsv.y ∈ Set.Icc (0 : Rat) 1 ∧ c.toHsv.z ∈ Set.Icc (0 : Rat) 1 := by
  have read := readsBack fun k => (h k).1
  obtain ⟨k, value⟩ := read.value.1
  exact ⟨Set.Ico_subset_Icc_self read.saturation, value ▸ h k⟩

theorem inUnit_ofHsv {c : Vec3 Rat} (saturation : c.y ∈ Set.Icc (0 : Rat) 1)
    (value : c.z ∈ Set.Icc (0 : Rat) 1) : (ofHsv c).InUnit := by
  intro k
  rw [ofHsv_rat, get_map, shade_eq]
  have rest := mul_mem_unit (Set.Icc.one_sub_mem (hueShares_mem c.x k)) saturation
  exact mul_mem_unit (Set.Icc.one_sub_mem rest) value

end Vec3
end ShadeGraph
