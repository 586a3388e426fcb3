import ShadeGraph.Proofs.Bake.Stages
import ShadeGraph.Proofs.Number.Rounding

/-!
# Channels as bytes

A channel is clamped to the unit range and rounded to one of 256 levels before
it is stored, so that nothing wraps round: the byte is that level. Every byte of
the vertex colours is the byte of a channel in this way.
-/

namespace ShadeGraph

theorem natural?_natCast (k : Nat) : Arithmetic.natural? (k : Rat) = some k := by
  show (if (k : Rat).den = 1 then (k : Rat).num.toNat? else none) = some k
  rw [if_pos (Rat.den_natCast k), Rat.num_natCast]
  rfl

namespace Bake

/-- The level of a channel, before it is rounded. -/
def scaled (x : Rat) : Rat := saturate x * 255

theorem scaled_mono : Monotone scaled := fun _ _ le =>
  mul_le_mul_of_nonneg_right (clamp_mono 0 1 le) (by norm_num)

theorem scaled_of_nonpos {x : Rat} (nonpos : x ≤ 0) : scaled x = 0 := by
  rw [scaled, saturate, clamp_below nonpos, zero_mul]

theorem scaled_of_one_le {x : Rat} (full : 1 ≤ x) : scaled x = 255 := by
  rw [scaled, saturate, clamp_above zero_le_one full, one_mul]

theorem scaled_level {k : Nat} (bound : k ≤ 255) : scaled (k / 255) = k := by
  have cast : (k : Rat) ≤ 255 := by exact_mod_cast bound
  have unit : (k : Rat) / 255 ∈ Set.Icc (0 : Rat) 1 :=
    ⟨by positivity, div_le_one_of_le₀ cast (by norm_num)⟩
  rw [scaled, saturate, clamp_of_mem unit]
  exact div_mul_cancel₀ _ (by norm_num)

/-- Rounding keeps to the levels from 0 to 255. -/
theorem exists_level (x : Rat) : ∃ k : Nat, k ≤ 255 ∧ roundHalfEven (scaled x) = k := by
  obtain ⟨r, value, nearest⟩ := exists_nearest (scaled x)
  obtain ⟨dark, full⟩ := saturate_mem x
  have least : IsNearestEven 0 0 := by simpa using IsNearestEven.intCast 0
  have greatest : IsNearestEven 255 255 := by simpa using IsNearestEven.intCast 255
  have low : 0 ≤ r := least.le nearest (mul_nonneg dark (by norm_num))
  have high : r ≤ 255 := nearest.le greatest (by rw [scaled]; linarith)
  obtain ⟨k, rfl⟩ := Int.eq_ofNat_of_zero_le low
  exact ⟨k, by omega, by rw [value, Int.cast_natCast]⟩

/-- The byte is the level: it is not cut down when it is stored. -/
theorem toNat_quantize (x : Rat) : ((quantize x).toNat : Rat) = roundHalfEven (scaled x) := by
  obtain ⟨k, bound, value⟩ := exists_level x
  have stored : quantize x = UInt8.ofNat k := by
    show UInt8.ofNat ((Arithmetic.natural? (roundHalfEven (scaled x))).getD 0) = _
    rw [value, natural?_natCast]
    rfl
  have kept : (UInt8.ofNat k).toNat = k := UInt8.toNat_ofNat_of_lt' (Nat.lt_succ_of_le bound)
  rw [value, stored, kept]

theorem toNat_quantize_eq {x : Rat} {k : Nat} (level : scaled x = k) : (quantize x).toNat = k := by
  have cast : ((quantize x).toNat : Rat) = k := by
    rw [toNat_quantize, level]
    simpa using roundHalfEven_intCast k
  exact_mod_cast cast

theorem quantize_mono {x y : Rat} (le : x ≤ y) : quantize x ≤ quantize y := by
  rw [UInt8.le_iff_toNat_le]
  have cast : ((quantize x).toNat : Rat) ≤ (quantize y).toNat := by
    rw [toNat_quantize, toNat_quantize]
    exact roundHalfEven_mono (scaled_mono le)
  exact_mod_cast cast

/-- A byte beside the channel that it is stored for. -/
structure Stores (x : Rat) (b : UInt8) : Prop where
  whole : roundHalfEven (saturate x * 255) = b.toNat
  near : |255 * clamp x 0 1 - b.toNat| ≤ 1 / 2
  dark : x ≤ 0 → b = 0
  full : 1 ≤ x → b = 255
  level : ∀ k : Nat, k ≤ 255 → x = k / 255 → b.toNat = k

theorem stores_quantize (x : Rat) : Stores x (quantize x) where
  whole := (toNat_quantize x).symm
  near := by
    obtain ⟨r, value, nearest⟩ := exists_nearest (scaled x)
    rw [toNat_quantize, value, mul_comm]
    exact nearest.near
  dark nonpos := UInt8.toNat_inj.1 (toNat_quantize_eq (by rw [scaled_of_nonpos nonpos]; rfl))
  full above := UInt8.toNat_inj.1 (toNat_quantize_eq (by rw [scaled_of_one_le above]; rfl))
  level k bound place := toNat_quantize_eq (by rw [place, scaled_level bound])

end Bake

/-- Rounding finds the one nearest integer, the even one of two, on either side
of zero and in the order of the numbers. So the bytes of the vertex colours are
the levels of their channels, rounded to nearest and never wrapped round. -/
theorem quantizes_to_nearest :
    (∀ x : Rat, ∃ r : Int, roundHalfEven x = r ∧ ∀ s, IsNearestEven x s ↔ s = r) ∧
      (∀ x : Rat, roundHalfEven (-x) = -roundHalfEven x) ∧
      Monotone (roundHalfEven : Rat → Rat) ∧
      (∀ k : Int, roundHalfEven (k : Rat) = k) ∧
      (∀ x : Rat, Bake.Stores x (Bake.quantize x)) ∧
      (∀ x y : Rat, x ≤ y → Bake.quantize x ≤ Bake.quantize y) ∧
      ∀ [Elementary Rat] {n k : Nat} (memoize : Bool) (material : Material Rat (Fin k))
        (groups : Vector (Graph Rat (Fin k)) k) (beyond : Rat) (ctx : Context Rat n)
        (bytes : Array UInt8),
        (Provenance.vertexColors memoize material groups beyond ctx).outcome = .ok bytes →
          ∃ colors alphas,
            (Provenance.colorSocket memoize material groups beyond ctx).outcome = .ok colors ∧
              (Provenance.alpha memoize material groups beyond ctx).outcome = .ok alphas ∧
              Provenance.Packed n bytes colors alphas := by
  refine ⟨fun x => ?_, roundHalfEven_neg, roundHalfEven_mono, roundHalfEven_intCast,
    Bake.stores_quantize, fun _ _ => Bake.quantize_mono, ?_⟩
  · obtain ⟨r, value, nearest⟩ := exists_nearest x
    refine ⟨r, value, fun s => ⟨fun near => near.unique nearest, ?_⟩⟩
    rintro rfl
    exact nearest
  · intro _ n k memoize material groups beyond ctx bytes baked
    exact Provenance.vertexColors_packed memoize material groups beyond ctx baked

section

local instance storedNumbers : Elementary Rat := Sample.elementary

/-- A mask of one quarter is stored as level 64, a quarter of a level above. -/
theorem masked_quantizes :
    let bytes : Array UInt8 := #[128, 128, 128, 64, 128, 128, 128, 191]
    let baked := (Provenance.vertexColors false Sample.masked #v[Sample.pass] 0
      Sample.context).outcome
    roundHalfEven (-5 / 2 : Rat) = -2 ∧ IsNearestEven (-5 / 2) (-2) ∧
      baked = .ok bytes ∧ Bake.Stores (1 / 4) 64 ∧
      ∃ colors alphas, Provenance.Packed 2 bytes colors (alphas : Array Rat) ∧
        alphas[0]? = some (1 / 4) := by
  intro bytes baked
  obtain ⟨nearest, -, -, -, stores, -, packs⟩ := quantizes_to_nearest
  have rounded : roundHalfEven (-5 / 2 : Rat) = -2 := by decide +kernel
  have even : IsNearestEven (-5 / 2) (-2) := by
    obtain ⟨r, value, only⟩ := nearest (-5 / 2)
    rw [only]
    exact_mod_cast rounded.symm.trans value
  have given : baked = .ok bytes := by
    show (Provenance.vertexColors false Sample.masked #v[Sample.pass] 0 _).outcome = _
    rw [Provenance.vertexColors_eq, Bake.vertexBytes_eq]
    cbv
  have quarter : Bake.quantize (1 / 4 : Rat) = 64 := by decide +kernel
  have mask : (Provenance.alpha false Sample.masked #v[Sample.pass] 0
      Sample.context).outcome = .ok #[1 / 4, 3 / 4] :=
    (Provenance.scalarSocket_eq _ _ _ _ _ _).trans (by cbv)
  obtain ⟨colors, alphas, -, alpha, packed⟩ := packs _ _ _ _ _ bytes given
  cases mask.symm.trans alpha
  exact ⟨rounded, even, given, quarter ▸ stores (1 / 4), colors, _, packed, rfl⟩

end

end ShadeGraph
