import Mathlib.Tactic.Linarith
import ShadeGraph.Operation.Math
import ShadeGraph.Proofs.Document.Loaded
import ShadeGraph.Proofs.Number.Shaping

/-!
# Softened minimum and maximum

The smooth minimum lies below the minimum by a dent that depends only on how far
apart the operands are. The dent shrinks with the distance, but never faster
than the distance grows. A minimum is half the sum less half the distance, so
that is all it takes for the smooth one to rise with either operand; where the
lesser operand changes over is no case of its own.
-/

namespace ShadeGraph

section

variable {a a' b b' c d d' : Rat}

/-- How far the smooth minimum of numbers `d` apart lies below their minimum. -/
def dent (c d : Rat) : Rat := max (c - d) 0 ^ 3 / (6 * c ^ 2)

theorem dent_nonneg (c d : Rat) : 0 ≤ dent c d := by
  have reach : 0 ≤ max (c - d) 0 := le_max_right _ _
  unfold dent
  positivity

theorem dent_of_le (le : c ≤ d) : dent c d = 0 := by
  have flat : max (c - d) 0 = 0 := max_eq_right (sub_nonpos.2 le)
  rw [dent, flat]
  norm_num

theorem dent_le (pos : 0 < c) (start : 0 ≤ d) : dent c d ≤ c / 6 := by
  have reach : max (c - d) 0 ≤ c := max_le (by linarith) pos.le
  have cubes : max (c - d) 0 ^ 3 ≤ c ^ 3 := pow_le_pow_left₀ (le_max_right _ _) reach 3
  rw [dent, div_le_div_iff₀ (by positivity) (by norm_num)]
  linarith

theorem dent_antitone (c : Rat) : Antitone (dent c) := by
  intro d d' le
  have reach : max (c - d') 0 ≤ max (c - d) 0 := max_le_max (sub_le_sub_left le c) le_rfl
  have cubes : max (c - d') 0 ^ 3 ≤ max (c - d) 0 ^ 3 :=
    pow_le_pow_left₀ (le_max_right _ _) reach 3
  exact div_le_div_of_nonneg_right cubes (by positivity)

/-- The cube climbs no steeper than three times the square of the width, so the
dent no steeper than one half. -/
theorem dent_sub_le (pos : 0 < c) (start : 0 ≤ d) (le : d ≤ d') :
    dent c d - dent c d' ≤ d' - d := by
  have near : max (c - d) 0 ∈ Set.Icc 0 c := ⟨le_max_right _ _, max_le (by linarith) pos.le⟩
  have far : max (c - d') 0 ∈ Set.Icc 0 c := ⟨le_max_right _ _, max_le (by linarith) pos.le⟩
  have closer : max (c - d) 0 - max (c - d') 0 ≤ d' - d := by
    have shifted : max (c - d) 0 ≤ max (c - d') 0 + (d' - d) :=
      max_le (by linarith [le_max_left (c - d') 0]) (by linarith [far.1])
    linarith
  rw [dent, dent, ← sub_div, div_le_iff₀ (by positivity)]
  generalize max (c - d) 0 = x at *
  generalize max (c - d') 0 = y at *
  have squares : x ^ 2 + x * y + y ^ 2 ≤ 3 * c ^ 2 := by
    nlinarith [mul_le_mul near.2 far.2 far.1 pos.le, pow_le_pow_left₀ near.1 near.2 2,
      pow_le_pow_left₀ far.1 far.2 2]
  calc x ^ 3 - y ^ 3 = (x - y) * (x ^ 2 + x * y + y ^ 2) := by ring
    _ ≤ (d' - d) * (x ^ 2 + x * y + y ^ 2) :=
      mul_le_mul_of_nonneg_right closer (by nlinarith [near.1, far.1])
    _ ≤ (d' - d) * (6 * c ^ 2) :=
      mul_le_mul_of_nonneg_left (by linarith [sq_nonneg c]) (sub_nonneg.2 le)

theorem smoothMin_rat (a b c : Rat) : smoothMin a b c = min a b - dent c |a - b| := by
  by_cases zero : c = 0
  · subst zero
    simp [smoothMin, dent]
  · have unfolded : smoothMin a b c =
        min a b - max (c - |a - b|) 0 / c * (max (c - |a - b|) 0 / c) *
          (max (c - |a - b|) 0 / c) * c * (1 / 6) := by
      rw [smoothMin, if_neg (by simpa using zero), safeDivide_rat, abs_rat]
    rw [unfolded, dent]
    field_simp

theorem smoothMin_comm (a b c : Rat) : smoothMin a b c = smoothMin b a c := by
  rw [smoothMin_rat, smoothMin_rat, min_comm, abs_sub_comm]

/-- The smooth minimum is half the sum of its operands less a function of their
distance that changes at most half as fast as the distance does. -/
theorem smoothMin_mono (ha : a ≤ a') (hb : b ≤ b') : smoothMin a b c ≤ smoothMin a' b' c := by
  rw [smoothMin_rat, smoothMin_rat]
  rcases le_or_gt c 0 with flat | pos
  · rw [dent_of_le (flat.trans (abs_nonneg _)), dent_of_le (flat.trans (abs_nonneg _))]
    linarith [min_le_min ha hb]
  · have middle (x y : Rat) : min x y = (x + y) / 2 - |x - y| / 2 := by
      linarith [min_add_max x y, max_sub_min_eq_abs' x y]
    have moved : |(a' - b') - (a - b)| ≤ (a' - a) + (b' - b) :=
      abs_le.2 ⟨by linarith, by linarith⟩
    obtain ⟨closer, further⟩ := abs_le.1 ((abs_abs_sub_abs_le _ _).trans moved)
    rw [middle a b, middle a' b']
    rcases le_total |a - b| |a' - b'| with apart | close
    · linarith [dent_antitone c apart]
    · linarith [dent_sub_le pos (abs_nonneg _) close]

theorem smoothMin_of_le (level : c ≤ 0 ∨ c ≤ |a - b|) : smoothMin a b c = min a b := by
  have far : c ≤ |a - b| := level.elim (fun flat => flat.trans (abs_nonneg _)) id
  rw [smoothMin_rat, dent_of_le far, sub_zero]

/-- `soft` rounds off `hard` where the operands are less than the width `c` apart,
and by no more than `slack`. -/
structure Softens (hard soft : Rat → Rat → Rat) (c : Rat) (slack : Set Rat) : Prop where
  symmetric : ∀ a b, soft a b = soft b a
  monotone : ∀ {a a' b b'}, a ≤ a' → b ≤ b' → soft a b ≤ soft a' b'
  apart : ∀ a b, c ≤ 0 ∨ c ≤ |a - b| → soft a b = hard a b
  near : 0 < c → ∀ a b, soft a b - hard a b ∈ slack

theorem smoothMin_softens (c : Rat) :
    Softens min (fun a b => smoothMin a b c) c (Set.Icc (-(c / 6)) 0) where
  symmetric a b := smoothMin_comm a b c
  monotone ha hb := smoothMin_mono ha hb
  apart _ _ level := smoothMin_of_le level
  near pos a b := by
    show smoothMin a b c - min a b ∈ _
    rw [smoothMin_rat, sub_sub_cancel_left]
    exact ⟨neg_le_neg (dent_le pos (abs_nonneg _)), neg_nonpos.2 (dent_nonneg _ _)⟩

/-- Turned upside down, what softens the minimum softens the maximum. -/
theorem smoothMax_softens (c : Rat) :
    Softens max (fun a b => smoothMax a b c) c (Set.Icc 0 (c / 6)) := by
  have turned := smoothMin_softens c
  constructor
  · intro a b
    exact congrArg Neg.neg (turned.symmetric (-a) (-b))
  · intro a a' b b' ha hb
    exact neg_le_neg (turned.monotone (neg_le_neg ha) (neg_le_neg hb))
  · intro a b level
    have level : c ≤ 0 ∨ c ≤ |-a - -b| := by rwa [neg_sub_neg, abs_sub_comm]
    have hard : smoothMin (-a) (-b) c = min (-a) (-b) := turned.apart _ _ level
    show -smoothMin (-a) (-b) c = max a b
    rw [hard, min_neg_neg, neg_neg]
  · intro pos a b
    obtain ⟨below, above⟩ := turned.near pos (-a) (-b)
    simp only [min_neg_neg] at below above
    show -smoothMin (-a) (-b) c - max a b ∈ _
    exact ⟨by linarith, by linarith⟩

theorem smoothMin_le_smoothMax (a b c : Rat) : smoothMin a b c ≤ smoothMax a b c := by
  obtain ⟨lower, upper⟩ := And.intro (smoothMin_softens c) (smoothMax_softens c)
  rcases le_or_gt c 0 with flat | pos
  · calc smoothMin a b c = min a b := lower.apart a b (Or.inl flat)
      _ ≤ max a b := min_le_max
      _ = smoothMax a b c := (upper.apart a b (Or.inl flat)).symm
  · calc smoothMin a b c ≤ min a b := sub_nonpos.1 (lower.near pos a b).2
      _ ≤ max a b := min_le_max
      _ ≤ smoothMax a b c := sub_nonneg.1 (upper.near pos a b).1

end

/-- The smooth minimum and the smooth maximum round off the minimum and the maximum
by at most a sixth of their width, and stay in order. -/
theorem MathOp.smooth_softens [Elementary Rat] (c : Rat) :
    Softens min (fun a b => smoothMin.apply a b c) c (Set.Icc (-(c / 6)) 0) ∧
      Softens max (fun a b => smoothMax.apply a b c) c (Set.Icc 0 (c / 6)) ∧
      ∀ a b : Rat, smoothMin.apply a b c ≤ smoothMax.apply a b c :=
  ⟨smoothMin_softens c, smoothMax_softens c, fun a b => smoothMin_le_smoothMax a b c⟩

section

local instance softenedNumbers : Elementary Rat := Sample.elementary

/-- Half a width apart, an eighth of the sixth is taken off. -/
theorem MathOp.smooth_softens_halfway :
    (0 : Rat) < 2 ∧ smoothMin.apply (0 : Rat) 1 2 - min 0 1 ∈ Set.Icc (-(2 / 6)) 0 ∧
      smoothMin.apply (0 : Rat) 1 2 = -1 / 24 ∧
      smoothMax.apply (0 : Rat) 1 2 - max 0 1 ∈ Set.Icc 0 (2 / 6) ∧
      smoothMax.apply (0 : Rat) 1 2 = 25 / 24 := by
  obtain ⟨lower, upper, -⟩ := smooth_softens 2
  have pos : (0 : Rat) < 2 := by decide +kernel
  exact ⟨pos, lower.near pos 0 1, by decide +kernel, upper.near pos 0 1, by decide +kernel⟩

end

end ShadeGraph
