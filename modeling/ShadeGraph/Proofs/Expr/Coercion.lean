import ShadeGraph.Proofs.Expr.Buffers

/-!
# Coercion between the two buffers

An expression computes one of its two buffers, and the other is what the first
reads as: scalars spread over the channels, colours give their luminance.
-/

namespace ShadeGraph

open Interleaved

variable {α : Type} {n : Nat} [Arithmetic α]

/-- A colour buffer and a scalar buffer of `n` elements, of which one is read off
from the other. -/
structure Coerced (n : Nat) (fromScalars : Bool) (colors scalars : Array α) : Prop where
  colors_size : colors.size = 3 * n
  scalars_size : scalars.size = n
  spread : fromScalars = true → ∀ i < n, ∀ k < 3, colors[i * 3 + k]? = scalars[i]?
  luminance : fromScalars = false → ∀ i < n, ∃ r g b,
    colors[i * 3]? = some r ∧ colors[i * 3 + 1]? = some g ∧ colors[i * 3 + 2]? = some b ∧
      scalars[i]? = some (r * 0.2126 + g * 0.7152 + b * 0.0722)

/-- The two readings of a signal. -/
theorem Signal.coerced (s : Signal α n) :
    Coerced n s.isScalar (ofColors s.colors.toArray) s.scalars.toArray where
  colors_size := by
    rw [size_ofColors, Vector.size_toArray]
    omega
  scalars_size := Vector.size_toArray _
  spread scalar i hi k hk := by
    cases s with
    | color v => cases scalar
    | scalar v =>
      have channel : (ofColors (v.map Vec3.grey).toArray)[i * 3 + k]? = some v[i] := by
        rw [channel_ofColors (v.map Vec3.grey).toArray (by simpa using hi) ⟨k, hk⟩]
        simp [Vec3.get_grey]
      have value : v.toArray[i]? = some v[i] := Array.getElem?_eq_getElem (by simpa using hi)
      exact channel.trans value.symm
  luminance color i hi := by
    cases s with
    | scalar v => cases color
    | color v =>
      have channel := channel_ofColors v.toArray (by simpa using hi)
      have luminance : (v.map Vec3.luminance).toArray[i]? = some (v[i].luminance) := by
        rw [Vector.toArray_map]
        simp [hi]
      exact ⟨v[i].x, v[i].y, v[i].z, channel 0, channel 1, channel 2, luminance⟩

namespace Expr

variable [Elementary α]

/-- Both requests end in the same fault or in buffers of which one is read off
from the other, and a group answers both as what it holds. -/
theorem buffers_coerced (beyond : α) (ctx : Context α n) (e : Expr α) :
    Parallel (Coerced n e.isScalar) (e.colorBuffer beyond ctx) (e.scalarBuffer beyond ctx) ∧
      ∀ name, (group name e).colorBuffer beyond ctx = e.colorBuffer beyond ctx ∧
        (group name e).scalarBuffer beyond ctx = e.scalarBuffer beyond ctx := by
  constructor
  · obtain ⟨colors, scalars⟩ := held beyond ctx e
    refine ((colors.and (eval_isScalar ctx e)).join scalars).mono ?_
    rintro _ _ ⟨s, ⟨same, rfl⟩, rfl⟩
    rw [← same]
    exact s.coerced
  · intro name
    rw [colorBuffer, scalarBuffer]
    exact ⟨rfl, rfl⟩

end Expr
end ShadeGraph
