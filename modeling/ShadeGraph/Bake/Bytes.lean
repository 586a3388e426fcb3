import ShadeGraph.Bake
import ShadeGraph.Expr.Buffers

/-! The vertex colours of a mesh as the bytes that are handed out: blue, green,
red and alpha of every element, from a colour buffer and a scalar buffer. -/

namespace ShadeGraph.Bake

open Interleaved

variable {α : Type} [Arithmetic α] {n k : Nat} (beyond : α)

def bytes (n : Nat) (color alpha : Array α) : Array UInt8 :=
  (Array.range n).flatMap fun i =>
    let c := colorAt beyond color i
    #[quantize c.z, quantize c.y, quantize c.x, quantize (scalarAt beyond alpha i)]

variable [Elementary α] (memoize : Bool) (material : Material α (Fin k))
  (groups : Vector (Graph α (Fin k)) k) (ctx : Context α n)

/-- Both sockets are lowered before either is evaluated. -/
def vertexBytes : Run α (Array UInt8) := do
  let output ← findOutput material
  let colorExpr ← lowerSocket memoize material groups output .color
  let alphaExpr ← lowerSocket memoize material groups output .alpha
  let color ← evalSocket material .color (colorExpr.colorBuffer beyond ctx)
  let alpha ← evalSocket material .alpha (alphaExpr.scalarBuffer beyond ctx)
  return bytes beyond n color alpha

end ShadeGraph.Bake
