import ShadeGraph.Expr.Eval
import ShadeGraph.Mesh.Interleaved

/-!
# Evaluation into buffers

An expression can be asked for a colour buffer or for a scalar buffer. It
computes one of the two itself, from the buffers of its operands, and answers
the other request by coercion: a scalar spreads over the channels, a colour
gives its luminance.
-/

namespace ShadeGraph.Expr

open Interleaved

variable {α : Type}

/-- Whether an expression computes scalars. A ramp does so for its alpha, and a
group as what it holds does. -/
@[simp]
def isScalar : Expr α → Bool
  | constScalar _ | attributeScalar _ _ | math .. | vectorMeasure .. | grayscale _ | clamp ..
  | separate .. | mapRange .. | colorRamp .alpha .. => true
  | group _ inner => inner.isScalar
  | _ => false

variable [Arithmetic α]

/-- The colour of a ramp at one factor. -/
def rampColor (interpolation : String) (first : RampStop α) (rest : List (RampStop α)) (fac : α) :
    Except EvalError (Rgba α) :=
  match Named.find? RampMode interpolation with
  | some mode => .ok (mode.sample first rest fac)
  | none =>
    if rest = [] then .ok first.color
    else .error (.unhandled .rampInterpolation interpolation)

/-- One value, carried from one range to another. -/
def mapRangeValue (interpolation : String) (clamp : Bool)
    (value fromMin fromMax toMin toMax steps : α) : Except EvalError α :=
  match Named.find? MapRangeMode interpolation with
  | some mode => .ok (mode.apply clamp value fromMin fromMax toMin toMax steps)
  | none => .error (.unhandled .mapRangeInterpolation interpolation)

variable [Elementary α] {n : Nat} (beyond : α) (ctx : Context α n)

mutual

def colorBuffer : Expr α → Except EvalError (Array α)
  | constColor rgb => return ofColors (Array.replicate n rgb)
  | attributeColor name => return ofColors (← require name (ctx.color? name)).toArray
  | geometry quantity => return ofColors (← require quantity.name (ctx.geometry? quantity)).toArray
  | constScalar value => return broadcast (← (constScalar value).scalarBuffer)
  | attributeScalar name channel =>
    return broadcast (← (attributeScalar name channel).scalarBuffer)
  | math operation k a b c => return broadcast (← (math operation k a b c).scalarBuffer)
  | vectorMeasure operation a b => return broadcast (← (vectorMeasure operation a b).scalarBuffer)
  | grayscale color => return broadcast (← (grayscale color).scalarBuffer)
  | clamp mode value min max => return broadcast (← (clamp mode value min max).scalarBuffer)
  | separate space channel input =>
    return broadcast (← (separate space channel input).scalarBuffer)
  | mapRange interpolation k value fromMin fromMax toMin toMax steps =>
    return broadcast
      (← (mapRange interpolation k value fromMin fromMax toMin toMax steps).scalarBuffer)
  | vectorMath operation a b c scale => do
    let op ← OpFamily.vectorMath.find VectorOp operation
    let a ← a.colorBuffer
    let b ← b.colorBuffer
    let c ← c.colorBuffer
    let scale ← scale.scalarBuffer
    return ofColors (perElement n fun i =>
      op.apply (colorAt beyond a i) (colorAt beyond b i) (colorAt beyond c i)
        (scalarAt beyond scale i))
  | mix blend k fac color1 color2 => do
    let mode ← OpFamily.blend.find BlendMode blend
    let fac ← fac.scalarBuffer
    let c₁ ← color1.colorBuffer
    let c₂ ← color2.colorBuffer
    let blended := ofColors (perElement n fun i =>
      mode.apply (scalarAt beyond fac i) (colorAt beyond c₁ i) (colorAt beyond c₂ i))
    return if mode.clamps k then blended.map saturate else blended
  | invert fac color => do
    let fac ← fac.scalarBuffer
    let color ← color.colorBuffer
    return mapChannels
      (fun i v => (1 - v) * scalarAt beyond fac i + v * (1 - scalarAt beyond fac i)) color
  | brightContrast color bright contrast => do
    let color ← color.colorBuffer
    let bright ← bright.scalarBuffer
    let contrast ← contrast.scalarBuffer
    return mapChannels
      (fun i v => max ((1 + scalarAt beyond contrast i) * v + scalarAt beyond bright i -
        scalarAt beyond contrast i * 0.5) 0) color
  | gamma color exponent => do
    let color ← color.colorBuffer
    let exponent ← exponent.scalarBuffer
    return mapChannels
      (fun i v => if 0 < v then Elementary.pow v (scalarAt beyond exponent i) else v) color
  | combine space x y z => do
    let x ← x.scalarBuffer
    let y ← y.scalarBuffer
    let z ← z.scalarBuffer
    return ofColors (perElement n fun i =>
      let c : Vec3 α := ⟨scalarAt beyond x i, scalarAt beyond y i, scalarAt beyond z i⟩
      if space = .hsv then Vec3.ofHsv c else c)
  | colorRamp output interpolation stops fac =>
    match stops with
    | [] => throw (.unhandled .ramp "empty stop list")
    | first :: rest => do
      let fac ← fac.scalarBuffer
      let rgba ← (Array.range n).mapM fun i =>
        rampColor interpolation first rest (scalarAt beyond fac i)
      match output with
      | .color => return ofColors (rgba.map Rgba.rgb)
      | .alpha => return broadcast (rgba.map Rgba.alpha)
  | hueSaturation hue saturation value fac color => do
    let hue ← hue.scalarBuffer
    let saturation ← saturation.scalarBuffer
    let value ← value.scalarBuffer
    let fac ← fac.scalarBuffer
    let color ← color.colorBuffer
    return ofColors (perElement n fun i =>
      (colorAt beyond color i).hueSaturation (scalarAt beyond hue i)
        (scalarAt beyond saturation i) (scalarAt beyond value i) (scalarAt beyond fac i))
  | group _ inner => inner.colorBuffer
  | groupInput socket => throw (.unhandled .groupInput socket)
termination_by e => (sizeOf e, if e.isScalar then 1 else 0)

def scalarBuffer : Expr α → Except EvalError (Array α)
  | constScalar value => return Array.replicate n value
  | attributeScalar name channel =>
    match channel with
    | .fac => return (← require name (ctx.fac? name)).toArray
    | .alpha => return (← require name (ctx.alpha? name)).toArray
  | constColor rgb => return luminances beyond (← (constColor rgb).colorBuffer)
  | attributeColor name => return luminances beyond (← (attributeColor name).colorBuffer)
  | geometry quantity => return luminances beyond (← (geometry quantity).colorBuffer)
  | vectorMath operation a b c scale =>
    return luminances beyond (← (vectorMath operation a b c scale).colorBuffer)
  | mix blend k fac color1 color2 =>
    return luminances beyond (← (mix blend k fac color1 color2).colorBuffer)
  | invert fac color => return luminances beyond (← (invert fac color).colorBuffer)
  | brightContrast color bright contrast =>
    return luminances beyond (← (brightContrast color bright contrast).colorBuffer)
  | gamma color exponent => return luminances beyond (← (gamma color exponent).colorBuffer)
  | combine space x y z => return luminances beyond (← (combine space x y z).colorBuffer)
  | hueSaturation hue saturation value fac color =>
    return luminances beyond (← (hueSaturation hue saturation value fac color).colorBuffer)
  | grayscale color => return luminances beyond (← color.colorBuffer)
  | math operation k a b c => do
    let op ← OpFamily.math.find MathOp operation
    let a ← a.scalarBuffer
    let b ← b.scalarBuffer
    let c ← c.scalarBuffer
    return perElement n fun i =>
      let v := op.apply (scalarAt beyond a i) (scalarAt beyond b i) (scalarAt beyond c i)
      if k then saturate v else v
  | vectorMeasure operation a b => do
    let measure ← OpFamily.vectorMeasure.find VectorMeasure operation
    let a ← a.colorBuffer
    let b ← b.colorBuffer
    return perElement n fun i => measure.apply (colorAt beyond a i) (colorAt beyond b i)
  | clamp mode value min max => do
    if mode ≠ "MINMAX" then throw (.unhandled .clamp mode)
    let value ← value.scalarBuffer
    let min ← min.scalarBuffer
    let max ← max.scalarBuffer
    return value.mapIdx fun i v =>
      ShadeGraph.clamp v (scalarAt beyond min i) (scalarAt beyond max i)
  | separate space channel input => do
    let input ← input.colorBuffer
    return perElement n fun i =>
      let c := colorAt beyond input i
      (if space = .hsv then c.toHsv else c).get channel
  | colorRamp output interpolation stops fac =>
    match stops with
    | [] => throw (.unhandled .ramp "empty stop list")
    | first :: rest => do
      let fac ← fac.scalarBuffer
      let rgba ← (Array.range n).mapM fun i =>
        rampColor interpolation first rest (scalarAt beyond fac i)
      match output with
      | .color => return luminances beyond (ofColors (rgba.map Rgba.rgb))
      | .alpha => return rgba.map Rgba.alpha
  | mapRange interpolation k value fromMin fromMax toMin toMax steps => do
    let value ← value.scalarBuffer
    let fromMin ← fromMin.scalarBuffer
    let fromMax ← fromMax.scalarBuffer
    let toMin ← toMin.scalarBuffer
    let toMax ← toMax.scalarBuffer
    let steps ← steps.scalarBuffer
    (Array.range n).mapM fun i =>
      mapRangeValue interpolation k (scalarAt beyond value i) (scalarAt beyond fromMin i)
        (scalarAt beyond fromMax i) (scalarAt beyond toMin i) (scalarAt beyond toMax i)
        (scalarAt beyond steps i)
  | group _ inner => inner.scalarBuffer
  | groupInput socket => throw (.unhandled .groupInput socket)
termination_by e => (sizeOf e, if e.isScalar then 0 else 1)

end

end ShadeGraph.Expr
