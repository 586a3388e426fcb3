import ShadeGraph.Expr.Lines
import ShadeGraph.Mesh.Context
import ShadeGraph.Mesh.Signal
import ShadeGraph.Operation.Adjust
import ShadeGraph.Operation.MapRange
import ShadeGraph.Operation.Vector

/-!
# Evaluation

The value of an expression at every element of a mesh. Operation names are
looked up before the operands are evaluated, and operands are evaluated in the
order of the fields, so the first fault in that order is the one reported.
-/

namespace ShadeGraph

inductive OpFamily
  | math | vectorMath | vectorMeasure | blend | clamp | ramp | rampInterpolation
  | mapRangeInterpolation | groupInput
deriving DecidableEq

def OpFamily.name : OpFamily → String
  | math => "math"
  | vectorMath => "vector math"
  | vectorMeasure => "vector math scalar"
  | blend => "blend"
  | clamp => "clamp"
  | ramp => "color ramp"
  | rampInterpolation => "color ramp interpolation"
  | mapRangeInterpolation => "map range interpolation"
  | groupInput => "group input"

inductive EvalError
  | missingAttribute (name : String)
  | unhandled (family : OpFamily) (operation : String)
deriving DecidableEq

def EvalError.message : EvalError → String
  | missingAttribute name => s!"Element data does not have required attribute '{name}'"
  | unhandled family operation =>
    s!"Internal Error: unhandled {family.name} operation '{operation}'"

/-- The member of a family that goes by a name. -/
def OpFamily.find (family : OpFamily) (τ : Type) [Named τ] (name : String) :
    Except EvalError τ :=
  match Named.find? τ name with
  | some op => .ok op
  | none => .error (.unhandled family name)

namespace Expr

variable {α : Type} [Arithmetic α] [Elementary α] {n : Nat}

omit [Arithmetic α] [Elementary α] in
def require (name : String) : Option α → Except EvalError α
  | some values => .ok values
  | none => .error (.missingAttribute name)

omit [Elementary α] in
/-- Samples a ramp at every factor. An unknown interpolation is harmless where
no pair of stops is looked at. -/
def sampleRamp (interpolation : String) (first : RampStop α) (rest : List (RampStop α))
    (fac : Vector α n) : Except EvalError (Vector (Rgba α) n) :=
  match Named.find? RampMode interpolation with
  | some mode => .ok (fac.map (mode.sample first rest))
  | none =>
    if n = 0 ∨ rest = [] then .ok (fac.map fun _ => first.color)
    else .error (.unhandled .rampInterpolation interpolation)

omit [Elementary α] in
/-- Maps every value from one range to another. An unknown interpolation is
harmless on an empty mesh. -/
def sampleMapRange (interpolation : String) (clamp : Bool)
    (value fromMin fromMax toMin toMax steps : Vector α n) : Except EvalError (Vector α n) :=
  match Named.find? MapRangeMode interpolation with
  | some mode => .ok (Vector.ofFn fun i =>
      mode.apply clamp (value.get i) (fromMin.get i) (fromMax.get i) (toMin.get i) (toMax.get i)
        (steps.get i))
  | none => if n = 0 then .ok value else .error (.unhandled .mapRangeInterpolation interpolation)

omit [Arithmetic α] [Elementary α] in
/-- A boundary input that nothing is bound to has no value. -/
def bound (socket : String) : Option (Signal α n) → Except EvalError (Signal α n)
  | some value => .ok value
  | none => .error (.unhandled .groupInput socket)

/-- The value of an expression whose boundary inputs have the values that `env`
gives them. -/
def evalIn (ctx : Context α n) (env : String → Option (Signal α n)) :
    Expr α → Except EvalError (Signal α n)
  | constColor rgb => return .color (Vector.replicate n rgb)
  | constScalar value => return .scalar (Vector.replicate n value)
  | attributeColor name => return .color (← require name (ctx.color? name))
  | attributeScalar name channel =>
    match channel with
    | .fac => return .scalar (← require name (ctx.fac? name))
    | .alpha => return .scalar (← require name (ctx.alpha? name))
  | geometry quantity => return .color (← require quantity.name (ctx.geometry? quantity))
  | math operation k a b c => do
    let op ← OpFamily.math.find MathOp operation
    let x := (← a.evalIn ctx env).scalars
    let y := (← b.evalIn ctx env).scalars
    let z := (← c.evalIn ctx env).scalars
    return .scalar (Vector.ofFn fun i =>
      let v := op.apply (x.get i) (y.get i) (z.get i)
      if k then saturate v else v)
  | vectorMath operation a b c scale => do
    let op ← OpFamily.vectorMath.find VectorOp operation
    let x := (← a.evalIn ctx env).colors
    let y := (← b.evalIn ctx env).colors
    let z := (← c.evalIn ctx env).colors
    let scale := (← scale.evalIn ctx env).scalars
    return .color (Vector.ofFn fun i => op.apply (x.get i) (y.get i) (z.get i) (scale.get i))
  | vectorMeasure operation a b => do
    let measure ← OpFamily.vectorMeasure.find VectorMeasure operation
    let a := (← a.evalIn ctx env).colors
    let b := (← b.evalIn ctx env).colors
    return .scalar (Vector.ofFn fun i => measure.apply (a.get i) (b.get i))
  | mix blend k fac color1 color2 => do
    let mode ← OpFamily.blend.find BlendMode blend
    let fac := (← fac.evalIn ctx env).scalars
    let c₁ := (← color1.evalIn ctx env).colors
    let c₂ := (← color2.evalIn ctx env).colors
    return .color (Vector.ofFn fun i =>
      let c := mode.apply (fac.get i) (c₁.get i) (c₂.get i)
      if mode.clamps k then c.map saturate else c)
  | invert fac color => do
    let fac := (← fac.evalIn ctx env).scalars
    let color := (← color.evalIn ctx env).colors
    return .color (Vector.ofFn fun i => (color.get i).invert (fac.get i))
  | grayscale color => return .scalar ((← color.evalIn ctx env).colors.map Vec3.luminance)
  | clamp mode value min max => do
    if mode ≠ "MINMAX" then throw (.unhandled .clamp mode)
    let value := (← value.evalIn ctx env).scalars
    let min := (← min.evalIn ctx env).scalars
    let max := (← max.evalIn ctx env).scalars
    return .scalar (Vector.ofFn fun i => ShadeGraph.clamp (value.get i) (min.get i) (max.get i))
  | brightContrast color bright contrast => do
    let color := (← color.evalIn ctx env).colors
    let bright := (← bright.evalIn ctx env).scalars
    let contrast := (← contrast.evalIn ctx env).scalars
    return .color (Vector.ofFn fun i =>
      (color.get i).brightContrast (bright.get i) (contrast.get i))
  | gamma color exponent => do
    let color := (← color.evalIn ctx env).colors
    let exponent := (← exponent.evalIn ctx env).scalars
    return .color (Vector.ofFn fun i => (color.get i).gamma (exponent.get i))
  | separate space channel input => do
    let input := (← input.evalIn ctx env).colors
    return .scalar (input.map fun c =>
      (if space = .hsv then c.toHsv else c).get channel)
  | combine space x y z => do
    let x := (← x.evalIn ctx env).scalars
    let y := (← y.evalIn ctx env).scalars
    let z := (← z.evalIn ctx env).scalars
    return .color (Vector.ofFn fun i =>
      let c : Vec3 α := ⟨x.get i, y.get i, z.get i⟩
      if space = .hsv then Vec3.ofHsv c else c)
  | colorRamp output interpolation stops fac =>
    match stops with
    | [] => throw (.unhandled .ramp "empty stop list")
    | first :: rest => do
      let rgba ← sampleRamp interpolation first rest (← fac.evalIn ctx env).scalars
      match output with
      | .color => return .color (rgba.map Rgba.rgb)
      | .alpha => return .scalar (rgba.map Rgba.alpha)
  | mapRange interpolation k value fromMin fromMax toMin toMax steps => do
    let value := (← value.evalIn ctx env).scalars
    let fromMin := (← fromMin.evalIn ctx env).scalars
    let fromMax := (← fromMax.evalIn ctx env).scalars
    let toMin := (← toMin.evalIn ctx env).scalars
    let toMax := (← toMax.evalIn ctx env).scalars
    let steps := (← steps.evalIn ctx env).scalars
    return .scalar (← sampleMapRange interpolation k value fromMin fromMax toMin toMax steps)
  | hueSaturation hue saturation value fac color => do
    let hue := (← hue.evalIn ctx env).scalars
    let saturation := (← saturation.evalIn ctx env).scalars
    let value := (← value.evalIn ctx env).scalars
    let fac := (← fac.evalIn ctx env).scalars
    let color := (← color.evalIn ctx env).colors
    return .color (Vector.ofFn fun i =>
      (color.get i).hueSaturation (hue.get i) (saturation.get i) (value.get i) (fac.get i))
  | group _ inner => inner.evalIn ctx env
  | groupInput socket => bound socket (env socket)

/-- The value of an expression that stands for itself: no boundary input has one. -/
def eval (ctx : Context α n) (e : Expr α) : Except EvalError (Signal α n) :=
  e.evalIn ctx fun _ => none

def evalColor (ctx : Context α n) (e : Expr α) : Except EvalError (Vector (Vec3 α) n) :=
  return (← e.eval ctx).colors

def evalScalar (ctx : Context α n) (e : Expr α) : Except EvalError (Vector α n) :=
  return (← e.eval ctx).scalars

end Expr
end ShadeGraph
