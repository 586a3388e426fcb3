import ShadeGraph.Color.Vec3
import ShadeGraph.Operation.Math

/-! Operations on triples: those that give a triple, and those that measure
triples by a scalar. -/

namespace ShadeGraph

inductive VectorOp
  | add | subtract | multiply | divide | multiplyAdd | scale
  | crossProduct | normalize | faceforward
  | minimum | maximum | absolute | floor | ceil | fraction | snap | modulo
  | sine | cosine | tangent
deriving DecidableEq

instance : Named VectorOp where
  all := [.add, .subtract, .multiply, .divide, .multiplyAdd, .scale,
    .crossProduct, .normalize, .faceforward,
    .minimum, .maximum, .absolute, .floor, .ceil, .fraction, .snap, .modulo,
    .sine, .cosine, .tangent]
  name
    | .add => "ADD"
    | .subtract => "SUBTRACT"
    | .multiply => "MULTIPLY"
    | .divide => "DIVIDE"
    | .multiplyAdd => "MULTIPLY_ADD"
    | .scale => "SCALE"
    | .crossProduct => "CROSS_PRODUCT"
    | .normalize => "NORMALIZE"
    | .faceforward => "FACEFORWARD"
    | .minimum => "MINIMUM"
    | .maximum => "MAXIMUM"
    | .absolute => "ABSOLUTE"
    | .floor => "FLOOR"
    | .ceil => "CEIL"
    | .fraction => "FRACTION"
    | .snap => "SNAP"
    | .modulo => "MODULO"
    | .sine => "SINE"
    | .cosine => "COSINE"
    | .tangent => "TANGENT"

inductive VectorMeasure
  | dotProduct | length | distance
deriving DecidableEq

instance : Named VectorMeasure where
  all := [.dotProduct, .length, .distance]
  name
    | .dotProduct => "DOT_PRODUCT"
    | .length => "LENGTH"
    | .distance => "DISTANCE"

variable {α : Type} [Arithmetic α] [Elementary α]

namespace Vec3

omit [Elementary α] in
def dot (a b : Vec3 α) : α := a.x * b.x + a.y * b.y + a.z * b.z

def length (a : Vec3 α) : α := Elementary.sqrt (a.dot a)

omit [Elementary α] in
def cross (a b : Vec3 α) : Vec3 α :=
  ⟨a.y * b.z - a.z * b.y, a.z * b.x - a.x * b.z, a.x * b.y - a.y * b.x⟩

/-- The vector of length one in the same direction, zero for a zero vector. -/
def normalize (a : Vec3 α) : Vec3 α :=
  let length := a.length
  if length == 0 then grey 0 else a.map (· / length)

omit [Elementary α] in
/-- The vector `a`, turned to the side on which `c` opposes `b`. -/
def faceforward (a b c : Vec3 α) : Vec3 α := if c.dot b < 0 then a else a.map (-·)

end Vec3

def VectorOp.apply (op : VectorOp) (a b c : Vec3 α) (scale : α) : Vec3 α :=
  match op with
  | .add => a.zipWith (· + ·) b
  | .subtract => a.zipWith (· - ·) b
  | .multiply => a.zipWith (· * ·) b
  | .divide => a.zipWith safeDivide b
  | .multiplyAdd => (a.zipWith (· * ·) b).zipWith (· + ·) c
  | .scale => a.map (· * scale)
  | .crossProduct => a.cross b
  | .normalize => a.normalize
  | .faceforward => a.faceforward b c
  | .minimum => a.zipWith min b
  | .maximum => a.zipWith max b
  | .absolute => a.map Arithmetic.abs
  | .floor => a.map Arithmetic.floor
  | .ceil => a.map Arithmetic.ceil
  | .fraction => a.map fract
  | .snap => a.zipWith (fun x y => Arithmetic.floor (safeDivide x y) * y) b
  | .modulo => a.zipWith ShadeGraph.modulo b
  | .sine => a.map Elementary.sin
  | .cosine => a.map Elementary.cos
  | .tangent => a.map Elementary.tan

def VectorMeasure.apply (measure : VectorMeasure) (a b : Vec3 α) : α :=
  match measure with
  | .dotProduct => a.dot b
  | .length => a.length
  | .distance => (a.zipWith (· - ·) b).length

end ShadeGraph
