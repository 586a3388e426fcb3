import ShadeGraph.Expr.Eval
import ShadeGraph.Expr.Layout
import ShadeGraph.Lowering.Memo

/-!
# Baking

The output sockets of a material, evaluated over a mesh. Each socket is lowered
and evaluated on its own; the first fault is reported with the material and the
socket that it stands in the way of.
-/

namespace ShadeGraph

inductive BakeSocket
  | color | alpha | swayFrequency | swayAmplitude | swayPhase | specularStrength
deriving DecidableEq

def BakeSocket.name : BakeSocket → String
  | color => "Color"
  | alpha => "Alpha"
  | swayFrequency => "SwayFrequency"
  | swayAmplitude => "SwayAmplitude"
  | swayPhase => "SwayPhase"
  | specularStrength => "SpecularStrength"

inductive BakeCause
  | noOutput (graph : String)
  | lowering (socket : BakeSocket) (cause : LowerError)
  | evaluation (socket : BakeSocket) (cause : EvalError)
deriving DecidableEq

def BakeCause.message : BakeCause → String
  | noOutput graph => s!"Could not find a bake output node in graph '{graph}'"
  | lowering _ cause => cause.message
  | evaluation _ cause => cause.message

/-- The socket that an unsupported node or socket was met for. -/
def BakeCause.bakingSocket? : BakeCause → Option BakeSocket
  | lowering _ (.cycle _ _) => none
  | lowering socket _ => some socket
  | _ => none

structure BakeError where
  material : String
  cause : BakeCause
deriving DecidableEq

def BakeError.message (e : BakeError) : String :=
  s!"Failed to bake for material '{e.material}': {e.cause.message}"

inductive BakeEvent (α : Type)
  | entered (entry : Entry)
  | lowered (material : String) (socket : BakeSocket) (expr : Expr α)

def Entry.message (entry : Entry) : String :=
  s!"[Reifier] Entering group '{entry.group}' through '{entry.instanceId}.{entry.socket}'"

def BakeEvent.message {α : Type} (text : α → String) : BakeEvent α → String
  | entered entry => entry.message
  | lowered material socket expr => s!"[Bake] {material}.{socket.name}:\n" ++ expr.print text

structure Bgra where
  blue : UInt8
  green : UInt8
  red : UInt8
  alpha : UInt8
deriving DecidableEq

def Bgra.toList (pixel : Bgra) : List UInt8 := [pixel.blue, pixel.green, pixel.red, pixel.alpha]

structure Sway (α : Type) (n : Nat) where
  angularFrequency : Vector α n
  amplitude : Vector α n
  phaseOffset : Vector α n

namespace Bake

variable {α : Type} [Arithmetic α] {n k : Nat}

/-- The nearest of 256 levels, a half going to the even one. What is not a
number is black. -/
def quantize (x : α) : UInt8 :=
  UInt8.ofNat ((Arithmetic.natural? (roundHalfEven (saturate x * 255))).getD 0)

def pixel (color : Vec3 α) (alpha : α) : Bgra :=
  ⟨quantize color.z, quantize color.y, quantize color.x, quantize alpha⟩

omit [Arithmetic α] in
/-- The node whose inputs are baked. -/
def bakeOutput (graph : Graph α (Fin k)) : Except BakeCause (Node α (Fin k)) :=
  match graph.bakeOutput? with
  | some node => .ok node
  | none => .error (.noOutput graph.name)

abbrev Run (α : Type) := Traced (BakeEvent α) BakeError

/-- Lowering of an input, plain or remembering, in a family. -/
def lower (memoize : Bool) (family : Family α k) (node : Node α (Fin k)) (socket : String) :
    Traced Entry LowerError (Expr α) :=
  if memoize then
    let (outcome, session) := Session.start.lowerInput family node socket
    ⟨session.trace, outcome⟩
  else family.lowerInput node socket

variable (memoize : Bool) (material : Material α (Fin k)) (groups : Vector (Graph α (Fin k)) k)

omit [Arithmetic α] in
def findOutput : Run α (Node α (Fin k)) :=
  Traced.lift ((bakeOutput material.graph).mapError (BakeError.mk material.name))

def lowerSocket (output : Node α (Fin k)) (socket : BakeSocket) : Run α (Expr α) := do
  let expr ← (lower memoize ⟨material.graph, groups⟩ output socket.name).mapTrace .entered
    |>.mapError fun e => ⟨material.name, .lowering socket e⟩
  Traced.log (.lowered material.name socket expr)
  return expr

omit [Arithmetic α] in
def evalSocket {β : Type} (socket : BakeSocket) (result : Except EvalError β) : Run α β :=
  Traced.lift (result.mapError fun e => ⟨material.name, .evaluation socket e⟩)

variable [Elementary α] (ctx : Context α n)

def scalarSocket (socket : BakeSocket) : Run α (Vector α n) := do
  let output ← findOutput material
  let expr ← lowerSocket memoize material groups output socket
  evalSocket material socket (expr.evalScalar ctx)

/-- Colour and alpha of every element. Both are lowered before either is
evaluated. -/
def vertexColors : Run α (Vector Bgra n) := do
  let output ← findOutput material
  let colorExpr ← lowerSocket memoize material groups output .color
  let alphaExpr ← lowerSocket memoize material groups output .alpha
  let color ← evalSocket material .color (colorExpr.evalColor ctx)
  let alpha ← evalSocket material .alpha (alphaExpr.evalScalar ctx)
  return Vector.ofFn fun i => pixel (color.get i) (alpha.get i)

def alpha : Run α (Vector α n) := scalarSocket memoize material groups ctx .alpha

def specularStrength : Run α (Vector α n) :=
  scalarSocket memoize material groups ctx .specularStrength

def sway : Run α (Sway α n) :=
  return ⟨← scalarSocket memoize material groups ctx .swayFrequency,
    ← scalarSocket memoize material groups ctx .swayAmplitude,
    ← scalarSocket memoize material groups ctx .swayPhase⟩

end Bake
end ShadeGraph
