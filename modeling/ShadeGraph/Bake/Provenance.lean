import ShadeGraph.Bake.Bytes

/-!
# Provenance

Every fault of shading as one kind of thing, and what a bake does to those that
pass through it on their way out: an unsupported node or socket is given the
socket that was being baked, and any fault is wrapped in one that names the
material, unless it is wrapped already. The bakes below put each of their steps
under that guard.
-/

namespace ShadeGraph

inductive Fault
  | cycle (graph node : String)
  | unsupportedNode (kind node : String) (refusal? : Option Refusal)
      (bakingSocket? : Option BakeSocket)
  | unsupportedSocket (kind node socket : String) (bakingSocket? : Option BakeSocket)
  | missingAttribute (name : String)
  | unhandled (family : OpFamily) (operation : String)
  | noOutput (graph : String)
  | material (name : String) (inner : Fault)
deriving DecidableEq

namespace Fault

def ofLowering : LowerError → Fault
  | .cycle graph node => cycle graph node
  | .unsupportedNode kind node refusal? => unsupportedNode kind node refusal? none
  | .unsupportedSocket kind node socket => unsupportedSocket kind node socket none

def ofEvaluation : EvalError → Fault
  | .missingAttribute name => missingAttribute name
  | .unhandled family operation => unhandled family operation

/-- A node or a socket that cannot be lowered. -/
def isUnsupported : Fault → Bool
  | unsupportedNode .. | unsupportedSocket .. => true
  | _ => false

def isMaterial : Fault → Bool
  | material .. => true
  | _ => false

def bakingSocket? : Fault → Option BakeSocket
  | unsupportedNode _ _ _ socket? | unsupportedSocket _ _ _ socket? => socket?
  | _ => none

/-- Puts the socket being baked on what cannot be lowered. -/
def note (socket : BakeSocket) : Fault → Fault
  | unsupportedNode kind node refusal? _ => unsupportedNode kind node refusal? (some socket)
  | unsupportedSocket kind node name _ => unsupportedSocket kind node name (some socket)
  | e => e

/-- Names the material, once. -/
def wrap (name : String) (e : Fault) : Fault := if e.isMaterial then e else material name e

end Fault

structure SwayBuffers (α : Type) where
  angularFrequency : Array α
  amplitude : Array α
  phaseOffset : Array α

namespace Provenance

variable {α β : Type} {n k : Nat}

abbrev Run (α : Type) := Traced (BakeEvent α) Fault

/-- A step on behalf of a material and, if one is being baked, of a socket. -/
def guarded (material : String) (socket? : Option BakeSocket) (step : Run α β) : Run α β :=
  step.mapError fun e =>
    match socket? with
    | some socket => (e.note socket).wrap material
    | none => e.wrap material

variable (memoize : Bool) (material : Material α (Fin k)) (groups : Vector (Graph α (Fin k)) k)

def findOutput : Run α (Node α (Fin k)) :=
  guarded material.name none <|
    match material.graph.bakeOutput? with
    | some node => return node
    | none => throw (.noOutput material.graph.name)

variable [Arithmetic α]

def lowerSocket (output : Node α (Fin k)) (socket : BakeSocket) : Run α (Expr α) :=
  guarded material.name (some socket) do
    let expr ← (Bake.lower memoize ⟨material.graph, groups⟩ output socket.name).mapTrace .entered
      |>.mapError Fault.ofLowering
    Traced.log (.lowered material.name socket expr)
    return expr

omit [Arithmetic α] in
def evalSocket (socket : BakeSocket) (result : Except EvalError β) : Run α β :=
  guarded material.name (some socket) (Traced.lift (result.mapError Fault.ofEvaluation))

variable [Elementary α] (beyond : α) (ctx : Context α n)

def scalarSocket (socket : BakeSocket) : Run α (Array α) := do
  let output ← findOutput material
  let expr ← lowerSocket memoize material groups output socket
  evalSocket material socket (expr.scalarBuffer beyond ctx)

def vertexColors : Run α (Array UInt8) := do
  let output ← findOutput material
  let colorExpr ← lowerSocket memoize material groups output .color
  let alphaExpr ← lowerSocket memoize material groups output .alpha
  let color ← evalSocket material .color (colorExpr.colorBuffer beyond ctx)
  let alpha ← evalSocket material .alpha (alphaExpr.scalarBuffer beyond ctx)
  return Bake.bytes beyond n color alpha

def alpha : Run α (Array α) := scalarSocket memoize material groups beyond ctx .alpha

def specularStrength : Run α (Array α) :=
  scalarSocket memoize material groups beyond ctx .specularStrength

def sway : Run α (SwayBuffers α) :=
  return ⟨← scalarSocket memoize material groups beyond ctx .swayFrequency,
    ← scalarSocket memoize material groups beyond ctx .swayAmplitude,
    ← scalarSocket memoize material groups beyond ctx .swayPhase⟩

end Provenance
end ShadeGraph
