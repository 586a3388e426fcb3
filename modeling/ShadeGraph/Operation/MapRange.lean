import ShadeGraph.Named
import ShadeGraph.Number.Shaping

/-! Carrying a value from one range over to another. Either range may run
backwards; an empty source range gives zero. -/

namespace ShadeGraph

inductive MapRangeMode
  | linear | stepped | smoothstep | smootherstep
deriving DecidableEq

instance : Named MapRangeMode where
  all := [.linear, .stepped, .smoothstep, .smootherstep]
  name
    | .linear => "LINEAR"
    | .stepped => "STEPPED"
    | .smoothstep => "SMOOTHSTEP"
    | .smootherstep => "SMOOTHERSTEP"

namespace MapRangeMode

/-- The smooth modes stay in the target range of themselves. -/
def clamps (mode : MapRangeMode) (requested : Bool) : Bool :=
  match mode with
  | .linear | .stepped => requested
  | .smoothstep | .smootherstep => false

variable {α : Type} [Arithmetic α]

/-- How far `value` has come from `fromMin` to `fromMax`. -/
def progress (mode : MapRangeMode) (value fromMin fromMax steps : α) : α :=
  match mode with
  | .linear => safeDivide (value - fromMin) (fromMax - fromMin)
  | .stepped =>
    let straight := safeDivide (value - fromMin) (fromMax - fromMin)
    if 0 < steps then Arithmetic.floor (straight * (steps + 1)) / steps else 0
  | .smoothstep =>
    if fromMax < fromMin then 1 - ShadeGraph.smoothstep fromMax fromMin value
    else ShadeGraph.smoothstep fromMin fromMax value
  | .smootherstep =>
    if fromMax < fromMin then 1 - ShadeGraph.smootherstep fromMax fromMin value
    else ShadeGraph.smootherstep fromMin fromMax value

def apply (mode : MapRangeMode) (clampRequested : Bool)
    (value fromMin fromMax toMin toMax steps : α) : α :=
  let result := toMin + mode.progress value fromMin fromMax steps * (toMax - toMin)
  if fromMax == fromMin then 0
  else if mode.clamps clampRequested then saturate result
  else result

end MapRangeMode
end ShadeGraph
