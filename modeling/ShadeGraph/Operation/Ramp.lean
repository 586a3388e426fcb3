import ShadeGraph.Color.Vec3
import ShadeGraph.Named
import ShadeGraph.Operation.Blend

/-! Colour ramps: a colour for every factor, from stops along the line. The
stops are taken in order of position; a factor outside them takes the colour of
the nearest end. -/

namespace ShadeGraph

structure RampStop (α : Type) where
  position : α
  color : Rgba α
deriving DecidableEq

inductive RampMode
  | linear | constant
deriving DecidableEq

instance : Named RampMode where
  all := [.linear, .constant]
  name
    | .linear => "LINEAR"
    | .constant => "CONSTANT"

variable {α : Type} [Arithmetic α]

def Rgba.lerp (t : α) (a b : Rgba α) : Rgba α :=
  ⟨a.rgb.zipWith (ShadeGraph.lerp t) b.rgb, ShadeGraph.lerp t a.alpha b.alpha⟩

namespace RampMode

/-- How far a factor has come from one stop to the next. -/
def progress (mode : RampMode) (left right fac : α) : α :=
  match mode with
  | .linear => if left == right then 0 else (fac - left) / (right - left)
  | .constant => 0

/-- Walks the stops from `left` on. Each pair overrides the colour so far once
the factor has passed its left stop, and the last stop does when it is reached. -/
def walk (mode : RampMode) (fac : α) (left : RampStop α) (sofar : Rgba α) :
    List (RampStop α) → Rgba α
  | [] => if left.position ≤ fac then left.color else sofar
  | right :: rest =>
    walk mode fac right
      (if left.position < fac then
        Rgba.lerp (mode.progress left.position right.position fac) left.color right.color
      else sofar) rest

def sample (mode : RampMode) (first : RampStop α) (rest : List (RampStop α)) (fac : α) :
    Rgba α :=
  mode.walk fac first first.color rest

end RampMode
end ShadeGraph
