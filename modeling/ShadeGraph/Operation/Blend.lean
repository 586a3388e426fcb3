import ShadeGraph.Color.Space
import ShadeGraph.Named

/-! Blending one colour over another by a factor, channel by channel or through
hue, saturation and value. -/

namespace ShadeGraph

inductive BlendMode
  | mix | darken | multiply | burn | lighten | screen | dodge | add
  | overlay | softLight | linearLight | difference | subtract | divide
  | hue | saturation | value | color
deriving DecidableEq

instance : Named BlendMode where
  all := [.mix, .darken, .multiply, .burn, .lighten, .screen, .dodge, .add,
    .overlay, .softLight, .linearLight, .difference, .subtract, .divide,
    .hue, .saturation, .value, .color]
  name
    | .mix => "MIX"
    | .darken => "DARKEN"
    | .multiply => "MULTIPLY"
    | .burn => "BURN"
    | .lighten => "LIGHTEN"
    | .screen => "SCREEN"
    | .dodge => "DODGE"
    | .add => "ADD"
    | .overlay => "OVERLAY"
    | .softLight => "SOFT_LIGHT"
    | .linearLight => "LINEAR_LIGHT"
    | .difference => "DIFFERENCE"
    | .subtract => "SUBTRACT"
    | .divide => "DIVIDE"
    | .hue => "HUE"
    | .saturation => "SATURATION"
    | .value => "VALUE"
    | .color => "COLOR"

variable {α : Type} [Arithmetic α]

def lerp (t a b : α) : α := (1 - t) * a + t * b

namespace BlendMode

def isHsv : BlendMode → Bool
  | .hue | .saturation | .value | .color => true
  | _ => false

/-- Burning always clamps its result to the unit range, and the modes that go
through hue, saturation and value never do. -/
def clamps (mode : BlendMode) (requested : Bool) : Bool :=
  !mode.isHsv && (requested || mode = .burn)

def burnChannel (t a b : α) : α :=
  let rest := 1 - t + t * b
  if rest ≤ 0 then 0 else 1 - (1 - a) / rest

def lightenChannel (t a b : α) : α :=
  let light := t * b
  if a < light then light else a

def dodgeChannel (t a b : α) : α :=
  if a == 0 then 0
  else
    let rest := 1 - t * b
    if rest ≤ 0 then 1 else min (a / rest) 1

def overlayChannel (t a b : α) : α :=
  if a < 0.5 then a * (1 - t + 2 * t * b)
  else 1 - (1 - t + 2 * t * (1 - b)) * (1 - a)

def softLightChannel (t a b : α) : α :=
  let screen := 1 - (1 - b) * (1 - a)
  (1 - t) * a + t * ((1 - a) * b * a + a * screen)

def linearLightChannel (t a b : α) : α :=
  if 0.5 < b then a + t * (2 * (b - 0.5)) else a + t * (2 * b - 1)

def divideChannel (t a b : α) : α :=
  if b == 0 then a else (1 - t) * a + t * a / b

def apply (mode : BlendMode) (t : α) (c₁ c₂ : Vec3 α) : Vec3 α :=
  match mode with
  | .mix => c₁.zipWith (lerp t) c₂
  | .darken => c₁.zipWith (fun a b => min a b * t + a * (1 - t)) c₂
  | .multiply => c₁.zipWith (fun a b => a * (1 - t + t * b)) c₂
  | .burn => c₁.zipWith (burnChannel t) c₂
  | .lighten => c₁.zipWith (lightenChannel t) c₂
  | .screen => c₁.zipWith (fun a b => 1 - (1 - t + t * (1 - b)) * (1 - a)) c₂
  | .dodge => c₁.zipWith (dodgeChannel t) c₂
  | .add => c₁.zipWith (fun a b => a + t * b) c₂
  | .overlay => c₁.zipWith (overlayChannel t) c₂
  | .softLight => c₁.zipWith (softLightChannel t) c₂
  | .linearLight => c₁.zipWith (linearLightChannel t) c₂
  | .difference => c₁.zipWith (fun a b => (1 - t) * a + t * Arithmetic.abs (a - b)) c₂
  | .subtract => c₁.zipWith (fun a b => a - t * b) c₂
  | .divide => c₁.zipWith (divideChannel t) c₂
  | .hue =>
    let hsv₁ := c₁.toHsv
    let hsv₂ := c₂.toHsv
    c₁.zipWith (lerp t) (if hsv₂.y == 0 then c₁ else Vec3.ofHsv ⟨hsv₂.x, hsv₁.y, hsv₁.z⟩)
  | .saturation =>
    let hsv₁ := c₁.toHsv
    let hsv₂ := c₂.toHsv
    if hsv₁.y == 0 then c₁ else Vec3.ofHsv ⟨hsv₁.x, lerp t hsv₁.y hsv₂.y, hsv₁.z⟩
  | .value =>
    let hsv₁ := c₁.toHsv
    let hsv₂ := c₂.toHsv
    Vec3.ofHsv ⟨hsv₁.x, hsv₁.y, lerp t hsv₁.z hsv₂.z⟩
  | .color =>
    let hsv₁ := c₁.toHsv
    let hsv₂ := c₂.toHsv
    if hsv₂.y == 0 then c₁
    else c₁.zipWith (lerp t) (Vec3.ofHsv ⟨hsv₂.x, hsv₂.y, hsv₁.z⟩)

end BlendMode
end ShadeGraph
