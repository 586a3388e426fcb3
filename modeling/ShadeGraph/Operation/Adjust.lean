import ShadeGraph.Color.Space

/-! Adjustments of a single colour. -/

namespace ShadeGraph.Vec3

variable {α : Type} [Arithmetic α]

def invert (c : Vec3 α) (fac : α) : Vec3 α :=
  c.map fun v => (1 - v) * fac + v * (1 - fac)

def brightContrast (c : Vec3 α) (bright contrast : α) : Vec3 α :=
  c.map fun v => max ((1 + contrast) * v + bright - contrast * 0.5) 0

/-- Raises the channels above zero to a power. -/
def gamma [Elementary α] (c : Vec3 α) (exponent : α) : Vec3 α :=
  c.map fun v => if 0 < v then Elementary.pow v exponent else v

/-- Turns the hue, scales saturation and value, and mixes the result in by
`fac`. A hue of one half leaves the hue as it is. -/
def hueSaturation (c : Vec3 α) (hue saturation value fac : α) : Vec3 α :=
  let hsv := c.toHsv
  let shifted := ofHsv ⟨Arithmetic.rem (hsv.x + hue + 0.5) 1, saturate (hsv.y * saturation),
    hsv.z * value⟩
  shifted.zipWith (fun new old => max (fac * new + (1 - fac) * old) 0) c

end ShadeGraph.Vec3
