import ShadeGraph.Color.Vec3
import ShadeGraph.Number.Shaping

/-! Reading a colour as a scalar, as hue, saturation and value, and through the
sRGB transfer curve. -/

namespace ShadeGraph

variable {α : Type} [Arithmetic α]

/-- Keeps the hue and saturation of black and greys finite. -/
def hsvGuard : α := 1e-20

namespace Vec3

/-- Luminance with the Rec. 709 weights, which sum to one. -/
def luminance (c : Vec3 α) : α := c.x * 0.2126 + c.y * 0.7152 + c.z * 0.0722

def average (c : Vec3 α) : α := (c.x + c.y + c.z) / 3

/-- The hue, saturation and value of a colour with greatest channel `value` and
least channel `least`, whose hue lies at `offset` plus the part of a sixth that
`ahead - behind` is of the chroma. -/
def hsvAround (value least offset ahead behind : α) : Vec3 α :=
  let chroma := value - least
  ⟨Arithmetic.abs (offset + (ahead - behind) / (6 * chroma + hsvGuard)),
    chroma / (value + hsvGuard), value⟩

def toHsv (c : Vec3 α) : Vec3 α :=
  if c.y < c.z then
    if c.x < c.z then hsvAround c.z (min c.x c.y) (-2 / 6 - -1) c.x c.y
    else hsvAround c.x c.y (-1) c.z c.y
  else
    if c.x < c.y then hsvAround c.y (min c.x c.z) (-2 / 6 - 0) c.x c.z
    else hsvAround c.x c.z 0 c.y c.z

def ofHsv (c : Vec3 α) : Vec3 α :=
  let channel (hue : α) : α := ((clamp hue 0 1 - 1) * c.y + 1) * c.z
  ⟨channel (Arithmetic.abs (c.x * 6 - 3) - 1),
    channel (2 - Arithmetic.abs (c.x * 6 - 2)),
    channel (2 - Arithmetic.abs (c.x * 6 - 4))⟩

end Vec3

variable [Elementary α]

def srgbToLinear (a : α) : α :=
  if a ≤ 0.04045 then a / 12.92 else Elementary.pow ((a + 0.055) / 1.055) 2.4

def linearToSrgb (a : α) : α :=
  if a ≤ 0.0031308 then a * 12.92 else 1.055 * Elementary.pow a (1 / 2.4) - 0.055

end ShadeGraph
