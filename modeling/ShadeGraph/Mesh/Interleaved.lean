import ShadeGraph.Color.Space

/-! Values over a mesh in flat buffers. A scalar buffer has one number for every
element; a colour buffer has the three channels of the first element, then those
of the next, and so on. A read past the end of a buffer gives `beyond`. -/

namespace ShadeGraph.Interleaved

variable {α β : Type}

/-- A value for each of `n` elements, in their order. -/
def perElement (n : Nat) (value : Nat → β) : Array β := (Array.range n).map value

def ofColors (colors : Array (Vec3 α)) : Array α := colors.flatMap fun c => #[c.x, c.y, c.z]

/-- Every number three times, as a colour without hue. -/
def broadcast (scalars : Array α) : Array α := scalars.flatMap fun v => #[v, v, v]

/-- Changes every channel, given the element it belongs to. -/
def mapChannels (f : Nat → α → α) (colors : Array α) : Array α :=
  colors.mapIdx fun place v => f (place / 3) v

variable (beyond : α)

def scalarAt (scalars : Array α) (i : Nat) : α := scalars.getD i beyond

def colorAt (colors : Array α) (i : Nat) : Vec3 α :=
  ⟨colors.getD (i * 3) beyond, colors.getD (i * 3 + 1) beyond, colors.getD (i * 3 + 2) beyond⟩

/-- The luminance of every colour. -/
def luminances [Arithmetic α] (colors : Array α) : Array α :=
  perElement (colors.size / 3) fun i => (colorAt beyond colors i).luminance

end ShadeGraph.Interleaved
