import ShadeGraph.Color.Space

/-! Values over a mesh of `n` elements: a colour for every element or a scalar
for every element, each readable as the other. -/

namespace ShadeGraph

inductive Signal (α : Type) (n : Nat)
  | color (values : Vector (Vec3 α) n)
  | scalar (values : Vector α n)

namespace Signal

variable {α : Type} {n : Nat}

/-- A scalar reads as grey. -/
def colors : Signal α n → Vector (Vec3 α) n
  | color values => values
  | scalar values => values.map Vec3.grey

/-- A colour reads as its luminance. -/
def scalars [Arithmetic α] : Signal α n → Vector α n
  | color values => values.map Vec3.luminance
  | scalar values => values

end Signal
end ShadeGraph
