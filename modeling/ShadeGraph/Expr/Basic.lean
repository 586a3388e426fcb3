import ShadeGraph.Operation.Ramp

/-!
# Expressions

A shading expression is a tree over the attributes of a mesh. Operations go by
name: a tree may name one that no table has, and only evaluation minds.
-/

namespace ShadeGraph

inductive AttributeChannel
  | fac | alpha
deriving DecidableEq

inductive GeometryQuantity
  | position | normal
deriving DecidableEq

inductive ChannelSpace
  | rgb | xyz | hsv
deriving DecidableEq

inductive RampOutput
  | color | alpha
deriving DecidableEq

inductive Expr (α : Type)
  | constColor (rgb : Vec3 α)
  | constScalar (value : α)
  | attributeColor (name : String)
  | attributeScalar (name : String) (channel : AttributeChannel)
  | geometry (quantity : GeometryQuantity)
  | math (operation : String) (clamp : Bool) (a b c : Expr α)
  | vectorMath (operation : String) (a b c scale : Expr α)
  | vectorMeasure (operation : String) (a b : Expr α)
  | mix (blend : String) (clamp : Bool) (fac color1 color2 : Expr α)
  | invert (fac color : Expr α)
  | grayscale (color : Expr α)
  | clamp (mode : String) (value min max : Expr α)
  | brightContrast (color bright contrast : Expr α)
  | gamma (color exponent : Expr α)
  | separate (space : ChannelSpace) (channel : Fin 3) (input : Expr α)
  | combine (space : ChannelSpace) (x y z : Expr α)
  | colorRamp (output : RampOutput) (interpolation : String) (stops : List (RampStop α))
      (fac : Expr α)
  | mapRange (interpolation : String) (clamp : Bool)
      (value fromMin fromMax toMin toMax steps : Expr α)
  | hueSaturation (hue saturation value fac color : Expr α)
  /-- The lowered body of a group, kept apart so that its origin shows. -/
  | group (name : String) (inner : Expr α)
  /-- A boundary input of the group that is being lowered. -/
  | groupInput (socket : String)
deriving DecidableEq

namespace Expr

variable {α : Type}

/-- The direct children with the fields they stand in, in the order of the fields. -/
def namedChildren : Expr α → List (String × Expr α)
  | constColor _ | constScalar _ | attributeColor _ | attributeScalar _ _ | geometry _
  | groupInput _ => []
  | math _ _ a b c => [("a", a), ("b", b), ("c", c)]
  | vectorMath _ a b c scale => [("a", a), ("b", b), ("c", c), ("scale", scale)]
  | vectorMeasure _ a b => [("a", a), ("b", b)]
  | mix _ _ fac color1 color2 => [("fac", fac), ("color1", color1), ("color2", color2)]
  | invert fac color => [("fac", fac), ("color", color)]
  | grayscale color => [("color", color)]
  | clamp _ value min max => [("value", value), ("min", min), ("max", max)]
  | brightContrast color bright contrast =>
    [("color", color), ("bright", bright), ("contrast", contrast)]
  | gamma color exponent => [("color", color), ("gamma", exponent)]
  | separate _ _ input => [("input", input)]
  | combine _ x y z => [("x", x), ("y", y), ("z", z)]
  | colorRamp _ _ _ fac => [("fac", fac)]
  | mapRange _ _ value fromMin fromMax toMin toMax steps =>
    [("value", value), ("fromMin", fromMin), ("fromMax", fromMax), ("toMin", toMin),
      ("toMax", toMax), ("steps", steps)]
  | hueSaturation hue saturation value fac color =>
    [("hue", hue), ("saturation", saturation), ("value", value), ("fac", fac), ("color", color)]
  | group _ inner => [("inner", inner)]

def children (e : Expr α) : List (Expr α) := e.namedChildren.map Prod.snd

/-- Replaces every direct child, the effects running in the order of the fields. -/
def traverseChildren {m : Type → Type} [Monad m] (f : Expr α → m (Expr α)) :
    Expr α → m (Expr α)
  | math operation k a b c => return math operation k (← f a) (← f b) (← f c)
  | vectorMath operation a b c scale =>
    return vectorMath operation (← f a) (← f b) (← f c) (← f scale)
  | vectorMeasure operation a b => return vectorMeasure operation (← f a) (← f b)
  | mix blend k fac color1 color2 => return mix blend k (← f fac) (← f color1) (← f color2)
  | invert fac color => return invert (← f fac) (← f color)
  | grayscale color => return grayscale (← f color)
  | clamp mode value min max => return clamp mode (← f value) (← f min) (← f max)
  | brightContrast color bright contrast =>
    return brightContrast (← f color) (← f bright) (← f contrast)
  | gamma color exponent => return gamma (← f color) (← f exponent)
  | separate space channel input => return separate space channel (← f input)
  | combine space x y z => return combine space (← f x) (← f y) (← f z)
  | colorRamp output interpolation stops fac =>
    return colorRamp output interpolation stops (← f fac)
  | mapRange interpolation k value fromMin fromMax toMin toMax steps =>
    return mapRange interpolation k (← f value) (← f fromMin) (← f fromMax) (← f toMin)
      (← f toMax) (← f steps)
  | hueSaturation hue saturation value fac color =>
    return hueSaturation (← f hue) (← f saturation) (← f value) (← f fac) (← f color)
  | group name inner => return group name (← f inner)
  | e => return e

def mapChildren (f : Expr α → Expr α) (e : Expr α) : Expr α :=
  Id.run (e.traverseChildren fun child => pure (f child))

theorem sizeOf_lt_of_mem_namedChildren {e : Expr α} {child : String × Expr α}
    (h : child ∈ e.namedChildren) : sizeOf child.2 < sizeOf e := by
  cases e <;> simp [namedChildren] at h <;> grind

theorem sizeOf_lt_of_mem_children {e child : Expr α} (h : child ∈ e.children) :
    sizeOf child < sizeOf e := by
  obtain ⟨named, hn, rfl⟩ := List.mem_map.1 h
  exact sizeOf_lt_of_mem_namedChildren hn

/-- The number of nodes of the tree, the root included. -/
def countNodes (e : Expr α) : Nat :=
  e.children.attach.foldl (fun total child => total + child.1.countNodes) 1
termination_by e
decreasing_by exact sizeOf_lt_of_mem_children child.2

theorem countNodes_eq (e : Expr α) :
    e.countNodes = e.children.foldl (fun total child => total + child.countNodes) 1 := by
  rw [countNodes]; simp

end Expr
end ShadeGraph
