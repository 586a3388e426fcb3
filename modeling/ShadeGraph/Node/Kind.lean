import ShadeGraph.Color.Vec3
import ShadeGraph.Expr.Basic
import ShadeGraph.Named

/-! The kinds of node and the sockets that each kind declares. -/

namespace ShadeGraph

inductive SocketKind
  | color | vector | scalar
deriving DecidableEq

def SocketKind.name : SocketKind → String
  | color => "color"
  | vector => "vector"
  | scalar => "scalar"

/-- A colour as it was given, with or without an alpha channel. -/
inductive ColorValue (α : Type)
  | rgb (color : Vec3 α)
  | rgba (color : Rgba α)
deriving DecidableEq

def ColorValue.toVec3 {α : Type} : ColorValue α → Vec3 α
  | rgb color => color
  | rgba color => color.rgb

/-- What stands on an input socket that nothing is linked to. -/
inductive SocketValue (α : Type)
  | scalar (value : α)
  | color (value : ColorValue α)
deriving DecidableEq

inductive Kind
  | rgb | value | attribute | vertexColor | geometry
  | math | vectorMath | mixRgb | mix
  | rgbToBw | invert | clamp | gamma | brightContrast
  | separate (space : ChannelSpace)
  | combine (space : ChannelSpace)
  | colorRamp | mapRange | hueSaturation
  | group | groupInput | groupOutput | reroute | bakeOutput | foreign
deriving DecidableEq

instance : Named Kind where
  all := [.rgb, .value, .attribute, .vertexColor, .geometry,
    .math, .vectorMath, .mixRgb, .mix,
    .rgbToBw, .invert, .clamp, .gamma, .brightContrast,
    .separate .rgb, .separate .xyz, .separate .hsv,
    .combine .rgb, .combine .xyz, .combine .hsv,
    .colorRamp, .mapRange, .hueSaturation,
    .group, .groupInput, .groupOutput, .reroute, .bakeOutput, .foreign]
  name
    | .rgb => "rgb"
    | .value => "value"
    | .attribute => "attribute"
    | .vertexColor => "vertex_color"
    | .geometry => "geometry"
    | .math => "math"
    | .vectorMath => "vector_math"
    | .mixRgb => "mix_rgb"
    | .mix => "mix"
    | .rgbToBw => "rgb_to_bw"
    | .invert => "invert"
    | .clamp => "clamp"
    | .gamma => "gamma"
    | .brightContrast => "bright_contrast"
    | .separate .rgb => "separate_rgb"
    | .separate .xyz => "separate_xyz"
    | .separate .hsv => "separate_hsv"
    | .combine .rgb => "combine_rgb"
    | .combine .xyz => "combine_xyz"
    | .combine .hsv => "combine_hsv"
    | .colorRamp => "color_ramp"
    | .mapRange => "map_range"
    | .hueSaturation => "hue_saturation"
    | .group => "group"
    | .groupInput => "group_input"
    | .groupOutput => "group_output"
    | .reroute => "reroute"
    | .bakeOutput => "bake_output"
    | .foreign => "foreign"

structure InputSocket (α : Type) where
  name : String
  kind : SocketKind
  default : SocketValue α

namespace InputSocket

variable {α : Type}

def scalar (name : String) (value : α) : InputSocket α := ⟨name, .scalar, .scalar value⟩

def color (name : String) (x y z : α) : InputSocket α := ⟨name, .color, .color (.rgb ⟨x, y, z⟩)⟩

def vector (name : String) (x y z : α) : InputSocket α :=
  ⟨name, .vector, .color (.rgb ⟨x, y, z⟩)⟩

end InputSocket

namespace ChannelSpace

/-- The socket of a separating node that takes the triple, and its default. -/
def tripleInput {α : Type} [Arithmetic α] : ChannelSpace → InputSocket α
  | rgb => .color "Image" 0.8 0.8 0.8
  | xyz => .vector "Vector" 0 0 0
  | hsv => .color "Color" 0.8 0.8 0.8

/-- The socket of a combining node that gives the triple. -/
def tripleOutput : ChannelSpace → String
  | rgb => "Image"
  | xyz => "Vector"
  | hsv => "Color"

def channelNames : ChannelSpace → Vec3 String
  | rgb => ⟨"R", "G", "B"⟩
  | xyz => ⟨"X", "Y", "Z"⟩
  | hsv => ⟨"H", "S", "V"⟩

end ChannelSpace

namespace Kind

def name (kind : Kind) : String := Named.name kind

def inputs {α : Type} [Arithmetic α] : Kind → List (InputSocket α)
  | math => [.scalar "A" 0.5, .scalar "B" 0.5, .scalar "C" 0.5]
  | vectorMath => [.vector "A" 0 0 0, .vector "B" 0 0 0, .vector "C" 0 0 0, .scalar "Scale" 1]
  | mixRgb => [.scalar "Fac" 0.5, .color "Color1" 0.5 0.5 0.5, .color "Color2" 0.5 0.5 0.5]
  | mix => [.scalar "Factor" 0.5, .scalar "A_Float" 0, .scalar "B_Float" 0,
      .color "A_Color" 0.5 0.5 0.5, .color "B_Color" 0.5 0.5 0.5]
  | rgbToBw => [.color "Color" 0.5 0.5 0.5]
  | invert => [.scalar "Fac" 1, .color "Color" 0 0 0]
  | clamp => [.scalar "Value" 1, .scalar "Min" 0, .scalar "Max" 1]
  | gamma => [.color "Color" 1 1 1, .scalar "Gamma" 1]
  | brightContrast => [.color "Color" 1 1 1, .scalar "Bright" 0, .scalar "Contrast" 0]
  | separate space => [space.tripleInput]
  | combine space => (space.channelNames.map (InputSocket.scalar · 0)).toList
  | colorRamp => [.scalar "Fac" 0.5]
  | mapRange => [.scalar "Value" 1, .scalar "FromMin" 0, .scalar "FromMax" 1,
      .scalar "ToMin" 0, .scalar "ToMax" 1, .scalar "Steps" 4]
  | hueSaturation => [.scalar "Hue" 0.5, .scalar "Saturation" 1, .scalar "Value" 1,
      .scalar "Fac" 1, .color "Color" 0.8 0.8 0.8]
  | reroute => [.color "Input" 0 0 0]
  | bakeOutput => [.color "Color" 1 1 1, .scalar "Alpha" 1, .scalar "SwayFrequency" 0,
      .scalar "SwayAmplitude" 0, .scalar "SwayPhase" 0, .scalar "SpecularStrength" 0]
  | rgb | value | .attribute | vertexColor | geometry | group | groupInput | groupOutput
  | foreign => []

def outputs : Kind → List String
  | rgb | mixRgb | invert | gamma | brightContrast | hueSaturation => ["Color"]
  | value | math => ["Value"]
  | .attribute => ["Color", "Vector", "Fac", "Alpha"]
  | vertexColor | colorRamp => ["Color", "Alpha"]
  | geometry => ["Position", "Normal", "Tangent", "TrueNormal", "Incoming", "Parametric",
      "Backfacing", "Pointiness", "RandomPerIsland"]
  | vectorMath => ["Vector", "Value"]
  | mix | clamp | mapRange => ["Result"]
  | rgbToBw => ["Val"]
  | separate space => space.channelNames.toList
  | combine space => [space.tripleOutput]
  | reroute => ["Output"]
  | group | groupInput | groupOutput | bakeOutput | foreign => []

/-- Whether a node of the kind may have sockets beyond the declared ones. -/
def isDynamic : Kind → Bool
  | group | groupInput | groupOutput | bakeOutput | foreign => true
  | _ => false

end Kind
end ShadeGraph
