import ShadeGraph.Node.Kind

/-! Nodes of a material graph. Settings go by name, as they do in expressions;
what a group node refers to is left open, so that one type serves before and
after references are resolved. -/

namespace ShadeGraph

inductive NodeBody (α ρ : Type)
  | rgb (color : ColorValue α)
  | value (value : α)
  | attribute (name : String) (source? : Option String)
  | vertexColor (layer : String)
  | geometry
  | math (operation : String) (clamp : Bool)
  | vectorMath (operation : String)
  | mixRgb (blend : String) (clamp : Bool)
  | mix (dataType blend : String) (clamp : Bool)
  | rgbToBw
  | invert
  | clamp (mode : String)
  | gamma
  | brightContrast
  | separate (space : ChannelSpace)
  | combine (space : ChannelSpace)
  | colorRamp (colorMode interpolation : String) (stops : List (RampStop α))
  | mapRange (interpolation : String) (clamp : Bool)
  | hueSaturation
  | group (tree : ρ)
  | groupInput
  | groupOutput (active? : Option Bool)
  | reroute
  | bakeOutput
  /-- A kind that is known by its name only. -/
  | foreign (hostType : String)
deriving DecidableEq

structure Node (α ρ : Type) where
  id : String
  label? : Option String
  /-- Constants for unlinked input sockets, before the defaults of the kind. -/
  inputs? : Option (List (String × SocketValue α))
  body : NodeBody α ρ
deriving DecidableEq

variable {α ρ : Type}

def NodeBody.kind : NodeBody α ρ → Kind
  | rgb _ => .rgb
  | value _ => .value
  | .attribute _ _ => .attribute
  | vertexColor _ => .vertexColor
  | geometry => .geometry
  | math _ _ => .math
  | vectorMath _ => .vectorMath
  | mixRgb _ _ => .mixRgb
  | mix _ _ _ => .mix
  | rgbToBw => .rgbToBw
  | invert => .invert
  | clamp _ => .clamp
  | gamma => .gamma
  | brightContrast => .brightContrast
  | separate space => .separate space
  | combine space => .combine space
  | colorRamp _ _ _ => .colorRamp
  | mapRange _ _ => .mapRange
  | hueSaturation => .hueSaturation
  | group _ => .group
  | groupInput => .groupInput
  | groupOutput _ => .groupOutput
  | reroute => .reroute
  | bakeOutput => .bakeOutput
  | foreign _ => .foreign

namespace Node

def kind (node : Node α ρ) : Kind := node.body.kind

/-- The names that a table of constants answers to even without an entry. -/
def commonNames : List String :=
  ["constructor", "hasOwnProperty", "isPrototypeOf", "propertyIsEnumerable",
    "toLocaleString", "toString", "valueOf", "__proto__", "__defineGetter__",
    "__defineSetter__", "__lookupGetter__", "__lookupSetter__"]

/-- The node's own constant for an input. A common name without an entry has a
colour that is made of no numbers. -/
def constant? [Arithmetic α] (node : Node α ρ) (socket : String) : Option (SocketValue α) :=
  node.inputs?.bind fun constants =>
    (constants.lookup socket).or <|
      if socket ∈ commonNames then some (.color (.rgb (.grey (0 / 0)))) else none

/-- The constant of an unlinked input: the node's own, or else the default of
its kind. -/
def socketDefault? [Arithmetic α] (node : Node α ρ) (socket : String) :
    Option (SocketValue α) :=
  (node.constant? socket).or
    ((node.kind.inputs.find? (·.name == socket)).map InputSocket.default)

end Node
end ShadeGraph
