/-! Why an output socket has no expression. -/

namespace ShadeGraph

/-- What is wrong with a node that cannot be lowered. -/
inductive Refusal
  | noSuchNode (graph : String)
  | attributeType (name : String)
  | dataType (name : String)
  | clampType (name : String)
  | colorMode (name : String)
  | interpolation (name : String)
  | noStops
  | noActiveOutput (group : String)
  | outsideOfGroup
deriving DecidableEq

def Refusal.message : Refusal → String
  | noSuchNode graph => s!"no such node in graph '{graph}'"
  | attributeType name => s!"attribute type {name}"
  | dataType name => s!"data type {name}"
  | clampType name => s!"clamp type {name}"
  | colorMode name => s!"color mode {name}"
  | interpolation name => s!"interpolation {name}"
  | noStops => "no color stops"
  | noActiveOutput group => s!"group '{group}' has no active output"
  | outsideOfGroup => "group input outside of a group"

inductive LowerError
  /-- The node feeds itself. -/
  | cycle (graph node : String)
  | unsupportedNode (kind node : String) (refusal? : Option Refusal)
  | unsupportedSocket (kind node socket : String)
deriving DecidableEq

def LowerError.message : LowerError → String
  | cycle graph node => s!"Loop detected in node graph '{graph}' at node '{node}'"
  | unsupportedNode kind node none => s!"Can't bake node '{node}' of kind '{kind}'"
  | unsupportedNode kind node (some refusal) =>
    s!"Can't bake node '{node}' of kind '{kind}': {refusal.message}"
  | unsupportedSocket kind node socket => s!"Can't bake socket '{socket}' of node '{node}' ({kind})"

/-- A group being entered through an output of an instance. -/
structure Entry where
  group : String
  instanceId : String
  socket : String
deriving DecidableEq

end ShadeGraph
