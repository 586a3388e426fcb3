import ShadeGraph.Graph.Family

/-! Material documents: materials and the groups that they share, before and
after the references of group nodes are resolved. -/

namespace ShadeGraph

/-- Group nodes name their group by its id. -/
structure Document (α : Type) where
  materials : List (Material α String)
  groups : List (Graph α String)
deriving DecidableEq

/-- Group nodes hold the place of their group in the list of groups. -/
structure Library (α : Type) where
  groupCount : Nat
  groups : Vector (Graph α (Fin groupCount)) groupCount
  materials : List (Material α (Fin groupCount))

def Library.family {α : Type} (library : Library α)
    (material : Material α (Fin library.groupCount)) : Family α library.groupCount :=
  ⟨material.graph, library.groups⟩

variable {α ρ σ : Type} {f : Type → Type} [Applicative f]

/-- Replaces what a group node refers to. -/
def NodeBody.traverseGroup (resolve : ρ → f σ) : NodeBody α ρ → f (NodeBody α σ)
  | group tree => NodeBody.group <$> resolve tree
  | rgb color => pure (.rgb color)
  | value v => pure (.value v)
  | .attribute name source? => pure (.attribute name source?)
  | vertexColor layer => pure (.vertexColor layer)
  | geometry => pure .geometry
  | math operation k => pure (.math operation k)
  | vectorMath operation => pure (.vectorMath operation)
  | mixRgb blend k => pure (.mixRgb blend k)
  | mix dataType blend k => pure (.mix dataType blend k)
  | rgbToBw => pure .rgbToBw
  | invert => pure .invert
  | clamp mode => pure (.clamp mode)
  | gamma => pure .gamma
  | brightContrast => pure .brightContrast
  | separate space => pure (.separate space)
  | combine space => pure (.combine space)
  | colorRamp colorMode interpolation stops => pure (.colorRamp colorMode interpolation stops)
  | mapRange interpolation k => pure (.mapRange interpolation k)
  | hueSaturation => pure .hueSaturation
  | groupInput => pure .groupInput
  | groupOutput active? => pure (.groupOutput active?)
  | reroute => pure .reroute
  | bakeOutput => pure .bakeOutput
  | foreign hostType => pure (.foreign hostType)

def Node.traverseGroup (resolve : ρ → f σ) (node : Node α ρ) : f (Node α σ) :=
  (fun body => ⟨node.id, node.label?, node.inputs?, body⟩) <$> node.body.traverseGroup resolve

def Node.mapGroup (f : ρ → σ) (node : Node α ρ) : Node α σ :=
  Id.run (node.traverseGroup fun tree => pure (f tree))

end ShadeGraph
