import ShadeGraph.Document.Basic
import ShadeGraph.Document.Data
import ShadeGraph.Number.Arithmetic

/-! Writing graphs and documents as plain data, with every default spelled
out. -/

namespace ShadeGraph

variable {α ρ : Type}

def Vec3.toData (v : Vec3 α) : Data α := .list (v.toList.map .number)

def Rgba.toData (c : Rgba α) : Data α := .list ((c.rgb.toList ++ [c.alpha]).map .number)

def ColorValue.toData : ColorValue α → Data α
  | rgb color => color.toData
  | rgba color => color.toData

def SocketValue.toData : SocketValue α → Data α
  | scalar value => .number value
  | color value => value.toData

def RampStop.toData (stop : RampStop α) : Data α :=
  .record [("position", .number stop.position), ("color", stop.color.toData)]

def Endpoint.toData (endpoint : Endpoint) : Data α :=
  .record [("node", .text endpoint.node), ("socket", .text endpoint.socket)]

def Link.toData (link : Link) : Data α :=
  .record [("from", link.source.toData), ("to", link.target.toData)]

/-- The fields of a node that hang on its kind; a group node is written by
`group`. -/
def NodeBody.fields (group : ρ → List (String × Data α)) :
    NodeBody α ρ → List (String × Data α)
  | .rgb color => [("color", color.toData)]
  | .value v => [("value", .number v)]
  | .attribute name source? =>
    ("attributeName", .text name) :: (source?.map fun s => ("attributeType", .text s)).toList
  | .vertexColor layer => [("layerName", .text layer)]
  | .math operation k => [("operation", .text operation), ("useClamp", .bool k)]
  | .vectorMath operation => [("operation", .text operation)]
  | .mixRgb blend k => [("blendType", .text blend), ("useClamp", .bool k)]
  | .mix dataType blend k =>
    [("dataType", .text dataType), ("blendType", .text blend), ("clampResult", .bool k)]
  | .clamp mode => [("clampType", .text mode)]
  | .colorRamp colorMode interpolation stops =>
    [("colorMode", .text colorMode), ("interpolation", .text interpolation),
      ("stops", .list (stops.map RampStop.toData))]
  | .mapRange interpolation k => [("interpolationType", .text interpolation), ("clamp", .bool k)]
  | .group tree => group tree
  | .groupOutput active? => (active?.map fun b => ("isActiveOutput", .bool b)).toList
  | .foreign hostType => [("hostType", .text hostType)]
  | .geometry | .rgbToBw | .invert | .gamma | .brightContrast | .separate _ | .combine _
  | .hueSaturation | .groupInput | .reroute | .bakeOutput => []

def Node.toData (group : ρ → List (String × Data α)) (node : Node α ρ) : Data α :=
  .record <|
    ("id", .text node.id) ::
    (node.label?.map fun label => ("label", .text label)).toList ++
    (node.inputs?.map fun inputs =>
      ("inputs", .record (inputs.map fun named => (named.1, named.2.toData)))).toList ++
    ("kind", .text node.kind.name) :: node.body.fields group

def Graph.toData (group : ρ → List (String × Data α)) (graph : Graph α ρ) : Data α :=
  .record [("id", .text graph.id), ("name", .text graph.name),
    ("nodes", .list (graph.nodes.map (Node.toData group))),
    ("links", .list (graph.links.map Link.toData))]

def Material.toData (group : ρ → List (String × Data α)) (material : Material α ρ) : Data α :=
  .record [("name", .text material.name), ("graph", material.graph.toData group)]

/-- A library as the document that it could have been loaded from: a group node
names its group by id. -/
def Library.toData [Arithmetic α] (library : Library α) : Data α :=
  let group (place : Fin library.groupCount) : List (String × Data α) :=
    [("group", .text (library.groups.get place).id)]
  .record [("version", .number 1),
    ("materials", .list (library.materials.map (Material.toData group))),
    ("groups", .list (library.groups.toList.map (Graph.toData group)))]

end ShadeGraph
