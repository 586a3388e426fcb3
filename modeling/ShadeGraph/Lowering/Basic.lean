import ShadeGraph.Expr.Substitute
import ShadeGraph.Graph.Family
import ShadeGraph.Lowering.Error
import ShadeGraph.Operation.Vector
import ShadeGraph.Traced

/-!
# Lowering

The expression behind a socket of a material graph. An input socket follows its
link, or is a constant; an output socket is built from the inputs of its node.
A group is lowered as a template, whose boundary inputs are then filled from
the inputs of the instance.

The keys of the nodes on the way from the start are carried along. A node met
again on its own way is a cycle; a node met on two different ways is lowered
twice. Every step down adds a key that was not there, so the ways are finite.
-/

namespace ShadeGraph

/-- What lowering does on the side: reporting the groups it enters and, if it
remembers at all, reusing the expression of a socket by its key. -/
structure Effects (α : Type) (m : Type → Type) where
  enter : Entry → m Unit
  remember : String → m (Expr α) → m (Expr α)

namespace Lowering

/-- Plain lowering remembers nothing. -/
def plain (α : Type) : Effects α (Traced Entry LowerError) where
  enter := Traced.log
  remember _ lowered := lowered

variable {α : Type} {m : Type → Type} {n : Nat} [Monad m] [MonadExceptOf LowerError m]
  [Arithmetic α]

/-- An input socket, given the lowering of the outputs of its graph. -/
def input (graph : Graph α (Fin n)) (output : Endpoint → m (Expr α)) (node : Node α (Fin n))
    (socket : String) : m (Expr α) :=
  match graph.linkTo? ⟨node.id, socket⟩ with
  | some link => output link.source
  | none =>
    match node.socketDefault? socket with
    | some (.scalar value) => pure (.constScalar value)
    | some (.color value) => pure (.constColor value.toVec3)
    | none => throw (.unsupportedSocket node.kind.name node.id socket)

/-- What keeps a ramp from being lowered, if anything does. A ramp that mixes
hues linearly is taken for one that mixes channels. -/
def rampRefusal? (colorMode interpolation : String) (stops : List (RampStop α)) :
    Option Refusal :=
  if colorMode ≠ "RGB" ∧ ¬ (colorMode = "HSV" ∧ interpolation = "LINEAR") then
    some (.colorMode colorMode)
  else if interpolation ≠ "LINEAR" ∧ interpolation ≠ "CONSTANT" then
    some (.interpolation interpolation)
  else if stops = [] then some .noStops
  else none

/-- The stops in order of position; of stops at one position the earlier comes
first. -/
def sortStops (stops : List (RampStop α)) : List (RampStop α) :=
  stops.mergeSort fun a b => !decide (b.position < a.position)

def separateChannel? (space : ChannelSpace) (socket : String) : Option (Fin 3) :=
  [0, 1, 2].find? fun channel => space.channelNames.get channel == socket

/-- An output socket of a node, given the lowering of its inputs and of the
groups it may stand for. -/
def nodeOutput (node : Node α (Fin n)) (socket : String) (inGroup : Bool)
    (input : String → m (Expr α)) (group : Fin n → m (Expr α)) : m (Expr α) := do
  let kind := node.kind.name
  let refuse (refusal? : Option Refusal) : m (Expr α) :=
    throw (.unsupportedNode kind node.id refusal?)
  let noSocket : m (Expr α) := throw (.unsupportedSocket kind node.id socket)
  if !node.kind.isDynamic && !node.kind.outputs.contains socket then noSocket
  else match node.body with
  | .rgb color => return .constColor color.toVec3
  | .value value => return .constScalar value
  | .attribute name source? =>
    let source := source?.getD "GEOMETRY"
    if source ≠ "GEOMETRY" then refuse (some (.attributeType source))
    else if socket = "Fac" then return .attributeScalar name .fac
    else if socket = "Alpha" then return .attributeScalar name .alpha
    else return .attributeColor name
  | .vertexColor layer =>
    if socket = "Alpha" then return .attributeScalar layer .alpha
    else return .attributeColor layer
  | .geometry =>
    if socket = "Position" then return .geometry .position
    else if socket = "Normal" then return .geometry .normal
    else noSocket
  | .math operation k =>
    return .math operation k (← input "A") (← input "B") (← input "C")
  | .vectorMath operation =>
    if (Named.find? VectorMeasure operation).isSome then
      if socket ≠ "Value" then noSocket
      else return .vectorMeasure operation (← input "A") (← input "B")
    else if socket ≠ "Vector" then noSocket
    else
      return .vectorMath operation (← input "A") (← input "B") (← input "C") (← input "Scale")
  | .mixRgb blend k =>
    return .mix blend k (← input "Fac") (← input "Color1") (← input "Color2")
  | .mix dataType blend k =>
    if dataType = "RGBA" then
      return .mix blend k (← input "Factor") (← input "A_Color") (← input "B_Color")
    else if dataType = "FLOAT" then
      return .mix "MIX" false (← input "Factor") (← input "A_Float") (← input "B_Float")
    else refuse (some (.dataType dataType))
  | .rgbToBw => return .grayscale (← input "Color")
  | .invert => return .invert (← input "Fac") (← input "Color")
  | .clamp mode =>
    if mode ≠ "MINMAX" then refuse (some (.clampType mode))
    else return .clamp mode (← input "Value") (← input "Min") (← input "Max")
  | .gamma => return .gamma (← input "Color") (← input "Gamma")
  | .brightContrast =>
    return .brightContrast (← input "Color") (← input "Bright") (← input "Contrast")
  | .separate space =>
    match separateChannel? space socket with
    | some channel =>
      return .separate space channel (← input (space.tripleInput (α := α)).name)
    | none => noSocket
  | .combine space =>
    let names := space.channelNames
    return .combine space (← input names.x) (← input names.y) (← input names.z)
  | .colorRamp colorMode interpolation stops =>
    match rampRefusal? colorMode interpolation stops with
    | some refusal => refuse (some refusal)
    | none =>
      return .colorRamp (if socket = "Alpha" then .alpha else .color) interpolation
        (sortStops stops) (← input "Fac")
  | .mapRange interpolation k =>
    return .mapRange interpolation k (← input "Value") (← input "FromMin") (← input "FromMax")
      (← input "ToMin") (← input "ToMax") (← input "Steps")
  | .hueSaturation =>
    return .hueSaturation (← input "Hue") (← input "Saturation") (← input "Value")
      (← input "Fac") (← input "Color")
  | .group tree => group tree
  | .groupInput => if inGroup then return .groupInput socket else refuse (some .outsideOfGroup)
  | .reroute => input "Input"
  | .groupOutput _ | .bakeOutput => refuse none
  | .foreign hostType => throw (.unsupportedNode hostType node.id none)

/-- An output of a group instance: the group's own expression for it, with the
boundary inputs bound to the inputs of the instance. -/
def groupOutput (effects : Effects α m) (tree : Graph α (Fin n)) (node : Node α (Fin n))
    (socket : String) (template : Node α (Fin n) → m (Expr α)) (bind : String → m (Expr α)) :
    m (Expr α) :=
  match tree.activeOutput? with
  | none => throw (.unsupportedNode node.kind.name node.id (some (.noActiveOutput tree.name)))
  | some active => do
    effects.enter ⟨tree.name, node.id, socket⟩
    return .group tree.name (← (← template active).substituteM bind)

omit [Arithmetic α] in
def missingNode (graph : Graph α (Fin n)) (id : String) : LowerError :=
  .unsupportedNode "missing" id (some (.noSuchNode graph.name))

/-- The output socket `ref` at a place of the family, below the nodes `seen`.
`inGroup` holds while a template is lowered. -/
def output (effects : Effects α m) (family : Family α n) (seen : List String) (site : Site n)
    (inGroup : Bool) (ref : Endpoint) : m (Expr α) :=
  let graph := family.graph site
  match h : graph.findNode? ref.node with
  | none => throw (missingNode graph ref.node)
  | some node =>
    let key := graph.nodeKey node.id
    if fresh : key ∈ seen then throw (.cycle graph.name node.id)
    else
      have := family.unseen_lt (family.nodeKey_mem_keys site h) fresh
      let below (place : Site n) (within : Bool) (source : Endpoint) : m (Expr α) :=
        output effects family (key :: seen) place within source
      let bind := input graph (below site inGroup) node
      effects.remember s!"{key}/{ref.socket}" <|
        nodeOutput node ref.socket inGroup bind fun tree =>
          groupOutput effects (family.groups.get tree) node ref.socket
            (fun active =>
              input (family.groups.get tree) (below (.group tree) true) active ref.socket) bind
termination_by family.unseen seen
decreasing_by exact this

variable (effects : Effects α m) (family : Family α n)

/-- An output socket of the root graph. -/
def rootOutput (ref : Endpoint) : m (Expr α) := output effects family [] .root false ref

/-- An input socket of a node of the root graph. -/
def rootInput (node : Node α (Fin n)) (socket : String) : m (Expr α) :=
  input family.root (rootOutput effects family) node socket

/-- An input socket of the root graph, its node found by id. -/
def rootInputAt (ref : Endpoint) : m (Expr α) :=
  match family.root.findNode? ref.node with
  | some node => rootInput effects family node ref.socket
  | none => throw (missingNode family.root ref.node)

end Lowering

namespace Family

variable {α : Type} {n : Nat} [Arithmetic α] (family : Family α n)

def lowerOutput (ref : Endpoint) : Traced Entry LowerError (Expr α) :=
  Lowering.rootOutput (Lowering.plain α) family ref

def lowerInput (node : Node α (Fin n)) (socket : String) : Traced Entry LowerError (Expr α) :=
  Lowering.rootInput (Lowering.plain α) family node socket

def lowerInputAt (ref : Endpoint) : Traced Entry LowerError (Expr α) :=
  Lowering.rootInputAt (Lowering.plain α) family ref

end Family
end ShadeGraph
