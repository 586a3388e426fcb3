import ShadeGraph.Proofs.Lowering.Coupling

/-!
# What a node stands for

The forms of the output sockets, kind by kind: an expression over the inputs of
the node itself, a boundary input of the group around it, or an output of a
group. Lowering a node is its form with the inputs filled in, so whatever is
said of lowering is said of this table and of filling in.
-/

namespace ShadeGraph

variable {α : Type} {n : Nat}

/-- What an output socket of a node is made of. -/
inductive Form (α : Type) (n : Nat)
  /-- An expression in which a boundary input stands for the node's input of that name. -/
  | built (shape : Expr α)
  | boundary
  | inside (tree : Fin n)

namespace Node

variable [Arithmetic α]

def form (node : Node α (Fin n)) (socket : String) : Except LowerError (Form α n) :=
  let refused (refusal? : Option Refusal) : Except LowerError (Form α n) :=
    .error (.unsupportedNode node.kind.name node.id refusal?)
  let noSocket : Except LowerError (Form α n) :=
    .error (.unsupportedSocket node.kind.name node.id socket)
  let built (shape : Expr α) : Except LowerError (Form α n) := .ok (.built shape)
  let given (name : String) : Expr α := .groupInput name
  if !node.kind.isDynamic && !node.kind.outputs.contains socket then noSocket
  else match node.body with
  | .rgb color => built (.constColor color.toVec3)
  | .value value => built (.constScalar value)
  | .attribute name source? =>
    let source := source?.getD "GEOMETRY"
    if source ≠ "GEOMETRY" then refused (some (.attributeType source))
    else if socket = "Fac" then built (.attributeScalar name .fac)
    else if socket = "Alpha" then built (.attributeScalar name .alpha)
    else built (.attributeColor name)
  | .vertexColor layer =>
    built (if socket = "Alpha" then .attributeScalar layer .alpha else .attributeColor layer)
  | .geometry =>
    if socket = "Position" then built (.geometry .position)
    else if socket = "Normal" then built (.geometry .normal)
    else noSocket
  | .math operation k => built (.math operation k (given "A") (given "B") (given "C"))
  | .vectorMath operation =>
    if (Named.find? VectorMeasure operation).isSome then
      if socket = "Value" then built (.vectorMeasure operation (given "A") (given "B"))
      else noSocket
    else if socket = "Vector" then
      built (.vectorMath operation (given "A") (given "B") (given "C") (given "Scale"))
    else noSocket
  | .mixRgb blend k => built (.mix blend k (given "Fac") (given "Color1") (given "Color2"))
  | .mix dataType blend k =>
    if dataType = "RGBA" then
      built (.mix blend k (given "Factor") (given "A_Color") (given "B_Color"))
    else if dataType = "FLOAT" then
      built (.mix "MIX" false (given "Factor") (given "A_Float") (given "B_Float"))
    else refused (some (.dataType dataType))
  | .rgbToBw => built (.grayscale (given "Color"))
  | .invert => built (.invert (given "Fac") (given "Color"))
  | .clamp mode =>
    if mode = "MINMAX" then built (.clamp mode (given "Value") (given "Min") (given "Max"))
    else refused (some (.clampType mode))
  | .gamma => built (.gamma (given "Color") (given "Gamma"))
  | .brightContrast =>
    built (.brightContrast (given "Color") (given "Bright") (given "Contrast"))
  | .separate space =>
    match Lowering.separateChannel? space socket with
    | some channel => built (.separate space channel (given (space.tripleInput (α := α)).name))
    | none => noSocket
  | .combine space =>
    let names := space.channelNames
    built (.combine space (given names.x) (given names.y) (given names.z))
  | .colorRamp colorMode interpolation stops =>
    match Lowering.rampRefusal? colorMode interpolation stops with
    | some refusal => refused (some refusal)
    | none => built (.colorRamp (if socket = "Alpha" then .alpha else .color) interpolation
        (Lowering.sortStops stops) (given "Fac"))
  | .mapRange interpolation k =>
    built (.mapRange interpolation k (given "Value") (given "FromMin") (given "FromMax")
      (given "ToMin") (given "ToMax") (given "Steps"))
  | .hueSaturation =>
    built (.hueSaturation (given "Hue") (given "Saturation") (given "Value") (given "Fac")
      (given "Color"))
  | .group tree => .ok (.inside tree)
  | .groupInput => .ok .boundary
  | .reroute => built (given "Input")
  | .groupOutput _ | .bakeOutput => refused none
  | .foreign hostType => .error (.unsupportedNode hostType node.id none)

end Node

namespace Lowering

variable {m : Type → Type} [Monad m] [MonadExceptOf LowerError m] [Arithmetic α]

/-- Lowering a node is its form with the inputs filled in. -/
theorem nodeOutput_eq (node : Node α (Fin n)) (socket : String) (inGroup : Bool)
    (input : String → m (Expr α)) (group : Fin n → m (Expr α)) :
    nodeOutput node socket inGroup input group =
      match node.form socket with
      | .error e => throw e
      | .ok (.built shape) => shape.substituteM input
      | .ok .boundary =>
        if inGroup then pure (.groupInput socket)
        else throw (.unsupportedNode node.kind.name node.id (some .outsideOfGroup))
      | .ok (.inside tree) => group tree := by
  obtain ⟨id, label?, inputs?, body⟩ := node
  unfold nodeOutput Node.form
  split
  · rfl
  cases body with
  | «attribute» name source? =>
    dsimp only
    split
    · rfl
    split
    · rfl
    split <;> rfl
  | vertexColor layer => dsimp only; split <;> rfl
  | geometry =>
    dsimp only
    split
    · rfl
    split <;> rfl
  | vectorMath operation =>
    dsimp only
    split
    · by_cases value : socket = "Value"
      · rw [if_neg (not_not_intro value), if_pos value]
        rfl
      · rw [if_pos value, if_neg value]
    · by_cases vector : socket = "Vector"
      · rw [if_neg (not_not_intro vector), if_pos vector]
        rfl
      · rw [if_pos vector, if_neg vector]
  | mix dataType blend k =>
    dsimp only
    split
    · rfl
    split <;> rfl
  | clamp mode =>
    dsimp only
    by_cases range : mode = "MINMAX"
    · rw [if_neg (not_not_intro range), if_pos range]
      rfl
    · rw [if_pos range, if_neg range]
  | separate space => dsimp only; cases separateChannel? space socket <;> rfl
  | colorRamp colorMode interpolation stops =>
    dsimp only
    cases rampRefusal? colorMode interpolation stops <;> rfl
  | _ => rfl

end Lowering
end ShadeGraph
