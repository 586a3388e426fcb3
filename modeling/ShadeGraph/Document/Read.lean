import ShadeGraph.Document.Basic
import ShadeGraph.Document.Checked
import ShadeGraph.Document.Issue
import ShadeGraph.Operation.MapRange
import ShadeGraph.Operation.Vector

/-!
# Reading a document

The structure of a document, checked in one pass that reports every fault:
fields in the order of the record they make, items in the order of their list.
Fields that no one asks for are dropped. A node of an unknown kind is kept as a
foreign one.
-/

namespace ShadeGraph.Document

variable {α β : Type}

abbrev Reader (α β : Type) := Data α → Checked Issue β

/-- What a field may hold, `none` where the record has no such field. -/
abbrev FieldReader (α β : Type) := Option (Data α) → Checked Issue β

def refuse (problem : Problem) : Checked Issue β := .refuse ⟨[], problem⟩ []

def under (key : String) (checked : Checked Issue β) : Checked Issue β :=
  checked.mapErrors (·.under key)

def required (read : Reader α β) : FieldReader α β
  | some data => read data
  | none => refuse .required

/-- Of a union, absence is one more thing that fits no variant. -/
def variant (read : Reader α β) : FieldReader α β
  | some data => read data
  | none => refuse .noVariant

def optional (read : Reader α β) : FieldReader α (Option β)
  | some data => some <$> read data
  | none => pure none

def orElse (default : β) (read : Reader α β) : FieldReader α β
  | some data => read data
  | none => pure default

def field (fields : List (String × Data α)) (key : String) (read : FieldReader α β) :
    Checked Issue β :=
  under key (read (fields.lookup key))

variable [Arithmetic α]

def wrongType (expected : DataType) (data : Data α) : Checked Issue β :=
  refuse (.wrongType (.ofType expected) data.type)

def number? : Data α → Option α
  | .number value => if value == value then some value else none
  | _ => none

def number (data : Data α) : Checked Issue α :=
  match number? data with
  | some value => pure value
  | none => wrongType .number data

def text : Reader α String
  | .text value => pure value
  | data => wrongType .string data

def nonemptyText : Reader α String
  | .text value => if value = "" then refuse .emptyText else pure value
  | data => wrongType .string data

def boolean : Reader α Bool
  | .bool value => pure value
  | data => wrongType .boolean data

def oneOf (options : List String) : Reader α String
  | .text value => if value ∈ options then pure value else refuse (.unknownOption options value)
  | data => refuse (.wrongType (.oneOf options) data.type)

def record (read : List (String × Data α) → Checked Issue β) : Reader α β
  | .record fields => read fields
  | data => wrongType .object data

def items (read : Reader α β) (items : List (Data α)) : Checked Issue (List β) :=
  Checked.each (fun earlier item => under (toString earlier.length) (read item)) [] items

def list (read : Reader α β) : Reader α (List β)
  | .list values => items read values
  | data => wrongType .array data

def nonemptyList (read : Reader α β) : Reader α (List β)
  | .list values => if values.isEmpty then refuse .emptyList else items read values
  | data => wrongType .array data

/-- How data fits one variant of a union. A tuple with a valid beginning and
too many items is told apart from data that does not fit at all. -/
inductive Fit (β : Type)
  | exact (value : β)
  | tooLong (limit : Nat)
  | misfit

namespace Fit

variable {γ : Type}

def map (f : β → γ) : Fit β → Fit γ
  | exact value => exact (f value)
  | tooLong limit => tooLong limit
  | misfit => misfit

def strict : Fit β → Fit β
  | tooLong _ => misfit
  | fit => fit

def value? : Fit β → Option β
  | exact value => some value
  | _ => none

def limit? : Fit β → Option Nat
  | tooLong limit => some limit
  | _ => none

/-- The first variant that fits, or else the first that is too long. -/
def first (fits : List (Fit β)) : Checked Issue β :=
  match fits.findSome? value?, fits.findSome? limit? with
  | some value, _ => pure value
  | none, some limit => refuse (.tooLong limit)
  | none, none => refuse .noVariant

end Fit

def scalarFit (data : Data α) : Fit α :=
  match number? data with
  | some value => .exact value
  | none => .misfit

def tripleFit : Data α → Fit (Vec3 α)
  | .list (x :: y :: z :: rest) =>
    match number? x, number? y, number? z with
    | some x, some y, some z => if rest.isEmpty then .exact ⟨x, y, z⟩ else .tooLong 3
    | _, _, _ => .misfit
  | _ => .misfit

def quadrupleFit : Data α → Fit (Rgba α)
  | .list (x :: y :: z :: w :: rest) =>
    match number? x, number? y, number? z, number? w with
    | some x, some y, some z, some w =>
      if rest.isEmpty then .exact ⟨⟨x, y, z⟩, w⟩ else .tooLong 4
    | _, _, _, _ => .misfit
  | _ => .misfit

def color (data : Data α) : Checked Issue (ColorValue α) :=
  Fit.first [(tripleFit data).map .rgb, (quadrupleFit data).map .rgba]

def socketValue (data : Data α) : Checked Issue (SocketValue α) :=
  Fit.first [(scalarFit data).map .scalar, (tripleFit data).map (.color ∘ .rgb),
    (quadrupleFit data).map (.color ∘ .rgba)]

/-- A stop without alpha is solid. -/
def stopColor (data : Data α) : Checked Issue (Rgba α) :=
  Fit.first [quadrupleFit data, ((tripleFit data).map fun rgb => ⟨rgb, 1⟩).strict]

def stop : Reader α (RampStop α) :=
  record fun fields =>
    RampStop.mk <$> field fields "position" (required number)
      <*> field fields "color" (variant stopColor)

def inputs : Reader α (List (String × SocketValue α)) :=
  record fun fields =>
    Checked.each (fun _ named => Prod.mk named.1 <$> under named.1 (socketValue named.2)) [] fields

def attributeSources : List String := ["GEOMETRY", "OBJECT", "INSTANCER", "VIEW_LAYER"]

def mixTypes : List String := ["RGBA", "FLOAT", "VECTOR"]

def clampTypes : List String := ["MINMAX", "RANGE"]

def rampColorModes : List String := ["RGB", "HSV", "HSL"]

def rampInterpolations : List String := ["LINEAR", "CONSTANT", "EASE", "CARDINAL", "B_SPLINE"]

def vectorOperations : List String := Named.names VectorOp ++ Named.names VectorMeasure

def body (fields : List (String × Data α)) : Kind → Checked Issue (NodeBody α String)
  | .rgb => .rgb <$> field fields "color" (variant color)
  | .value => .value <$> field fields "value" (required number)
  | .attribute => .attribute <$> field fields "attributeName" (required text)
      <*> field fields "attributeType" (optional (oneOf attributeSources))
  | .vertexColor => .vertexColor <$> field fields "layerName" (required text)
  | .geometry => pure .geometry
  | .math => .math <$> field fields "operation" (required (oneOf (Named.names MathOp)))
      <*> field fields "useClamp" (orElse false boolean)
  | .vectorMath => .vectorMath <$> field fields "operation" (required (oneOf vectorOperations))
  | .mixRgb => .mixRgb <$> field fields "blendType" (orElse "MIX" (oneOf (Named.names BlendMode)))
      <*> field fields "useClamp" (orElse false boolean)
  | .mix => .mix <$> field fields "dataType" (required (oneOf mixTypes))
      <*> field fields "blendType" (orElse "MIX" (oneOf (Named.names BlendMode)))
      <*> field fields "clampResult" (orElse false boolean)
  | .rgbToBw => pure .rgbToBw
  | .invert => pure .invert
  | .clamp => .clamp <$> field fields "clampType" (orElse "MINMAX" (oneOf clampTypes))
  | .gamma => pure .gamma
  | .brightContrast => pure .brightContrast
  | .separate space => pure (.separate space)
  | .combine space => pure (.combine space)
  | .colorRamp => .colorRamp <$> field fields "colorMode" (orElse "RGB" (oneOf rampColorModes))
      <*> field fields "interpolation" (orElse "LINEAR" (oneOf rampInterpolations))
      <*> field fields "stops" (required (nonemptyList stop))
  | .mapRange => .mapRange
      <$> field fields "interpolationType" (orElse "LINEAR" (oneOf (Named.names MapRangeMode)))
      <*> field fields "clamp" (orElse true boolean)
  | .hueSaturation => pure .hueSaturation
  | .group => .group <$> field fields "group" (required text)
  | .groupInput => pure .groupInput
  | .groupOutput => .groupOutput <$> field fields "isActiveOutput" (optional boolean)
  | .reroute => pure .reroute
  | .bakeOutput => pure .bakeOutput
  | .foreign => .foreign <$> field fields "hostType" (required text)

/-- The kind decides what else is read, so without one nothing else is. -/
def node : Reader α (Node α String) :=
  record fun fields =>
    match fields.lookup "kind" with
    | some (.text kind) =>
      Node.mk <$> field fields "id" (required nonemptyText)
        <*> field fields "label" (optional text)
        <*> field fields "inputs" (optional inputs)
        <*> match Named.find? Kind kind with
          | some known => body fields known
          | none => pure (.foreign kind)
    | _ => under "kind" (refuse .unknownKind)

def endpoint : Reader α Endpoint :=
  record fun fields =>
    Endpoint.mk <$> field fields "node" (required text) <*> field fields "socket" (required text)

def link : Reader α Link :=
  record fun fields =>
    Link.mk <$> field fields "from" (required endpoint) <*> field fields "to" (required endpoint)

def graph : Reader α (Graph α String) :=
  record fun fields =>
    Graph.mk <$> field fields "id" (required nonemptyText)
      <*> field fields "name" (required text)
      <*> field fields "nodes" (required (list node))
      <*> field fields "links" (orElse [] (list link))

def material : Reader α (Material α String) :=
  record fun fields =>
    Material.mk <$> field fields "name" (required text) <*> field fields "graph" (required graph)

def version : FieldReader α Unit
  | some (.number value) => if value == 1 then pure () else refuse .unknownVersion
  | _ => refuse .unknownVersion

def read : FieldReader α (Document α) :=
  required <| record fun fields =>
    (fun _ => Document.mk) <$> field fields "version" version
      <*> field fields "materials" (required (list material))
      <*> field fields "groups" (orElse [] (list graph))

end ShadeGraph.Document
