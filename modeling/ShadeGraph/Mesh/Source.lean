import ShadeGraph.Mesh.Context
import ShadeGraph.Traced

/-!
# Mesh data

Attribute data as it comes from a mesh, one value for every face corner or one
for every vertex, and the context that shading reads, with every value carried
to the corners.
-/

namespace ShadeGraph

inductive Domain
  | corner | point
deriving DecidableEq

inductive ColorSpace
  | linear | srgb
deriving DecidableEq

inductive LayerFormat
  | scalar | rgb | rgba
deriving DecidableEq

/-- Flat data: as many values for an item as its format is wide. -/
structure Buffer (α : Type) where
  domain : Domain
  data : Array α

structure LayerSource (α : Type) where
  name : String
  format : LayerFormat
  colorSpace : ColorSpace
  buffer : Buffer α

structure MeshSource (α : Type) where
  elementCount : α
  layers : List (LayerSource α)
  /-- The vertex of every corner. -/
  cornerVertices? : Option (Array α)
  position? : Option (Buffer α)
  normal? : Option (Buffer α)

inductive ContextError (α : Type)
  | elementCount (count : α)
  | cornerTable (entries : Nat) (expected : α)
  | duplicateLayer (name : String)
  | partialItem (label : String) (values width : Nat)
  | cornerCount (label : String) (items : Nat) (expected : α)
  | noCornerTable (label : String)
  | noSuchVertex (corner : Nat) (vertex : α) (label : String) (points : Nat)
deriving DecidableEq

def ContextError.message {α : Type} (text : α → String) (e : ContextError α) : String :=
  "Element Data Error: " ++
    match e with
    | elementCount count =>
      let got := text count
      s!"element count must be a non-negative integer, got {got}"
    | cornerTable entries expected =>
      let want := text expected
      s!"corner vertex index table has {entries} entries, expected {want}"
    | duplicateLayer name => s!"duplicate attribute layer '{name}'"
    | partialItem label values width =>
      s!"'{label}' has {values} values, not a multiple of {width}"
    | cornerCount label items expected =>
      let want := text expected
      s!"'{label}' has {items} corner values, expected {want}"
    | noCornerTable label =>
      s!"'{label}' is point-domain but no corner vertex indices were given"
    | noSuchVertex corner vertex label points =>
      let got := text vertex
      s!"corner {corner} references vertex {got}, but '{label}' has {points} points"

/-- The corners of a mesh. -/
structure Corners (α : Type) (n : Nat) where
  /-- The number of corners, as the mesh gave it. -/
  count : α
  /-- The vertex of every corner. -/
  vertices? : Option (Vector α n)

/-- A scalar layer was declared sRGB, which means nothing for it. -/
structure IgnoredColorSpace where
  layer : String
deriving DecidableEq

def IgnoredColorSpace.message (warning : IgnoredColorSpace) : String :=
  s!"[ElementContext] Ignoring sRGB color space on scalar layer '{warning.layer}'"

namespace Buffer

variable {α : Type}

theorem index_lt {size width item k : Nat} (hi : item < size / width) (hk : k < width) :
    item * width + k < size := by
  have fits := Nat.mul_le_mul_right width (Nat.succ_le_of_lt hi)
  have whole := Nat.div_mul_le_self size width
  have next := Nat.succ_mul item width
  omega

/-- The whole items of the data. -/
def items (buffer : Buffer α) (width : Nat) : Array (Vector α width) :=
  Array.ofFn fun i : Fin (buffer.data.size / width) => Vector.ofFn fun k =>
    have := index_lt i.isLt k.isLt
    buffer.data[i.val * width + k.val]

/-- One item for every corner. -/
def toCorners [Arithmetic α] {n : Nat} (buffer : Buffer α) (label : String) (width : Nat)
    (corners : Corners α n) : Except (ContextError α) (Vector (Vector α width) n) :=
  let items := buffer.items width
  if buffer.data.size % width ≠ 0 then
    .error (.partialItem label buffer.data.size width)
  else
    match buffer.domain, corners.vertices? with
    | .corner, _ =>
      if h : items.size = n then .ok ⟨items, h⟩
      else .error (.cornerCount label items.size corners.count)
    | .point, none => .error (.noCornerTable label)
    | .point, some vertices =>
      Vector.ofFnM fun corner =>
        let vertex := vertices.get corner
        match (Arithmetic.natural? vertex).bind (items[·]?) with
        | some item => .ok item
        | none => .error (.noSuchVertex corner vertex label items.size)

end Buffer

variable {α : Type} [Arithmetic α] {n : Nat}

def Buffer.toVectors (buffer : Buffer α) (label : String) (corners : Corners α n) :
    Except (ContextError α) (Vector (Vec3 α) n) :=
  return (← buffer.toCorners label 3 corners).map fun item => ⟨item[0], item[1], item[2]⟩

variable [Elementary α]

/-- Colours are decoded to linear light; a colour without alpha counts as solid. -/
def LayerSource.toLayer (source : LayerSource α) (corners : Corners α n) :
    Traced IgnoredColorSpace (ContextError α) (Layer α n) := do
  let decode (v : α) : α := if source.colorSpace = .srgb then srgbToLinear v else v
  match source.format with
  | .scalar =>
    if source.colorSpace = .srgb then Traced.log ⟨source.name⟩
    let items ← Traced.lift (source.buffer.toCorners source.name 1 corners)
    return .scalar (items.map fun item => item[0])
  | .rgb =>
    let items ← Traced.lift (source.buffer.toVectors source.name corners)
    return .color (items.map (Vec3.map decode)) (Vector.replicate n 1)
  | .rgba =>
    let items ← Traced.lift (source.buffer.toCorners source.name 4 corners)
    return .color (items.map fun item => ⟨decode item[0], decode item[1], decode item[2]⟩)
      (items.map fun item => item[3])

def addLayer (corners : Corners α n) (layers : List (String × Layer α n))
    (source : LayerSource α) :
    Traced IgnoredColorSpace (ContextError α) (List (String × Layer α n)) := do
  if (layers.lookup source.name).isSome then throw (.duplicateLayer source.name)
  return layers ++ [(source.name, ← source.toLayer corners)]

/-- The context of a mesh, of as many elements as the mesh has corners. -/
def MeshSource.toContext (source : MeshSource α) :
    Traced IgnoredColorSpace (ContextError α) ((n : Nat) × Context α n) :=
  match Arithmetic.natural? source.elementCount with
  | none => throw (.elementCount source.elementCount)
  | some n => do
    let vertices? : Option (Vector α n) ←
      match source.cornerVertices? with
      | none => pure none
      | some table =>
        if h : table.size = n then pure (some ⟨table, h⟩)
        else throw (.cornerTable table.size source.elementCount)
    let corners : Corners α n := ⟨source.elementCount, vertices?⟩
    let layers ← source.layers.foldlM (addLayer corners) []
    let geometry (label : String) (buffer? : Option (Buffer α)) :
        Traced IgnoredColorSpace (ContextError α) (Option (Vector (Vec3 α) n)) :=
      Traced.lift (buffer?.mapM fun buffer => buffer.toVectors label corners)
    let position? ← geometry "position" source.position?
    let normal? ← geometry "normal" source.normal?
    return ⟨n, ⟨layers, position?, normal?⟩⟩

end ShadeGraph
