import ShadeGraph.Mesh.Interleaved
import ShadeGraph.Mesh.Source

/-!
# Mesh data in flat buffers

The context of a mesh as it lies in memory: every layer in buffers over the
corners, filled and read by strides. A read past the end of a buffer gives
`beyond`.
-/

namespace ShadeGraph

open Interleaved (perElement ofColors colorAt scalarAt)

inductive FlatLayer (α : Type)
  | color (rgb alpha : Array α)
  | scalar (values : Array α)

structure FlatContext (α : Type) where
  elementCount : Nat
  layers : List (String × FlatLayer α)
  position? : Option (Array α)
  normal? : Option (Array α)

variable {α : Type} (beyond : α)

namespace FlatLayer

def colors (n : Nat) : FlatLayer α → Array α
  | color rgb _ => rgb
  | scalar values => (Array.range n).flatMap fun i =>
    let v := scalarAt beyond values i
    #[v, v, v]

def fac [Arithmetic α] (n : Nat) : FlatLayer α → Array α
  | color rgb _ => perElement n fun i => (colorAt beyond rgb i).average
  | scalar values => values

def alpha : FlatLayer α → Array α
  | color _ alpha => alpha
  | scalar values => values

end FlatLayer

namespace FlatContext

variable (ctx : FlatContext α)

def layerNames : List String := ctx.layers.map Prod.fst

def layer? (name : String) : Option (FlatLayer α) := ctx.layers.lookup name

def color? (name : String) : Option (Array α) :=
  (ctx.layer? name).map (FlatLayer.colors beyond ctx.elementCount)

def fac? [Arithmetic α] (name : String) : Option (Array α) :=
  (ctx.layer? name).map (FlatLayer.fac beyond ctx.elementCount)

def alpha? (name : String) : Option (Array α) := (ctx.layer? name).map FlatLayer.alpha

end FlatContext

/-- How many corners there are, as the mesh says and as a count, and the vertex
of each. -/
structure CornerTable (α : Type) where
  count : α
  elements : Nat
  vertices? : Option (Array α)

def LayerFormat.width : LayerFormat → Nat
  | .scalar => 1
  | .rgb => 3
  | .rgba => 4

variable [Arithmetic α]

/-- The item of the vertex of a corner. -/
def Buffer.pick (buffer : Buffer α) (label : String) (width : Nat) (vertices : Array α)
    (corner : Nat) : Except (ContextError α) (Array α) :=
  let points := buffer.data.size / width
  let vertex := scalarAt beyond vertices corner
  match Arithmetic.natural? vertex with
  | some point =>
    if point < points then
      .ok (Array.ofFn fun k : Fin width => scalarAt beyond buffer.data (point * width + k.val))
    else .error (.noSuchVertex corner vertex label points)
  | none => .error (.noSuchVertex corner vertex label points)

/-- One item for every corner, item after item. -/
def Buffer.spread (buffer : Buffer α) (label : String) (width : Nat) (corners : CornerTable α) :
    Except (ContextError α) (Array α) :=
  if buffer.data.size % width ≠ 0 then
    .error (.partialItem label buffer.data.size width)
  else
    match buffer.domain, corners.vertices? with
    | .corner, _ =>
      if buffer.data.size = corners.elements * width then .ok buffer.data
      else .error (.cornerCount label (buffer.data.size / width) corners.count)
    | .point, none => .error (.noCornerTable label)
    | .point, some vertices =>
      return (← (Array.range corners.elements).mapM
        (buffer.pick beyond label width vertices)).flatten

variable [Elementary α]

def LayerSource.decode (source : LayerSource α) (v : α) : α :=
  if source.colorSpace = .srgb then srgbToLinear v else v

/-- The layer of raw values at the corners. -/
def LayerSource.resolve (source : LayerSource α) (n : Nat) (raw : Array α) : FlatLayer α :=
  let width := source.format.width
  let channel (i k : Nat) : α := source.decode (scalarAt beyond raw (i * width + k))
  match source.format with
  | .scalar => .scalar raw
  | .rgb | .rgba =>
    .color (ofColors (perElement n fun i => ⟨channel i 0, channel i 1, channel i 2⟩))
      (perElement n fun i => if width = 4 then scalarAt beyond raw (i * 4 + 3) else 1)

def LayerSource.toFlat (source : LayerSource α) (corners : CornerTable α) :
    Traced IgnoredColorSpace (ContextError α) (FlatLayer α) := do
  if source.format = .scalar ∧ source.colorSpace = .srgb then Traced.log ⟨source.name⟩
  let raw ← Traced.lift
    (source.buffer.spread beyond source.name source.format.width corners)
  return source.resolve beyond corners.elements raw

def addFlatLayer (corners : CornerTable α) (layers : List (String × FlatLayer α))
    (source : LayerSource α) :
    Traced IgnoredColorSpace (ContextError α) (List (String × FlatLayer α)) := do
  if (layers.lookup source.name).isSome then throw (.duplicateLayer source.name)
  return layers ++ [(source.name, ← source.toFlat beyond corners)]

def MeshSource.corners (source : MeshSource α) (n : Nat) : CornerTable α :=
  ⟨source.elementCount, n, source.cornerVertices?⟩

def MeshSource.expand (source : MeshSource α) (corners : CornerTable α) :
    Traced IgnoredColorSpace (ContextError α) (FlatContext α) := do
  let layers ← source.layers.foldlM (addFlatLayer beyond corners) []
  let geometry (label : String) (buffer? : Option (Buffer α)) :
      Traced IgnoredColorSpace (ContextError α) (Option (Array α)) :=
    Traced.lift (buffer?.mapM fun buffer => buffer.spread beyond label 3 corners)
  let position? ← geometry "position" source.position?
  let normal? ← geometry "normal" source.normal?
  return ⟨corners.elements, layers, position?, normal?⟩

def MeshSource.toFlat (source : MeshSource α) :
    Traced IgnoredColorSpace (ContextError α) (FlatContext α) :=
  match Arithmetic.natural? source.elementCount with
  | none => throw (.elementCount source.elementCount)
  | some n => do
    if let some table := source.cornerVertices? then
      if table.size ≠ n then throw (.cornerTable table.size source.elementCount)
    source.expand beyond (source.corners n)

end ShadeGraph
