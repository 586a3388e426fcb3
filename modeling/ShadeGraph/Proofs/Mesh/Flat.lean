import ShadeGraph.Mesh.Flat
import ShadeGraph.Proofs.Mesh.Gather
import ShadeGraph.Proofs.Outcome

/-!
# The context in flat buffers

What a mesh offers in flat buffers is what it offers value by value, laid out
element after element: the construction succeeds with it, warns and fails alike,
and colours and factors are read as what is laid out.
-/

namespace ShadeGraph

open Interleaved

variable {α : Type} {n : Nat}

def Layer.flatten : Layer α n → FlatLayer α
  | color rgb alpha => .color (ofColors rgb.toArray) alpha.toArray
  | scalar values => .scalar values.toArray

def flattenAll (layers : List (String × Layer α n)) : List (String × FlatLayer α) :=
  layers.map fun entry => (entry.1, entry.2.flatten)

theorem lookup_flattenAll (layers : List (String × Layer α n)) (name : String) :
    (flattenAll layers).lookup name = (layers.lookup name).map Layer.flatten := by
  induction layers with
  | nil => rfl
  | cons entry rest ih =>
    obtain ⟨key, layer⟩ := entry
    by_cases here : name == key
    · simp [flattenAll, List.lookup_cons, here]
    · simpa [flattenAll, List.lookup_cons, here] using ih

def Context.flatten (ctx : Context α n) : FlatContext α where
  elementCount := n
  layers := flattenAll ctx.layers
  position? := ctx.position?.map fun v => ofColors v.toArray
  normal? := ctx.normal?.map fun v => ofColors v.toArray

def Corners.flatten (corners : Corners α n) : CornerTable α :=
  ⟨corners.count, n, corners.vertices?.map Vector.toArray⟩

section

variable (beyond : α)

theorem FlatLayer.colors_flatten (layer : Layer α n) :
    layer.flatten.colors beyond n = ofColors layer.colors.toArray := by
  cases layer with
  | color rgb alpha => rfl
  | scalar values =>
    have spread : (perElement n (scalarAt beyond values.toArray)) = values.toArray :=
      perElement_eq fun i => scalarAt_toArray beyond values i
    show (Array.range n).flatMap _ = ofColors (values.map Vec3.grey).toArray
    rw [Vector.toArray_map, ← broadcast_eq, broadcast, ← spread, perElement, Array.flatMap_map]
    rw [← perElement, spread]

theorem FlatLayer.fac_flatten [Arithmetic α] (layer : Layer α n) :
    layer.flatten.fac beyond n = layer.fac.toArray := by
  cases layer with
  | color rgb alpha => exact perElement_map fun i => by rw [colorAt_toArray]
  | scalar values => rfl

namespace Context

variable (ctx : Context α n)

theorem layer?_flatten (name : String) :
    ctx.flatten.layer? name = (ctx.layer? name).map Layer.flatten :=
  lookup_flattenAll ctx.layers name

theorem color?_flatten (name : String) :
    ctx.flatten.color? beyond name = (ctx.color? name).map fun v => ofColors v.toArray := by
  rw [FlatContext.color?, layer?_flatten, color?, Option.map_map, Option.map_map]
  exact congrArg (Option.map · _) (funext fun layer => FlatLayer.colors_flatten beyond layer)

theorem fac?_flatten [Arithmetic α] (name : String) :
    ctx.flatten.fac? beyond name = (ctx.fac? name).map Vector.toArray := by
  rw [FlatContext.fac?, layer?_flatten, fac?, Option.map_map, Option.map_map]
  exact congrArg (Option.map · _) (funext fun layer => FlatLayer.fac_flatten beyond layer)

end Context
end

theorem mapM_range_parallel {ε β γ : Type} {f : Fin n → Except ε β} {g : Nat → Except ε γ}
    {r : β → γ} (same : ∀ i : Fin n, g i = (f i).map r) :
    Parallel (fun (v : Vector β n) xs => xs = (v.map r).toArray) (Vector.ofFnM f)
      ((Array.range n).mapM g) := by
  induction n with
  | zero =>
    have none : Array.range 0 = #[] := rfl
    rw [Vector.ofFnM_zero, none, Array.mapM_empty]
    show #[] = (Vector.map r #v[]).toArray
    simp
  | succ n ih =>
    have last : g n = (f (Fin.last n)).map r := same (Fin.last n)
    rw [Vector.ofFnM_succ, Array.range_succ, Array.mapM_append]
    refine (ih fun i => same i.castSucc).bind ?_
    rintro v _ rfl
    simp only [List.mapM_toArray, List.mapM_cons, last]
    cases f (Fin.last n) with
    | error e => exact rfl
    | ok b =>
      show _ = _
      simp

namespace Buffer

theorem getElem?_items (buffer : Buffer α) {width item : Nat}
    (h : item < buffer.data.size / width) :
    (buffer.items width)[item]? = some (Vector.ofFn fun k : Fin width =>
      have := index_lt h k.isLt
      buffer.data[item * width + k.val]) := by
  simp [items, h]

theorem ofFn_item (beyond : α) (buffer : Buffer α) {width item : Nat}
    (h : item < buffer.data.size / width) :
    (Array.ofFn fun k : Fin width => scalarAt beyond buffer.data (item * width + k.val)) =
      (Vector.ofFn fun k : Fin width =>
        have := index_lt h k.isLt
        buffer.data[item * width + k.val]).toArray := by
  apply Array.ext
  · simp
  · intro k inside _
    have inside : k < width := by simpa using inside
    have bound := index_lt h inside
    simp [scalarAt, bound]

/-- Whole items, laid out again one after another. -/
theorem flatMap_items (buffer : Buffer α) {width : Nat} (whole : width ∣ buffer.data.size) :
    (buffer.items width).flatMap Vector.toArray = buffer.data := by
  have sizes : (buffer.items width).size = buffer.data.size / width := by simp [items]
  have wide (item : Vector α width) : item.toArray.size = width := item.size_toArray
  have laidOut : ((buffer.items width).flatMap Vector.toArray).size =
      buffer.data.size / width * width := by
    rw [size_flatMap wide, sizes]
  refine ext_items laidOut (Nat.div_mul_cancel whole).symm fun i h place inside => ?_
  rw [getElem?_flatMap wide _ (sizes ▸ h) inside]
  have bound := index_lt h inside
  simp [items, inside, bound]

theorem spread_parallel [Arithmetic α] (beyond : α) (buffer : Buffer α) (label : String)
    {width : Nat} (pos : 0 < width) (corners : Corners α n) :
    Parallel (fun items flat => flat = items.toArray.flatMap Vector.toArray)
      (buffer.toCorners label width corners)
      (buffer.spread beyond label width corners.flatten) := by
  unfold toCorners spread
  have sizes : (buffer.items width).size = buffer.data.size / width := by simp [items]
  by_cases multiple : buffer.data.size % width = 0
  case neg =>
    rw [if_pos multiple, if_pos multiple]
    exact rfl
  case pos =>
    rw [if_neg (not_not_intro multiple), if_neg (not_not_intro multiple)]
    have whole : width ∣ buffer.data.size := Nat.dvd_of_mod_eq_zero multiple
    have counts : buffer.data.size / width = n ↔ buffer.data.size = n * width :=
      ⟨fun same => by rw [← same, Nat.div_mul_cancel whole],
        fun same => by rw [same, Nat.mul_div_cancel n pos]⟩
    cases domain : buffer.domain with
    | corner =>
      by_cases same : buffer.data.size / width = n
      · have sized : (buffer.items width).size = n := sizes.trans same
        have full : buffer.data.size = corners.flatten.elements * width := counts.1 same
        simp only [dif_pos sized, if_pos full]
        exact (buffer.flatMap_items whole).symm
      · have unsized : ¬ (buffer.items width).size = n := fun h => same (sizes.symm.trans h)
        have short : ¬ buffer.data.size = corners.flatten.elements * width :=
          fun h => same (counts.2 h)
        simp only [dif_neg unsized, if_neg short]
        rw [sizes]
        exact rfl
    | point =>
      cases table : corners.vertices? with
      | none =>
        simp only [Corners.flatten, table]
        exact rfl
      | some vertices =>
        simp only [Corners.flatten, table, Option.map_some]
        refine Parallel.returns (mapM_range_parallel (r := Vector.toArray) fun corner => ?_) ?_
        · simp only [pick, scalarAt_toArray]
          cases Arithmetic.natural? (vertices.get corner) with
          | none =>
            simp only [Option.bind_none, sizes]
            rfl
          | some point =>
            by_cases inside : point < buffer.data.size / width
            · simp only [if_pos inside, Option.bind_some, getElem?_items buffer inside,
                ofFn_item beyond buffer inside]
              rfl
            · have outside : (buffer.items width)[point]? = none :=
                Array.getElem?_eq_none (by omega)
              simp only [if_neg inside, Option.bind_some, outside, sizes]
              rfl
        · rintro items _ rfl
          simp [Array.flatMap_def]

end Buffer

theorem scalarAt_flatMap (beyond : α) {width : Nat} (items : Vector (Vector α width) n) (i : Fin n)
    {k : Nat} (h : k < width) :
    scalarAt beyond (items.toArray.flatMap Vector.toArray) (i * width + k) = (items.get i)[k] := by
  have wide (item : Vector α width) : item.toArray.size = width := item.size_toArray
  have bound : i.val < items.toArray.size := by simp
  rw [scalarAt, Array.getD_eq_getD_getElem?, getElem?_flatMap wide _ bound h]
  simp [Vector.get, h]

theorem flatMap_singles (items : Vector (Vector α 1) n) :
    items.toArray.flatMap Vector.toArray = (items.map fun item => item.get 0).toArray := by
  have wide (item : Vector α 1) : item.toArray.size = 1 := item.size_toArray
  have laidOut : (items.toArray.flatMap Vector.toArray).size = n * 1 := by
    rw [size_flatMap wide, Vector.size_toArray]
  refine ext_items laidOut (by simp) fun i h place inside => ?_
  have zero : place = 0 := by omega
  subst zero
  rw [getElem?_flatMap wide _ (by simpa using h) inside]
  simp [Vector.get, h]

theorem flatMap_triples (items : Vector (Vector α 3) n) :
    items.toArray.flatMap Vector.toArray =
      ofColors (items.map fun item => (⟨item.get 0, item.get 1, item.get 2⟩ : Vec3 α)).toArray := by
  have triple (item : Vector α 3) : item.toArray =
      #[item.get 0, item.get 1, item.get 2] := by
    apply Array.ext
    · simp
    · intro k h _
      have h : k < 3 := by simpa using h
      match k, h with
      | 0, _ => rfl
      | 1, _ => rfl
      | 2, _ => rfl
  rw [ofColors, Vector.toArray_map, Array.flatMap_map]
  exact congrArg (Array.flatMap · _) (funext triple)

variable [Arithmetic α] (beyond : α)

theorem Buffer.toVectors_parallel (buffer : Buffer α) (label : String) (corners : Corners α n) :
    Parallel (fun vectors flat => flat = ofColors vectors.toArray)
      (buffer.toVectors label corners) (buffer.spread beyond label 3 corners.flatten) := by
  unfold toVectors
  rcases (buffer.spread_parallel beyond label (Nat.succ_pos 2) corners).inv with
    ⟨e, failed, failed'⟩ | ⟨items, flat, given, given', same⟩
  · rw [failed, failed']
    exact rfl
  · rw [given, given', same]
    exact flatMap_triples items

namespace LayerSource

variable [Elementary α] (source : LayerSource α) (corners : Corners α n)

theorem toLayer_alike :
    Alike (fun layer flat => flat = layer.flatten) (source.toLayer corners)
      (source.toFlat beyond corners.flatten) := by
  unfold toLayer toFlat resolve
  cases source.format with
  | scalar =>
    have spread : Alike (fun (layer : Layer α n) flat => flat = layer.flatten)
        (do
          let items ← Traced.lift (source.buffer.toCorners source.name 1 corners)
          return Layer.scalar (items.map fun item => item[0]))
        (do
          let raw ← Traced.lift (source.buffer.spread beyond source.name 1 corners.flatten)
          return FlatLayer.scalar raw : Traced IgnoredColorSpace _ _) := by
      refine (Alike.lift (source.buffer.spread_parallel beyond source.name Nat.one_pos
        corners)).bind ?_
      rintro items _ rfl
      rw [flatMap_singles]
      exact ⟨rfl, rfl⟩
    by_cases srgb : source.colorSpace = .srgb
    · simp only [if_pos srgb, true_and]
      exact Alike.step fun _ => spread
    · simp only [if_neg srgb, true_and]
      exact spread
  | rgb =>
    refine (Alike.lift (source.buffer.toVectors_parallel beyond source.name corners)).bind ?_
    rintro vectors _ rfl
    refine ⟨rfl, ?_⟩
    show FlatLayer.color _ _ = FlatLayer.color _ _
    congr 1
    · refine congrArg ofColors (perElement_map fun i => ?_)
      exact congrArg (Vec3.map source.decode) (colorAt_toArray beyond vectors i)
    · refine perElement_eq fun i => ?_
      simp [LayerFormat.width, Vector.get]
  | rgba =>
    refine (Alike.lift (source.buffer.spread_parallel beyond source.name (by decide)
      corners)).bind ?_
    rintro items _ rfl
    refine ⟨rfl, ?_⟩
    show FlatLayer.color _ _ = FlatLayer.color _ _
    congr 1
    · refine congrArg ofColors (perElement_map fun i => ?_)
      congr 1 <;> exact congrArg source.decode (scalarAt_flatMap beyond items i (by decide))
    · exact perElement_map fun i => scalarAt_flatMap beyond items i (by decide)

end LayerSource

variable [Elementary α]

theorem addLayer_alike (corners : Corners α n) (layers : List (String × Layer α n))
    (source : LayerSource α) :
    Alike (fun layers flat => flat = flattenAll layers) (addLayer corners layers source)
      (addFlatLayer beyond corners.flatten (flattenAll layers) source) := by
  unfold addLayer addFlatLayer
  rw [lookup_flattenAll, Option.isSome_map]
  by_cases known : (layers.lookup source.name).isSome
  · simp only [if_pos known]
    exact ⟨rfl, rfl⟩
  · simp only [if_neg known]
    refine (source.toLayer_alike beyond corners).bind ?_
    rintro layer _ rfl
    refine ⟨rfl, ?_⟩
    show flattenAll layers ++ [(source.name, layer.flatten)] = flattenAll (layers ++ _)
    simp [flattenAll]

theorem addLayers_alike (corners : Corners α n) (sources : List (LayerSource α))
    (layers : List (String × Layer α n)) :
    Alike (fun layers flat => flat = flattenAll layers)
      (sources.foldlM (addLayer corners) layers)
      (sources.foldlM (addFlatLayer beyond corners.flatten) (flattenAll layers)) := by
  induction sources generalizing layers with
  | nil => exact ⟨rfl, rfl⟩
  | cons source rest ih =>
    rw [List.foldlM_cons, List.foldlM_cons]
    refine (addLayer_alike beyond corners layers source).bind ?_
    rintro added _ rfl
    exact ih added

omit [Elementary α] in
theorem geometry_alike (buffer? : Option (Buffer α)) (label : String) (corners : Corners α n) :
    Alike (fun vectors? flat? => flat? = vectors?.map fun v => ofColors v.toArray)
      (Traced.lift (buffer?.mapM fun buffer => buffer.toVectors label corners) :
        Traced IgnoredColorSpace _ _)
      (Traced.lift (buffer?.mapM fun buffer => buffer.spread beyond label 3 corners.flatten)) := by
  cases buffer? with
  | none => exact ⟨rfl, rfl⟩
  | some buffer =>
    refine Alike.lift ?_
    rcases (buffer.toVectors_parallel beyond label corners).inv with
      ⟨e, failed, failed'⟩ | ⟨vectors, flat, given, given', same⟩
    · simp only [Option.mapM_some, failed, failed']
      exact rfl
    · simp only [Option.mapM_some, given, given', same]
      exact rfl

/-- The context in flat buffers is the context laid out, however a read past the
end of a buffer is answered. -/
theorem MeshSource.toContext_alike (source : MeshSource α) :
    Alike (fun c flat => flat = c.2.flatten) source.toContext (source.toFlat beyond) := by
  unfold toContext toFlat
  cases Arithmetic.natural? source.elementCount with
  | none => exact ⟨rfl, rfl⟩
  | some n =>
    have construct (vertices? : Option (Vector α n))
        (offered : source.cornerVertices? = vertices?.map Vector.toArray) :
        let corners : Corners α n := ⟨source.elementCount, vertices?⟩
        Alike (fun (c : (n : Nat) × Context α n) flat => flat = c.2.flatten)
          (do
            let layers ← source.layers.foldlM (addLayer corners) []
            let position? ← Traced.lift
              (source.position?.mapM fun buffer => buffer.toVectors "position" corners)
            let normal? ← Traced.lift
              (source.normal?.mapM fun buffer => buffer.toVectors "normal" corners)
            return ⟨n, ⟨layers, position?, normal?⟩⟩)
          (source.expand beyond (source.corners n)) := by
      intro corners
      have same : source.corners n = corners.flatten := by
        rw [MeshSource.corners, offered]
        rfl
      rw [same]
      refine (addLayers_alike beyond corners source.layers []).bind ?_
      rintro layers _ rfl
      refine (geometry_alike beyond source.position? "position" corners).bind ?_
      rintro position? _ rfl
      refine (geometry_alike beyond source.normal? "normal" corners).bind ?_
      rintro normal? _ rfl
      exact ⟨rfl, rfl⟩
    cases offered : source.cornerVertices? with
    | none => exact construct none offered
    | some table =>
      by_cases sized : table.size = n
      · simp only [dif_pos sized, if_neg (not_not_intro sized)]
        exact construct (some ⟨table, sized⟩) offered
      · simp only [dif_neg sized, if_pos sized]
        exact ⟨rfl, rfl⟩

theorem MeshSource.toFlat_eq (source : MeshSource α) :
    (source.toFlat beyond).trace = source.toContext.trace ∧
      (source.toFlat beyond).outcome = source.toContext.outcome.map fun c => c.2.flatten :=
  have alike := source.toContext_alike beyond
  ⟨alike.trace.symm, alike.outcome.eq_map⟩

end ShadeGraph
