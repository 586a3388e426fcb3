import ShadeGraph.Proofs.Document.Loaded
import ShadeGraph.Proofs.Mesh.Spread

/-!
# Construction of a context

Which meshes have a context, exactly, and what it holds: every layer in its
order, for every corner its colour, the mean of the colour and its alpha. Every
read by strides stays inside its buffer.
-/

namespace ShadeGraph

open Interleaved

variable {α : Type} [Arithmetic α] (beyond : α) [Elementary α]

namespace LayerSource

theorem width_pos (format : LayerFormat) : 0 < format.width := by
  cases format <;> decide

def atCorners (source : LayerSource α) (vertices? : Option (Array α)) : LayerSource α :=
  { source with buffer := source.buffer.atCorners source.format.width vertices? }

/-- The layer of data that lies at the corners, under its name. -/
def settled (source : LayerSource α) (n : Nat) : String × FlatLayer α :=
  (source.name, source.resolve beyond n source.buffer.data)

variable {source : LayerSource α} {corners : CornerTable α} {flat : FlatLayer α}

theorem toFlat_eq_ok (table : Buffer.TableFits corners.elements corners.vertices?) :
    (source.toFlat beyond corners).outcome = .ok flat ↔
      source.buffer.Fits source.format.width corners.elements corners.vertices? ∧
        flat = ((source.atCorners corners.vertices?).settled beyond corners.elements).2 := by
  have outcome : (source.toFlat beyond corners).outcome =
      (source.buffer.spread beyond source.name source.format.width corners).map
        (source.resolve beyond corners.elements) := by
    unfold toFlat
    by_cases ignored : source.format = .scalar ∧ source.colorSpace = .srgb
    · simp only [if_pos ignored, Traced.outcome_bind]
      rfl
    · simp only [if_neg ignored, Traced.outcome_bind]
      rfl
  rw [outcome, map_eq_ok]
  simp only [Buffer.spread_eq_ok beyond source.name table (width_pos source.format)]
  constructor
  · rintro ⟨_, ⟨fits, rfl⟩, rfl⟩
    exact ⟨fits, rfl⟩
  · rintro ⟨fits, rfl⟩
    exact ⟨_, ⟨fits, rfl⟩, rfl⟩

/-- A channel of the colour of a corner, from data that lies at the corners. -/
def channel? (source : LayerSource α) (i k : Nat) : Option α :=
  match source.format with
  | .scalar => source.buffer.data[i]?
  | .rgb => source.buffer.data[i * 3 + k]?.map source.decode
  | .rgba => source.buffer.data[i * 4 + k]?.map source.decode

def mean? (source : LayerSource α) (i : Nat) : Option α :=
  match source.format with
  | .scalar => source.buffer.data[i]?
  | .rgb | .rgba => do
    return Vec3.average
      ⟨← source.channel? i 0, ← source.channel? i 1, ← source.channel? i 2⟩

def opacity? (source : LayerSource α) (i : Nat) : Option α :=
  match source.format with
  | .scalar => source.buffer.data[i]?
  | .rgb => some 1
  | .rgba => source.buffer.data[i * 4 + 3]?

/-- Buffers that hold a layer, for every corner the three channels of its colour,
their mean and its alpha. -/
structure Offers (source : LayerSource α) (n : Nat) (colors fac alpha : Array α) : Prop where
  colors_size : colors.size = 3 * n
  fac_size : fac.size = n
  alpha_size : alpha.size = n
  color : ∀ i < n, ∀ k : Fin 3, colors[3 * i + k.val]? = source.channel? i k.val
  mean : ∀ i < n, fac[i]? = source.mean? i
  opacity : ∀ i < n, alpha[i]? = source.opacity? i

theorem getElem?_perElement {β : Type} {n i : Nat} {value : Nat → β} (h : i < n) :
    (perElement n value)[i]? = some (value i) := by
  simp [perElement, h]

theorem scalar_offers {n : Nat} (format : source.format = .scalar)
    (size : source.buffer.data.size = n) :
    let layer := FlatLayer.scalar source.buffer.data
    source.Offers n (layer.colors beyond n) (layer.fac beyond n) layer.alpha := by
  intro layer
  let values : Vector α n := ⟨source.buffer.data, size⟩
  have greys : layer.colors beyond n = ofColors (source.buffer.data.map Vec3.grey) :=
    FlatLayer.colors_flatten beyond (.scalar values)
  constructor
  · rw [greys, size_ofColors, Array.size_map, size, Nat.mul_comm]
  · exact size
  · exact size
  · intro i h k
    have bound : i < (source.buffer.data.map Vec3.grey).size := by simpa [size] using h
    rw [greys, Nat.mul_comm, channel_ofColors _ bound, Array.getElem_map, Vec3.get_grey, channel?,
      format]
    exact (Array.getElem?_eq_getElem (size ▸ h)).symm
  · intro i _
    rw [mean?, format]
    rfl
  · intro i _
    rw [opacity?, format]
    rfl

theorem color_offers {n : Nat} {color : Nat → Vec3 α} {alpha : Nat → α}
    (colored : source.format ≠ .scalar)
    (channels : ∀ i < n, ∀ k : Fin 3, source.channel? i k.val = some ((color i).get k))
    (opacities : ∀ i < n, source.opacity? i = some (alpha i)) :
    let layer := FlatLayer.color (ofColors (perElement n color)) (perElement n alpha)
    source.Offers n (layer.colors beyond n) (layer.fac beyond n) layer.alpha := by
  intro layer
  have bound {i : Nat} (h : i < n) : i < (perElement n color).size := by simpa [perElement] using h
  have element (i : Nat) (h : i < (perElement n color).size) : (perElement n color)[i] = color i := by
    simp [perElement]
  constructor
  · show (ofColors (perElement n color)).size = 3 * n
    rw [size_ofColors, Nat.mul_comm]
    simp [perElement]
  · simp [layer, FlatLayer.fac, perElement]
  · simp [layer, FlatLayer.alpha, perElement]
  · intro i h k
    show (ofColors (perElement n color))[3 * i + k.val]? = _
    rw [Nat.mul_comm, channel_ofColors _ (bound h), element i, channels i h k]
  · intro i h
    have mean : source.mean? i = some (color i).average := by
      unfold mean?
      cases format : source.format with
      | scalar => exact absurd format colored
      | rgb | rgba =>
        have red : source.channel? i 0 = some (color i).x := channels i h 0
        have green : source.channel? i 1 = some (color i).y := channels i h 1
        have blue : source.channel? i 2 = some (color i).z := channels i h 2
        simp only [red, green, blue]
        rfl
    rw [mean]
    show (perElement n _)[i]? = _
    rw [getElem?_perElement h, colorAt_ofColors beyond _ (bound h), element i]
  · intro i h
    rw [opacities i h]
    exact getElem?_perElement h

theorem channel?_color (colored : source.format ≠ .scalar) (i : Nat) (k : Fin 3) :
    k.val < source.format.width ∧ source.channel? i k.val =
      (source.buffer.data[i * source.format.width + k.val]?).map source.decode := by
  unfold channel?
  cases format : source.format with
  | scalar => exact absurd format colored
  | rgb => exact ⟨k.isLt, rfl⟩
  | rgba => exact ⟨Nat.lt_succ_of_lt k.isLt, rfl⟩

theorem resolve_color (source : LayerSource α) (colored : source.format ≠ .scalar) (n : Nat)
    (raw : Array α) :
    let width := source.format.width
    let channel (i k : Nat) : α := source.decode (scalarAt beyond raw (i * width + k))
    source.resolve beyond n raw = .color
      (ofColors (perElement n fun i => ⟨channel i 0, channel i 1, channel i 2⟩))
      (perElement n fun i => if width = 4 then scalarAt beyond raw (i * 4 + 3) else 1) := by
  obtain ⟨name, format, colorSpace, buffer⟩ := source
  cases format with
  | scalar => exact absurd rfl colored
  | rgb | rgba => rfl

theorem resolve_offers {n : Nat}
    (full : source.buffer.data.size = n * source.format.width) :
    let layer := source.resolve beyond n source.buffer.data
    source.Offers n (layer.colors beyond n) (layer.fac beyond n) layer.alpha := by
  intro layer
  have read {i k : Nat} (h : i < n) (inside : k < source.format.width) :
      source.buffer.data[i * source.format.width + k]? =
        some (scalarAt beyond source.buffer.data (i * source.format.width + k)) := by
    have next := Nat.succ_mul i source.format.width
    have fits := Nat.mul_le_mul_right source.format.width (Nat.succ_le_of_lt h)
    have bound : i * source.format.width + k < source.buffer.data.size := by omega
    simp [scalarAt, bound]
  by_cases scalar : source.format = .scalar
  case pos =>
    have size : source.buffer.data.size = n := by simpa [scalar, LayerFormat.width] using full
    have layered : layer = .scalar source.buffer.data := by simp [layer, resolve, scalar]
    rw [layered]
    exact scalar_offers beyond scalar size
  case neg =>
    have layered : layer = _ := source.resolve_color beyond scalar n source.buffer.data
    rw [layered]
    refine color_offers beyond scalar (fun i h k => ?_) fun i h => ?_
    · obtain ⟨inside, here⟩ := channel?_color scalar i k
      rw [here, read h inside, Option.map_some]
      let value (k : Nat) : α :=
        source.decode (scalarAt beyond source.buffer.data (i * source.format.width + k))
      exact congrArg some (Vec3.get_mk value k).symm
    · unfold opacity?
      cases format : source.format with
      | scalar => exact absurd format scalar
      | rgb => rfl
      | rgba =>
        rw [format] at read
        exact read h (by decide)

end LayerSource

section

variable {corners : CornerTable α} {layers result : List (String × FlatLayer α)}

open Buffer (TableFits)

theorem addFlatLayer_eq_ok (table : TableFits corners.elements corners.vertices?)
    {source : LayerSource α} :
    (addFlatLayer beyond corners layers source).outcome = .ok result ↔
      source.name ∉ layers.map Prod.fst ∧
      source.buffer.Fits source.format.width corners.elements corners.vertices? ∧
      result = layers ++ [(source.atCorners corners.vertices?).settled beyond corners.elements] := by
  have known : (layers.lookup source.name).isSome ↔ source.name ∈ layers.map Prod.fst := by
    rw [List.lookup_isSome_iff, List.mem_map]
    constructor
    · rintro ⟨entry, mem, same⟩
      exact ⟨entry, mem, (beq_iff_eq.1 same).symm⟩
    · rintro ⟨entry, mem, same⟩
      exact ⟨entry, mem, beq_iff_eq.2 same.symm⟩
  unfold addFlatLayer
  by_cases mem : source.name ∈ layers.map Prod.fst
  case pos =>
    simp only [if_pos (known.2 mem)]
    constructor
    · intro given
      cases given
    · intro ⟨fresh, _⟩
      exact absurd mem fresh
  case neg =>
    simp only [if_neg (mt known.1 mem), Traced.outcome_bind, bind_eq_ok,
      LayerSource.toFlat_eq_ok beyond table]
    constructor
    · rintro ⟨_, ⟨fits, rfl⟩, added⟩
      exact ⟨mem, fits, (Except.ok.inj added).symm⟩
    · rintro ⟨-, fits, rfl⟩
      exact ⟨_, ⟨fits, rfl⟩, rfl⟩

theorem addFlatLayers_eq_ok (table : TableFits corners.elements corners.vertices?)
    {sources : List (LayerSource α)} (distinct : (layers.map Prod.fst).Nodup) :
    (sources.foldlM (addFlatLayer beyond corners) layers).outcome = .ok result ↔
      (layers.map Prod.fst ++ sources.map LayerSource.name).Nodup ∧
      (∀ source ∈ sources,
        source.buffer.Fits source.format.width corners.elements corners.vertices?) ∧
      result = layers ++ sources.map fun source =>
        (source.atCorners corners.vertices?).settled beyond corners.elements := by
  induction sources generalizing layers with
  | nil =>
    have base : ((pure layers : Traced IgnoredColorSpace (ContextError α) _).outcome = .ok result) ↔
        result = layers := ⟨fun given => (Except.ok.inj given).symm, fun same => by rw [same]; rfl⟩
    simp [base, distinct]
  | cons source rest ih =>
    let settled := (source.atCorners corners.vertices?).settled beyond corners.elements
    have names : (layers ++ [settled]).map Prod.fst ++ rest.map LayerSource.name =
        layers.map Prod.fst ++ (source :: rest).map LayerSource.name := by
      simp [settled, LayerSource.settled, LayerSource.atCorners]
    have extended (unique : (layers.map Prod.fst ++ (source :: rest).map LayerSource.name).Nodup) :
        ((layers ++ [settled]).map Prod.fst).Nodup := by
      rw [← names] at unique
      exact (List.nodup_append.1 unique).1
    rw [List.foldlM_cons, Traced.outcome_bind, bind_eq_ok]
    simp only [addFlatLayer_eq_ok beyond table]
    constructor
    · rintro ⟨_, ⟨fresh, fits, rfl⟩, given⟩
      have distinct' : ((layers ++ [settled]).map Prod.fst).Nodup := by
        rw [List.map_append]
        refine List.nodup_append.2 ⟨distinct, by simp, ?_⟩
        intro name mem other last same
        have only : other = source.name := List.mem_singleton.1 last
        rw [same, only] at mem
        exact fresh mem
      obtain ⟨unique, fits', rfl⟩ := (ih distinct').1 given
      refine ⟨names ▸ unique, ?_, ?_⟩
      · intro other mem
        rcases List.mem_cons.1 mem with rfl | mem
        · exact fits
        · exact fits' other mem
      · simp [settled]
    · rintro ⟨unique, fits, rfl⟩
      have fresh : source.name ∉ layers.map Prod.fst := by
        intro mem
        exact (List.nodup_append.1 unique).2.2 _ mem _ (by simp) rfl
      refine ⟨_, ⟨fresh, fits source List.mem_cons_self, rfl⟩, ?_⟩
      refine (ih (extended unique)).2 ⟨names ▸ unique, ?_, ?_⟩
      · exact fun other mem => fits other (List.mem_cons_of_mem source mem)
      · simp [settled]

omit [Elementary α] in
theorem geometry_eq_ok (table : TableFits corners.elements corners.vertices?)
    {buffer? : Option (Buffer α)} (label : String) {flat? : Option (Array α)} :
    (buffer?.mapM fun buffer => buffer.spread beyond label 3 corners) = .ok flat? ↔
      (∀ buffer, buffer? = some buffer → buffer.Fits 3 corners.elements corners.vertices?) ∧
      flat? = buffer?.map fun buffer => (buffer.atCorners 3 corners.vertices?).data := by
  cases buffer? with
  | none =>
    constructor
    · intro given
      exact ⟨nofun, (Except.ok.inj given).symm⟩
    · rintro ⟨-, rfl⟩
      rfl
  | some buffer =>
    show (buffer.spread beyond label 3 corners).map some = .ok flat? ↔ _
    rw [map_eq_ok]
    simp only [Buffer.spread_eq_ok beyond label table (Nat.succ_pos 2)]
    constructor
    · rintro ⟨_, ⟨fits, rfl⟩, rfl⟩
      refine ⟨?_, rfl⟩
      rintro _ ⟨⟩
      exact fits
    · rintro ⟨fits, rfl⟩
      exact ⟨_, ⟨fits buffer rfl, rfl⟩, rfl⟩

end

namespace MeshSource

/-- What a mesh of `n` corners has to be. -/
structure Valid (source : MeshSource α) (n : Nat) : Prop where
  count : Arithmetic.natural? source.elementCount = some n
  table : Buffer.TableFits n source.cornerVertices?
  names : (source.layers.map LayerSource.name).Nodup
  layers : ∀ layer ∈ source.layers,
    layer.buffer.Fits layer.format.width n source.cornerVertices?
  position : ∀ buffer, source.position? = some buffer → buffer.Fits 3 n source.cornerVertices?
  normal : ∀ buffer, source.normal? = some buffer → buffer.Fits 3 n source.cornerVertices?

/-- The mesh with all its data at the corners. -/
def atCorners (source : MeshSource α) : MeshSource α :=
  { source with
    layers := source.layers.map (LayerSource.atCorners · source.cornerVertices?)
    position? := source.position?.map (Buffer.atCorners · 3 source.cornerVertices?)
    normal? := source.normal?.map (Buffer.atCorners · 3 source.cornerVertices?) }

/-- The context of data that lies at the corners. -/
def settled (source : MeshSource α) (n : Nat) : FlatContext α where
  elementCount := n
  layers := source.layers.map (LayerSource.settled beyond · n)
  position? := source.position?.map Buffer.data
  normal? := source.normal?.map Buffer.data

variable {source : MeshSource α} {ctx : FlatContext α} {n : Nat}

theorem expand_eq_ok (count : Arithmetic.natural? source.elementCount = some n)
    (table : Buffer.TableFits n source.cornerVertices?) :
    (source.expand beyond (source.corners n)).outcome = .ok ctx ↔
      source.Valid n ∧ ctx = source.atCorners.settled beyond n := by
  have table : Buffer.TableFits (source.corners n).elements (source.corners n).vertices? := table
  have distinct : (([] : List (String × FlatLayer α)).map Prod.fst).Nodup := List.nodup_nil
  simp only [expand, Traced.outcome_bind, bind_eq_ok, addFlatLayers_eq_ok beyond table distinct]
  constructor
  · rintro ⟨_, ⟨names, layers, rfl⟩, position?, position, normal?, normal, given⟩
    obtain ⟨positionFits, rfl⟩ := (geometry_eq_ok beyond table "position").1 position
    obtain ⟨normalFits, rfl⟩ := (geometry_eq_ok beyond table "normal").1 normal
    refine ⟨⟨count, table, names, layers, positionFits, normalFits⟩, ?_⟩
    rw [← Except.ok.inj given]
    simp [settled, atCorners, corners, Function.comp_def]
  · rintro ⟨valid, rfl⟩
    refine ⟨_, ⟨valid.names, valid.layers, rfl⟩, _,
      (geometry_eq_ok beyond table "position").2 ⟨valid.position, rfl⟩, _,
      (geometry_eq_ok beyond table "normal").2 ⟨valid.normal, rfl⟩, ?_⟩
    show Except.ok _ = Except.ok _
    simp [settled, atCorners, corners, Function.comp_def]

theorem toFlat_eq_ok : (source.toFlat beyond).outcome = .ok ctx ↔
    ∃ n, source.Valid n ∧ ctx = source.atCorners.settled beyond n := by
  unfold toFlat
  cases count : Arithmetic.natural? source.elementCount with
  | none =>
    constructor
    · intro given
      cases given
    · rintro ⟨n, valid, -⟩
      rw [valid.count] at count
      cases count
  | some n =>
    have only : (∃ n, source.Valid n ∧ ctx = source.atCorners.settled beyond n) ↔
        source.Valid n ∧ ctx = source.atCorners.settled beyond n := by
      constructor
      · rintro ⟨m, valid, rfl⟩
        have same : n = m := Option.some.inj (count.symm.trans valid.count)
        subst same
        exact ⟨valid, rfl⟩
      · exact fun given => ⟨n, given⟩
    rw [only]
    cases offered : source.cornerVertices? with
    | none =>
      have table : Buffer.TableFits n source.cornerVertices? := by
        rw [offered]
        exact nofun
      simp only
      exact expand_eq_ok beyond count table
    | some vertices =>
      by_cases sized : vertices.size = n
      · have table : Buffer.TableFits n source.cornerVertices? := by
          rw [offered]
          intro other same
          rw [← Option.some.inj same]
          exact sized
        simp only [if_neg (not_not_intro sized)]
        exact expand_eq_ok beyond count table
      · simp only [if_pos sized]
        constructor
        · intro given
          cases given
        · rintro ⟨valid, -⟩
          exact absurd (valid.table vertices offered) sized

omit [Elementary α] in
theorem atCorners_atCorners (source : MeshSource α) :
    source.atCorners.atCorners = source.atCorners := by
  simp [atCorners, LayerSource.atCorners, Function.comp_def, Buffer.atCorners_atCorners]

omit [Elementary α] in
theorem valid_atCorners (valid : source.Valid n) : source.atCorners.Valid n where
  count := valid.count
  table := valid.table
  names := by
    have same : source.atCorners.layers.map LayerSource.name =
        source.layers.map LayerSource.name := by
      simp [atCorners, LayerSource.atCorners, Function.comp_def]
    rw [same]
    exact valid.names
  layers := by
    intro layer mem
    obtain ⟨given, listed, rfl⟩ := List.mem_map.1 mem
    exact Buffer.fits_atCorners (valid.layers given listed) (LayerSource.width_pos given.format)
      valid.table
  position := by
    intro buffer same
    obtain ⟨given, offered, rfl⟩ := Option.map_eq_some_iff.1 same
    exact Buffer.fits_atCorners (valid.position given offered) (Nat.succ_pos 2) valid.table
  normal := by
    intro buffer same
    obtain ⟨given, offered, rfl⟩ := Option.map_eq_some_iff.1 same
    exact Buffer.fits_atCorners (valid.normal given offered) (Nat.succ_pos 2) valid.table

theorem toFlat_atCorners (given : (source.toFlat beyond).outcome = .ok ctx) :
    (source.atCorners.toFlat beyond).outcome = .ok ctx := by
  obtain ⟨n, valid, rfl⟩ := (toFlat_eq_ok beyond).1 given
  refine (toFlat_eq_ok beyond).2 ⟨n, valid_atCorners valid, ?_⟩
  rw [atCorners_atCorners]

theorem layerNames_settled (source : MeshSource α) :
    (source.atCorners.settled beyond n).layerNames = source.layers.map LayerSource.name := by
  simp [settled, atCorners, FlatContext.layerNames, LayerSource.settled, LayerSource.atCorners,
    Function.comp_def]

theorem lookup_of_mem {β : Type} {entries : List (String × β)} {name : String} {value : β}
    (distinct : (entries.map Prod.fst).Nodup) (mem : (name, value) ∈ entries) :
    entries.lookup name = some value := by
  obtain ⟨before, after, rfl⟩ := List.append_of_mem mem
  refine List.lookup_eq_some_iff.2 ⟨before, after, rfl, fun entry earlier => ?_⟩
  rw [List.map_append] at distinct
  have apart := (List.nodup_append.1 distinct).2.2 entry.1 (List.mem_map_of_mem earlier) name
    List.mem_cons_self
  simpa using apart.symm

theorem settled_offers (valid : source.Valid n) {layer : LayerSource α}
    (mem : layer ∈ source.atCorners.layers) :
    let ctx := source.atCorners.settled beyond n
    ∃ colors fac alpha, ctx.color? beyond layer.name = some colors ∧
      ctx.fac? beyond layer.name = some fac ∧ ctx.alpha? layer.name = some alpha ∧
      layer.Offers n colors fac alpha := by
  intro ctx
  have distinct : ctx.layerNames.Nodup := by
    rw [layerNames_settled]
    exact valid.names
  have found : ctx.layer? layer.name = some (layer.resolve beyond n layer.buffer.data) :=
    lookup_of_mem distinct (List.mem_map_of_mem (f := (LayerSource.settled beyond · n)) mem)
  obtain ⟨given, listed, rfl⟩ := List.mem_map.1 mem
  have full := (valid.layers given listed).size_atCorners valid.table
  refine ⟨_, _, _, ?_, ?_, ?_, LayerSource.resolve_offers beyond full⟩
  · rw [FlatContext.color?, found]
    rfl
  · rw [FlatContext.fac?, found]
    rfl
  · rw [FlatContext.alpha?, found]
    rfl

theorem toFlat_beyond (given : (source.toFlat beyond).outcome = .ok ctx) (beyond' : α) :
    (source.toFlat beyond').outcome = .ok ctx ∧
      ∀ name, ctx.color? beyond' name = ctx.color? beyond name ∧
        ctx.fac? beyond' name = ctx.fac? beyond name := by
  rw [(source.toFlat_eq beyond).2, map_eq_ok] at given
  obtain ⟨c, typed, rfl⟩ := given
  refine ⟨?_, fun name => ⟨?_, ?_⟩⟩
  · rw [(source.toFlat_eq beyond').2, typed]
    rfl
  · rw [Context.color?_flatten, Context.color?_flatten]
  · rw [Context.fac?_flatten, Context.fac?_flatten]

/-- A mesh has a context exactly if it is valid. The context has the layers in
their order and holds, for every corner, what the mesh has for it, as if all its
data lay at the corners; no read goes past the end of a buffer. -/
theorem toContext_exact (beyond : α) (source : MeshSource α) :
    (source.toFlat beyond).outcome = source.toContext.outcome.map (fun c => c.2.flatten) ∧
    ((∃ ctx, (source.toFlat beyond).outcome = .ok ctx) ↔ ∃ n, source.Valid n) ∧
    ∀ ctx, (source.toFlat beyond).outcome = .ok ctx →
      source.Valid ctx.elementCount ∧
      ctx.layerNames = source.layers.map LayerSource.name ∧
      (∀ layer ∈ source.atCorners.layers, ∃ colors fac alpha,
        ctx.color? beyond layer.name = some colors ∧ ctx.fac? beyond layer.name = some fac ∧
        ctx.alpha? layer.name = some alpha ∧ layer.Offers ctx.elementCount colors fac alpha) ∧
      ctx.position? = source.atCorners.position?.map Buffer.data ∧
      ctx.normal? = source.atCorners.normal?.map Buffer.data ∧
      (∀ beyond', (source.toFlat beyond').outcome = .ok ctx ∧
        ∀ name, ctx.color? beyond' name = ctx.color? beyond name ∧
          ctx.fac? beyond' name = ctx.fac? beyond name) ∧
      (source.atCorners.toFlat beyond).outcome = .ok ctx := by
  refine ⟨(source.toFlat_eq beyond).2, ⟨?_, ?_⟩, fun ctx given => ?_⟩
  · rintro ⟨ctx, given⟩
    obtain ⟨n, valid, -⟩ := (toFlat_eq_ok beyond).1 given
    exact ⟨n, valid⟩
  · rintro ⟨n, valid⟩
    exact ⟨_, (toFlat_eq_ok beyond).2 ⟨n, valid, rfl⟩⟩
  · have elsewhere := toFlat_beyond beyond given
    have gathered := toFlat_atCorners beyond given
    obtain ⟨n, valid, rfl⟩ := (toFlat_eq_ok beyond).1 given
    exact ⟨valid, layerNames_settled beyond source, fun layer mem => settled_offers beyond valid mem,
      rfl, rfl, elsewhere, gathered⟩

section

local instance : Elementary Rat := Sample.elementary

/-- Three corners over two vertices, with a colour for every vertex. -/
def triangle : MeshSource Rat where
  elementCount := 3
  layers := [⟨"tint", .rgb, .linear, ⟨.point, #[1, 0, 0, 0, 1, 1 / 2]⟩⟩]
  cornerVertices? := some #[1, 0, 1]
  position? := none
  normal? := none

theorem triangle_tint :
    let ctx := triangle.atCorners.settled 0 3
    (triangle.toFlat 0).outcome = .ok ctx ∧ ctx.layerNames = ["tint"] ∧
      ctx.color? 0 "tint" = some #[0, 1, 1 / 2, 1, 0, 0, 0, 1, 1 / 2] ∧
      (triangle.atCorners.toFlat 0).outcome = .ok ctx := by
  intro ctx
  have given : (triangle.toFlat 0).outcome = .ok (triangle.atCorners.settled 0 3) := by cbv
  obtain ⟨-, -, holds⟩ := toContext_exact (0 : Rat) triangle
  obtain ⟨-, names, -, -, -, -, gathered⟩ := holds ctx given
  exact ⟨given, names, by cbv, gathered⟩

end

end MeshSource
end ShadeGraph
