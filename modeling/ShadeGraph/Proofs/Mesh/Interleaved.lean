import ShadeGraph.Mesh.Interleaved

/-!
# Places in flat buffers

The number at a place of a colour buffer is a channel of the colour at a third
of the place. Everything else about buffers is read off from that.
-/

namespace ShadeGraph

variable {α β γ : Type}

theorem Vec3.get_mk (channel : Nat → α) (k : Fin 3) :
    (⟨channel 0, channel 1, channel 2⟩ : Vec3 α).get k = channel k.val := by
  match k with
  | 0 => rfl
  | 1 => rfl
  | 2 => rfl

theorem Vec3.get_map (f : α → β) (c : Vec3 α) (k : Fin 3) : (c.map f).get k = f (c.get k) := by
  match k with
  | 0 => rfl
  | 1 => rfl
  | 2 => rfl

theorem Vec3.get_zipWith (f : α → β → γ) (a : Vec3 α) (b : Vec3 β) (k : Fin 3) :
    (zipWith f a b).get k = f (a.get k) (b.get k) := by
  match k with
  | 0 => rfl
  | 1 => rfl
  | 2 => rfl

theorem Vec3.ext_get {a b : Vec3 α} (same : ∀ k, a.get k = b.get k) : a = b := by
  show mk a.x a.y a.z = mk b.x b.y b.z
  rw [mk.injEq]
  exact ⟨same 0, same 1, same 2⟩

theorem Vec3.get_grey (v : α) (k : Fin 3) : (grey v).get k = v := by
  match k with
  | 0 => rfl
  | 1 => rfl
  | 2 => rfl

namespace Interleaved

theorem getElem?_channels (cs : List (Vec3 α)) (place : Nat) :
    (cs.flatMap fun c => [c.x, c.y, c.z])[place]? =
      cs[place / 3]?.map fun c => c.get (Fin.ofNat 3 place) := by
  induction cs generalizing place with
  | nil => simp
  | cons c cs ih =>
    match place with
    | 0 => rfl
    | 1 => rfl
    | 2 => rfl
    | place + 3 =>
      have next : (place + 3) / 3 = place / 3 + 1 := by omega
      have channel : Fin.ofNat 3 (place + 3) = Fin.ofNat 3 place := by
        apply Fin.ext
        show (place + 3) % 3 = place % 3
        omega
      rw [next, channel]
      exact ih place

theorem toList_ofColors (cs : Array (Vec3 α)) :
    (ofColors cs).toList = cs.toList.flatMap fun c => [c.x, c.y, c.z] := by
  simp [ofColors, Array.toList_flatMap]

theorem getElem?_ofColors (cs : Array (Vec3 α)) (place : Nat) :
    (ofColors cs)[place]? = cs[place / 3]?.map fun c => c.get (Fin.ofNat 3 place) := by
  rw [← Array.getElem?_toList, toList_ofColors, getElem?_channels, Array.getElem?_toList]

theorem size_ofColors (cs : Array (Vec3 α)) : (ofColors cs).size = cs.size * 3 := by
  rw [← Array.length_toList, toList_ofColors]
  simp [List.length_flatMap, List.map_const']

theorem channel_ofColors (cs : Array (Vec3 α)) {i : Nat} (h : i < cs.size) (k : Fin 3) :
    (ofColors cs)[i * 3 + k.val]? = some (cs[i].get k) := by
  have element : (i * 3 + k.val) / 3 = i := by omega
  have channel : Fin.ofNat 3 (i * 3 + k.val) = k := by
    apply Fin.ext
    show (i * 3 + k.val) % 3 = k.val
    omega
  rw [getElem?_ofColors, element, channel, Array.getElem?_eq_getElem h]
  rfl

theorem getD_ofColors (beyond : α) (cs : Array (Vec3 α)) {i : Nat} (h : i < cs.size) (k : Fin 3) :
    (ofColors cs).getD (i * 3 + k.val) beyond = cs[i].get k := by
  rw [Array.getD_eq_getD_getElem?, channel_ofColors cs h]
  rfl

theorem colorAt_ofColors (beyond : α) (cs : Array (Vec3 α)) {i : Nat} (h : i < cs.size) :
    colorAt beyond (ofColors cs) i = cs[i] := by
  have x : (ofColors cs).getD (i * 3) beyond = cs[i].x := getD_ofColors beyond cs h 0
  have y : (ofColors cs).getD (i * 3 + 1) beyond = cs[i].y := getD_ofColors beyond cs h 1
  have z : (ofColors cs).getD (i * 3 + 2) beyond = cs[i].z := getD_ofColors beyond cs h 2
  rw [colorAt, x, y, z]

theorem mapChannels_ofColors (f : Nat → α → α) (cs : Array (Vec3 α)) :
    mapChannels f (ofColors cs) = ofColors (cs.mapIdx fun i c => c.map (f i)) := by
  apply Array.ext_getElem?
  intro place
  rw [mapChannels, Array.getElem?_mapIdx, getElem?_ofColors, getElem?_ofColors,
    Array.getElem?_mapIdx]
  cases cs[place / 3]? with
  | none => rfl
  | some c => exact congrArg some (Vec3.get_map _ c _).symm

theorem map_ofColors (f : α → α) (cs : Array (Vec3 α)) :
    (ofColors cs).map f = ofColors (cs.map (Vec3.map f)) := by
  simp [ofColors, Array.map_flatMap, Array.flatMap_map, Vec3.map]

theorem broadcast_eq (scalars : Array α) : broadcast scalars = ofColors (scalars.map Vec3.grey) := by
  simp [broadcast, ofColors, Array.flatMap_map, Vec3.grey]

section

variable {n : Nat} {f : Nat → β}

theorem perElement_eq {v : Vector β n} (same : ∀ i : Fin n, f i = v.get i) :
    perElement n f = v.toArray := by
  apply Array.ext
  · simp [perElement]
  · intro i h _
    have h : i < n := by simpa [perElement] using h
    have here : f i = v[i] := same ⟨i, h⟩
    simpa [perElement] using here

theorem perElement_ofFn {g : Fin n → β} (same : ∀ i : Fin n, f i = g i) :
    perElement n f = (Vector.ofFn g).toArray := by
  apply perElement_eq
  intro i
  exact (same i).trans (Vector.getElem_ofFn i.isLt).symm

theorem perElement_map {γ : Type} {v : Vector γ n} {g : γ → β}
    (same : ∀ i : Fin n, f i = g (v.get i)) : perElement n f = (v.map g).toArray := by
  apply perElement_eq
  intro i
  exact (same i).trans (Vector.getElem_map g i.isLt).symm

theorem mapIdx_ofFn {γ : Type} {v : Vector β n} {f : Nat → β → γ} {g : Fin n → γ}
    (same : ∀ i : Fin n, f i (v.get i) = g i) :
    v.toArray.mapIdx f = (Vector.ofFn g).toArray := by
  apply Array.ext
  · simp
  · intro i h _
    have h : i < n := by simpa using h
    have here : f i v[i] = g ⟨i, h⟩ := same ⟨i, h⟩
    simpa using here

variable (beyond : α)

@[simp]
theorem scalarAt_toArray (v : Vector α n) (i : Fin n) :
    scalarAt beyond v.toArray i = v.get i := by
  simp [scalarAt, Vector.get]

@[simp]
theorem colorAt_toArray (v : Vector (Vec3 α) n) (i : Fin n) :
    colorAt beyond (ofColors v.toArray) i = v.get i := by
  rw [colorAt_ofColors beyond v.toArray (by simp)]
  rfl

end

theorem luminances_ofColors [Arithmetic α] (beyond : α) (cs : Array (Vec3 α)) :
    luminances beyond (ofColors cs) = cs.map Vec3.luminance := by
  have size : (ofColors cs).size / 3 = cs.size := by
    rw [size_ofColors]
    omega
  rw [luminances, size]
  refine perElement_eq (v := ⟨cs.map Vec3.luminance, Array.size_map⟩) fun i => ?_
  rw [colorAt_ofColors beyond cs i.isLt]
  exact (Array.getElem_map Vec3.luminance (by simp)).symm

end Interleaved
end ShadeGraph
