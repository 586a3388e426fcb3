import ShadeGraph.Proofs.Mesh.Flat

/-!
# Data at the corners

Which buffers can be spread over the corners of a mesh, exactly, and that what
comes out is the data gathered through the table of vertices. The checks are
what every read through the table needs to stay inside its buffer.
-/

namespace ShadeGraph

open Interleaved

section

variable {ε β γ : Type} {f : β → Except ε γ} {xs : List β}

theorem mapM_total {value : β → γ} (given : ∀ x ∈ xs, f x = .ok (value x)) :
    xs.mapM f = .ok (xs.map value) := by
  induction xs with
  | nil => rfl
  | cons x xs ih =>
    rw [List.mapM_cons, given x List.mem_cons_self,
      ih fun y mem => given y (List.mem_cons_of_mem x mem)]
    rfl

theorem mapM_each {values : List γ} (given : xs.mapM f = .ok values) :
    ∀ x ∈ xs, ∃ value, f x = .ok value := by
  induction xs generalizing values with
  | nil => simp
  | cons x xs ih =>
    rw [List.mapM_cons, bind_eq_ok] at given
    obtain ⟨first, here, given⟩ := given
    rw [bind_eq_ok] at given
    obtain ⟨others, rest, -⟩ := given
    intro y mem
    rcases List.mem_cons.1 mem with rfl | mem
    · exact ⟨first, here⟩
    · exact ih rest y mem

end

variable {α : Type} [Arithmetic α] (beyond : α)

namespace Buffer

/-- The values of one vertex. -/
def item (buffer : Buffer α) (width : Nat) (vertex : α) : Array α :=
  match Arithmetic.natural? vertex with
  | some point => buffer.data.extract (point * width) (point * width + width)
  | none => #[]

/-- Data of the vertices as data of the corners, gathered through the table. -/
def atCorners (buffer : Buffer α) (width : Nat) (vertices? : Option (Array α)) : Buffer α :=
  match buffer.domain, vertices? with
  | .point, some vertices => ⟨.corner, vertices.flatMap (buffer.item width)⟩
  | _, _ => buffer

/-- Whole items, one for every corner or for every vertex that the table names. -/
structure Fits (buffer : Buffer α) (width n : Nat) (vertices? : Option (Array α)) : Prop where
  whole : width ∣ buffer.data.size
  corners : buffer.domain = .corner → buffer.data.size / width = n
  points : buffer.domain = .point → ∃ vertices, vertices? = some vertices ∧
    ∀ vertex ∈ vertices, ∃ point, Arithmetic.natural? vertex = some point ∧
      point < buffer.data.size / width

/-- A table, if there is one, has a vertex for every corner. -/
def TableFits (n : Nat) (vertices? : Option (Array α)) : Prop :=
  ∀ vertices, vertices? = some vertices → vertices.size = n

variable {buffer : Buffer α} {width n : Nat} {vertices? : Option (Array α)}

theorem size_item {vertex : α} {point : Nat} (named : Arithmetic.natural? vertex = some point)
    (inside : point < buffer.data.size / width) : (buffer.item width vertex).size = width := by
  have fits := Nat.mul_le_mul_right width (Nat.succ_le_of_lt inside)
  have whole := Nat.div_mul_le_self buffer.data.size width
  have next := Nat.succ_mul point width
  simp only [item, named, Array.size_extract]
  omega

theorem Fits.size_atCorners (fits : buffer.Fits width n vertices?)
    (table : TableFits n vertices?) : (buffer.atCorners width vertices?).data.size = n * width := by
  unfold atCorners
  cases domain : buffer.domain with
  | corner =>
    show buffer.data.size = n * width
    rw [← fits.corners domain, Nat.div_mul_cancel fits.whole]
  | point =>
    obtain ⟨vertices, given, named⟩ := fits.points domain
    have wide : ∀ vertex ∈ vertices.toList, (buffer.item width vertex).toList.length = width := by
      intro vertex mem
      obtain ⟨point, read, inside⟩ := named vertex (Array.mem_toList_iff.1 mem)
      exact size_item read inside
    have sizes : (vertices.flatMap (buffer.item width)).size = vertices.size * width := by
      rw [← Array.length_toList, Array.toList_flatMap, List.length_flatMap,
        List.map_congr_left wide, List.map_const', List.sum_replicate_nat, Array.length_toList]
    subst given
    show (vertices.flatMap (buffer.item width)).size = n * width
    rw [sizes, table vertices rfl]

variable {corners : CornerTable α} (label : String)

theorem pick_eq_item {vertices : Array α} {corner point : Nat}
    (named : Arithmetic.natural? (scalarAt beyond vertices corner) = some point)
    (inside : point < buffer.data.size / width) :
    buffer.pick beyond label width vertices corner =
      .ok (buffer.item width (scalarAt beyond vertices corner)) := by
  have values : buffer.item width (scalarAt beyond vertices corner) =
      (Vector.ofFn fun k : Fin width =>
        have := index_lt inside k.isLt
        buffer.data[point * width + k.val]).toArray := by
    apply Array.ext
    · rw [size_item named inside, Vector.size_toArray]
    · intro k _ h
      simp only [item, named, Array.getElem_extract]
      simp
  simp only [pick, named, if_pos inside, ofFn_item beyond buffer inside, values]

theorem natural_of_pick {vertices values : Array α} {corner : Nat}
    (given : buffer.pick beyond label width vertices corner = .ok values) :
    ∃ point, Arithmetic.natural? (scalarAt beyond vertices corner) = some point ∧
      point < buffer.data.size / width := by
  unfold pick at given
  cases named : Arithmetic.natural? (scalarAt beyond vertices corner) with
  | none =>
    simp only [named] at given
    cases given
  | some point =>
    by_cases inside : point < buffer.data.size / width
    · exact ⟨point, rfl, inside⟩
    · simp only [named, if_neg inside] at given
      cases given

omit [Arithmetic α] in
theorem toList_table {vertices : Array α} (sized : vertices.size = n) :
    vertices.toList = (List.range n).map (scalarAt beyond vertices) := by
  have inOrder : perElement n (scalarAt beyond vertices) = vertices :=
    perElement_eq fun i => scalarAt_toArray beyond (⟨vertices, sized⟩ : Vector α n) i
  conv => lhs; rw [← inOrder]
  simp [perElement]

theorem Fits.spread (fits : buffer.Fits width corners.elements corners.vertices?)
    (table : TableFits corners.elements corners.vertices?) :
    buffer.spread beyond label width corners =
      .ok (buffer.atCorners width corners.vertices?).data := by
  have multiple : buffer.data.size % width = 0 := Nat.mod_eq_zero_of_dvd fits.whole
  unfold Buffer.spread atCorners
  rw [if_neg (not_not_intro multiple)]
  cases domain : buffer.domain with
  | corner =>
    have full : buffer.data.size = corners.elements * width := by
      rw [← fits.corners domain, Nat.div_mul_cancel fits.whole]
    simp only [if_pos full]
  | point =>
    obtain ⟨vertices, given, named⟩ := fits.points domain
    have sized := table vertices given
    have picks : ∀ corner ∈ List.range corners.elements,
        buffer.pick beyond label width vertices corner =
          .ok (buffer.item width (scalarAt beyond vertices corner)) := by
      intro corner mem
      have bound : corner < vertices.size := sized ▸ List.mem_range.1 mem
      have read : scalarAt beyond vertices corner = vertices[corner] := by simp [scalarAt, bound]
      have listed : scalarAt beyond vertices corner ∈ vertices := read ▸ Array.getElem_mem bound
      obtain ⟨point, natural, inside⟩ := named _ listed
      exact pick_eq_item beyond label natural inside
    rw [given]
    simp only [Array.mapM_eq_mapM_toList, Array.toList_range]
    rw [mapM_total picks]
    show Except.ok (List.toArray _).flatten = Except.ok (vertices.flatMap _)
    have gathered : vertices.map (buffer.item width) = ((List.range corners.elements).map
        fun corner => buffer.item width (scalarAt beyond vertices corner)).toArray := by
      apply Array.toList_inj.1
      rw [Array.toList_map, toList_table beyond sized, List.map_map]
      rfl
    rw [Array.flatMap_def, gathered]

theorem fits_of_spread {flat : Array α} (table : TableFits corners.elements corners.vertices?)
    (pos : 0 < width) (given : buffer.spread beyond label width corners = .ok flat) :
    buffer.Fits width corners.elements corners.vertices? := by
  unfold Buffer.spread at given
  by_cases multiple : buffer.data.size % width = 0
  case neg =>
    rw [if_pos multiple] at given
    cases given
  case pos =>
    rw [if_neg (not_not_intro multiple)] at given
    have whole : width ∣ buffer.data.size := Nat.dvd_of_mod_eq_zero multiple
    cases domain : buffer.domain with
    | corner =>
      by_cases full : buffer.data.size = corners.elements * width
      case neg =>
        simp only [domain, if_neg full] at given
        cases given
      case pos =>
        refine ⟨whole, fun _ => ?_, fun point => ?_⟩
        · rw [full, Nat.mul_div_cancel _ pos]
        · rw [domain] at point
          cases point
    | point =>
      cases offered : corners.vertices? with
      | none =>
        simp only [domain, offered] at given
        cases given
      | some vertices =>
        simp only [domain, offered, Array.mapM_eq_mapM_toList, Array.toList_range] at given
        cases listed : (List.range corners.elements).mapM
            (buffer.pick beyond label width vertices) with
        | error e =>
          rw [listed] at given
          cases given
        | ok items =>
          refine ⟨whole, fun corner => ?_, fun _ => ⟨vertices, rfl, fun vertex mem => ?_⟩⟩
          · rw [domain] at corner
            cases corner
          · obtain ⟨corner, bound, here⟩ := Array.getElem_of_mem mem
            have sized := table vertices offered
            obtain ⟨values, picked⟩ := mapM_each listed corner
              (List.mem_range.2 (sized ▸ bound))
            have named := natural_of_pick beyond label picked
            have read : scalarAt beyond vertices corner = vertex := by
              simp [scalarAt, bound, here]
            rwa [read] at named

theorem spread_eq_ok {flat : Array α} (table : TableFits corners.elements corners.vertices?)
    (pos : 0 < width) : buffer.spread beyond label width corners = .ok flat ↔
      buffer.Fits width corners.elements corners.vertices? ∧
        flat = (buffer.atCorners width corners.vertices?).data := by
  constructor
  · intro given
    have fits := fits_of_spread beyond label table pos given
    rw [fits.spread beyond label table] at given
    exact ⟨fits, (Except.ok.inj given).symm⟩
  · rintro ⟨fits, rfl⟩
    exact fits.spread beyond label table

theorem fits_atCorners (fits : buffer.Fits width n vertices?) (pos : 0 < width)
    (table : TableFits n vertices?) :
    (buffer.atCorners width vertices?).Fits width n vertices? := by
  have size := fits.size_atCorners table
  have domain : (buffer.atCorners width vertices?).domain = .corner := by
    unfold atCorners
    cases domain : buffer.domain with
    | corner => exact domain
    | point =>
      obtain ⟨vertices, given, -⟩ := fits.points domain
      rw [given]
  refine ⟨⟨n, ?_⟩, fun _ => ?_, fun point => ?_⟩
  · rw [size, Nat.mul_comm]
  · rw [size, Nat.mul_div_cancel _ pos]
  · rw [domain] at point
    cases point

theorem atCorners_atCorners (buffer : Buffer α) (width : Nat) (vertices? : Option (Array α)) :
    (buffer.atCorners width vertices?).atCorners width vertices? =
      buffer.atCorners width vertices? := by
  unfold atCorners
  cases domain : buffer.domain with
  | corner => simp only [domain]
  | point =>
    cases vertices? with
    | none => simp only [domain]
    | some vertices => rfl

end Buffer

end ShadeGraph
