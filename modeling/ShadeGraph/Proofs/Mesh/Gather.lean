import ShadeGraph.Mesh.Context
import ShadeGraph.Mesh.Signal
import ShadeGraph.Proofs.Mesh.Interleaved

/-!
# Gathering elements

A mesh whose elements are picked from another mesh, in any order and any number
of times, and what is picked from values over the mesh along with it.
-/

namespace ShadeGraph

variable {α β γ : Type} {m n : Nat}

/-- The values of the elements that are picked, in the order of the picks. -/
def gather (picks : Vector (Fin n) m) (values : Vector β n) : Vector β m := picks.map values.get

section

variable (picks : Vector (Fin n) m)

@[simp]
theorem get_gather (values : Vector β n) (i : Fin m) :
    (gather picks values).get i = values.get (picks.get i) :=
  Vector.getElem_map values.get i.isLt

theorem gather_map (f : β → γ) (values : Vector β n) :
    gather picks (values.map f) = (gather picks values).map f := by
  apply Vector.ext
  intro i hi
  simp [gather, Vector.get]

theorem gather_ofFn (f : Fin n → β) :
    gather picks (Vector.ofFn f) = Vector.ofFn fun i => f (picks.get i) := by
  apply Vector.ext
  intro i hi
  have picked : (gather picks (Vector.ofFn f))[i] = (Vector.ofFn f).get picks[i] :=
    get_gather picks (Vector.ofFn f) ⟨i, hi⟩
  rw [picked, Vector.getElem_ofFn]
  exact Vector.getElem_ofFn picks[i].isLt

theorem ofFn_gather {f : Fin n → β} {g : Fin m → β} (same : ∀ i, g i = f (picks.get i)) :
    Vector.ofFn g = gather picks (Vector.ofFn f) := by
  rw [gather_ofFn]
  exact congrArg Vector.ofFn (funext same)

theorem gather_replicate (value : β) :
    gather picks (Vector.replicate n value) = Vector.replicate m value := by
  apply Vector.ext
  intro i hi
  simp [gather, Vector.get]

def Layer.gather : Layer α n → Layer α m
  | color rgb alpha => color (ShadeGraph.gather picks rgb) (ShadeGraph.gather picks alpha)
  | scalar values => scalar (ShadeGraph.gather picks values)

def Context.gather (ctx : Context α n) : Context α m where
  layers := ctx.layers.map fun entry => (entry.1, entry.2.gather picks)
  position? := ctx.position?.map (ShadeGraph.gather picks)
  normal? := ctx.normal?.map (ShadeGraph.gather picks)

def Signal.gather : Signal α n → Signal α m
  | color values => color (ShadeGraph.gather picks values)
  | scalar values => scalar (ShadeGraph.gather picks values)

@[simp]
theorem Signal.colors_gather (s : Signal α n) :
    (s.gather picks).colors = ShadeGraph.gather picks s.colors := by
  cases s with
  | color values => rfl
  | scalar values => exact (gather_map picks Vec3.grey values).symm

@[simp]
theorem Signal.scalars_gather [Arithmetic α] (s : Signal α n) :
    (s.gather picks).scalars = ShadeGraph.gather picks s.scalars := by
  cases s with
  | color values => exact (gather_map picks Vec3.luminance values).symm
  | scalar values => rfl

namespace Context

variable (ctx : Context α n)

theorem layer?_gather (name : String) :
    (ctx.gather picks).layer? name = (ctx.layer? name).map (Layer.gather picks) := by
  show List.lookup name (ctx.layers.map _) = _
  rw [layer?]
  induction ctx.layers with
  | nil => rfl
  | cons entry rest ih =>
    obtain ⟨key, layer⟩ := entry
    by_cases here : name == key
    · simp [List.lookup_cons, here]
    · simpa [List.lookup_cons, here] using ih

/-- A reading of layers that goes element by element. -/
theorem reading_gather {read : Layer α n → Vector β n} {read' : Layer α m → Vector β m}
    (along : ∀ layer, read' (layer.gather picks) = ShadeGraph.gather picks (read layer))
    (name : String) : ((ctx.gather picks).layer? name).map read' =
      ((ctx.layer? name).map read).map (ShadeGraph.gather picks) := by
  rw [layer?_gather]
  cases ctx.layer? name with
  | none => rfl
  | some layer => exact congrArg some (along layer)

theorem color?_gather (name : String) :
    (ctx.gather picks).color? name = (ctx.color? name).map (ShadeGraph.gather picks) := by
  refine ctx.reading_gather picks (fun layer => ?_) name
  cases layer with
  | color rgb alpha => rfl
  | scalar values => exact (gather_map picks Vec3.grey values).symm

theorem fac?_gather [Arithmetic α] (name : String) :
    (ctx.gather picks).fac? name = (ctx.fac? name).map (ShadeGraph.gather picks) := by
  refine ctx.reading_gather picks (fun layer => ?_) name
  cases layer with
  | color rgb alpha => exact (gather_map picks Vec3.average rgb).symm
  | scalar values => rfl

theorem alpha?_gather (name : String) :
    (ctx.gather picks).alpha? name = (ctx.alpha? name).map (ShadeGraph.gather picks) := by
  refine ctx.reading_gather picks (fun layer => ?_) name
  cases layer with
  | color rgb alpha => rfl
  | scalar values => rfl

theorem geometry?_gather (quantity : GeometryQuantity) :
    geometry? (ctx.gather picks) quantity =
      (ctx.geometry? quantity).map (ShadeGraph.gather picks) := by
  cases quantity <;> rfl

end Context
end

namespace Interleaved

/-- The items of `width` values of the elements that are picked. -/
def gather (width : Nat) (picks : Vector (Fin n) m) (buffer : Array β) : Array β :=
  picks.toArray.flatMap fun i : Fin n => buffer.extract (i.val * width) (i.val * width + width)

theorem take_drop_flatMap {f : γ → List β} {width : Nat} (wide : ∀ c, (f c).length = width)
    (cs : List γ) {i : Nat} (h : i < cs.length) :
    ((cs.flatMap f).drop (i * width)).take width = f cs[i] := by
  induction cs generalizing i with
  | nil => exact absurd h (Nat.not_lt_zero i)
  | cons c cs ih =>
    rw [List.flatMap_cons]
    cases i with
    | zero =>
      rw [Nat.zero_mul, List.drop_zero, ← wide c, List.take_left]
      rfl
    | succ i =>
      have next : (i + 1) * width = (f c).length + i * width := by
        rw [wide c, Nat.succ_mul, Nat.add_comm]
      rw [next, List.drop_length_add_append]
      exact ih (Nat.lt_of_succ_lt_succ h)

theorem getElem?_flatMap {f : γ → Array β} {width : Nat} (wide : ∀ c, (f c).size = width)
    (cs : Array γ) {i place : Nat} (h : i < cs.size) (inside : place < width) :
    (cs.flatMap f)[i * width + place]? = (f cs[i])[place]? := by
  have item := take_drop_flatMap (f := fun c => (f c).toList) (fun c => wide c) cs.toList h
  rw [← Array.getElem?_toList, Array.toList_flatMap, ← Array.getElem?_toList,
    ← List.getElem?_drop, ← List.getElem?_take_of_lt inside, item, Array.getElem_toList]

theorem size_flatMap {f : γ → Array β} {width : Nat} (wide : ∀ c, (f c).size = width)
    (cs : Array γ) : (cs.flatMap f).size = cs.size * width := by
  have lengths : (fun c => (f c).toList.length) = fun _ => width := funext wide
  rw [← Array.length_toList, Array.toList_flatMap, List.length_flatMap, lengths]
  simp [List.map_const']

/-- Two buffers of as many items that agree at every place of every item. -/
theorem ext_items {xs ys : Array β} {width : Nat} (xsSize : xs.size = n * width)
    (ysSize : ys.size = n * width)
    (same : ∀ i < n, ∀ place < width, xs[i * width + place]? = ys[i * width + place]?) :
    xs = ys := by
  apply Array.ext_getElem?
  intro place
  by_cases inside : place < n * width
  · have item : place / width < n := Nat.div_lt_of_lt_mul (Nat.mul_comm n width ▸ inside)
    have wide : 0 < width := Nat.pos_of_ne_zero fun none => by simp [none] at inside
    have here := same (place / width) item (place % width) (Nat.mod_lt _ wide)
    rwa [Nat.div_add_mod'] at here
  · rw [Array.getElem?_eq_none (by omega), Array.getElem?_eq_none (by omega)]

/-- Items laid out one after another are picked as what they stand for is. -/
theorem gather_flatMap {f : γ → Array β} {width : Nat} (wide : ∀ c, (f c).size = width)
    (picks : Vector (Fin n) m) (cs : Vector γ n) :
    gather width picks (cs.toArray.flatMap f) = (ShadeGraph.gather picks cs).toArray.flatMap f := by
  rw [gather, ShadeGraph.gather, Vector.toArray_map, Array.flatMap_map]
  congr
  funext i
  apply Array.toList_inj.1
  have bound : i.val < cs.toArray.toList.length := by simp
  have item := take_drop_flatMap (f := fun c => (f c).toList) (fun c => wide c) _ bound
  simpa [Array.toList_flatMap, List.extract_eq_take_drop, Vector.get] using item

variable (picks : Vector (Fin n) m)

theorem gather_ofColors (colors : Vector (Vec3 α) n) :
    gather 3 picks (ofColors colors.toArray) =
      ofColors (ShadeGraph.gather picks colors).toArray :=
  gather_flatMap (f := fun c : Vec3 α => #[c.x, c.y, c.z]) (fun _ => rfl) picks colors

theorem gather_scalars (scalars : Vector α n) :
    gather 1 picks scalars.toArray = (ShadeGraph.gather picks scalars).toArray := by
  have one := gather_flatMap (f := fun v : α => #[v]) (fun _ => rfl) picks scalars
  simpa using one

end Interleaved
end ShadeGraph
