import Mathlib.Algebra.Field.Rat
import Mathlib.Tactic.NormNum.OfScientific
import Mathlib.Tactic.Ring
import ShadeGraph.Number.Exact
import ShadeGraph.Proofs.Expr.Buffers
import ShadeGraph.Proofs.Expr.Operands

/-!
# Greys over the rationals

Exact arithmetic gives a grey its own value as luminance, and mixing goes along
with luminance. A mix shows a colour in full where the colour has a share in it.
-/

namespace ShadeGraph

namespace Vec3

theorem luminance_grey (v : Rat) : (grey v).luminance = v := by
  show v * 0.2126 + v * 0.7152 + v * 0.0722 = v
  ring

/-- What is left of a colour that is read as a scalar. -/
def greyed (c : Vec3 Rat) : Vec3 Rat := grey c.luminance

theorem luminance_greyed (c : Vec3 Rat) : c.greyed.luminance = c.luminance :=
  luminance_grey c.luminance

/-- One colour mixed over another, as a mix of its channels. -/
def lerp (t : Rat) (a b : Vec3 Rat) : Vec3 Rat := a.zipWith (ShadeGraph.lerp t) b

theorem luminance_lerp (t : Rat) (a b : Vec3 Rat) :
    (lerp t a b).luminance = ShadeGraph.lerp t a.luminance b.luminance := by
  show ((1 - t) * a.x + t * b.x) * 0.2126 + ((1 - t) * a.y + t * b.y) * 0.7152 +
      ((1 - t) * a.z + t * b.z) * 0.0722 =
    (1 - t) * (a.x * 0.2126 + a.y * 0.7152 + a.z * 0.0722) +
      t * (b.x * 0.2126 + b.y * 0.7152 + b.z * 0.0722)
  ring

end Vec3

theorem lerp_left_iff (t a a' b : Rat) : lerp t a b = lerp t a' b ↔ 1 - t = 0 ∨ a = a' := by
  have difference : lerp t a b - lerp t a' b = (1 - t) * (a - a') := by
    show (1 - t) * a + t * b - ((1 - t) * a' + t * b) = (1 - t) * (a - a')
    ring
  rw [← sub_eq_zero, difference, mul_eq_zero, sub_eq_zero (a := a)]

theorem lerp_right_iff (t a b b' : Rat) : lerp t a b = lerp t a b' ↔ t = 0 ∨ b = b' := by
  have difference : lerp t a b - lerp t a b' = t * (b - b') := by
    show (1 - t) * a + t * b - ((1 - t) * a + t * b') = t * (b - b')
    ring
  rw [← sub_eq_zero, difference, mul_eq_zero, sub_eq_zero (a := b)]

namespace Vec3

theorem lerp_left_iff (t : Rat) (a a' b : Vec3 Rat) :
    lerp t a b = lerp t a' b ↔ 1 - t = 0 ∨ a = a' := by
  obtain ⟨x, y, z⟩ := a
  obtain ⟨x', y', z'⟩ := a'
  simp only [lerp, zipWith, mk.injEq, ShadeGraph.lerp_left_iff]
  tauto

theorem lerp_right_iff (t : Rat) (a b b' : Vec3 Rat) :
    lerp t a b = lerp t a b' ↔ t = 0 ∨ b = b' := by
  obtain ⟨x, y, z⟩ := b
  obtain ⟨x', y', z'⟩ := b'
  simp only [lerp, zipWith, mk.injEq, ShadeGraph.lerp_right_iff]
  tauto

theorem lerp_greyed_left (t : Rat) (a b : Vec3 Rat) :
    (lerp t a.greyed b).luminance = (lerp t a b).luminance := by
  rw [luminance_lerp, luminance_lerp, luminance_greyed]

theorem lerp_greyed_right (t : Rat) (a b : Vec3 Rat) :
    (lerp t a b.greyed).luminance = (lerp t a b).luminance := by
  rw [luminance_lerp, luminance_lerp, luminance_greyed]

end Vec3

theorem ofFn_eq_iff {β : Type} {n : Nat} {f g : Fin n → β} :
    Vector.ofFn f = Vector.ofFn g ↔ ∀ i, f i = g i := by
  constructor
  · intro same i
    have here : (Vector.ofFn f)[i] = (Vector.ofFn g)[i] := by rw [same]
    simpa using here
  · intro same
    rw [funext same]

/-- A blend with one colour made grey has the luminance it had, and is the same
blend where that colour has no share or is grey. -/
theorem blend_greyed {n : Nat} {share : Rat → Rat} {blend : Rat → Vec3 Rat → Vec3 Rat → Vec3 Rat}
    (shares : ∀ t c c' d, blend t c d = blend t c' d ↔ share t = 0 ∨ c = c')
    (reads : ∀ t c d, (blend t c.greyed d).luminance = (blend t c d).luminance)
    (t : Vector Rat n) (c d : Vector (Vec3 Rat) n) :
    let greyed := Vector.ofFn fun i => blend (t.get i) ((c.map Vec3.greyed).get i) (d.get i)
    let full := Vector.ofFn fun i => blend (t.get i) (c.get i) (d.get i)
    greyed.map Vec3.luminance = full.map Vec3.luminance ∧
      (greyed = full ↔ ∀ i, share (t.get i) = 0 ∨ c.get i = (c.get i).greyed) := by
  intro greyed full
  have made (i : Fin n) : (c.map Vec3.greyed).get i = (c.get i).greyed :=
    Vector.getElem_map Vec3.greyed i.isLt
  constructor
  · rw [Vector.map_ofFn, Vector.map_ofFn, ofFn_eq_iff]
    intro i
    show (blend _ _ _).luminance = (blend _ _ _).luminance
    rw [made, reads]
  · rw [ofFn_eq_iff]
    refine forall_congr' fun i => ?_
    rw [made, shares, eq_comm (a := c.get i)]

namespace Expr

variable [Elementary Rat] {n : Nat} (ctx : Context Rat n)

/-- A scalar reading survives being made grey. -/
theorem evalScalar_grayscale (e : Expr Rat) : (grayscale e).evalScalar ctx = e.evalScalar ctx := by
  rw [evalScalar, evalScalar, eval, evalIn, ← eval]
  cases e.eval ctx with
  | error fault => rfl
  | ok s =>
    have same : s.colors.map Vec3.luminance = s.scalars := by
      cases s with
      | color v => rfl
      | scalar v =>
        show (v.map Vec3.grey).map Vec3.luminance = v
        rw [Vector.map_map, show Vec3.luminance ∘ Vec3.grey = id from funext Vec3.luminance_grey,
          Vector.map_id]
    exact congrArg Except.ok same

theorem evalColor_grayscale (e : Expr Rat) :
    (grayscale e).evalColor ctx = (e.evalColor ctx).map (Vector.map Vec3.greyed) := by
  rw [evalColor, evalColor, eval, evalIn, ← eval]
  cases e.eval ctx with
  | error fault => rfl
  | ok s => exact congrArg Except.ok (Vector.map_map ..)

/-- An expression that computes colours has their luminance for scalars. -/
theorem evalScalar_of_color {e : Expr Rat} (color : e.isScalar = false) :
    e.evalScalar ctx = (e.evalColor ctx).map (Vector.map Vec3.luminance) := by
  have shape := eval_isScalar ctx e
  rw [evalScalar, evalColor]
  cases value : e.eval ctx with
  | error fault => rfl
  | ok s =>
    have same : s.isScalar = e.isScalar := shape.ok value
    cases s with
    | color v => rfl
    | scalar v =>
      rw [color] at same
      cases same

variable (fac a b : Expr Rat)

/-- A mix of scalars, as it is evaluated: it blends colours. -/
theorem evalColor_mix : (mix "MIX" false fac a b).evalColor ctx = do
    let t ← fac.evalScalar ctx
    let x ← a.evalColor ctx
    let y ← b.evalColor ctx
    return Vector.ofFn fun i => Vec3.lerp (t.get i) (x.get i) (y.get i) := by
  rw [evalColor, evalScalar, evalColor, evalColor, eval, evalIn]
  simp only [bind_assoc, pure_bind]
  rfl

/-- Greying the first colour of a mix keeps its luminance, and the mix itself
just where the first colour has no share or is grey. -/
theorem mix_greyed_left :
    (mix "MIX" false fac (grayscale a) b).evalScalar ctx =
        (mix "MIX" false fac a b).evalScalar ctx ∧
      ((mix "MIX" false fac (grayscale a) b).evalColor ctx =
          (mix "MIX" false fac a b).evalColor ctx ↔
        ∀ colors t x, (mix "MIX" false fac a b).evalColor ctx = .ok colors →
          fac.evalScalar ctx = .ok t → a.evalColor ctx = .ok x →
          ∀ i, 1 - t.get i = 0 ∨ x.get i = (x.get i).greyed) := by
  rw [evalScalar_of_color ctx rfl, evalScalar_of_color ctx rfl, evalColor_mix, evalColor_mix,
    evalColor_grayscale]
  cases fac.evalScalar ctx with
  | error fault => exact ⟨rfl, fun _ _ _ _ mixed => (nomatch mixed), fun _ => rfl⟩
  | ok t =>
    cases a.evalColor ctx with
    | error fault => exact ⟨rfl, fun _ _ _ _ mixed => (nomatch mixed), fun _ => rfl⟩
    | ok x =>
      cases b.evalColor ctx with
      | error fault => exact ⟨rfl, fun _ _ _ _ mixed => (nomatch mixed), fun _ => rfl⟩
      | ok y =>
        obtain ⟨read, seen⟩ := blend_greyed Vec3.lerp_left_iff Vec3.lerp_greyed_left t x y
        refine ⟨congrArg Except.ok read, fun same => ?_, fun all => ?_⟩
        · rintro _ _ _ - ⟨⟩ ⟨⟩
          exact seen.1 (Except.ok.inj same)
        · exact congrArg Except.ok (seen.2 (all _ t x rfl rfl rfl))

/-- Greying the second colour of a mix keeps its luminance, and the mix itself
just where the second colour has no share or is grey. -/
theorem mix_greyed_right :
    (mix "MIX" false fac a (grayscale b)).evalScalar ctx =
        (mix "MIX" false fac a b).evalScalar ctx ∧
      ((mix "MIX" false fac a (grayscale b)).evalColor ctx =
          (mix "MIX" false fac a b).evalColor ctx ↔
        ∀ colors t y, (mix "MIX" false fac a b).evalColor ctx = .ok colors →
          fac.evalScalar ctx = .ok t → b.evalColor ctx = .ok y →
          ∀ i, t.get i = 0 ∨ y.get i = (y.get i).greyed) := by
  rw [evalScalar_of_color ctx rfl, evalScalar_of_color ctx rfl, evalColor_mix, evalColor_mix,
    evalColor_grayscale]
  cases fac.evalScalar ctx with
  | error fault => exact ⟨rfl, fun _ _ _ _ mixed => (nomatch mixed), fun _ => rfl⟩
  | ok t =>
    cases a.evalColor ctx with
    | error fault => exact ⟨rfl, fun _ _ _ _ mixed => (nomatch mixed), fun _ => rfl⟩
    | ok x =>
      cases b.evalColor ctx with
      | error fault => exact ⟨rfl, fun _ _ _ _ mixed => (nomatch mixed), fun _ => rfl⟩
      | ok y =>
        have shares (t : Rat) (c c' d : Vec3 Rat) :
            Vec3.lerp t d c = Vec3.lerp t d c' ↔ t = 0 ∨ c = c' := Vec3.lerp_right_iff t d c c'
        obtain ⟨read, seen⟩ :=
          blend_greyed shares (fun t c d => Vec3.lerp_greyed_right t d c) t y x
        refine ⟨congrArg Except.ok read, fun same => ?_, fun all => ?_⟩
        · rintro _ _ _ - ⟨⟩ ⟨⟩
          exact seen.1 (Except.ok.inj same)
        · exact congrArg Except.ok (seen.2 (all _ t y rfl rfl rfl))

end Expr
end ShadeGraph
