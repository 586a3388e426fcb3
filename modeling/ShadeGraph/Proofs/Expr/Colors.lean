import ShadeGraph.Expr.Eval
import ShadeGraph.Proofs.Color.Hsv
import ShadeGraph.Proofs.Color.Turned
import ShadeGraph.Proofs.Document.Loaded
import ShadeGraph.Proofs.Operation.Blend
import ShadeGraph.Proofs.Outcome

/-!
# Colours of expressions over the rationals

An expression works on the colours of all elements at once, but on each by
itself. So what is known of reading a colour back, of blending two colours and of
turning a hue holds of what expressions make of them, element by element.
-/

namespace ShadeGraph

/-- A mode is reached by its name. -/
theorem BlendMode.find_name (mode : BlendMode) :
    OpFamily.blend.find BlendMode (Named.name mode) = .ok mode := by
  cases mode <;> rfl

namespace Expr

section

variable [Elementary Rat] {n : Nat} (ctx : Context Rat n)

/-- Taken apart into hue, saturation and value and put together again, an
expression has the colours that are read back from its own. -/
theorem evalColor_rejoined (e : Expr Rat) :
    (combine .hsv (separate .hsv 0 e) (separate .hsv 1 e) (separate .hsv 2 e)).evalColor ctx =
      (e.evalColor ctx).map (Vector.map fun c => Vec3.ofHsv c.toHsv) := by
  rw [evalColor, evalColor, eval, evalIn, evalIn, evalIn, evalIn, ← eval]
  cases e.eval ctx with
  | error fault => rfl
  | ok s =>
    refine congrArg Except.ok (Vector.ext fun i hi => ?_)
    show (Vector.ofFn fun i => Vec3.ofHsv ⟨(s.colors.map fun c => c.toHsv.get 0).get i,
      (s.colors.map fun c => c.toHsv.get 1).get i,
      (s.colors.map fun c => c.toHsv.get 2).get i⟩)[i] = (s.colors.map _)[i]
    rw [Vector.getElem_ofFn, Vector.getElem_map, Vector.get_map, Vector.get_map, Vector.get_map]
    rfl

variable {ctx} {mode : BlendMode} {clamp : Bool} {fac a b : Expr Rat} {t : Vector Rat n}
  {x y : Vector (Vec3 Rat) n}

/-- A mix blends its colours element by element. -/
theorem evalColor_blend (hfac : fac.evalScalar ctx = .ok t) (ha : a.evalColor ctx = .ok x)
    (hb : b.evalColor ctx = .ok y) :
    (mix (Named.name mode) clamp fac a b).evalColor ctx =
      .ok (Vector.ofFn fun i => mode.blend clamp (t.get i) (x.get i) (y.get i)) := by
  obtain ⟨s, hs, rfl⟩ := map_eq_ok.1 hfac
  obtain ⟨c, hc, rfl⟩ := map_eq_ok.1 ha
  obtain ⟨d, hd, rfl⟩ := map_eq_ok.1 hb
  rw [evalColor, eval, evalIn, mode.find_name, ← eval, ← eval, ← eval, hs, hc, hd]
  rfl

end

/-- Reading a colour as hue, saturation and value and back takes off no more than
the guard, and nothing off a grey; so does an expression that is taken apart and
put together again. -/
theorem rejoins_colors :
    (∀ c : Vec3 Rat, (∀ k, 0 ≤ c.get k) → c.ReadsBack) ∧
      (∀ v : Rat, Vec3.ofHsv (Vec3.grey v).toHsv = Vec3.grey v) ∧
      ∀ [Elementary Rat] {n : Nat} (ctx : Context Rat n) (e : Expr Rat),
        Parallel (fun colors back => ∀ i : Fin n, (∀ k, 0 ≤ (colors.get i).get k) →
            ∀ k, |(back.get i).get k - (colors.get i).get k| ≤ 1e-20)
          (e.evalColor ctx)
          ((combine .hsv (separate .hsv 0 e) (separate .hsv 1 e) (separate .hsv 2 e)).evalColor
            ctx) := by
  refine ⟨fun c bright => Vec3.readsBack bright, Vec3.ofHsv_toHsv_grey, ?_⟩
  intro _ n ctx e
  rw [evalColor_rejoined]
  refine (Parallel.of_map _ _).mono ?_
  rintro colors _ rfl i bright k
  rw [Vector.get_map]
  exact (Vec3.readsBack bright).near k

section

local instance rejoinedNumbers : Elementary Rat := Sample.elementary

/-- An orange comes back paler, by no more than the guard. -/
theorem rejoins_orange :
    let orange : Vec3 Rat := ⟨1, 1 / 2, 1 / 4⟩
    let e : Expr Rat := constColor orange
    let bare : Context Rat 1 := ⟨[], none, none⟩
    (∀ k, 0 ≤ orange.get k) ∧ orange.ReadsBack ∧
      ∃ back, (combine .hsv (separate .hsv 0 e) (separate .hsv 1 e) (separate .hsv 2 e)).evalColor
          bare = .ok #v[back] ∧
        back ≠ orange ∧ ∀ k, |back.get k - orange.get k| ≤ 1e-20 := by
  intro orange e bare
  have bright : ∀ k, 0 ≤ orange.get k := by decide +kernel
  obtain ⟨reads, -, rejoins⟩ := rejoins_colors
  have value := evalColor_rejoined bare e
  have own : (e.evalColor bare).map (Vector.map fun c => Vec3.ofHsv c.toHsv) =
      .ok #v[Vec3.ofHsv orange.toHsv] := congrArg Except.ok Vector.map_replicate
  rw [own] at value
  have near := rejoins bare e
  rw [value] at near
  exact ⟨bright, reads orange bright, _, value, by decide +kernel, near 0 bright⟩

end

/-- What a mix with colours and factors of the unit range gives is in the unit
range, where it is clamped or its mode keeps to that range; burning is always
clamped. -/
theorem mix_inUnit [Elementary Rat] {n : Nat} {ctx : Context Rat n} (mode : BlendMode)
    (clamp : Bool) {fac a b : Expr Rat} {t : Vector Rat n} {x y : Vector (Vec3 Rat) n}
    (hfac : fac.evalScalar ctx = .ok t) (ha : a.evalColor ctx = .ok x)
    (hb : b.evalColor ctx = .ok y) :
    ∃ colors, (mix (Named.name mode) clamp fac a b).evalColor ctx = .ok colors ∧
      (clamp = true ∨ mode.keepsUnit = true → ∀ i, t.get i ∈ Set.Icc (0 : Rat) 1 →
        (x.get i).InUnit → (y.get i).InUnit → (colors.get i).InUnit) ∧
      (mode = .burn → ∀ i, (colors.get i).InUnit) := by
  refine ⟨_, evalColor_blend hfac ha hb, fun safe i ht hc hd => ?_, ?_⟩
  · rw [Vector.get_ofFn]
    exact BlendMode.inUnit_blend safe ht hc hd
  · rintro rfl i
    rw [Vector.get_ofFn]
    exact BlendMode.inUnit_blend_burn clamp _ _ _

section

local instance mixedNumbers : Elementary Rat := Sample.elementary

/-- Where a mask lets blue through, the saturation of an orange grows, and stays
in the unit range though nothing clamps it. -/
theorem mix_inUnit_saturation :
    let orange : Vec3 Rat := ⟨1, 1 / 2, 1 / 4⟩
    let blue : Vec3 Rat := ⟨0, 0, 1⟩
    let masked : Expr Rat := attributeScalar "mask" .fac
    orange.InUnit ∧ blue.InUnit ∧
      ∃ colors, (mix "SATURATION" false masked (constColor orange) (constColor blue)).evalColor
          Sample.context = .ok colors ∧ ∀ i, (colors.get i).InUnit := by
  intro orange blue masked
  have warm : orange.InUnit := by decide +kernel
  have cold : blue.InUnit := by decide +kernel
  have mask : masked.evalScalar Sample.context = .ok #v[1 / 4, 3 / 4] := rfl
  have factors : ∀ i, (#v[1 / 4, 3 / 4] : Vector Rat 2).get i ∈ Set.Icc (0 : Rat) 1 := by
    decide +kernel
  have plain (c : Vec3 Rat) :
      (constColor c).evalColor Sample.context = .ok (Vector.replicate 2 c) := rfl
  have everywhere {c : Vec3 Rat} (unit : c.InUnit) (i : Fin 2) :
      ((Vector.replicate 2 c).get i).InUnit := by
    rw [Vector.get_eq_getElem, Vector.getElem_replicate]
    exact unit
  obtain ⟨colors, value, kept, -⟩ :=
    mix_inUnit .saturation false mask (plain orange) (plain blue)
  exact ⟨warm, cold, colors, value,
    fun i => kept (.inr rfl) i (factors i) (everywhere warm i) (everywhere cold i)⟩

end

section

variable [Elementary Rat] {n : Nat} {ctx : Context Rat n}
  {hue hue' saturation value fac color : Expr Rat} {u u' : Vector Rat n}
  {colors : Vector (Vec3 Rat) n}

/-- Where its hue and its colour have values, an expression turns the hues of that
colour element by element. -/
theorem evalColor_hueSaturation (hu : hue.evalScalar ctx = .ok u)
    (hc : color.evalColor ctx = .ok colors) :
    (hueSaturation hue saturation value fac color).evalColor ctx = (do
      let s ← saturation.evalScalar ctx
      let v ← value.evalScalar ctx
      let f ← fac.evalScalar ctx
      return Vector.ofFn fun i =>
        (colors.get i).hueSaturation (u.get i) (s.get i) (v.get i) (f.get i)) := by
  obtain ⟨x, hx, rfl⟩ := map_eq_ok.1 hu
  obtain ⟨y, hy, rfl⟩ := map_eq_ok.1 hc
  rw [evalColor, eval, evalIn, ← eval, ← eval, ← eval, ← eval, ← eval, hx, hy, evalScalar,
    evalScalar, evalScalar]
  cases saturation.eval ctx with
  | error => rfl
  | ok s =>
    cases value.eval ctx with
    | error => rfl
    | ok v =>
      cases fac.eval ctx with
      | error => rfl
      | ok f => rfl

/-- Hues that show the same at every element can stand for one another. -/
theorem evalColor_hueSaturation_congr (hu : hue.evalScalar ctx = .ok u)
    (hu' : hue'.evalScalar ctx = .ok u') (hc : color.evalColor ctx = .ok colors)
    (same : ∀ i s v f, (colors.get i).hueSaturation (u'.get i) s v f =
      (colors.get i).hueSaturation (u.get i) s v f) :
    (hueSaturation hue' saturation value fac color).evalColor ctx =
      (hueSaturation hue saturation value fac color).evalColor ctx := by
  rw [evalColor_hueSaturation hu hc, evalColor_hueSaturation hu' hc]
  simp only [same]

end

/-- Hues whole turns apart show the same colour at every saturation, value and
factor exactly if the colour has no hue, or its turned hue is at the start of the
wheel, or both turned hues lie on one side of zero. Expressions with such hues
have the same colours. -/
theorem turns_hues :
    (∀ c : Vec3 Rat, (∀ k, 0 ≤ c.get k) → ∀ (hue : Rat) (turns : Int),
      (∀ saturation value fac, c.hueSaturation (hue + turns) saturation value fac =
        c.hueSaturation hue saturation value fac) ↔ c.TurnsAlike hue turns) ∧
      ∀ [Elementary Rat] {n : Nat} (ctx : Context Rat n)
        (hue hue' saturation value fac color : Expr Rat) (u u' : Vector Rat n)
        (colors : Vector (Vec3 Rat) n),
        hue.evalScalar ctx = .ok u → hue'.evalScalar ctx = .ok u' →
        color.evalColor ctx = .ok colors → (∀ i k, 0 ≤ (colors.get i).get k) →
        (∀ i, ∃ turns : Int, u'.get i = u.get i + turns ∧
          (colors.get i).TurnsAlike (u.get i) turns) →
        (hueSaturation hue' saturation value fac color).evalColor ctx =
          (hueSaturation hue saturation value fac color).evalColor ctx := by
  refine ⟨fun c bright => Vec3.hueSaturation_add_iff bright, ?_⟩
  intro _ n ctx hue hue' saturation value fac color u u' colors hu hu' hc bright alike
  refine evalColor_hueSaturation_congr hu hu' hc fun i s v f => ?_
  obtain ⟨turns, apart, turned⟩ := alike i
  rw [apart]
  exact (Vec3.hueSaturation_add_iff (bright i) _ turns).2 turned s v f

section

local instance turnedNumbers : Elementary Rat := Sample.elementary

/-- A mask turns the hue of a green, and as much with whole turns added. -/
theorem turns_hues_masked :
    let green : Vec3 Rat := ⟨1 / 4, 1, 1 / 2⟩
    let mask : Expr Rat := attributeScalar "mask" .fac
    let more : Expr Rat := math "ADD" false mask (constScalar 2) (constScalar 0)
    let one : Expr Rat := constScalar 1
    (∀ k, 0 ≤ green.get k) ∧
      (∀ s v f, green.hueSaturation (-1 / 4 + (3 : Int)) s v f =
        green.hueSaturation (-1 / 4) s v f) ∧
      mask.evalScalar Sample.context = .ok #v[1 / 4, 3 / 4] ∧
      more.evalScalar Sample.context = .ok #v[9 / 4, 11 / 4] ∧
      (hueSaturation more one mask one (constColor green)).evalColor Sample.context =
        (hueSaturation mask one mask one (constColor green)).evalColor Sample.context := by
  intro green mask more one
  have bright : ∀ k, 0 ≤ green.get k := by decide +kernel
  obtain ⟨alike, shows⟩ := turns_hues
  have lit : green.toHsv.x ∈ Set.Ico (0 : Rat) 1 := (Vec3.readsBack bright).hue
  have front {hue : Rat} (half : -1 / 2 ≤ hue) : 0 ≤ green.turned hue := by
    unfold Vec3.turned
    linarith [lit.1]
  have turned {hue : Rat} (half : -1 / 2 ≤ hue) (turns : Nat) :
      green.TurnsAlike hue (turns : Int) :=
    .inr (.inr (.inl ⟨front half, front (le_add_of_le_of_nonneg half (by simp))⟩))
  have masked : mask.evalScalar Sample.context = .ok #v[1 / 4, 3 / 4] := rfl
  have added : more.evalScalar Sample.context = .ok #v[9 / 4, 11 / 4] := by cbv
  have plain : (constColor green).evalColor Sample.context = .ok (Vector.replicate 2 green) := rfl
  have everywhere (i : Fin 2) : (Vector.replicate 2 green).get i = green := by
    rw [Vector.get_eq_getElem, Vector.getElem_replicate]
  refine ⟨bright, (alike green bright _ 3).2 (turned (by norm_num) 3), masked, added, ?_⟩
  refine shows _ _ _ _ _ _ _ _ _ _ masked added plain (fun i => by rwa [everywhere]) ?_
  simp only [everywhere]
  exact Fin.forall_fin_two.2
    ⟨⟨2, by decide +kernel, turned (by decide +kernel) 2⟩,
      ⟨2, by decide +kernel, turned (by decide +kernel) 2⟩⟩

/-- A red is violet a quarter of a turn before the middle, and red again a whole
turn before that. -/
theorem red_turned_back :
    let red : Vec3 Rat := ⟨1, 0, 0⟩
    let one : Expr Rat := constScalar 1
    let bare : Context Rat 1 := ⟨[], none, none⟩
    let shown (hue : Rat) :=
      (hueSaturation (constScalar hue) one one one (constColor red)).evalColor bare
    (∀ k, 0 ≤ red.get k) ∧ shown (-3 / 4) ≠ shown (-3 / 4 + (1 : Int)) := by
  intro red one bare shown
  have shows (hue : Rat) : shown hue = .ok #v[red.hueSaturation hue 1 1 1] := rfl
  refine ⟨by decide +kernel, fun same => ?_⟩
  rw [shows, shows] at same
  have channels := congrArg (fun shown => shown[0].z) (Except.ok.inj same)
  exact absurd channels (by decide +kernel)

end

end Expr
end ShadeGraph
