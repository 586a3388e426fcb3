import ShadeGraph.Expr.Eval
import ShadeGraph.Expr.Substitute
import ShadeGraph.Proofs.Outcome

/-!
# What an operation sees of its operands

An operation reads each operand as colours or as scalars. Operands that read the
same can stand for one another.
-/

namespace ShadeGraph.Expr

variable {α : Type} {n : Nat}

/-- The children that are read as scalars. -/
@[simp]
def scalarOperands : Expr α → List (Expr α)
  | math _ _ a b c => [a, b, c]
  | vectorMath _ _ _ _ scale => [scale]
  | mix _ _ fac _ _ => [fac]
  | invert fac _ => [fac]
  | clamp _ value min max => [value, min, max]
  | brightContrast _ bright contrast => [bright, contrast]
  | gamma _ exponent => [exponent]
  | combine _ x y z => [x, y, z]
  | colorRamp _ _ _ fac => [fac]
  | mapRange _ _ value fromMin fromMax toMin toMax steps =>
    [value, fromMin, fromMax, toMin, toMax, steps]
  | hueSaturation hue saturation value fac _ => [hue, saturation, value, fac]
  | _ => []

/-- The children that are read as colours. -/
@[simp]
def colorOperands : Expr α → List (Expr α)
  | vectorMath _ a b c _ => [a, b, c]
  | vectorMeasure _ a b => [a, b]
  | mix _ _ _ color1 color2 => [color1, color2]
  | invert _ color => [color]
  | grayscale color => [color]
  | brightContrast color _ _ => [color]
  | gamma color _ => [color]
  | separate _ _ input => [input]
  | hueSaturation _ _ _ _ color => [color]
  | _ => []

/-- The child whose value is handed on as it is. -/
@[simp]
def passedOn : Expr α → List (Expr α)
  | group _ inner => [inner]
  | _ => []

variable [Arithmetic α] [Elementary α] {ctx : Context α n} {a b : Expr α} {β : Type}
  {f g : Signal α n → Except EvalError β}

theorem bind_scalars (same : a.evalScalar ctx = b.evalScalar ctx)
    (rest : ∀ s t, s.scalars = t.scalars → f s = g t) : (a.eval ctx >>= f) = (b.eval ctx >>= g) :=
  bind_congr_map same rest

theorem bind_colors (same : a.evalColor ctx = b.evalColor ctx)
    (rest : ∀ s t, s.colors = t.colors → f s = g t) : (a.eval ctx >>= f) = (b.eval ctx >>= g) :=
  bind_congr_map same rest

/-- An operation has one value over operands that read the same. -/
theorem eval_mapChildren_congr {f g : Expr α → Expr α} {e : Expr α}
    (scalars : ∀ a ∈ e.scalarOperands, (f a).evalScalar ctx = (g a).evalScalar ctx)
    (colors : ∀ a ∈ e.colorOperands, (f a).evalColor ctx = (g a).evalColor ctx)
    (passed : ∀ a ∈ e.passedOn, (f a).eval ctx = (g a).eval ctx) :
    (e.mapChildren f).eval ctx = (e.mapChildren g).eval ctx := by
  cases e with
  | constColor | constScalar | attributeColor | attributeScalar | geometry | groupInput => rfl
  | group name inner => exact passed inner (by simp)
  | math operation k a b c =>
    simp only [scalarOperands, List.forall_mem_cons] at scalars
    obtain ⟨ha, hb, hc, -⟩ := scalars
    exact bind_congr fun op => bind_scalars ha fun _ _ x => bind_scalars hb fun _ _ y =>
      bind_scalars hc fun _ _ z => by rw [x, y, z]
  | vectorMath operation a b c scale =>
    simp only [scalarOperands, colorOperands, List.forall_mem_cons] at scalars colors
    obtain ⟨⟨hs, -⟩, ha, hb, hc, -⟩ := And.intro scalars colors
    exact bind_congr fun op => bind_colors ha fun _ _ x => bind_colors hb fun _ _ y =>
      bind_colors hc fun _ _ z => bind_scalars hs fun _ _ w => by rw [x, y, z, w]
  | vectorMeasure operation a b =>
    simp only [colorOperands, List.forall_mem_cons] at colors
    obtain ⟨ha, hb, -⟩ := colors
    exact bind_congr fun op => bind_colors ha fun _ _ x => bind_colors hb fun _ _ y => by
      rw [x, y]
  | mix blend k fac color1 color2 =>
    simp only [scalarOperands, colorOperands, List.forall_mem_cons] at scalars colors
    obtain ⟨⟨hs, -⟩, ha, hb, -⟩ := And.intro scalars colors
    exact bind_congr fun op => bind_scalars hs fun _ _ w => bind_colors ha fun _ _ x =>
      bind_colors hb fun _ _ y => by rw [w, x, y]
  | invert fac color =>
    simp only [scalarOperands, colorOperands, List.forall_mem_cons] at scalars colors
    exact bind_scalars scalars.1 fun _ _ w => bind_colors colors.1 fun _ _ x => by rw [w, x]
  | grayscale color =>
    simp only [colorOperands, List.forall_mem_cons] at colors
    exact bind_colors colors.1 fun _ _ x => by rw [x]
  | clamp mode value min max =>
    simp only [scalarOperands, List.forall_mem_cons] at scalars
    obtain ⟨ha, hb, hc, -⟩ := scalars
    show (clamp mode (f value) (f min) (f max)).eval ctx =
      (clamp mode (g value) (g min) (g max)).eval ctx
    rw [eval, eval, evalIn, evalIn]
    by_cases range : mode ≠ "MINMAX"
    · rw [if_pos range, if_pos range]
      rfl
    · rw [if_neg range, if_neg range]
      exact bind_scalars ha fun _ _ x => bind_scalars hb fun _ _ y =>
        bind_scalars hc fun _ _ z => by rw [x, y, z]
  | brightContrast color bright contrast =>
    simp only [scalarOperands, colorOperands, List.forall_mem_cons] at scalars colors
    obtain ⟨hb, hc, -⟩ := scalars
    exact bind_colors colors.1 fun _ _ x => bind_scalars hb fun _ _ y =>
      bind_scalars hc fun _ _ z => by rw [x, y, z]
  | gamma color exponent =>
    simp only [scalarOperands, colorOperands, List.forall_mem_cons] at scalars colors
    exact bind_colors colors.1 fun _ _ x => bind_scalars scalars.1 fun _ _ w => by rw [x, w]
  | separate space channel input =>
    simp only [colorOperands, List.forall_mem_cons] at colors
    exact bind_colors colors.1 fun _ _ x => by rw [x]
  | combine space a b c =>
    simp only [scalarOperands, List.forall_mem_cons] at scalars
    obtain ⟨ha, hb, hc, -⟩ := scalars
    exact bind_scalars ha fun _ _ x => bind_scalars hb fun _ _ y =>
      bind_scalars hc fun _ _ z => by rw [x, y, z]
  | colorRamp output interpolation stops fac =>
    simp only [scalarOperands, List.forall_mem_cons] at scalars
    cases stops with
    | nil => rfl
    | cons first rest => exact bind_scalars scalars.1 fun _ _ w => by rw [w]
  | mapRange interpolation k a b c d e f' =>
    simp only [scalarOperands, List.forall_mem_cons] at scalars
    obtain ⟨ha, hb, hc, hd, he, hf, -⟩ := scalars
    exact bind_scalars ha fun _ _ x => bind_scalars hb fun _ _ y => bind_scalars hc fun _ _ z =>
      bind_scalars hd fun _ _ x' => bind_scalars he fun _ _ y' => bind_scalars hf fun _ _ z' => by
        rw [x, y, z, x', y', z']
  | hueSaturation hue saturation value fac color =>
    simp only [scalarOperands, colorOperands, List.forall_mem_cons] at scalars colors
    obtain ⟨ha, hb, hc, hd, -⟩ := scalars
    exact bind_scalars ha fun _ _ x => bind_scalars hb fun _ _ y => bind_scalars hc fun _ _ z =>
      bind_scalars hd fun _ _ w => bind_colors colors.1 fun _ _ v => by rw [x, y, z, w, v]

end ShadeGraph.Expr
