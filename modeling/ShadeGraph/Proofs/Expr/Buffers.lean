import ShadeGraph.Expr.Buffers
import ShadeGraph.Proofs.Mesh.Interleaved
import ShadeGraph.Proofs.Outcome

/-!
# What buffers hold

The buffers of an expression hold its value, written out element by element, and
are refused for the same fault.
-/

namespace ShadeGraph

open Interleaved

variable {α : Type} {n : Nat}

namespace Signal

def isScalar : Signal α n → Bool
  | color _ => false
  | scalar _ => true

/-- A colour buffer that holds the colours of a signal. -/
def HeldAsColors (s : Signal α n) (buffer : Array α) : Prop :=
  buffer = ofColors s.colors.toArray

/-- A scalar buffer that holds the scalars of a signal. -/
def HeldAsScalars [Arithmetic α] (s : Signal α n) (buffer : Array α) : Prop :=
  buffer = s.scalars.toArray

end Signal

namespace Expr

variable [Arithmetic α]

theorem mapM_range_ok {β : Type} (f : Nat → β) :
    (Array.range n).mapM (fun i => (.ok (f i) : Except EvalError β)) = .ok (perElement n f) :=
  Array.mapM_pure

theorem mapM_range_zero {β : Type} (f : Nat → Except EvalError β) :
    (Array.range 0).mapM f = .ok #[] :=
  Array.mapM_empty f

/-- A fault of every element is met at the first one. -/
theorem mapM_range_error {β : Type} (nonempty : n ≠ 0) (e : EvalError) :
    (Array.range n).mapM (fun _ => (.error e : Except EvalError β)) = .error e := by
  obtain ⟨m, rfl⟩ := Nat.exists_eq_succ_of_ne_zero nonempty
  rw [Array.mapM_eq_mapM_toList, Array.toList_range, List.range_succ_eq_map, List.mapM_cons]
  rfl

/-- A ramp is sampled factor by factor. -/
theorem sampleRamp_parallel (beyond : α) (interpolation : String) (first : RampStop α)
    (rest : List (RampStop α)) (fac : Vector α n) :
    Parallel (fun colors samples => samples = colors.toArray)
      (sampleRamp interpolation first rest fac)
      ((Array.range n).mapM fun i =>
        rampColor interpolation first rest (scalarAt beyond fac.toArray i)) := by
  simp only [sampleRamp, rampColor]
  cases Named.find? RampMode interpolation with
  | some mode =>
    simp only [mapM_range_ok]
    exact perElement_map fun i => by simp
  | none =>
    by_cases single : rest = []
    · simp only [single, if_true, or_true, mapM_range_ok]
      exact perElement_map fun _ => rfl
    · simp only [single, if_false, or_false]
      by_cases empty : n = 0
      · subst empty
        rw [if_pos rfl, mapM_range_zero]
        exact (Array.eq_empty_of_size_eq_zero (Vector.size_toArray _)).symm
      · rw [if_neg empty, mapM_range_error empty]
        exact rfl

/-- A range is mapped value by value. -/
theorem sampleMapRange_parallel (beyond : α) (interpolation : String) (k : Bool)
    (value fromMin fromMax toMin toMax steps : Vector α n) :
    Parallel Signal.HeldAsScalars
      (do return .scalar (← sampleMapRange interpolation k value fromMin fromMax toMin toMax steps))
      ((Array.range n).mapM fun i =>
        mapRangeValue interpolation k (scalarAt beyond value.toArray i)
          (scalarAt beyond fromMin.toArray i) (scalarAt beyond fromMax.toArray i)
          (scalarAt beyond toMin.toArray i) (scalarAt beyond toMax.toArray i)
          (scalarAt beyond steps.toArray i)) := by
  simp only [sampleMapRange, mapRangeValue]
  cases Named.find? MapRangeMode interpolation with
  | some mode =>
    simp only [mapM_range_ok]
    exact perElement_ofFn fun i => by simp
  | none =>
    by_cases empty : n = 0
    · subst empty
      rw [if_pos rfl, mapM_range_zero]
      exact (Array.eq_empty_of_size_eq_zero value.size_toArray).symm
    · rw [if_neg empty, mapM_range_error empty]
      exact rfl

variable [Elementary α]

/-- An expression has a scalar value or a colour value by its shape alone. -/
theorem eval_isScalar (ctx : Context α n) (e : Expr α) :
    Ends (fun _ => True) (fun s => s.isScalar = e.isScalar) (e.eval ctx) := by
  induction e with
  | constColor | constScalar => exact rfl
  | groupInput => trivial
  | group _ inner ih => exact ih
  | attributeScalar name channel => cases channel <;> exact .after fun _ => rfl
  | attributeColor | geometry | grayscale | separate => exact .after fun _ => rfl
  | invert | gamma => exact .after fun _ => .after fun _ => rfl
  | vectorMeasure | brightContrast | combine =>
    exact .after fun _ => .after fun _ => .after fun _ => rfl
  | math | mix => exact .after fun _ => .after fun _ => .after fun _ => .after fun _ => rfl
  | clamp mode =>
    rw [eval, evalIn]
    by_cases range : mode ≠ "MINMAX"
    · rw [if_pos range]
      trivial
    · rw [if_neg range]
      exact .after fun _ => .after fun _ => .after fun _ => rfl
  | vectorMath | hueSaturation =>
    exact .after fun _ => .after fun _ => .after fun _ => .after fun _ => .after fun _ => rfl
  | mapRange =>
    exact .after fun _ => .after fun _ => .after fun _ => .after fun _ => .after fun _ =>
      .after fun _ => .after fun _ => rfl
  | colorRamp output interpolation stops fac =>
    cases stops with
    | nil => trivial
    | cons first rest =>
      refine .after fun _ => .after fun _ => ?_
      cases output <;> exact rfl

/-- Both buffers of an expression hold its value. -/
structure Held (beyond : α) (ctx : Context α n) (e : Expr α) : Prop where
  colors : Parallel Signal.HeldAsColors (e.eval ctx) (e.colorBuffer beyond ctx)
  scalars : Parallel Signal.HeldAsScalars (e.eval ctx) (e.scalarBuffer beyond ctx)

namespace Held

variable {beyond : α} {ctx : Context α n} {e : Expr α}

/-- What computes scalars itself spreads them for a colour buffer. -/
theorem of_scalars (scalar : e.isScalar = true)
    (spread : e.colorBuffer beyond ctx = do return broadcast (← e.scalarBuffer beyond ctx))
    (own : Parallel Signal.HeldAsScalars (e.eval ctx) (e.scalarBuffer beyond ctx)) :
    Held beyond ctx e := by
  refine ⟨?_, own⟩
  rw [spread]
  refine (own.and (eval_isScalar ctx e)).returns ?_
  rintro s buffer ⟨same, held⟩
  cases s with
  | color v =>
    rw [scalar] at same
    cases same
  | scalar v =>
    have held : buffer = v.toArray := held
    rw [held, broadcast_eq]
    exact congrArg ofColors Vector.toArray_map.symm

/-- What computes colours itself gives their luminance for a scalar buffer. -/
theorem of_colors (color : e.isScalar = false)
    (read : e.scalarBuffer beyond ctx = do return luminances beyond (← e.colorBuffer beyond ctx))
    (own : Parallel Signal.HeldAsColors (e.eval ctx) (e.colorBuffer beyond ctx)) :
    Held beyond ctx e := by
  refine ⟨own, ?_⟩
  rw [read]
  refine (own.and (eval_isScalar ctx e)).returns ?_
  rintro s buffer ⟨same, held⟩
  cases s with
  | color v =>
    have held : buffer = ofColors v.toArray := held
    rw [held, luminances_ofColors]
    exact Vector.toArray_map.symm
  | scalar v =>
    rw [color] at same
    cases same

variable {β γ : Type} {R : β → γ → Prop} {f : Signal α n → Except EvalError β}
  {g : Array α → Except EvalError γ}

/-- Going on with the colours of an operand. -/
theorem thenColors (h : Held beyond ctx e)
    (rest : ∀ s, Parallel R (f s) (g (ofColors s.colors.toArray))) :
    Parallel R (e.eval ctx >>= f) (e.colorBuffer beyond ctx >>= g) := by
  refine h.colors.bind ?_
  rintro s _ rfl
  exact rest s

/-- Going on with the scalars of an operand. -/
theorem thenScalars (h : Held beyond ctx e)
    (rest : ∀ s, Parallel R (f s) (g s.scalars.toArray)) :
    Parallel R (e.eval ctx >>= f) (e.scalarBuffer beyond ctx >>= g) := by
  refine h.scalars.bind ?_
  rintro s _ rfl
  exact rest s

end Held

/-- Both buffers of every expression hold its value. -/
theorem held (beyond : α) (ctx : Context α n) (e : Expr α) : Held beyond ctx e := by
  -- Every case first settles which buffer is computed and which is read off it.
  -- The operands hold their values, so the computed one reads the same numbers.
  induction e with
  | constScalar value =>
    refine .of_scalars rfl (by rw [colorBuffer]) ?_
    rw [scalarBuffer]
    exact Vector.toArray_replicate.symm
  | constColor rgb =>
    refine .of_colors rfl (by rw [scalarBuffer]) ?_
    rw [colorBuffer]
    exact congrArg ofColors Vector.toArray_replicate.symm
  | attributeColor name =>
    refine .of_colors rfl (by rw [scalarBuffer]) ?_
    rw [colorBuffer]
    exact .step fun _ => rfl
  | geometry quantity =>
    refine .of_colors rfl (by rw [scalarBuffer]) ?_
    rw [colorBuffer]
    exact .step fun _ => rfl
  | attributeScalar name channel =>
    refine .of_scalars rfl (by rw [colorBuffer]) ?_
    cases channel with
    | fac =>
      rw [scalarBuffer]
      exact .step fun _ => rfl
    | alpha =>
      rw [scalarBuffer]
      exact .step fun _ => rfl
  | math operation k _ _ _ ha hb hc =>
    refine .of_scalars rfl (by rw [colorBuffer]) ?_
    rw [scalarBuffer, eval, evalIn]
    exact .step fun op => ha.thenScalars fun a => hb.thenScalars fun b => hc.thenScalars fun c =>
      perElement_ofFn fun i => by simp
  | vectorMath operation _ _ _ _ ha hb hc hd =>
    refine .of_colors rfl (by rw [scalarBuffer]) ?_
    rw [colorBuffer, eval, evalIn]
    exact .step fun op => ha.thenColors fun a => hb.thenColors fun b => hc.thenColors fun c =>
      hd.thenScalars fun d => congrArg ofColors (perElement_ofFn fun i => by simp)
  | vectorMeasure operation _ _ ha hb =>
    refine .of_scalars rfl (by rw [colorBuffer]) ?_
    rw [scalarBuffer, eval, evalIn]
    exact .step fun op => ha.thenColors fun a => hb.thenColors fun b =>
      perElement_ofFn fun i => by simp
  | group name inner ih =>
    refine ⟨?_, ?_⟩
    · rw [colorBuffer]
      exact ih.colors
    · rw [scalarBuffer]
      exact ih.scalars
  | groupInput socket =>
    refine .of_colors rfl ?_ ?_
    · rw [scalarBuffer, colorBuffer]
      rfl
    · rw [colorBuffer]
      exact rfl
  | mix blend k _ _ _ ha hb hc =>
    refine .of_colors rfl (by rw [scalarBuffer]) ?_
    rw [colorBuffer, eval, evalIn]
    refine .step fun mode => ha.thenScalars fun a => hb.thenColors fun b =>
      hc.thenColors fun c => ?_
    have blended : perElement n (fun i => mode.apply (scalarAt beyond a.scalars.toArray i)
        (colorAt beyond (ofColors b.colors.toArray) i)
        (colorAt beyond (ofColors c.colors.toArray) i)) =
        (Vector.ofFn fun i =>
          mode.apply (a.scalars.get i) (b.colors.get i) (c.colors.get i)).toArray :=
      perElement_ofFn fun i => by simp
    rw [blended]
    -- The buffer is clamped number by number when it is done, the value colour by colour.
    by_cases clamps : mode.clamps k
    · simp only [if_pos clamps, map_ofColors]
      rw [← Vector.toArray_map, Vector.map_ofFn]
      exact rfl
    · simp only [if_neg clamps]
      exact rfl
  | invert _ _ ha hb =>
    refine .of_colors rfl (by rw [scalarBuffer]) ?_
    rw [colorBuffer, eval, evalIn]
    refine ha.thenScalars fun fac => hb.thenColors fun color => ?_
    rw [mapChannels_ofColors]
    exact congrArg ofColors (mapIdx_ofFn fun i => by simp [Vec3.invert])
  | brightContrast _ _ _ ha hb hc =>
    refine .of_colors rfl (by rw [scalarBuffer]) ?_
    rw [colorBuffer, eval, evalIn]
    refine ha.thenColors fun color => hb.thenScalars fun bright => hc.thenScalars fun contrast => ?_
    rw [mapChannels_ofColors]
    exact congrArg ofColors (mapIdx_ofFn fun i => by simp [Vec3.brightContrast])
  | gamma _ _ ha hb =>
    refine .of_colors rfl (by rw [scalarBuffer]) ?_
    rw [colorBuffer, eval, evalIn]
    refine ha.thenColors fun color => hb.thenScalars fun exponent => ?_
    rw [mapChannels_ofColors]
    exact congrArg ofColors (mapIdx_ofFn fun i => by simp [Vec3.gamma])
  | grayscale _ ha =>
    refine .of_scalars rfl (by rw [colorBuffer]) ?_
    rw [scalarBuffer, eval, evalIn]
    refine ha.thenColors fun color => ?_
    rw [luminances_ofColors]
    exact Vector.toArray_map.symm
  | clamp mode _ _ _ ha hb hc =>
    refine .of_scalars rfl (by rw [colorBuffer]) ?_
    rw [scalarBuffer, eval, evalIn]
    by_cases range : mode ≠ "MINMAX"
    · rw [if_pos range, if_pos range]
      exact rfl
    · rw [if_neg range, if_neg range]
      exact ha.thenScalars fun value => hb.thenScalars fun min => hc.thenScalars fun max =>
        mapIdx_ofFn fun i => by simp
  | separate space channel _ ha =>
    refine .of_scalars rfl (by rw [colorBuffer]) ?_
    rw [scalarBuffer, eval, evalIn]
    exact ha.thenColors fun input => perElement_map fun i => by simp
  | combine space _ _ _ ha hb hc =>
    refine .of_colors rfl (by rw [scalarBuffer]) ?_
    rw [colorBuffer, eval, evalIn]
    exact ha.thenScalars fun x => hb.thenScalars fun y => hc.thenScalars fun z =>
      congrArg ofColors (perElement_ofFn fun i => by simp)
  | colorRamp output interpolation stops _ ha =>
    cases stops with
    | nil =>
      cases output with
      | color =>
        refine .of_colors rfl ?_ ?_
        · rw [scalarBuffer, colorBuffer]
          rfl
        · rw [colorBuffer]
          exact rfl
      | alpha =>
        refine .of_scalars rfl ?_ ?_
        · rw [scalarBuffer, colorBuffer]
          rfl
        · rw [scalarBuffer]
          exact rfl
    | cons first rest =>
      cases output with
      | color =>
        refine .of_colors rfl ?_ ?_
        · rw [scalarBuffer, colorBuffer]
          simp only [bind_assoc, pure_bind]
        · rw [colorBuffer, eval, evalIn]
          refine ha.thenScalars fun fac => (sampleRamp_parallel ..).bind ?_
          rintro rgba _ rfl
          exact congrArg ofColors Vector.toArray_map.symm
      | alpha =>
        refine .of_scalars rfl ?_ ?_
        · rw [scalarBuffer, colorBuffer]
          simp only [bind_assoc, pure_bind]
        · rw [scalarBuffer, eval, evalIn]
          refine ha.thenScalars fun fac => (sampleRamp_parallel ..).bind ?_
          rintro rgba _ rfl
          exact Vector.toArray_map.symm
  | mapRange interpolation k _ _ _ _ _ _ ha hb hc hd he hf =>
    refine .of_scalars rfl (by rw [colorBuffer]) ?_
    rw [scalarBuffer, eval, evalIn]
    exact ha.thenScalars fun value => hb.thenScalars fun fromMin => hc.thenScalars fun fromMax =>
      hd.thenScalars fun toMin => he.thenScalars fun toMax => hf.thenScalars fun steps =>
      sampleMapRange_parallel ..
  | hueSaturation _ _ _ _ _ ha hb hc hd he =>
    refine .of_colors rfl (by rw [scalarBuffer]) ?_
    rw [colorBuffer, eval, evalIn]
    exact ha.thenScalars fun hue => hb.thenScalars fun saturation => hc.thenScalars fun value =>
      hd.thenScalars fun fac => he.thenColors fun color =>
      congrArg ofColors (perElement_ofFn fun i => by simp)

variable (beyond : α) (ctx : Context α n) (e : Expr α)

/-- A colour buffer is the colour value of the expression, channel by channel. -/
theorem colorBuffer_eq :
    e.colorBuffer beyond ctx = (e.evalColor ctx).map fun v => ofColors v.toArray := by
  rw [(held beyond ctx e).colors.eq_map, evalColor]
  cases e.eval ctx <;> rfl

/-- A scalar buffer is the scalar value of the expression. -/
theorem scalarBuffer_eq :
    e.scalarBuffer beyond ctx = (e.evalScalar ctx).map Vector.toArray := by
  rw [(held beyond ctx e).scalars.eq_map, evalScalar]
  cases e.eval ctx <;> rfl

end Expr
end ShadeGraph
