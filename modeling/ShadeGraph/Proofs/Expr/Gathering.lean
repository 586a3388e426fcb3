import ShadeGraph.Proofs.Expr.Buffers
import ShadeGraph.Proofs.Expr.Supported
import ShadeGraph.Proofs.Mesh.Gather

/-!
# Evaluation goes element by element

Over a gathered mesh a supported expression has its gathered value, or the same
fault. Nothing of it depends on where an element stands or on which others are
there.
-/

namespace ShadeGraph

variable {α : Type} {m n : Nat}

/-- The second computation gathers what the first one gives. -/
def Gathers (picks : Vector (Fin n) m) (x : Except EvalError (Signal α n))
    (y : Except EvalError (Signal α m)) : Prop :=
  Parallel (fun s t => t = s.gather picks) x y

namespace Gathers

variable {picks : Vector (Fin n) m} {x : Except EvalError (Signal α n)}
  {y : Except EvalError (Signal α m)} {β γ : Type} {R : β → γ → Prop}
  {f : Signal α n → Except EvalError β} {g : Signal α m → Except EvalError γ}

theorem bind (h : Gathers picks x y) (rest : ∀ s, Parallel R (f s) (g (s.gather picks))) :
    Parallel R (x >>= f) (y >>= g) := by
  refine Parallel.bind h ?_
  rintro s _ rfl
  exact rest s

theorem color {f : Fin n → Vec3 α} {g : Fin m → Vec3 α} (same : ∀ i, g i = f (picks.get i)) :
    Gathers picks (.ok (.color (Vector.ofFn f))) (.ok (.color (Vector.ofFn g))) :=
  congrArg Signal.color (ofFn_gather picks same)

theorem scalar {f : Fin n → α} {g : Fin m → α} (same : ∀ i, g i = f (picks.get i)) :
    Gathers picks (.ok (.scalar (Vector.ofFn f))) (.ok (.scalar (Vector.ofFn g))) :=
  congrArg Signal.scalar (ofFn_gather picks same)

end Gathers

namespace Expr

theorem require_gather {β γ : Type} (f : β → γ) (name : String) (values? : Option β) :
    Parallel (fun v w => w = f v) (require name values?) (require name (values?.map f)) := by
  cases values? <;> exact rfl

variable [Arithmetic α]

theorem sampleRamp_gather {interpolation : String}
    (listed : interpolation ∈ Named.names RampMode) (first : RampStop α)
    (rest : List (RampStop α)) (picks : Vector (Fin n) m) (fac : Vector α n) :
    Parallel (fun v w => w = gather picks v) (sampleRamp interpolation first rest fac)
      (sampleRamp interpolation first rest (gather picks fac)) := by
  obtain ⟨mode, found⟩ := Option.isSome_iff_exists.1 (Named.isSome_find?.2 listed)
  rw [sampleRamp, sampleRamp, found]
  exact (gather_map picks _ fac).symm

theorem sampleMapRange_gather {interpolation : String}
    (listed : interpolation ∈ Named.names MapRangeMode) (k : Bool) (picks : Vector (Fin n) m)
    (value fromMin fromMax toMin toMax steps : Vector α n) :
    Parallel (fun v w => w = gather picks v)
      (sampleMapRange interpolation k value fromMin fromMax toMin toMax steps)
      (sampleMapRange interpolation k (gather picks value) (gather picks fromMin)
        (gather picks fromMax) (gather picks toMin) (gather picks toMax) (gather picks steps)) := by
  obtain ⟨mode, found⟩ := Option.isSome_iff_exists.1 (Named.isSome_find?.2 listed)
  rw [sampleMapRange, sampleMapRange, found]
  show _ = gather picks (Vector.ofFn _)
  rw [gather_ofFn]
  simp

variable [Elementary α]

theorem eval_gather {e : Expr α} (h : e.Supported false) (ctx : Context α n)
    (picks : Vector (Fin n) m) : Gathers picks (e.eval ctx) (e.eval (ctx.gather picks)) := by
  induction e with
  | groupInput socket => cases h
  | constColor rgb => exact congrArg Signal.color (gather_replicate picks rgb).symm
  | constScalar value => exact congrArg Signal.scalar (gather_replicate picks value).symm
  | attributeColor name =>
    rw [eval, eval, evalIn, evalIn, ctx.color?_gather]
    exact (require_gather _ _ _).bind fun _ _ same => congrArg Signal.color same
  | attributeScalar name channel =>
    cases channel with
    | fac =>
      rw [eval, eval, evalIn, evalIn, ctx.fac?_gather]
      exact (require_gather _ _ _).bind fun _ _ same => congrArg Signal.scalar same
    | alpha =>
      rw [eval, eval, evalIn, evalIn, ctx.alpha?_gather]
      exact (require_gather _ _ _).bind fun _ _ same => congrArg Signal.scalar same
  | geometry quantity =>
    rw [eval, eval, evalIn, evalIn, ctx.geometry?_gather]
    exact (require_gather _ _ _).bind fun _ _ same => congrArg Signal.color same
  | group _ _ a => exact a h
  | grayscale _ a =>
    refine (a h).bind fun color => congrArg Signal.scalar ?_
    rw [Signal.colors_gather]
    exact (gather_map picks _ _).symm
  | separate space channel _ a =>
    refine (a h).bind fun input => congrArg Signal.scalar ?_
    rw [Signal.colors_gather]
    exact (gather_map picks _ _).symm
  | vectorMeasure _ _ _ a b =>
    obtain ⟨-, ha, hb⟩ := h
    exact .step fun measure => (a ha).bind fun _ => (b hb).bind fun _ =>
      Gathers.scalar fun i => by simp
  | clamp _ _ _ _ a b c =>
    obtain ⟨rfl, ha, hb, hc⟩ := h
    exact (a ha).bind fun _ => (b hb).bind fun _ => (c hc).bind fun _ =>
      Gathers.scalar fun i => by simp
  | math operation _ _ _ _ a b c =>
    obtain ⟨-, ha, hb, hc⟩ := h
    exact .step fun op => (a ha).bind fun _ => (b hb).bind fun _ => (c hc).bind fun _ =>
      Gathers.scalar fun i => by simp
  | mix _ _ _ _ _ a b c =>
    obtain ⟨-, ha, hb, hc⟩ := h
    exact .step fun mode => (a ha).bind fun _ => (b hb).bind fun _ => (c hc).bind fun _ =>
      Gathers.color fun i => by simp
  | vectorMath _ _ _ _ _ a b c d =>
    obtain ⟨-, ha, hb, hc, hd⟩ := h
    exact .step fun op => (a ha).bind fun _ => (b hb).bind fun _ => (c hc).bind fun _ =>
      (d hd).bind fun _ => Gathers.color fun i => by simp
  | invert _ _ a b | gamma _ _ a b =>
    obtain ⟨ha, hb⟩ := h
    exact (a ha).bind fun _ => (b hb).bind fun _ => Gathers.color fun i => by simp
  | brightContrast _ _ _ a b c | combine _ _ _ _ a b c =>
    obtain ⟨ha, hb, hc⟩ := h
    exact (a ha).bind fun _ => (b hb).bind fun _ => (c hc).bind fun _ =>
      Gathers.color fun i => by simp
  | hueSaturation _ _ _ _ _ a b c d e =>
    obtain ⟨ha, hb, hc, hd, he⟩ := h
    exact (a ha).bind fun _ => (b hb).bind fun _ => (c hc).bind fun _ =>
      (d hd).bind fun _ => (e he).bind fun _ => Gathers.color fun i => by simp
  | colorRamp output interpolation stops _ a =>
    obtain ⟨listed, nonempty, ha⟩ := h
    cases stops with
    | nil => exact absurd rfl nonempty
    | cons first rest =>
      refine (a ha).bind fun fac => ?_
      rw [Signal.scalars_gather]
      refine (sampleRamp_gather listed first rest picks fac.scalars).bind ?_
      rintro rgba _ rfl
      cases output with
      | color => exact congrArg Signal.color (gather_map picks Rgba.rgb rgba).symm
      | alpha => exact congrArg Signal.scalar (gather_map picks Rgba.alpha rgba).symm
  | mapRange _ k _ _ _ _ _ _ a b c d e f =>
    obtain ⟨listed, ha, hb, hc, hd, he, hf⟩ := h
    refine (a ha).bind fun _ => (b hb).bind fun _ => (c hc).bind fun _ => (d hd).bind fun _ =>
      (e he).bind fun _ => (f hf).bind fun _ => ?_
    simp only [Signal.scalars_gather]
    exact (sampleMapRange_gather listed k picks _ _ _ _ _ _).bind fun _ _ same =>
      congrArg Signal.scalar same

variable {e : Expr α} (h : e.Supported false) (beyond : α) (ctx : Context α n)
  (picks : Vector (Fin n) m)

include h

theorem evalColor_gather :
    e.evalColor (ctx.gather picks) = (e.evalColor ctx).map (gather picks) := by
  rw [evalColor, evalColor, (eval_gather h ctx picks).eq_map]
  cases e.eval ctx with
  | error fault => rfl
  | ok s => exact congrArg Except.ok (s.colors_gather picks)

theorem evalScalar_gather :
    e.evalScalar (ctx.gather picks) = (e.evalScalar ctx).map (gather picks) := by
  rw [evalScalar, evalScalar, (eval_gather h ctx picks).eq_map]
  cases e.eval ctx with
  | error fault => rfl
  | ok s => exact congrArg Except.ok (s.scalars_gather picks)

theorem colorBuffer_gather : e.colorBuffer beyond (ctx.gather picks) =
    (e.colorBuffer beyond ctx).map (Interleaved.gather 3 picks) := by
  rw [colorBuffer_eq, colorBuffer_eq, evalColor_gather h]
  cases e.evalColor ctx with
  | error fault => rfl
  | ok colors => exact congrArg Except.ok (Interleaved.gather_ofColors picks colors).symm

theorem scalarBuffer_gather : e.scalarBuffer beyond (ctx.gather picks) =
    (e.scalarBuffer beyond ctx).map (Interleaved.gather 1 picks) := by
  rw [scalarBuffer_eq, scalarBuffer_eq, evalScalar_gather h]
  cases e.evalScalar ctx with
  | error fault => rfl
  | ok scalars => exact congrArg Except.ok (Interleaved.gather_scalars picks scalars).symm

end Expr
end ShadeGraph
