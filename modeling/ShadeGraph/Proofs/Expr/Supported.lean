import ShadeGraph.Expr.Eval
import ShadeGraph.Expr.Substitute
import ShadeGraph.Proofs.Outcome

/-!
# Supported expressions

Expressions whose operations stand in the tables. With no boundary input left,
nothing but an attribute that the mesh does not have stops their evaluation.
-/

namespace ShadeGraph

variable {α : Type} {n : Nat}

theorem Named.isSome_find? {τ : Type} [Named τ] {s : String} :
    (Named.find? τ s).isSome ↔ s ∈ Named.names τ := by
  simp [Named.find?, Named.names]

/-- An attribute, or a quantity of the geometry, that a mesh does not have. -/
def Context.Lacks (ctx : Context α n) (name : String) : Prop :=
  ctx.layer? name = none ∨ ∃ quantity, quantity.name = name ∧ ctx.geometry? quantity = none

/-- The only fault of an evaluation that the mesh is to blame for. -/
def Context.ToBlame (ctx : Context α n) : EvalError → Prop
  | .missingAttribute name => ctx.Lacks name
  | .unhandled _ _ => False

namespace Expr

/-- Every name stands in its table, and boundary inputs occur only `within` a
template. -/
def Supported (within : Bool) : Expr α → Prop
  | constColor _ | constScalar _ | attributeColor _ | attributeScalar _ _ | geometry _ => True
  | math operation _ a b c =>
    operation ∈ Named.names MathOp ∧ a.Supported within ∧ b.Supported within ∧ c.Supported within
  | vectorMath operation a b c scale =>
    operation ∈ Named.names VectorOp ∧ a.Supported within ∧ b.Supported within ∧
      c.Supported within ∧ scale.Supported within
  | vectorMeasure operation a b =>
    operation ∈ Named.names VectorMeasure ∧ a.Supported within ∧ b.Supported within
  | mix blend _ fac color1 color2 =>
    blend ∈ Named.names BlendMode ∧ fac.Supported within ∧ color1.Supported within ∧
      color2.Supported within
  | invert fac color => fac.Supported within ∧ color.Supported within
  | grayscale color => color.Supported within
  | clamp mode value min max =>
    mode = "MINMAX" ∧ value.Supported within ∧ min.Supported within ∧ max.Supported within
  | brightContrast color bright contrast =>
    color.Supported within ∧ bright.Supported within ∧ contrast.Supported within
  | gamma color exponent => color.Supported within ∧ exponent.Supported within
  | separate _ _ input => input.Supported within
  | combine _ x y z => x.Supported within ∧ y.Supported within ∧ z.Supported within
  | colorRamp _ interpolation stops fac =>
    interpolation ∈ Named.names RampMode ∧ stops ≠ [] ∧ fac.Supported within
  | mapRange interpolation _ value fromMin fromMax toMin toMax steps =>
    interpolation ∈ Named.names MapRangeMode ∧ value.Supported within ∧
      fromMin.Supported within ∧ fromMax.Supported within ∧ toMin.Supported within ∧
      toMax.Supported within ∧ steps.Supported within
  | hueSaturation hue saturation value fac color =>
    hue.Supported within ∧ saturation.Supported within ∧ value.Supported within ∧
      fac.Supported within ∧ color.Supported within
  | group _ inner => inner.Supported within
  | groupInput _ => within = true

/-- Filling in a template keeps it supported, and fails only as what is filled
in does. -/
theorem Supported.substituteM {ε : Type} {fault : ε → Prop} {within : Bool}
    {bind : String → Except ε (Expr α)} (bound : ∀ socket, Ends fault (Supported within) (bind socket))
    {e : Expr α} (h : e.Supported true) : Ends fault (Supported within) (e.substituteM bind) := by
  induction e with
  | groupInput socket => exact bound socket
  | constColor | constScalar | attributeColor | attributeScalar | geometry => trivial
  | grayscale _ a | separate _ _ _ a | group _ _ a => exact (a h).bind fun _ a => a
  | colorRamp _ _ _ _ a =>
    obtain ⟨listed, stops, ha⟩ := h
    exact (a ha).bind fun _ a => ⟨listed, stops, a⟩
  | vectorMeasure _ _ _ a b =>
    obtain ⟨listed, ha, hb⟩ := h
    exact (a ha).bind fun _ a => (b hb).bind fun _ b => ⟨listed, a, b⟩
  | invert _ _ a b | gamma _ _ a b =>
    obtain ⟨ha, hb⟩ := h
    exact (a ha).bind fun _ a => (b hb).bind fun _ b => ⟨a, b⟩
  | math _ _ _ _ _ a b c | mix _ _ _ _ _ a b c | clamp _ _ _ _ a b c =>
    obtain ⟨listed, ha, hb, hc⟩ := h
    exact (a ha).bind fun _ a => (b hb).bind fun _ b => (c hc).bind fun _ c => ⟨listed, a, b, c⟩
  | brightContrast _ _ _ a b c | combine _ _ _ _ a b c =>
    obtain ⟨ha, hb, hc⟩ := h
    exact (a ha).bind fun _ a => (b hb).bind fun _ b => (c hc).bind fun _ c => ⟨a, b, c⟩
  | vectorMath _ _ _ _ _ a b c d =>
    obtain ⟨listed, ha, hb, hc, hd⟩ := h
    exact (a ha).bind fun _ a => (b hb).bind fun _ b => (c hc).bind fun _ c =>
      (d hd).bind fun _ d => ⟨listed, a, b, c, d⟩
  | hueSaturation _ _ _ _ _ a b c d e =>
    obtain ⟨ha, hb, hc, hd, he⟩ := h
    exact (a ha).bind fun _ a => (b hb).bind fun _ b => (c hc).bind fun _ c =>
      (d hd).bind fun _ d => (e he).bind fun _ e => ⟨a, b, c, d, e⟩
  | mapRange _ _ _ _ _ _ _ _ a b c d e f =>
    obtain ⟨listed, ha, hb, hc, hd, he, hf⟩ := h
    exact (a ha).bind fun _ a => (b hb).bind fun _ b => (c hc).bind fun _ c =>
      (d hd).bind fun _ d => (e he).bind fun _ e => (f hf).bind fun _ f =>
      ⟨listed, a, b, c, d, e, f⟩

variable {ctx : Context α n}

theorem find_ends {family : OpFamily} {τ : Type} [Named τ] {name : String}
    (listed : name ∈ Named.names τ) :
    Ends ctx.ToBlame (fun _ => True) (family.find τ name) := by
  obtain ⟨op, found⟩ := Option.isSome_iff_exists.1 (Named.isSome_find?.2 listed)
  unfold OpFamily.find
  rw [found]
  trivial

theorem require_ends {β : Type} {name : String} {values? : Option β}
    (lacks : values? = none → ctx.Lacks name) :
    Ends ctx.ToBlame (fun _ => True) (require name values?) := by
  cases values? with
  | none => exact lacks rfl
  | some values => trivial

theorem sampleRamp_ends [Arithmetic α] {interpolation : String}
    (listed : interpolation ∈ Named.names RampMode) (first : RampStop α)
    (rest : List (RampStop α)) (fac : Vector α n) :
    Ends ctx.ToBlame (fun _ => True) (sampleRamp interpolation first rest fac) := by
  obtain ⟨mode, found⟩ := Option.isSome_iff_exists.1 (Named.isSome_find?.2 listed)
  unfold sampleRamp
  rw [found]
  trivial

theorem sampleMapRange_ends [Arithmetic α] {interpolation : String}
    (listed : interpolation ∈ Named.names MapRangeMode) (k : Bool)
    (value fromMin fromMax toMin toMax steps : Vector α n) :
    Ends ctx.ToBlame (fun _ => True)
      (sampleMapRange interpolation k value fromMin fromMax toMin toMax steps) := by
  obtain ⟨mode, found⟩ := Option.isSome_iff_exists.1 (Named.isSome_find?.2 listed)
  unfold sampleMapRange
  rw [found]
  trivial

variable [Arithmetic α] [Elementary α]

/-- A supported expression without boundary inputs has a value on every mesh
that has its attributes. -/
theorem Supported.evalIn {e : Expr α} (h : e.Supported false)
    (env : String → Option (Signal α n)) :
    Ends ctx.ToBlame (fun _ => True) (e.evalIn ctx env) := by
  have layer {name : String} {β : Type} {f : Layer α n → β}
      (none : (ctx.layer? name).map f = none) : ctx.Lacks name :=
    Or.inl (Option.map_eq_none_iff.1 none)
  induction e with
  | groupInput socket => cases h
  | constColor | constScalar => trivial
  | attributeColor name => exact (require_ends layer).bind fun _ _ => trivial
  | attributeScalar name channel =>
    cases channel with
    | fac => exact (require_ends layer).bind fun _ _ => trivial
    | alpha => exact (require_ends layer).bind fun _ _ => trivial
  | geometry quantity =>
    exact (require_ends fun none => Or.inr ⟨quantity, rfl, none⟩).bind fun _ _ => trivial
  | group _ _ a => exact a h
  | grayscale _ a | separate _ _ _ a => exact (a h).bind fun _ _ => trivial
  | colorRamp output _ stops _ a =>
    obtain ⟨listed, nonempty, ha⟩ := h
    cases stops with
    | nil => exact absurd rfl nonempty
    | cons first rest =>
      refine (a ha).bind fun fac _ => (sampleRamp_ends listed first rest fac.scalars).bind ?_
      intro rgba _
      cases output <;> trivial
  | vectorMeasure _ _ _ a b =>
    obtain ⟨listed, ha, hb⟩ := h
    exact (find_ends listed).bind fun _ _ => (a ha).bind fun _ _ => (b hb).bind fun _ _ => trivial
  | invert _ _ a b | gamma _ _ a b =>
    obtain ⟨ha, hb⟩ := h
    exact (a ha).bind fun _ _ => (b hb).bind fun _ _ => trivial
  | math _ _ _ _ _ a b c | mix _ _ _ _ _ a b c =>
    obtain ⟨listed, ha, hb, hc⟩ := h
    exact (find_ends listed).bind fun _ _ => (a ha).bind fun _ _ => (b hb).bind fun _ _ =>
      (c hc).bind fun _ _ => trivial
  | clamp _ _ _ _ a b c =>
    obtain ⟨rfl, ha, hb, hc⟩ := h
    exact (a ha).bind fun _ _ => (b hb).bind fun _ _ => (c hc).bind fun _ _ => trivial
  | brightContrast _ _ _ a b c | combine _ _ _ _ a b c =>
    obtain ⟨ha, hb, hc⟩ := h
    exact (a ha).bind fun _ _ => (b hb).bind fun _ _ => (c hc).bind fun _ _ => trivial
  | vectorMath _ _ _ _ _ a b c d =>
    obtain ⟨listed, ha, hb, hc, hd⟩ := h
    exact (find_ends listed).bind fun _ _ => (a ha).bind fun _ _ => (b hb).bind fun _ _ =>
      (c hc).bind fun _ _ => (d hd).bind fun _ _ => trivial
  | hueSaturation _ _ _ _ _ a b c d e =>
    obtain ⟨ha, hb, hc, hd, he⟩ := h
    exact (a ha).bind fun _ _ => (b hb).bind fun _ _ => (c hc).bind fun _ _ =>
      (d hd).bind fun _ _ => (e he).bind fun _ _ => trivial
  | mapRange _ k _ _ _ _ _ _ a b c d e f =>
    obtain ⟨listed, ha, hb, hc, hd, he, hf⟩ := h
    exact (a ha).bind fun _ _ => (b hb).bind fun _ _ => (c hc).bind fun _ _ =>
      (d hd).bind fun _ _ => (e he).bind fun _ _ => (f hf).bind fun _ _ =>
      (sampleMapRange_ends listed k _ _ _ _ _ _).bind fun _ _ => trivial

end Expr
end ShadeGraph
