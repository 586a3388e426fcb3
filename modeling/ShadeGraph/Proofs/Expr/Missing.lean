import ShadeGraph.Proofs.Document.Loaded
import ShadeGraph.Proofs.Expr.Buffers
import ShadeGraph.Proofs.Expr.Lines
import ShadeGraph.Proofs.Expr.Supported

/-!
# What a mesh lacks

A supported expression fails on a mesh just where one of its leaves asks for an
attribute in vain, and the fault names the first one of them, in the order in
which the lines of the expression list the nodes.
-/

namespace ShadeGraph

variable {α : Type} {n : Nat}

/-- The attribute that a node asks a mesh for in vain. -/
def Context.missing? (ctx : Context α n) : Expr α → Option String
  | .attributeColor name | .attributeScalar name _ =>
    if name ∈ ctx.layerNames then none else some name
  | .geometry quantity => if (ctx.geometry? quantity).isSome then none else some quantity.name
  | _ => none

theorem Context.isSome_layer? (ctx : Context α n) (name : String) :
    (ctx.layer? name).isSome ↔ name ∈ ctx.layerNames := by
  rw [layer?, layerNames, List.lookup_isSome_iff]
  simp

/-- A computation fails for the first attribute that the nodes miss, and only then. -/
def Meets {β : Type} (ctx : Context α n) (nodes : List (Expr α)) (x : Except EvalError β) : Prop :=
  match nodes.findSome? ctx.missing? with
  | none => ∃ b, x = .ok b
  | some name => x = .error (.missingAttribute name)

namespace Meets

variable {ctx : Context α n} {β γ : Type} {nodes more : List (Expr α)}

theorem done (b : β) : Meets ctx [] (.ok b) := ⟨b, rfl⟩

theorem bind {x : Except EvalError β} {f : β → Except EvalError γ} (first : Meets ctx nodes x)
    (rest : ∀ b, Meets ctx more (f b)) : Meets ctx (nodes ++ more) (x >>= f) := by
  unfold Meets at first ⊢
  rw [List.findSome?_append]
  cases missed : nodes.findSome? ctx.missing? with
  | some name =>
    rw [missed] at first
    rw [first]
    exact rfl
  | none =>
    rw [missed] at first
    obtain ⟨b, given⟩ := first
    rw [given]
    exact rest b

theorem node {e : Expr α} {x : Except EvalError β} (inner : ctx.missing? e = none)
    (h : Meets ctx (e.children.flatMap Expr.preorder) x) : Meets ctx e.preorder x := by
  unfold Meets
  rw [Expr.preorder_eq, List.findSome?_cons, inner]
  exact h

theorem map {x : Except EvalError β} (f : β → γ) (h : Meets ctx nodes x) :
    Meets ctx nodes (x.map f) := by
  have last := h.bind fun b => done (f b)
  rw [List.append_nil] at last
  cases x with
  | error e => exact last
  | ok b => exact last

theorem ok_iff {x : Except EvalError β} (h : Meets ctx nodes x) :
    (∃ b, x = .ok b) ↔ ∀ node ∈ nodes, ctx.missing? node = none := by
  rw [← List.findSome?_eq_none_iff]
  unfold Meets at h
  cases missed : nodes.findSome? ctx.missing? with
  | none =>
    rw [missed] at h
    exact ⟨fun _ => rfl, fun _ => h⟩
  | some name =>
    rw [missed] at h
    rw [h]
    constructor
    · rintro ⟨b, given⟩
      cases given
    · intro none
      cases none

theorem error {x : Except EvalError β} (h : Meets ctx nodes x) {name : String}
    (first : nodes.findSome? ctx.missing? = some name) : x = .error (.missingAttribute name) := by
  unfold Meets at h
  rw [first] at h
  exact h

theorem find {family : OpFamily} {τ : Type} [Named τ] {name : String}
    (listed : name ∈ Named.names τ) : Meets ctx [] (family.find τ name) := by
  obtain ⟨op, found⟩ := Option.isSome_iff_exists.1 (Named.isSome_find?.2 listed)
  rw [OpFamily.find, found]
  exact done op

end Meets

namespace Expr

variable {ctx : Context α n} [Arithmetic α]

theorem sampleRamp_meets {interpolation : String}
    (listed : interpolation ∈ Named.names RampMode) (first : RampStop α)
    (rest : List (RampStop α)) (fac : Vector α n) :
    Meets ctx [] (sampleRamp interpolation first rest fac) := by
  obtain ⟨mode, found⟩ := Option.isSome_iff_exists.1 (Named.isSome_find?.2 listed)
  rw [sampleRamp, found]
  exact .done _

theorem sampleMapRange_meets {interpolation : String}
    (listed : interpolation ∈ Named.names MapRangeMode) (k : Bool)
    (value fromMin fromMax toMin toMax steps : Vector α n) :
    Meets ctx [] (sampleMapRange interpolation k value fromMin fromMax toMin toMax steps) := by
  obtain ⟨mode, found⟩ := Option.isSome_iff_exists.1 (Named.isSome_find?.2 listed)
  rw [sampleMapRange, found]
  exact .done _

omit [Arithmetic α] in
theorem require_meets {β : Type} {e : Expr α} {name : String} {values? : Option β}
    (missing : ctx.missing? e = if values?.isSome then none else some name) :
    Meets ctx [e] (require name values?) := by
  unfold Meets
  rw [List.findSome?_cons, missing]
  cases values? with
  | none => exact rfl
  | some values => exact ⟨values, rfl⟩

omit [Arithmetic α] in
theorem layer_meets {β : Type} {e : Expr α} {name : String} {read : Layer α n → β}
    (asks : ctx.missing? e = if name ∈ ctx.layerNames then none else some name) :
    Meets ctx [e] (require name ((ctx.layer? name).map read)) := by
  apply require_meets
  rw [asks, Option.isSome_map]
  simp only [ctx.isSome_layer?]

variable [Elementary α]

theorem eval_meets {e : Expr α} (h : e.Supported false) (ctx : Context α n) :
    Meets ctx e.preorder (e.eval ctx) := by
  -- Operands are evaluated in the order of the children. Looking up an operation
  -- asks the mesh for nothing, so that step meets the empty list.
  induction e with
  | groupInput socket => cases h
  | constColor | constScalar => exact .node rfl (.done _)
  | attributeColor name =>
    rw [preorder_eq]
    exact (layer_meets rfl).bind fun _ => .done _
  | attributeScalar name channel =>
    rw [preorder_eq]
    cases channel with
    | fac => exact (layer_meets rfl).bind fun _ => .done _
    | alpha => exact (layer_meets rfl).bind fun _ => .done _
  | geometry quantity =>
    rw [preorder_eq]
    exact (require_meets rfl).bind fun _ => .done _
  | group _ _ a =>
    refine .node rfl ?_
    show Meets ctx (_ ++ []) _
    rw [List.append_nil]
    exact a h
  | grayscale _ a | separate _ _ _ a =>
    exact .node rfl ((a h).bind fun _ => .done _)
  | vectorMeasure _ _ _ a b =>
    obtain ⟨listed, ha, hb⟩ := h
    exact .node rfl ((Meets.find listed).bind fun _ => (a ha).bind fun _ => (b hb).bind fun _ =>
      .done _)
  | invert _ _ a b | gamma _ _ a b =>
    obtain ⟨ha, hb⟩ := h
    exact .node rfl ((a ha).bind fun _ => (b hb).bind fun _ => .done _)
  | math _ _ _ _ _ a b c | mix _ _ _ _ _ a b c =>
    obtain ⟨listed, ha, hb, hc⟩ := h
    exact .node rfl ((Meets.find listed).bind fun _ => (a ha).bind fun _ => (b hb).bind fun _ =>
      (c hc).bind fun _ => .done _)
  | clamp _ _ _ _ a b c =>
    obtain ⟨rfl, ha, hb, hc⟩ := h
    exact .node rfl ((a ha).bind fun _ => (b hb).bind fun _ => (c hc).bind fun _ => .done _)
  | brightContrast _ _ _ a b c | combine _ _ _ _ a b c =>
    obtain ⟨ha, hb, hc⟩ := h
    exact .node rfl ((a ha).bind fun _ => (b hb).bind fun _ => (c hc).bind fun _ => .done _)
  | vectorMath _ _ _ _ _ a b c d =>
    obtain ⟨listed, ha, hb, hc, hd⟩ := h
    exact .node rfl ((Meets.find listed).bind fun _ => (a ha).bind fun _ => (b hb).bind fun _ =>
      (c hc).bind fun _ => (d hd).bind fun _ => .done _)
  | hueSaturation _ _ _ _ _ a b c d e =>
    obtain ⟨ha, hb, hc, hd, he⟩ := h
    exact .node rfl ((a ha).bind fun _ => (b hb).bind fun _ => (c hc).bind fun _ =>
      (d hd).bind fun _ => (e he).bind fun _ => .done _)
  | colorRamp output _ stops _ a =>
    obtain ⟨listed, nonempty, ha⟩ := h
    cases stops with
    | nil => exact absurd rfl nonempty
    | cons first rest =>
      refine .node rfl ((a ha).bind fun fac => (sampleRamp_meets listed first rest _).bind ?_)
      intro rgba
      cases output <;> exact .done _
  | mapRange _ k _ _ _ _ _ _ a b c d e f =>
    obtain ⟨listed, ha, hb, hc, hd, he, hf⟩ := h
    exact .node rfl ((a ha).bind fun _ => (b hb).bind fun _ => (c hc).bind fun _ =>
      (d hd).bind fun _ => (e he).bind fun _ => (f hf).bind fun _ =>
      (sampleMapRange_meets listed k _ _ _ _ _ _).bind fun _ => .done _)

section

variable {e : Expr α} (h : e.Supported false) (beyond : α) (ctx : Context α n)

include h

theorem colorBuffer_meets : Meets ctx e.preorder (e.colorBuffer beyond ctx) := by
  rw [colorBuffer_eq, evalColor]
  exact ((eval_meets h ctx).map Signal.colors).map _

theorem scalarBuffer_meets : Meets ctx e.preorder (e.scalarBuffer beyond ctx) := by
  rw [scalarBuffer_eq, evalScalar]
  exact ((eval_meets h ctx).map Signal.scalars).map _

end

/-- Either buffer of a supported expression is there just where the mesh offers
what every node asks for. Otherwise the fault of both names the attribute that
the first node asks for in vain, in the order of the lines. -/
theorem first_missing_reported {e : Expr α} (supported : e.Supported false) (beyond : α)
    (ctx : Context α n) :
    (∀ text, (e.lines text).map Line.unlabelled = e.preorder.map (headline text)) ∧
      ((∃ colors, e.colorBuffer beyond ctx = .ok colors) ↔
        ∀ node ∈ e.preorder, ctx.missing? node = none) ∧
      ((∃ scalars, e.scalarBuffer beyond ctx = .ok scalars) ↔
        ∀ node ∈ e.preorder, ctx.missing? node = none) ∧
      ∀ name, e.preorder.findSome? ctx.missing? = some name →
        e.colorBuffer beyond ctx = .error (.missingAttribute name) ∧
          e.scalarBuffer beyond ctx = .error (.missingAttribute name) := by
  have colors := colorBuffer_meets supported beyond ctx
  have scalars := scalarBuffer_meets supported beyond ctx
  refine ⟨fun text => e.lines_preorder text, colors.ok_iff, scalars.ok_iff, fun name first => ?_⟩
  exact ⟨colors.error first, scalars.error first⟩

section

local instance : Elementary Rat := Sample.elementary

/-- Two attributes are missing, and the one that is listed first is named. -/
theorem rust_reported :
    let e : Expr Rat := .math "ADD" false (.attributeScalar "mask" .fac)
      (.attributeScalar "rust" .fac) (.geometry .normal)
    e.Supported false ∧
      e.colorBuffer 0 Sample.context = .error (.missingAttribute "rust") ∧
      e.scalarBuffer 0 Sample.context = .error (.missingAttribute "rust") := by
  intro e
  have supported : e.Supported false := ⟨by decide, trivial, trivial, trivial⟩
  have first : e.preorder.findSome? Sample.context.missing? = some "rust" := by cbv
  exact ⟨supported, (first_missing_reported supported 0 Sample.context).2.2.2 "rust" first⟩

end

end Expr
end ShadeGraph
