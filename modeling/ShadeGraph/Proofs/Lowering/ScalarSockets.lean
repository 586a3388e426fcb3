import ShadeGraph.Proofs.Document.Loaded
import ShadeGraph.Proofs.Expr.Grey
import ShadeGraph.Proofs.Expr.Substitution
import ShadeGraph.Proofs.Lowering.Form

/-!
# Scalar sockets

What is linked to a socket that takes scalars counts by its scalar reading, for
every kind of node with fixed sockets. The operands of a mix of scalars are the
exception: they are blended as colours, and only the luminance of the result is
that of the scalars.
-/

namespace ShadeGraph

variable {α : Type} {k : Nat}

namespace Node

/-- A socket that a mix of scalars interpolates. -/
def MixesScalars {ρ : Type} (node : Node α ρ) (socket : String) : Prop :=
  (∃ blend clamp, node.body = .mix "FLOAT" blend clamp) ∧
    (socket = "A_Float" ∨ socket = "B_Float")

variable [Arithmetic α]

/-- A shape over the inputs of a node that reads every scalar socket as scalars. -/
structure ReadsDeclared (node : Node α (Fin k)) (shape : Expr α) : Prop where
  scalars : ∀ a ∈ shape.scalarOperands, ∃ s, a = .groupInput s
  colors : ∀ a ∈ shape.colorOperands, ∃ s, a = .groupInput s ∧
    ∀ socket ∈ node.kind.inputs (α := α), socket.kind = .scalar → socket.name = s →
      node.MixesScalars s
  passed : shape.passedOn = []
  whole : ∀ s, shape = .groupInput s → ∀ socket ∈ node.kind.inputs (α := α), socket.kind ≠ .scalar

/-- An output that is built from the inputs of its node, as they are declared. -/
def FormsDeclared (node : Node α (Fin k)) : Form α k → Prop
  | .built shape => node.ReadsDeclared shape
  | .boundary | .inside _ => False

theorem form_declared {node : Node α (Fin k)} (fixed : node.kind.isDynamic = false)
    (output : String) : Ends (fun _ => True) node.FormsDeclared (node.form output) := by
  obtain ⟨id, label?, inputs?, body⟩ := node
  unfold form
  dsimp only
  split
  · trivial
  cases body with
  | group | groupInput | groupOutput | bakeOutput | foreign => cases fixed
  | rgb | value | math | combine | mapRange => exact ⟨by simp, by simp, rfl, by simp⟩
  | vertexColor layer =>
    dsimp only
    split <;> exact ⟨by simp, by simp, rfl, by simp⟩
  | mixRgb | rgbToBw | invert | gamma | brightContrast | hueSaturation =>
    refine ⟨by simp, ?_, rfl, by simp⟩
    simp [kind, NodeBody.kind, Kind.inputs, InputSocket.scalar, InputSocket.color]
  | reroute =>
    refine ⟨by simp, by simp, rfl, ?_⟩
    simp [kind, NodeBody.kind, Kind.inputs, InputSocket.color]
  | «attribute» name source? =>
    dsimp only
    split
    · trivial
    split
    · exact ⟨by simp, by simp, rfl, by simp⟩
    split <;> exact ⟨by simp, by simp, rfl, by simp⟩
  | geometry =>
    dsimp only
    split
    · exact ⟨by simp, by simp, rfl, by simp⟩
    split
    · exact ⟨by simp, by simp, rfl, by simp⟩
    · trivial
  | vectorMath operation =>
    dsimp only
    split
    · split
      · refine ⟨by simp, ?_, rfl, by simp⟩
        simp [kind, NodeBody.kind, Kind.inputs, InputSocket.scalar, InputSocket.vector]
      · trivial
    · split
      · refine ⟨by simp, ?_, rfl, by simp⟩
        simp [kind, NodeBody.kind, Kind.inputs, InputSocket.scalar, InputSocket.vector]
      · trivial
  | mix dataType blend k =>
    dsimp only
    split
    · refine ⟨by simp, ?_, rfl, by simp⟩
      simp [kind, NodeBody.kind, Kind.inputs, InputSocket.scalar, InputSocket.color]
    split
    · -- These two operands are the only scalar sockets that are read as colours.
      refine ⟨by simp, ?_, rfl, by simp⟩
      simp [kind, NodeBody.kind, Kind.inputs, InputSocket.scalar, InputSocket.color, MixesScalars,
        *]
    · trivial
  | clamp mode =>
    dsimp only
    split
    · exact ⟨by simp, by simp, rfl, by simp⟩
    · trivial
  | separate space =>
    dsimp only
    cases Lowering.separateChannel? space output with
    | none => trivial
    | some channel =>
      refine ⟨by simp, ?_, rfl, by simp⟩
      cases space <;>
        simp [kind, NodeBody.kind, Kind.inputs, ChannelSpace.tripleInput, InputSocket.vector,
          InputSocket.color]
  | colorRamp colorMode interpolation stops =>
    dsimp only
    cases Lowering.rampRefusal? colorMode interpolation stops with
    | some refusal => trivial
    | none => exact ⟨by simp, by simp, rfl, by simp⟩

theorem form_mixFloat {node : Node α (Fin k)} {blend : String} {clamp : Bool}
    (body : node.body = .mix "FLOAT" blend clamp) {output : String} {shape : Expr α}
    (made : node.form output = .ok (.built shape)) :
    shape = .mix "MIX" false (.groupInput "Factor") (.groupInput "A_Float")
      (.groupInput "B_Float") := by
  obtain ⟨id, label?, inputs?, _⟩ := node
  subst body
  unfold form at made
  split at made
  · cases made
  · cases made
    rfl

end Node

namespace Expr

/-- The inputs of a node, one of them taken as a scalar before it gets there. -/
def greyedAt (name : String) (inputs : String → Expr α) (s : String) : Expr α :=
  if s = name then grayscale (inputs s) else inputs s

end Expr

namespace Lowering

/-- The share of the operand at a socket in a mix of scalars by the factor `t`. -/
def floatShare (socket : String) (t : Rat) : Rat := if socket = "A_Float" then 1 - t else t

section

variable [Elementary Rat] {n : Nat} {ctx : Context Rat n} {inputs : String → Expr Rat}

theorem evalScalar_greyedAt (name s : String) :
    (Expr.greyedAt name inputs s).evalScalar ctx = (inputs s).evalScalar ctx := by
  rw [Expr.greyedAt]
  split
  · exact Expr.evalScalar_grayscale ctx (inputs s)
  · rfl

/-- Sockets that an output reads as scalars keep its value when they are greyed. -/
theorem eval_greyedAt {node : Node Rat (Fin k)} {shape : Expr Rat}
    (reads : node.ReadsDeclared shape) {socket : InputSocket Rat}
    (declared : socket ∈ node.kind.inputs) (scalar : socket.kind = .scalar)
    (single : ¬ node.MixesScalars socket.name) (ctx : Context Rat n)
    (inputs : String → Expr Rat) :
    (shape.substitute (Expr.greyedAt socket.name inputs)).eval ctx =
      (shape.substitute inputs).eval ctx := by
  have operation : ∀ s, shape ≠ .groupInput s :=
    fun s same => reads.whole s same socket declared scalar
  rw [Expr.substitute_eq_mapChildren _ operation, Expr.substitute_eq_mapChildren _ operation]
  apply Expr.eval_mapChildren_congr
  · intro a mem
    obtain ⟨s, rfl⟩ := reads.scalars a mem
    exact evalScalar_greyedAt socket.name s
  · intro a mem
    obtain ⟨s, rfl, apart⟩ := reads.colors a mem
    have other : s ≠ socket.name := by
      rintro rfl
      exact single (apart socket declared scalar rfl)
    show (Expr.greyedAt socket.name inputs s).evalColor ctx = (inputs s).evalColor ctx
    rw [Expr.greyedAt, if_neg other]
  · rw [reads.passed]
    simp

/-- The operands of a mix of scalars keep its luminance when they are greyed, and
its colours where they have no share in it or are grey. -/
theorem mix_greyedAt {name : String} (operand : name = "A_Float" ∨ name = "B_Float")
    (ctx : Context Rat n) (inputs : String → Expr Rat) :
    let shape : Expr Rat := .mix "MIX" false (.groupInput "Factor") (.groupInput "A_Float")
      (.groupInput "B_Float")
    let e := shape.substitute inputs
    let e' := shape.substitute (Expr.greyedAt name inputs)
    e'.evalScalar ctx = e.evalScalar ctx ∧
      (e'.evalColor ctx = e.evalColor ctx ↔
        ∀ colors t c, e.evalColor ctx = .ok colors → (inputs "Factor").evalScalar ctx = .ok t →
          (inputs name).evalColor ctx = .ok c →
          ∀ i, floatShare name (t.get i) = 0 ∨ c.get i = (c.get i).greyed) := by
  intro shape e e'
  have factor : Expr.greyedAt name inputs "Factor" = inputs "Factor" := by
    rcases operand with rfl | rfl <;> exact if_neg (by decide)
  rcases operand with rfl | rfl
  · have other : Expr.greyedAt "A_Float" inputs "B_Float" = inputs "B_Float" := if_neg (by decide)
    have greyed : e' = .mix "MIX" false (inputs "Factor") (.grayscale (inputs "A_Float"))
        (inputs "B_Float") := by
      show Expr.mix "MIX" false (Expr.greyedAt "A_Float" inputs "Factor") _
        (Expr.greyedAt "A_Float" inputs "B_Float") = _
      rw [factor, other]
      rfl
    rw [greyed]
    exact Expr.mix_greyed_left ctx _ _ _
  · have other : Expr.greyedAt "B_Float" inputs "A_Float" = inputs "A_Float" := if_neg (by decide)
    have greyed : e' = .mix "MIX" false (inputs "Factor") (inputs "A_Float")
        (.grayscale (inputs "B_Float")) := by
      show Expr.mix "MIX" false (Expr.greyedAt "B_Float" inputs "Factor")
        (Expr.greyedAt "B_Float" inputs "A_Float") _ = _
      rw [factor, other]
      rfl
    rw [greyed]
    exact Expr.mix_greyed_right ctx _ _ _

/-- A scalar socket of a node with fixed sockets sees no more than the scalar
reading of what feeds it. The operands of a mix of scalars are seen in colour as
well, at the elements where they have a share in the mix and are not grey. -/
theorem greyed_scalar_socket {node : Node Rat (Fin k)} (fixed : node.kind.isDynamic = false)
    {socket : InputSocket Rat} (declared : socket ∈ node.kind.inputs)
    (scalar : socket.kind = .scalar) {output : String} {inGroup : Bool}
    {inputs : String → Expr Rat} {group : Fin k → Except LowerError (Expr Rat)} {e : Expr Rat}
    (lowered : nodeOutput node output inGroup (fun s => .ok (inputs s)) group = .ok e)
    (ctx : Context Rat n) :
    ∃ e', nodeOutput node output inGroup (fun s => .ok (Expr.greyedAt socket.name inputs s)) group =
        .ok e' ∧
      e'.evalScalar ctx = e.evalScalar ctx ∧
      (e'.evalColor ctx = e.evalColor ctx ↔
        (node.MixesScalars socket.name → ∀ colors t c, e.evalColor ctx = .ok colors →
          (inputs "Factor").evalScalar ctx = .ok t →
          (inputs socket.name).evalColor ctx = .ok c →
          ∀ i, floatShare socket.name (t.get i) = 0 ∨ c.get i = (c.get i).greyed)) := by
  have forms := node.form_declared fixed output
  rw [nodeOutput_eq] at lowered ⊢
  cases made : node.form output with
  | error refusal =>
    rw [made] at lowered
    cases lowered
  | ok form =>
    rw [made] at lowered
    have reads := forms.ok made
    cases form with
    | boundary | inside => cases reads
    | built shape =>
      have own : shape.substitute inputs = e :=
        Except.ok.inj ((Expr.substituteM_ok fun _ _ => rfl).symm.trans lowered)
      refine ⟨shape.substitute (Expr.greyedAt socket.name inputs),
        Expr.substituteM_ok fun _ _ => rfl, ?_⟩
      subst own
      by_cases mixes : node.MixesScalars socket.name
      · obtain ⟨⟨blend, clamp, body⟩, operand⟩ := mixes
        have mix := node.form_mixFloat body made
        subst mix
        obtain ⟨scalars, colors⟩ := mix_greyedAt operand ctx inputs
        refine ⟨scalars, colors.trans ⟨fun seen _ => seen, fun seen => ?_⟩⟩
        exact seen ⟨⟨blend, clamp, body⟩, operand⟩
      · have same := eval_greyedAt reads declared scalar mixes ctx inputs
        rw [Expr.evalScalar, Expr.evalScalar, Expr.evalColor, Expr.evalColor, same]
        exact ⟨rfl, fun _ operand => absurd operand mixes, fun _ => rfl⟩

end

section

local instance : Elementary Rat := Sample.elementary

/-- A red brightness counts by its luminance. -/
theorem red_brightness_greyed :
    let node : Node Rat (Fin 1) := ⟨"lift", none, none, .brightContrast⟩
    let inputs (s : String) : Expr Rat :=
      if s = "Bright" then .constColor ⟨1, 0, 0⟩ else .constScalar 0
    let outside (_ : Fin 1) : Except LowerError (Expr Rat) := .error (.cycle "" "")
    let bare : Context Rat 1 := ⟨[], none, none⟩
    ∃ e', nodeOutput node "Color" false (fun s => .ok (Expr.greyedAt "Bright" inputs s)) outside =
        .ok e' ∧
      e'.evalColor bare = .ok #v[.grey 0.2126] := by
  intro node inputs outside bare
  let e : Expr Rat := .brightContrast (.constScalar 0) (.constColor ⟨1, 0, 0⟩) (.constScalar 0)
  have lowered : nodeOutput node "Color" false (fun s => .ok (inputs s)) outside = .ok e := by cbv
  have declared : InputSocket.scalar "Bright" 0 ∈ node.kind.inputs (α := Rat) := by
    simp [node, Node.kind, NodeBody.kind, Kind.inputs]
  obtain ⟨e', greyed, -, colors⟩ := greyed_scalar_socket rfl declared rfl lowered bare
  have single : ¬ node.MixesScalars "Bright" := by
    rintro ⟨⟨blend, clamp, body⟩, -⟩
    cases body
  have own : e.evalColor bare = .ok #v[.grey 0.2126] := by cbv
  exact ⟨e', greyed, (colors.2 fun mixes => absurd mixes single).trans own⟩

/-- A red operand of a mix of scalars comes through in red. -/
theorem red_operand_seen :
    let node : Node Rat (Fin 1) := ⟨"mx", none, none, .mix "FLOAT" "MIX" false⟩
    let inputs (s : String) : Expr Rat :=
      if s = "A_Float" then .constColor ⟨1, 0, 0⟩ else .constScalar 0
    let outside (_ : Fin 1) : Except LowerError (Expr Rat) := .error (.cycle "" "")
    let bare : Context Rat 1 := ⟨[], none, none⟩
    node.kind.isDynamic = false ∧ InputSocket.scalar "A_Float" 0 ∈ node.kind.inputs (α := Rat) ∧
      ∃ e e', nodeOutput node "Result" false (fun s => .ok (inputs s)) outside = .ok e ∧
        nodeOutput node "Result" false (fun s => .ok (Expr.greyedAt "A_Float" inputs s)) outside =
          .ok e' ∧
        e.evalColor bare = .ok #v[⟨1, 0, 0⟩] ∧
        e'.evalColor bare = .ok #v[⟨0.2126, 0.2126, 0.2126⟩] ∧
        e'.evalColor bare ≠ e.evalColor bare := by
  intro node inputs outside bare
  let red : Expr Rat := .constColor ⟨1, 0, 0⟩
  let e : Expr Rat := .mix "MIX" false (.constScalar 0) red (.constScalar 0)
  let e' : Expr Rat := .mix "MIX" false (.constScalar 0) (.grayscale red) (.constScalar 0)
  have lowered : nodeOutput node "Result" false (fun s => .ok (inputs s)) outside = .ok e := by cbv
  have greyed : nodeOutput node "Result" false
      (fun s => .ok (Expr.greyedAt "A_Float" inputs s)) outside = .ok e' := by cbv
  have full : e.evalColor bare = .ok #v[⟨1, 0, 0⟩] := by cbv
  have grey : e'.evalColor bare = .ok #v[⟨0.2126, 0.2126, 0.2126⟩] := by cbv
  refine ⟨rfl, ?_, e, e', lowered, greyed, full, grey, ?_⟩
  · simp [node, Node.kind, NodeBody.kind, Kind.inputs]
  · rw [full, grey]
    intro same
    exact absurd (Except.ok.inj same) (by decide +kernel)

end

end Lowering
end ShadeGraph
