import ShadeGraph.Bake.Provenance
import ShadeGraph.Proofs.Bake.Gathering

/-!
# Stages of a bake

A bake goes through its stages in order and fails with the fault of the first
that fails, whichever bake it is. The fault is a mark of the stage: it names the
material once, and it carries the socket that was being lowered if a node or a
socket could not be.
-/

namespace ShadeGraph

namespace Fault

/-- Not marked by any guard. -/
structure Bare (e : Fault) : Prop where
  unwrapped : e.isMaterial = false
  unnoted : e.bakingSocket? = none

theorem bare_ofLowering (cause : LowerError) : (ofLowering cause).Bare := by
  cases cause <;> exact ⟨rfl, rfl⟩

theorem bare_ofEvaluation (cause : EvalError) : (ofEvaluation cause).Bare := by
  cases cause <;> exact ⟨rfl, rfl⟩

theorem supported_ofEvaluation (cause : EvalError) :
    (ofEvaluation cause).isUnsupported = false := by
  cases cause <;> rfl

theorem note_eq_self {e : Fault} (supported : e.isUnsupported = false) (socket : BakeSocket) :
    e.note socket = e := by
  cases e <;> first | rfl | cases supported

end Fault

/-! The guarded bakes are the bakes, with their errors as faults. -/

def BakeCause.fault : BakeCause → Fault
  | noOutput graph => .noOutput graph
  | lowering socket cause => (Fault.ofLowering cause).note socket
  | evaluation _ cause => Fault.ofEvaluation cause

def BakeError.fault (e : BakeError) : Fault := .material e.material e.cause.fault

namespace Provenance

variable {α β : Type} {n k : Nat} (memoize : Bool) (material : Material α (Fin k))
  (groups : Vector (Graph α (Fin k)) k)

theorem findOutput_eq : (findOutput material : Run α _).outcome =
    (Bake.findOutput material).outcome.mapError BakeError.fault := by
  unfold findOutput Bake.findOutput Bake.bakeOutput
  cases material.graph.bakeOutput? <;> rfl

theorem evalSocket_eq (socket : BakeSocket) (result : Except EvalError β) :
    (evalSocket material socket result : Run α β).outcome =
      (Bake.evalSocket material socket result : Bake.Run α β).outcome.mapError BakeError.fault := by
  cases result with
  | ok b => rfl
  | error e => cases e <;> rfl

variable [Arithmetic α]

theorem lowerSocket_outcome (output : Node α (Fin k)) (socket : BakeSocket) :
    (lowerSocket memoize material groups output socket).outcome =
      (Bake.lower memoize ⟨material.graph, groups⟩ output socket.name).outcome.mapError
        fun cause => ((Fault.ofLowering cause).note socket).wrap material.name := by
  show Except.mapError _ (Traced.outcome (_ >>= _)) = _
  rw [Traced.outcome_bind]
  show Except.mapError _ (Except.mapError _ (Bake.lower ..).outcome >>= _) = _
  cases (Bake.lower memoize ⟨material.graph, groups⟩ output socket.name).outcome <;> rfl

theorem lowerSocket_eq (output : Node α (Fin k)) (socket : BakeSocket) :
    (lowerSocket memoize material groups output socket).outcome =
      (Bake.lowerSocket memoize material groups output socket).outcome.mapError
        BakeError.fault := by
  rw [lowerSocket_outcome, Bake.lowerSocket, Traced.outcome_bind]
  show _ = Except.mapError _ (Except.mapError _ (Bake.lower ..).outcome >>= _)
  cases (Bake.lower memoize ⟨material.graph, groups⟩ output socket.name).outcome with
  | ok expr => rfl
  | error cause => cases cause <;> rfl

variable [Elementary α] (beyond : α) (ctx : Context α n)

theorem scalarSocket_eq (socket : BakeSocket) :
    (scalarSocket memoize material groups beyond ctx socket).outcome =
      ((Bake.scalarSocket memoize material groups ctx socket).outcome.map
        Vector.toArray).mapError BakeError.fault := by
  have plain : ((Bake.scalarSocket memoize material groups ctx socket).outcome.map
      Vector.toArray) = (do
        let output ← Bake.findOutput material
        let expr ← Bake.lowerSocket memoize material groups output socket
        Bake.evalSocket material socket (expr.scalarBuffer beyond ctx) :
          Bake.Run α (Array α)).outcome := by
    refine (Parallel.eq_map ?_).symm
    refine Parallel.tracedStep fun output _ => Parallel.tracedStep fun expr _ => ?_
    rw [Expr.scalarBuffer_eq]
    exact (Parallel.of_map _ _).mapError _
  rw [plain, scalarSocket]
  simp only [Traced.outcome_bind, mapError_bind, findOutput_eq, lowerSocket_eq, evalSocket_eq]

theorem vertexColors_eq :
    (vertexColors memoize material groups beyond ctx).outcome =
      (Bake.vertexBytes beyond memoize material groups ctx).outcome.mapError
        BakeError.fault := by
  rw [vertexColors, Bake.vertexBytes]
  simp only [Traced.outcome_bind, mapError_bind, findOutput_eq, lowerSocket_eq, evalSocket_eq]
  rfl

theorem sway_eq :
    (sway memoize material groups beyond ctx).outcome =
      ((Bake.sway memoize material groups ctx).outcome.map fun sway =>
        (⟨sway.angularFrequency.toArray, sway.amplitude.toArray, sway.phaseOffset.toArray⟩ :
          SwayBuffers α)).mapError BakeError.fault := by
  simp only [sway, Bake.sway, Traced.outcome_bind, scalarSocket_eq]
  cases (Bake.scalarSocket memoize material groups ctx .swayFrequency).outcome with
  | error e => rfl
  | ok frequency =>
    cases (Bake.scalarSocket memoize material groups ctx .swayAmplitude).outcome with
    | error e => rfl
    | ok amplitude =>
      cases (Bake.scalarSocket memoize material groups ctx .swayPhase).outcome <;> rfl

end Provenance

/-- A step of a bake. -/
inductive Stage
  | findOutput
  | lower (socket : BakeSocket)
  | evaluateColors
  | evaluateScalars (socket : BakeSocket)
deriving DecidableEq

namespace Stage

/-- The stages of a bake of one socket into scalars. -/
def scalar (socket : BakeSocket) : List Stage :=
  [findOutput, lower socket, evaluateScalars socket]

/-- The stages of the bake of vertex colours. -/
def vertex : List Stage :=
  [findOutput, lower .color, lower .alpha, evaluateColors, evaluateScalars .alpha]

/-- A fault that names the material once, around a fault that carries a socket
exactly if it is of an unsupported node or socket, and then the one that the
stage lowers. -/
def Marks (material : String) (stage : Stage) (e : Fault) : Prop :=
  ∃ inner, e = .material material inner ∧ inner.isMaterial = false ∧
    inner.bakingSocket?.isSome = inner.isUnsupported ∧
    ∀ socket, inner.bakingSocket? = some socket → stage = lower socket

variable {material : String} {stage : Stage} {e : Fault}

theorem marks_wrap (bare : e.Bare) (supported : e.isUnsupported = false) :
    stage.Marks material (e.wrap material) := by
  refine ⟨e, ?_, bare.unwrapped, ?_, ?_⟩
  · simp [Fault.wrap, bare.unwrapped]
  · simp [bare.unnoted, supported]
  · intro socket noted
    rw [bare.unnoted] at noted
    cases noted

theorem marks_note (bare : e.Bare) (socket : BakeSocket) :
    (lower socket).Marks material ((e.note socket).wrap material) := by
  cases e with
  | unsupportedNode kind node refusal? _ =>
    refine ⟨.unsupportedNode kind node refusal? (some socket), rfl, rfl, rfl, ?_⟩
    rintro _ ⟨⟩
    rfl
  | unsupportedSocket kind node name _ =>
    refine ⟨.unsupportedSocket kind node name (some socket), rfl, rfl, rfl, ?_⟩
    rintro _ ⟨⟩
    rfl
  | _ => exact marks_wrap bare rfl

end Stage

namespace Provenance

variable {α β : Type} [Arithmetic α] [Elementary α] {n k : Nat} (memoize : Bool)
  (material : Material α (Fin k)) (groups : Vector (Graph α (Fin k)) k) (beyond : α)
  (ctx : Context α n)

def lowered (socket : BakeSocket) : Run α (Expr α) := do
  lowerSocket memoize material groups (← findOutput material) socket

/-- The colour socket alone. -/
def colorSocket : Run α (Array α) := do
  let output ← findOutput material
  let expr ← lowerSocket memoize material groups output .color
  evalSocket material .color (expr.colorBuffer beyond ctx)

/-- What a stage fails with by itself, given what it needs. -/
def stageFault? : Stage → Option Fault
  | .findOutput => fault? (findOutput material : Run α _).outcome
  | .lower socket => do
    let output ← (findOutput material : Run α _).outcome.toOption
    fault? (lowerSocket memoize material groups output socket).outcome
  | .evaluateColors => do
    let expr ← (lowered memoize material groups .color).outcome.toOption
    fault? (evalSocket material .color (expr.colorBuffer beyond ctx) : Run α _).outcome
  | .evaluateScalars socket => do
    let expr ← (lowered memoize material groups socket).outcome.toOption
    fault? (evalSocket material socket (expr.scalarBuffer beyond ctx) : Run α _).outcome

variable {memoize material groups beyond ctx}

omit [Arithmetic α] [Elementary α] in
theorem findOutput_marks {e : Fault}
    (failed : (findOutput material : Run α _).outcome = .error e) :
    Stage.findOutput.Marks material.name e := by
  unfold findOutput at failed
  cases found : material.graph.bakeOutput? with
  | some node =>
    rw [found] at failed
    cases failed
  | none =>
    rw [found] at failed
    cases failed
    exact Stage.marks_wrap ⟨rfl, rfl⟩ rfl

omit [Elementary α] in
theorem lowerSocket_marks {output : Node α (Fin k)} {socket : BakeSocket} {e : Fault}
    (failed : (lowerSocket memoize material groups output socket).outcome = .error e) :
    (Stage.lower socket).Marks material.name e := by
  rw [lowerSocket_outcome] at failed
  cases lowered : (Bake.lower memoize ⟨material.graph, groups⟩ output socket.name).outcome with
  | ok expr =>
    rw [lowered] at failed
    cases failed
  | error cause =>
    rw [lowered] at failed
    cases failed
    exact Stage.marks_note (Fault.bare_ofLowering cause) socket

omit [Arithmetic α] [Elementary α] in
theorem evalSocket_marks {socket : BakeSocket} {result : Except EvalError β} {stage : Stage}
    {e : Fault} (failed : (evalSocket material socket result : Run α β).outcome = .error e) :
    stage.Marks material.name e := by
  cases result with
  | ok b => cases failed
  | error cause =>
    have supported := Fault.supported_ofEvaluation cause
    have same : ((Fault.ofEvaluation cause).note socket).wrap material.name = e :=
      Except.error.inj failed
    rw [Fault.note_eq_self supported] at same
    rw [← same]
    exact Stage.marks_wrap (Fault.bare_ofEvaluation cause) supported

omit [Arithmetic α] [Elementary α] in
theorem evalSocket_eq_ok {socket : BakeSocket} {result : Except EvalError β} {value : β} :
    (evalSocket material socket result : Run α β).outcome = .ok value ↔ result = .ok value := by
  cases result with
  | ok b =>
    show (Except.ok b : Except Fault β) = .ok value ↔ _
    rw [Except.ok.injEq, Except.ok.injEq]
  | error cause => exact ⟨nofun, nofun⟩

theorem stageFault?_marks {stage : Stage} {e : Fault}
    (failed : stageFault? memoize material groups beyond ctx stage = some e) :
    stage.Marks material.name e := by
  cases stage with
  | findOutput => exact findOutput_marks (fault?_eq_some.1 failed)
  | lower socket =>
    obtain ⟨output, -, fault⟩ := Option.bind_eq_some_iff.1 failed
    exact lowerSocket_marks (fault?_eq_some.1 fault)
  | evaluateColors =>
    obtain ⟨expr, -, fault⟩ := Option.bind_eq_some_iff.1 failed
    exact evalSocket_marks (fault?_eq_some.1 fault)
  | evaluateScalars socket =>
    obtain ⟨expr, -, fault⟩ := Option.bind_eq_some_iff.1 failed
    exact evalSocket_marks (fault?_eq_some.1 fault)

variable (memoize material groups beyond ctx)

theorem fault?_scalarSocket (socket : BakeSocket) :
    fault? (scalarSocket memoize material groups beyond ctx socket).outcome =
      (Stage.scalar socket).findSome? (stageFault? memoize material groups beyond ctx) := by
  simp only [Stage.scalar, List.findSome?, stageFault?, lowered, scalarSocket, Traced.outcome_bind]
  cases (findOutput material : Run α _).outcome with
  | error e => simp
  | ok output =>
    cases lowers : (lowerSocket memoize material groups output socket).outcome with
    | error e => simp [lowers, Except.toOption]
    | ok expr =>
      cases evaluates : (evalSocket material socket (expr.scalarBuffer beyond ctx) :
        Run α _).outcome <;> simp [lowers, evaluates, Except.toOption]

theorem fault?_vertexColors :
    fault? (vertexColors memoize material groups beyond ctx).outcome =
      Stage.vertex.findSome? (stageFault? memoize material groups beyond ctx) := by
  simp only [Stage.vertex, List.findSome?, stageFault?, lowered, vertexColors, Traced.outcome_bind]
  cases (findOutput material : Run α _).outcome with
  | error e => simp
  | ok output =>
    cases color : (lowerSocket memoize material groups output .color).outcome with
    | error e => simp [color, Except.toOption]
    | ok colorExpr =>
      cases alpha : (lowerSocket memoize material groups output .alpha).outcome with
      | error e => simp [color, alpha, Except.toOption]
      | ok alphaExpr =>
        cases colors : (evalSocket material .color (colorExpr.colorBuffer beyond ctx) :
          Run α _).outcome with
        | error e => simp [color, alpha, colors, Except.toOption]
        | ok buffer =>
          cases alphas : (evalSocket material .alpha (alphaExpr.scalarBuffer beyond ctx) :
            Run α _).outcome <;> simp [color, alpha, colors, alphas, pure, Except.toOption]

/-- The sockets of the sway bake, in its order. -/
def swaySockets : List BakeSocket := [.swayFrequency, .swayAmplitude, .swayPhase]

theorem fault?_sway :
    fault? (sway memoize material groups beyond ctx).outcome =
      swaySockets.findSome? fun socket =>
        fault? (scalarSocket memoize material groups beyond ctx socket).outcome := by
  simp only [swaySockets, List.findSome?, sway, Traced.outcome_bind]
  cases (scalarSocket memoize material groups beyond ctx .swayFrequency).outcome with
  | error e => simp
  | ok frequency =>
    cases (scalarSocket memoize material groups beyond ctx .swayAmplitude).outcome with
    | error e => simp
    | ok amplitude =>
      cases (scalarSocket memoize material groups beyond ctx .swayPhase).outcome <;> simp [pure]

/-- A buffer of colours and one of scalars as bytes, four for an element. -/
structure Packed (n : Nat) (bytes : Array UInt8) (colors alphas : Array α) : Prop where
  bytes_size : bytes.size = 4 * n
  colors_size : colors.size = 3 * n
  alphas_size : alphas.size = n
  blue : ∀ i < n, bytes[4 * i]? = colors[3 * i + 2]?.map Bake.quantize
  green : ∀ i < n, bytes[4 * i + 1]? = colors[3 * i + 1]?.map Bake.quantize
  red : ∀ i < n, bytes[4 * i + 2]? = colors[3 * i]?.map Bake.quantize
  alpha : ∀ i < n, bytes[4 * i + 3]? = alphas[i]?.map Bake.quantize

omit [Elementary α] in
theorem bytes_packed (colors : Vector (Vec3 α) n) (alphas : Vector α n) :
    Packed n (Bake.bytes beyond n (Interleaved.ofColors colors.toArray) alphas.toArray)
      (Interleaved.ofColors colors.toArray) alphas.toArray := by
  rw [Bake.bytes_eq]
  have wide (p : Bgra) : p.toList.toArray.size = 4 := rfl
  let pixels := (Vector.ofFn fun i => Bake.pixel (colors.get i) (alphas.get i)).toArray
  let bytes := pixels.flatMap fun p => p.toList.toArray
  have byte (i : Nat) (h : i < n) (place : Nat) (inside : place < 4) :
      bytes[4 * i + place]? = (Bake.pixel colors[i] alphas[i]).toList[place]? := by
    have bound : i < pixels.size := by simpa [pixels] using h
    have pixel : pixels[i] = Bake.pixel colors[i] alphas[i] := by
      simp [pixels, Vector.get]
    rw [Nat.mul_comm, Interleaved.getElem?_flatMap wide pixels bound inside, pixel]
    exact List.getElem?_toArray
  have channel (i : Nat) (h : i < n) (k : Fin 3) :
      (Interleaved.ofColors colors.toArray)[3 * i + k.val]? = some (colors[i].get k) := by
    rw [Nat.mul_comm]
    exact Interleaved.channel_ofColors colors.toArray (by simpa using h) k
  have quantized (i : Nat) (h : i < n) (k : Fin 3) :
      (Interleaved.ofColors colors.toArray)[3 * i + k.val]?.map Bake.quantize =
        some (Bake.quantize (colors[i].get k)) := by
    rw [channel i h k, Option.map_some]
  constructor
  · show bytes.size = 4 * n
    rw [Interleaved.size_flatMap wide, Nat.mul_comm]
    simp [pixels]
  · rw [Interleaved.size_ofColors, Nat.mul_comm]
    simp
  · simp
  · intro i h
    exact (byte i h 0 (by decide)).trans (quantized i h 2).symm
  · intro i h
    exact (byte i h 1 (by decide)).trans (quantized i h 1).symm
  · intro i h
    exact (byte i h 2 (by decide)).trans (quantized i h 0).symm
  · intro i h
    have given : alphas.toArray[i]? = some alphas[i] := by simp [h]
    rw [given]
    exact byte i h 3 (by decide)

theorem vertexColors_packed {bytes : Array UInt8}
    (baked : (vertexColors memoize material groups beyond ctx).outcome = .ok bytes) :
    ∃ colors alphas, (colorSocket memoize material groups beyond ctx).outcome = .ok colors ∧
      (alpha memoize material groups beyond ctx).outcome = .ok alphas ∧
      Packed n bytes colors alphas := by
  simp only [vertexColors, Traced.outcome_bind, bind_eq_ok] at baked
  obtain ⟨output, found, colorExpr, color, alphaExpr, alpha, colors, colorsGiven, alphas,
    alphasGiven, packed⟩ := baked
  cases packed
  refine ⟨colors, alphas, ?_, ?_, ?_⟩
  · simp only [colorSocket, Traced.outcome_bind, found, color, colorsGiven, ok_bind]
  · simp only [Provenance.alpha, scalarSocket, Traced.outcome_bind, found, alpha, alphasGiven,
      ok_bind]
  · have colorBuffer := evalSocket_eq_ok.1 colorsGiven
    have alphaBuffer := evalSocket_eq_ok.1 alphasGiven
    rw [Expr.colorBuffer_eq, map_eq_ok] at colorBuffer
    rw [Expr.scalarBuffer_eq, map_eq_ok] at alphaBuffer
    obtain ⟨c, -, rfl⟩ := colorBuffer
    obtain ⟨a, -, rfl⟩ := alphaBuffer
    exact bytes_packed beyond c a

/-- A bake that fails exactly with what the first of its stages to fail does, and
bears the mark of that stage. -/
structure Staged (stages : List Stage) (baked : Except Fault β) : Prop where
  first : fault? baked = stages.findSome? (stageFault? memoize material groups beyond ctx)
  marked : ∀ e, baked = .error e → ∃ stage ∈ stages,
    stageFault? memoize material groups beyond ctx stage = some e ∧ stage.Marks material.name e

theorem staged {stages : List Stage} {baked : Except Fault β}
    (first : fault? baked = stages.findSome? (stageFault? memoize material groups beyond ctx)) :
    Staged memoize material groups beyond ctx stages baked := by
  refine ⟨first, fun e failed => ?_⟩
  have found : stages.findSome? (stageFault? memoize material groups beyond ctx) = some e := by
    rw [← first, failed]
    rfl
  obtain ⟨stage, mem, here⟩ := List.exists_of_findSome?_eq_some found
  exact ⟨stage, mem, here, stageFault?_marks here⟩

/-- Every bake fails with the marked fault of its first failing stage. Vertex
colours hold the quantized colours and alphas that the sockets have alone; they
fail as alpha does if no stage of the colours fails. Sway fails as the first of
its sockets that fails alone. -/
theorem bakes_staged :
    let stageFault? := stageFault? memoize material groups beyond ctx
    let vertexColors := (vertexColors memoize material groups beyond ctx).outcome
    let alpha := (alpha memoize material groups beyond ctx).outcome
    let specularStrength := (specularStrength memoize material groups beyond ctx).outcome
    let sway := (sway memoize material groups beyond ctx).outcome
    (Staged memoize material groups beyond ctx Stage.vertex vertexColors ∧
      Staged memoize material groups beyond ctx (Stage.scalar .alpha) alpha ∧
      Staged memoize material groups beyond ctx (Stage.scalar .specularStrength)
        specularStrength ∧
      Staged memoize material groups beyond ctx (swaySockets.flatMap Stage.scalar) sway) ∧
    (∀ bytes, vertexColors = .ok bytes → ∃ colors alphas,
      (colorSocket memoize material groups beyond ctx).outcome = .ok colors ∧
        alpha = .ok alphas ∧ Packed n bytes colors alphas) ∧
    (stageFault? .findOutput = none → stageFault? (.lower .color) = none →
      stageFault? .evaluateColors = none → fault? vertexColors = fault? alpha) ∧
    fault? sway = swaySockets.findSome? fun socket =>
      fault? (scalarSocket memoize material groups beyond ctx socket).outcome := by
  intro stageFault? vertexColors alpha specularStrength sway
  have ofVertex : fault? vertexColors = Stage.vertex.findSome? stageFault? :=
    fault?_vertexColors ..
  have ofAlpha : fault? alpha = (Stage.scalar .alpha).findSome? stageFault? :=
    fault?_scalarSocket ..
  have ofSway : fault? sway = (swaySockets.flatMap Stage.scalar).findSome? stageFault? := by
    have bySocket := fault?_sway memoize material groups beyond ctx
    simp only [fault?_scalarSocket] at bySocket
    rw [findSome?_flatMap]
    exact bySocket
  refine ⟨⟨staged _ _ _ _ _ ofVertex, staged _ _ _ _ _ ofAlpha,
      staged _ _ _ _ _ (fault?_scalarSocket ..), staged _ _ _ _ _ ofSway⟩,
    fun bytes baked => vertexColors_packed _ _ _ _ _ baked, ?_, fault?_sway ..⟩
  intro found lowers evaluates
  rw [ofVertex, ofAlpha]
  simp only [Stage.vertex, Stage.scalar, List.findSome?, found, lowers, evaluates]

section

local instance : Elementary Rat := Sample.elementary

/-- Where only alpha reads a layer that is not there, the colours fail as alpha
does, at the last stage. -/
theorem masked_fails :
    let bare : Context Rat 2 := ⟨[], none, none⟩
    let e := Fault.material "Masked" (.missingAttribute "mask")
    (alpha false Sample.masked Sample.library.groups 0 bare).outcome = .error e ∧
      (vertexColors false Sample.masked Sample.library.groups 0 bare).outcome = .error e ∧
      (Stage.evaluateScalars .alpha).Marks "Masked" e := by
  intro bare e
  have alphaFails : (alpha false Sample.masked Sample.library.groups 0 bare).outcome = .error e :=
    (scalarSocket_eq _ _ _ _ _ _).trans (by cbv)
  obtain ⟨-, -, asAlpha, -⟩ := bakes_staged false Sample.masked Sample.library.groups 0 bare
  have found : stageFault? false Sample.masked Sample.library.groups 0 bare .findOutput = none := by
    cbv
  have lowers : stageFault? false Sample.masked Sample.library.groups 0 bare (.lower .color) =
      none := by
    cbv
  have evaluates : stageFault? false Sample.masked Sample.library.groups 0 bare
      .evaluateColors = none := by
    simp only [stageFault?, Expr.colorBuffer_eq]
    cbv
  have same := asAlpha found lowers evaluates
  rw [alphaFails] at same
  refine ⟨alphaFails, fault?_eq_some.1 same, ?_⟩
  exact ⟨.missingAttribute "mask", rfl, rfl, rfl, by rintro _ ⟨⟩⟩

end

end Provenance
end ShadeGraph
