import ShadeGraph.Bake
import ShadeGraph.Proofs.Lowering.Refusals

/-!
# Why a loaded material does not bake

What loading lets through, lowering refuses by name or turns into a supported
expression, and a supported expression lacks nothing but attributes of the mesh.
So a bake of a loaded material is complete or fails for a reason that the author
of the material or of the mesh can see to.
-/

namespace ShadeGraph

variable {α : Type} {n k : Nat}

/-- A cause that lies with the graph of the material or with the mesh. -/
def BakeCause.UserLevel (graph : Graph α (Fin k)) (ctx : Context α n) : BakeCause → Prop
  | .noOutput name => name = graph.name ∧ graph.bakeOutput? = none
  | .lowering _ cause => ¬ cause.Dangling
  | .evaluation _ cause => ctx.ToBlame cause

/-- A fault that names the material, for a cause that lies with it or the mesh. -/
structure BakeError.UserLevel (material : Material α (Fin k)) (ctx : Context α n)
    (e : BakeError) : Prop where
  named : e.material = material.name
  cause : e.cause.UserLevel material.graph ctx

namespace Bake

variable {material : Material α (Fin k)} {groups : Vector (Graph α (Fin k)) k}
  {ctx : Context α n}

theorem length_bytes (pixels : List Bgra) :
    (pixels.flatMap Bgra.toList).length = 4 * pixels.length := by
  induction pixels with
  | nil => rfl
  | cons pixel rest ih =>
    simp only [List.flatMap_cons, List.length_append, List.length_cons, ih, Bgra.toList,
      List.length_nil]
    omega

theorem findOutput_ends :
    Ends (BakeError.UserLevel material ctx) (fun _ => True) (findOutput material).outcome := by
  have found : Ends (fun cause => cause.UserLevel material.graph ctx) (fun _ => True)
      (bakeOutput material.graph) := by
    unfold bakeOutput
    cases found : material.graph.bakeOutput? with
    | none => exact ⟨rfl, found⟩
    | some node => trivial
  exact found.mapError fun _ user => ⟨rfl, user⟩

variable [Arithmetic α]

theorem lowerSocket_ends (formed : (Family.mk material.graph groups).WellFormed)
    (output : Node α (Fin k)) (socket : BakeSocket) :
    Ends (BakeError.UserLevel material ctx) (Expr.Supported false)
      (lowerSocket false material groups output socket).outcome := by
  have lowered : Ends (BakeError.UserLevel material ctx) (Expr.Supported false)
      ((Family.lowerInput ⟨material.graph, groups⟩ output socket.name).outcome.mapError
        fun e => ⟨material.name, .lowering socket e⟩) :=
    (Lowering.rootInput_sound formed output socket.name).mapError fun _ sound => ⟨rfl, sound⟩
  refine Ends.traced lowered fun expr supported => ?_
  have logged : Ends (BakeError.UserLevel material ctx) (fun _ => True)
    (Traced.log (.lowered material.name socket expr) : Run α Unit).outcome := trivial
  exact logged.traced fun _ _ => supported

omit [Arithmetic α] in
theorem evalSocket_ends {β : Type} {result : Except EvalError β} (socket : BakeSocket)
    (ends : Ends ctx.ToBlame (fun _ => True) result) :
    Ends (BakeError.UserLevel material ctx) (fun _ => True)
      (evalSocket material socket result : Run α β).outcome :=
  ends.mapError fun _ blamed => ⟨rfl, blamed⟩

variable [Elementary α]

theorem scalarSocket_ends (formed : (Family.mk material.graph groups).WellFormed)
    (socket : BakeSocket) : Ends (BakeError.UserLevel material ctx) (fun _ => True)
      (scalarSocket false material groups ctx socket).outcome := by
  refine findOutput_ends.traced fun output _ => ?_
  refine (lowerSocket_ends formed output socket).traced fun expr supported => ?_
  have value : Ends ctx.ToBlame (fun _ => True) (expr.evalScalar ctx) :=
    (supported.evalIn _).bind fun _ _ => trivial
  exact evalSocket_ends socket value

theorem vertexColors_ends (formed : (Family.mk material.graph groups).WellFormed) :
    Ends (BakeError.UserLevel material ctx) (fun _ => True)
      (vertexColors false material groups ctx).outcome := by
  refine findOutput_ends.traced fun output _ => ?_
  refine (lowerSocket_ends formed output .color).traced fun color colorSupported => ?_
  refine (lowerSocket_ends formed output .alpha).traced fun alpha alphaSupported => ?_
  have colorValue : Ends ctx.ToBlame (fun _ => True) (color.evalColor ctx) :=
    (colorSupported.evalIn _).bind fun _ _ => trivial
  have alphaValue : Ends ctx.ToBlame (fun _ => True) (alpha.evalScalar ctx) :=
    (alphaSupported.evalIn _).bind fun _ _ => trivial
  refine (evalSocket_ends .color colorValue).traced fun _ _ => ?_
  refine (evalSocket_ends .alpha alphaValue).traced fun _ _ => ?_
  trivial

theorem sway_ends (formed : (Family.mk material.graph groups).WellFormed) :
    Ends (BakeError.UserLevel material ctx) (fun _ => True)
      (sway false material groups ctx).outcome := by
  refine (scalarSocket_ends formed .swayFrequency).traced fun _ _ => ?_
  refine (scalarSocket_ends formed .swayAmplitude).traced fun _ _ => ?_
  refine (scalarSocket_ends formed .swayPhase).traced fun _ _ => ?_
  trivial

/-- Every bake of a loaded material gives a value for every element, or a fault
that names the material and lies with it or with the mesh. -/
theorem loaded_ends {data? : Option (Data α)} {library : Library α}
    (loaded : Document.load data? = .accept library)
    {material : Material α (Fin library.groupCount)} (mem : material ∈ library.materials)
    (ctx : Context α n) :
    let fault := BakeError.UserLevel material ctx
    Ends fault (fun pixels => (pixels.toList.flatMap Bgra.toList).length = 4 * n)
        (vertexColors false material library.groups ctx).outcome ∧
      Ends fault (fun values => values.toList.length = n)
        (Bake.alpha false material library.groups ctx).outcome ∧
      Ends fault (fun values => values.toList.length = n)
        (specularStrength false material library.groups ctx).outcome ∧
      Ends fault (fun values => values.angularFrequency.toList.length = n ∧
          values.amplitude.toList.length = n ∧ values.phaseOffset.toList.length = n)
        (sway false material library.groups ctx).outcome := by
  intro fault
  have formed : (library.family material).WellFormed :=
    (Document.load_wellFormed loaded).family_graph mem
  refine ⟨(vertexColors_ends formed).mono fun pixels _ => ?_,
    (scalarSocket_ends formed .alpha).mono fun values _ => Vector.length_toList,
    (scalarSocket_ends formed .specularStrength).mono fun values _ => Vector.length_toList,
    (sway_ends formed).mono fun values _ =>
      ⟨Vector.length_toList, Vector.length_toList, Vector.length_toList⟩⟩
  rw [length_bytes, Vector.length_toList]

section

local instance : Elementary Rat := Sample.elementary

/-- A mesh without layers is to blame for the fault of a material that reads one. -/
theorem masked_ends :
    let bare : Context Rat 2 := ⟨[], none, none⟩
    (Bake.alpha false Sample.masked Sample.library.groups bare).outcome =
        .error ⟨"Masked", .evaluation .alpha (.missingAttribute "mask")⟩ ∧
      bare.Lacks "mask" := by
  intro bare
  have fails : (Bake.alpha false Sample.masked Sample.library.groups bare).outcome =
      .error ⟨"Masked", .evaluation .alpha (.missingAttribute "mask")⟩ := by cbv
  have user := (loaded_ends Sample.loads Sample.masked_mem bare).2.1.error fails
  exact ⟨fails, user.cause⟩

end

end Bake
end ShadeGraph
