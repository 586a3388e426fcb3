import ShadeGraph.Bake.Bytes
import ShadeGraph.Proofs.Bake.Faults
import ShadeGraph.Proofs.Expr.Gathering

/-!
# Vertex colours go element by element

The bytes of the vertex colours are those of the pixels one after another, and
the pixels of a gathered mesh are the gathered pixels.
-/

namespace ShadeGraph.Bake

open Interleaved (ofColors perElement colorAt scalarAt perElement_ofFn)

variable {α : Type} [Arithmetic α] {k m n : Nat}

theorem bytes_eq (beyond : α) (color : Vector (Vec3 α) n) (alpha : Vector α n) :
    bytes beyond n (ofColors color.toArray) alpha.toArray =
      (Vector.ofFn fun i => pixel (color.get i) (alpha.get i)).toArray.flatMap
        fun p => p.toList.toArray := by
  have pixels : bytes beyond n (ofColors color.toArray) alpha.toArray =
      (perElement n fun i => pixel (colorAt beyond (ofColors color.toArray) i)
        (scalarAt beyond alpha.toArray i)).flatMap fun p => p.toList.toArray := by
    rw [perElement, Array.flatMap_map]
    rfl
  rw [pixels]
  exact congrArg _ (perElement_ofFn fun i => by simp)

/-- Whatever the sockets of a material are lowered to is supported. -/
def Evaluable (memoize : Bool) (material : Material α (Fin k))
    (groups : Vector (Graph α (Fin k)) k) : Prop :=
  ∀ output socket e,
    (lowerSocket memoize material groups output socket).outcome = .ok e → e.Supported false

theorem evaluable_of_wellFormed {material : Material α (Fin k)}
    {groups : Vector (Graph α (Fin k)) k} (formed : (Family.mk material.graph groups).WellFormed) :
    Evaluable false material groups := by
  intro output socket e lowered
  have ends : Ends (BakeError.UserLevel material (⟨[], none, none⟩ : Context α 0))
      (Expr.Supported false) (lowerSocket false material groups output socket).outcome :=
    lowerSocket_ends formed output socket
  exact ends.ok lowered

variable [Elementary α] {memoize : Bool} {material : Material α (Fin k)}
  {groups : Vector (Graph α (Fin k)) k}

theorem vertexBytes_eq (beyond : α) (ctx : Context α n) :
    (vertexBytes beyond memoize material groups ctx).outcome =
      (vertexColors memoize material groups ctx).outcome.map fun pixels =>
        pixels.toArray.flatMap fun p => p.toList.toArray := by
  refine Parallel.eq_map ?_
  refine Parallel.tracedStep fun output _ => Parallel.tracedStep fun color _ =>
    Parallel.tracedStep fun alpha _ => ?_
  rw [Expr.colorBuffer_eq, Expr.scalarBuffer_eq]
  refine Parallel.traced ((Parallel.of_map _ _).mapError _) ?_
  rintro colors _ rfl
  refine Parallel.traced ((Parallel.of_map _ _).mapError _) ?_
  rintro alphas _ rfl
  exact bytes_eq beyond colors alphas

theorem vertexColors_gather (evaluable : Evaluable memoize material groups) (ctx : Context α n)
    (picks : Vector (Fin n) m) :
    (vertexColors memoize material groups (ctx.gather picks)).outcome =
      (vertexColors memoize material groups ctx).outcome.map (gather picks) := by
  refine Parallel.eq_map ?_
  refine Parallel.tracedStep fun output _ => Parallel.tracedStep fun color lowered =>
    Parallel.tracedStep fun alpha lowered' => ?_
  rw [Expr.evalColor_gather (evaluable _ _ _ lowered),
    Expr.evalScalar_gather (evaluable _ _ _ lowered')]
  refine Parallel.traced ((Parallel.of_map _ _).mapError _) ?_
  rintro colors _ rfl
  refine Parallel.traced ((Parallel.of_map _ _).mapError _) ?_
  rintro alphas _ rfl
  show Vector.ofFn _ = gather picks (Vector.ofFn _)
  simp only [gather_ofFn, get_gather]

/-- Over gathered elements every buffer of a supported expression is gathered,
three numbers or one for an element, and the fault is the same where there is
one. So are the bytes of a material, four for an element. -/
theorem buffers_gather (beyond : α) (ctx : Context α n) (picks : Vector (Fin n) m) :
    (∀ e : Expr α, e.Supported false →
      e.colorBuffer beyond (ctx.gather picks) =
          (e.colorBuffer beyond ctx).map (Interleaved.gather 3 picks) ∧
        e.scalarBuffer beyond (ctx.gather picks) =
          (e.scalarBuffer beyond ctx).map (Interleaved.gather 1 picks)) ∧
      ∀ (k : Nat) (memoize : Bool) (material : Material α (Fin k))
        (groups : Vector (Graph α (Fin k)) k), Evaluable memoize material groups →
        (vertexBytes beyond memoize material groups (ctx.gather picks)).outcome =
          (vertexBytes beyond memoize material groups ctx).outcome.map
            (Interleaved.gather 4 picks) := by
  constructor
  · intro e supported
    exact ⟨Expr.colorBuffer_gather supported beyond ctx picks,
      Expr.scalarBuffer_gather supported beyond ctx picks⟩
  · intro k memoize material groups evaluable
    rw [vertexBytes_eq, vertexBytes_eq, vertexColors_gather evaluable]
    cases (vertexColors memoize material groups ctx).outcome with
    | error fault => rfl
    | ok pixels =>
      have wide (p : Bgra) : p.toList.toArray.size = 4 := rfl
      exact congrArg Except.ok (Interleaved.gather_flatMap wide picks pixels).symm

section

local instance : Elementary Rat := Sample.elementary

/-- Three elements out of two, the second one twice. -/
theorem masked_gathers :
    let mask : Expr Rat := .attributeScalar "mask" .fac
    let picked : Context Rat 3 := Sample.context.gather #v[1, 0, 1]
    mask.scalarBuffer 0 picked = .ok #[3 / 4, 1 / 4, 3 / 4] ∧
      (vertexBytes 0 false Sample.masked #v[Sample.pass] picked).outcome =
        .ok #[128, 128, 128, 191, 128, 128, 128, 64, 128, 128, 128, 191] := by
  intro mask picked
  have formed : (Sample.library.family Sample.masked).WellFormed :=
    (Document.load_wellFormed Sample.loads).family_graph Sample.masked_mem
  have evaluable : Evaluable false Sample.masked #v[Sample.pass] :=
    evaluable_of_wellFormed formed
  obtain ⟨buffers, bytes⟩ := buffers_gather (0 : Rat) Sample.context #v[1, 0, 1]
  have supported : mask.Supported false := trivial
  have own : mask.scalarBuffer 0 Sample.context = .ok #[1 / 4, 3 / 4] := by
    rw [Expr.scalarBuffer]
    rfl
  have baked : (vertexBytes 0 false Sample.masked #v[Sample.pass] Sample.context).outcome =
      .ok #[128, 128, 128, 64, 128, 128, 128, 191] := by
    rw [vertexBytes_eq]
    cbv
  constructor
  · rw [(buffers mask supported).2, own]
    rfl
  · rw [bytes 1 false Sample.masked #v[Sample.pass] evaluable, baked]
    rfl

end

end ShadeGraph.Bake
