import ShadeGraph.Lowering.Basic
import ShadeGraph.Proofs.Outcome

/-!
# Lowering in two kinds of computation

Lowering is written once for every kind of computation. A relation between two
kinds that sequencing and failing keep is therefore kept by lowering a node as
soon as it holds between the lowerings below the node. Every comparison of two
runs is an instance: plain against remembering, one path against another.
-/

namespace ShadeGraph.Lowering

/-- A relation between two kinds of computation that sequencing keeps. -/
structure Sequencing (m m' : Type → Type) [Monad m] [Monad m'] where
  holds : {β : Type} → m β → m' β → Prop
  pure : ∀ {β : Type} (a : β), holds (pure a) (pure a)
  bind : ∀ {β γ : Type} {x : m β} {y : m' β} {f : β → m γ} {g : β → m' γ},
    holds x y → (∀ a, holds (f a) (g a)) → holds (x >>= f) (y >>= g)

/-- A relation between two kinds of computation that sequencing and failing keep. -/
structure Coupling (m m' : Type → Type) [Monad m] [Monad m']
    [MonadExceptOf LowerError m] [MonadExceptOf LowerError m'] extends Sequencing m m' where
  throw : ∀ {β : Type} (e : LowerError), holds (β := β) (throw e) (throw e)

variable {α : Type} {m m' : Type → Type} [Monad m] [Monad m']

theorem Sequencing.substituteM (R : Sequencing m m') {bind : String → m (Expr α)}
    {bind' : String → m' (Expr α)} (h : ∀ socket, R.holds (bind socket) (bind' socket))
    (e : Expr α) : R.holds (e.substituteM bind) (e.substituteM bind') := by
  induction e with
  | groupInput socket => exact h socket
  | constColor | constScalar | attributeColor | attributeScalar | geometry => exact R.pure _
  | grayscale _ a | separate _ _ _ a | colorRamp _ _ _ _ a | group _ _ a =>
    exact R.bind a fun _ => R.pure _
  | vectorMeasure _ _ _ a b | invert _ _ a b | gamma _ _ a b =>
    exact R.bind a fun _ => R.bind b fun _ => R.pure _
  | math _ _ _ _ _ a b c | mix _ _ _ _ _ a b c | clamp _ _ _ _ a b c
  | brightContrast _ _ _ a b c | combine _ _ _ _ a b c =>
    exact R.bind a fun _ => R.bind b fun _ => R.bind c fun _ => R.pure _
  | vectorMath _ _ _ _ _ a b c d =>
    exact R.bind a fun _ => R.bind b fun _ => R.bind c fun _ => R.bind d fun _ => R.pure _
  | hueSaturation _ _ _ _ _ a b c d e =>
    exact R.bind a fun _ => R.bind b fun _ => R.bind c fun _ => R.bind d fun _ =>
      R.bind e fun _ => R.pure _
  | mapRange _ _ _ _ _ _ _ _ a b c d e f =>
    exact R.bind a fun _ => R.bind b fun _ => R.bind c fun _ => R.bind d fun _ =>
      R.bind e fun _ => R.bind f fun _ => R.pure _

/-- What fails in certain ways only, beside what cannot fail. -/
def Sequencing.failsBy {ε : Type} (fault : ε → Prop) : Sequencing (Except ε) Id where
  holds x _ := FailsBy fault x
  pure _ := trivial
  bind := FailsBy.bind

/-- Filling in an expression fails only as what is filled in does. -/
theorem substituteM_failsBy {ε : Type} {fault : ε → Prop} {bind : String → Except ε (Expr α)}
    (h : ∀ socket, FailsBy fault (bind socket)) (e : Expr α) :
    FailsBy fault (e.substituteM bind) := by
  let same (socket : String) : Id (Expr α) := .groupInput socket
  have beside : ∀ socket, (Sequencing.failsBy fault).holds (bind socket) (same socket) := h
  exact (Sequencing.failsBy fault).substituteM beside e

end ShadeGraph.Lowering
