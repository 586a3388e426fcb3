import ShadeGraph.Expr.Eval
import ShadeGraph.Expr.Substitute
import ShadeGraph.Proofs.Outcome

/-!
# Values of filled-in expressions

Filling in the boundary inputs of an expression and evaluating the result gives
the value of the expression where every boundary input has the value of what
was filled in. Only values count here: an evaluation that fails has none.
-/

namespace ShadeGraph.Expr

variable {α : Type} {n : Nat} [Arithmetic α] [Elementary α]

/-- The value of an expression, if it has one. -/
def value? (ctx : Context α n) (env : String → Option (Signal α n)) (e : Expr α) :
    Option (Signal α n) :=
  (e.evalIn ctx env).toOption

theorem value?_groupInput (ctx : Context α n) (env : String → Option (Signal α n))
    (socket : String) : (groupInput socket : Expr α).value? ctx env = env socket := by
  rw [value?, evalIn]
  cases env socket with
  | none => rfl
  | some signal => rfl

variable {ε : Type} {ctx : Context α n} {env outer : String → Option (Signal α n)}
  {bind : String → Except ε (Expr α)}

theorem value?_substituteM
    (bound : ∀ socket, Ends (fun _ => True) (fun b => b.value? ctx outer = env socket)
      (bind socket)) (e : Expr α) :
    Ends (fun _ => True) (fun e' => e'.value? ctx outer = e.value? ctx env)
      (e.substituteM bind) := by
  induction e with
  | groupInput socket =>
    rw [value?_groupInput]
    exact bound socket
  | constColor | constScalar | attributeColor | geometry => exact rfl
  | attributeScalar name channel => cases channel <;> exact rfl
  | group name inner ih => exact ih.bind fun inner' h => h
  | grayscale _ a | separate _ _ _ a => exact a.bind fun _ a => toOption_bind a fun _ => rfl
  | vectorMeasure _ _ _ a b =>
    exact a.bind fun _ a => b.bind fun _ b =>
      toOption_bind rfl fun _ => toOption_bind a fun _ => toOption_bind b fun _ => rfl
  | invert _ _ a b | gamma _ _ a b =>
    exact a.bind fun _ a => b.bind fun _ b =>
      toOption_bind a fun _ => toOption_bind b fun _ => rfl
  | math _ _ _ _ _ a b c | mix _ _ _ _ _ a b c =>
    exact a.bind fun _ a => b.bind fun _ b => c.bind fun _ c =>
      toOption_bind rfl fun _ => toOption_bind a fun _ => toOption_bind b fun _ =>
      toOption_bind c fun _ => rfl
  | brightContrast _ _ _ a b c | combine _ _ _ _ a b c =>
    exact a.bind fun _ a => b.bind fun _ b => c.bind fun _ c =>
      toOption_bind a fun _ => toOption_bind b fun _ => toOption_bind c fun _ => rfl
  | clamp mode _ _ _ a b c =>
    refine a.bind fun _ a => b.bind fun _ b => c.bind fun _ c => ?_
    show Except.toOption _ = Except.toOption _
    simp only [evalIn]
    by_cases range : mode ≠ "MINMAX"
    · rw [if_pos range, if_pos range]
      rfl
    · rw [if_neg range, if_neg range]
      exact toOption_bind a fun _ => toOption_bind b fun _ => toOption_bind c fun _ => rfl
  | colorRamp output interpolation stops _ a =>
    refine a.bind fun _ a => ?_
    cases stops with
    | nil => exact rfl
    | cons first rest => exact toOption_bind a fun _ => rfl
  | vectorMath _ _ _ _ _ a b c d =>
    exact a.bind fun _ a => b.bind fun _ b => c.bind fun _ c => d.bind fun _ d =>
      toOption_bind rfl fun _ => toOption_bind a fun _ => toOption_bind b fun _ =>
      toOption_bind c fun _ => toOption_bind d fun _ => rfl
  | hueSaturation _ _ _ _ _ a b c d e =>
    exact a.bind fun _ a => b.bind fun _ b => c.bind fun _ c => d.bind fun _ d =>
      e.bind fun _ e =>
      toOption_bind a fun _ => toOption_bind b fun _ => toOption_bind c fun _ =>
      toOption_bind d fun _ => toOption_bind e fun _ => rfl
  | mapRange _ _ _ _ _ _ _ _ a b c d e f =>
    exact a.bind fun _ a => b.bind fun _ b => c.bind fun _ c => d.bind fun _ d =>
      e.bind fun _ e => f.bind fun _ f =>
      toOption_bind a fun _ => toOption_bind b fun _ => toOption_bind c fun _ =>
      toOption_bind d fun _ => toOption_bind e fun _ => toOption_bind f fun _ => rfl

end ShadeGraph.Expr
