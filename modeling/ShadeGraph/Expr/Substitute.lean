import ShadeGraph.Expr.Basic

/-! Filling in the boundary inputs of a group. What is put in stays as it is:
its own boundary inputs belong to the group around this one. -/

namespace ShadeGraph.Expr

variable {α : Type}

/-- Replaces every boundary input, the effects running from the root down and in
the order of the fields. -/
def substituteM {m : Type → Type} [Monad m] (bind : String → m (Expr α)) :
    Expr α → m (Expr α)
  | groupInput socket => bind socket
  | math operation k a b c =>
    return math operation k (← a.substituteM bind) (← b.substituteM bind) (← c.substituteM bind)
  | vectorMath operation a b c scale =>
    return vectorMath operation (← a.substituteM bind) (← b.substituteM bind)
      (← c.substituteM bind) (← scale.substituteM bind)
  | vectorMeasure operation a b =>
    return vectorMeasure operation (← a.substituteM bind) (← b.substituteM bind)
  | mix blend k fac color1 color2 =>
    return mix blend k (← fac.substituteM bind) (← color1.substituteM bind)
      (← color2.substituteM bind)
  | invert fac color => return invert (← fac.substituteM bind) (← color.substituteM bind)
  | grayscale color => return grayscale (← color.substituteM bind)
  | clamp mode value min max =>
    return clamp mode (← value.substituteM bind) (← min.substituteM bind)
      (← max.substituteM bind)
  | brightContrast color bright contrast =>
    return brightContrast (← color.substituteM bind) (← bright.substituteM bind)
      (← contrast.substituteM bind)
  | gamma color exponent => return gamma (← color.substituteM bind) (← exponent.substituteM bind)
  | separate space channel input => return separate space channel (← input.substituteM bind)
  | combine space x y z =>
    return combine space (← x.substituteM bind) (← y.substituteM bind) (← z.substituteM bind)
  | colorRamp output interpolation stops fac =>
    return colorRamp output interpolation stops (← fac.substituteM bind)
  | mapRange interpolation k value fromMin fromMax toMin toMax steps =>
    return mapRange interpolation k (← value.substituteM bind) (← fromMin.substituteM bind)
      (← fromMax.substituteM bind) (← toMin.substituteM bind) (← toMax.substituteM bind)
      (← steps.substituteM bind)
  | hueSaturation hue saturation value fac color =>
    return hueSaturation (← hue.substituteM bind) (← saturation.substituteM bind)
      (← value.substituteM bind) (← fac.substituteM bind) (← color.substituteM bind)
  | group name inner => return group name (← inner.substituteM bind)
  | e => return e

def substitute (bind : String → Expr α) (e : Expr α) : Expr α :=
  Id.run (e.substituteM fun socket => pure (bind socket))

/-- Substitution is a walk over the children that stops at boundary inputs. -/
theorem substituteM_eq_traverseChildren {m : Type → Type} [Monad m]
    (bind : String → m (Expr α)) {e : Expr α} (h : ∀ socket, e ≠ groupInput socket) :
    e.substituteM bind = e.traverseChildren (substituteM bind) := by
  cases e with
  | groupInput socket => exact absurd rfl (h socket)
  | _ => rfl

example : (invert (α := Unit) (groupInput "a") (groupInput "b")).substitute
    (fun s => groupInput (s ++ "'")) = invert (groupInput "a'") (groupInput "b'") := by decide

end ShadeGraph.Expr
