/-! Computations that may fail and that leave a trace. A failure keeps what was
traced before it, and the trace never decides the outcome. -/

namespace ShadeGraph

structure Traced (ω ε α : Type) where
  trace : List ω
  outcome : Except ε α

namespace Traced

variable {ω ω' ε ε' α β : Type}

def bind (x : Traced ω ε α) (f : α → Traced ω ε β) : Traced ω ε β :=
  match x.outcome with
  | .ok a => ⟨x.trace ++ (f a).trace, (f a).outcome⟩
  | .error e => ⟨x.trace, .error e⟩

instance : Monad (Traced ω ε) where
  pure a := ⟨[], .ok a⟩
  bind := bind

instance : MonadExceptOf ε (Traced ω ε) where
  throw e := ⟨[], .error e⟩
  tryCatch x handle :=
    match x.outcome with
    | .ok _ => x
    | .error e => ⟨x.trace ++ (handle e).trace, (handle e).outcome⟩

def log (event : ω) : Traced ω ε Unit := ⟨[event], .ok ()⟩

def lift (outcome : Except ε α) : Traced ω ε α := ⟨[], outcome⟩

def mapTrace (f : ω → ω') (x : Traced ω ε α) : Traced ω' ε α := ⟨x.trace.map f, x.outcome⟩

def mapError (f : ε → ε') (x : Traced ω ε α) : Traced ω ε' α := ⟨x.trace, x.outcome.mapError f⟩

theorem outcome_bind (x : Traced ω ε α) (f : α → Traced ω ε β) :
    (x >>= f).outcome = x.outcome >>= fun a => (f a).outcome := by
  show (bind x f).outcome = _
  unfold bind
  cases x.outcome <;> rfl

end Traced
end ShadeGraph
