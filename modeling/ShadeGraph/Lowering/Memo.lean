import ShadeGraph.Lowering.Basic
import Std.Data.HashMap

/-! Lowering that remembers the expression of every output socket it finishes,
so that a socket with many readers is lowered once. What is remembered lasts for
one call. -/

namespace ShadeGraph

structure Session (α : Type) where
  cache : Std.HashMap String (Expr α)
  trace : List Entry

namespace Session

variable {α : Type} {n : Nat}

abbrev Memo (α : Type) := ExceptT LowerError (StateM (Session α))

def start : Session α := ⟨∅, []⟩

def effects : Effects α (Memo α) where
  enter entry := modify fun session => { session with trace := session.trace ++ [entry] }
  remember key lowered := do
    match (← get).cache[key]? with
    | some expr => return expr
    | none =>
      let expr ← lowered
      modify fun session => { session with cache := session.cache.insert key expr }
      return expr

/-- Runs one call; nothing that an earlier call left behind is used. -/
def call (session : Session α) (lowering : Memo α (Expr α)) :
    Except LowerError (Expr α) × Session α :=
  lowering.run { session with cache := ∅ }

variable [Arithmetic α] (session : Session α) (family : Family α n)

def lowerOutput (ref : Endpoint) : Except LowerError (Expr α) × Session α :=
  session.call (Lowering.rootOutput effects family ref)

def lowerInput (node : Node α (Fin n)) (socket : String) :
    Except LowerError (Expr α) × Session α :=
  session.call (Lowering.rootInput effects family node socket)

def lowerInputAt (ref : Endpoint) : Except LowerError (Expr α) × Session α :=
  session.call (Lowering.rootInputAt effects family ref)

end Session
end ShadeGraph
