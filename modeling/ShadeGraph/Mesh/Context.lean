import ShadeGraph.Color.Space
import ShadeGraph.Expr.Basic

/-! What a mesh of `n` elements offers to shading: named layers, position and
normal. -/

namespace ShadeGraph

inductive Layer (α : Type) (n : Nat)
  | color (rgb : Vector (Vec3 α) n) (alpha : Vector α n)
  | scalar (values : Vector α n)

namespace Layer

variable {α : Type} {n : Nat}

def colors : Layer α n → Vector (Vec3 α) n
  | color rgb _ => rgb
  | scalar values => values.map Vec3.grey

/-- A colour counts as the mean of its channels. -/
def fac [Arithmetic α] : Layer α n → Vector α n
  | color rgb _ => rgb.map Vec3.average
  | scalar values => values

def alpha : Layer α n → Vector α n
  | color _ alpha => alpha
  | scalar values => values

end Layer

/-- Layers have distinct names. -/
structure Context (α : Type) (n : Nat) where
  layers : List (String × Layer α n)
  position? : Option (Vector (Vec3 α) n)
  normal? : Option (Vector (Vec3 α) n)

namespace Context

variable {α : Type} {n : Nat}

def layer? (ctx : Context α n) (name : String) : Option (Layer α n) := ctx.layers.lookup name

def layerNames (ctx : Context α n) : List String := ctx.layers.map Prod.fst

def color? (ctx : Context α n) (name : String) : Option (Vector (Vec3 α) n) :=
  (ctx.layer? name).map Layer.colors

def fac? [Arithmetic α] (ctx : Context α n) (name : String) : Option (Vector α n) :=
  (ctx.layer? name).map Layer.fac

def alpha? (ctx : Context α n) (name : String) : Option (Vector α n) :=
  (ctx.layer? name).map Layer.alpha

def geometry? (ctx : Context α n) : GeometryQuantity → Option (Vector (Vec3 α) n)
  | .position => ctx.position?
  | .normal => ctx.normal?

end Context
end ShadeGraph
