import ShadeGraph.Number.Arithmetic

/-! Triples of numbers, read as a colour or as a vector, and colours with an
alpha channel. -/

namespace ShadeGraph

structure Vec3 (α : Type) where
  x : α
  y : α
  z : α
deriving DecidableEq

structure Rgba (α : Type) where
  rgb : Vec3 α
  alpha : α
deriving DecidableEq

namespace Vec3

variable {α β γ : Type}

def map (f : α → β) (a : Vec3 α) : Vec3 β := ⟨f a.x, f a.y, f a.z⟩

def zipWith (f : α → β → γ) (a : Vec3 α) (b : Vec3 β) : Vec3 γ :=
  ⟨f a.x b.x, f a.y b.y, f a.z b.z⟩

def grey (v : α) : Vec3 α := ⟨v, v, v⟩

def get (a : Vec3 α) : Fin 3 → α
  | 0 => a.x
  | 1 => a.y
  | 2 => a.z

def toList (a : Vec3 α) : List α := [a.x, a.y, a.z]

end Vec3
end ShadeGraph
