/-! Finite families whose members are reached by name, in a fixed order. -/

namespace ShadeGraph

class Named (τ : Type) where
  all : List τ
  name : τ → String

namespace Named

variable (τ : Type) [Named τ]

def names : List String := (all (τ := τ)).map name

def find? (s : String) : Option τ := (all (τ := τ)).find? (name · == s)

end Named
end ShadeGraph
