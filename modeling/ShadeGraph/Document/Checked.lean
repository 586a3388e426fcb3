/-! Results of checks that go on after a fault: either a value, or all faults in
the order in which they were met. -/

namespace ShadeGraph

inductive Checked (ε α : Type)
  | accept (value : α)
  | refuse (first : ε) (rest : List ε)

namespace Checked

variable {ε α β : Type}

def errors : Checked ε α → List ε
  | accept _ => []
  | refuse first rest => first :: rest

def map (f : α → β) : Checked ε α → Checked ε β
  | accept value => accept (f value)
  | refuse first rest => refuse first rest

def seq (f : Checked ε (α → β)) (x : Checked ε α) : Checked ε β :=
  match f, x with
  | accept f, accept value => accept (f value)
  | accept _, refuse first rest => refuse first rest
  | refuse first rest, x => refuse first (rest ++ x.errors)

instance : Applicative (Checked ε) where
  pure := accept
  map := map
  seq f x := seq f (x ())

/-- Goes on only with an accepted value. -/
def andThen (x : Checked ε α) (f : α → Checked ε β) : Checked ε β :=
  match x with
  | accept value => f value
  | refuse first rest => refuse first rest

def mapErrors (f : ε → ε) : Checked ε α → Checked ε α
  | accept value => accept value
  | refuse first rest => refuse (f first) (rest.map f)

def require (ok : Bool) (error : ε) : Checked ε Unit := if ok then accept () else refuse error []

/-- Checks every item, knowing the items before it. -/
def each (check : List α → α → Checked ε β) (earlier : List α) : List α → Checked ε (List β)
  | [] => accept []
  | item :: rest => List.cons <$> check earlier item <*> each check (earlier ++ [item]) rest

def vector : {n : Nat} → (Fin n → Checked ε α) → Checked ε (Vector α n)
  | 0, _ => accept #v[]
  | n + 1, check => Vector.push <$> vector (fun i => check i.castSucc) <*> check (Fin.last n)

end Checked
end ShadeGraph
