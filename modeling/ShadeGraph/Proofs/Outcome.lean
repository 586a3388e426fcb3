import ShadeGraph.Traced

/-!
# Outcomes

What a computation can end in: a value of one kind or a fault of one kind. Both
are followed through sequencing together, so that an argument about what a
computation makes is one about how it fails as well.
-/

namespace ShadeGraph

variable {ω ε ε' β γ : Type}

def Ends (fault : ε → Prop) (good : β → Prop) : Except ε β → Prop
  | .ok b => good b
  | .error e => fault e

namespace Ends

variable {fault : ε → Prop} {good : β → Prop} {next : γ → Prop} {x : Except ε β}

theorem bind {f : β → Except ε γ} (first : Ends fault good x)
    (rest : ∀ b, good b → Ends fault next (f b)) : Ends fault next (x >>= f) := by
  cases x with
  | error e => exact first
  | ok b => exact rest b first

theorem mono {good' : β → Prop} (h : Ends fault good x) (weaker : ∀ b, good b → good' b) :
    Ends fault good' x := by
  cases x with
  | error e => exact h
  | ok b => exact weaker b h

theorem mapError {f : ε → ε'} {fault' : ε' → Prop} (h : Ends fault good x)
    (faults : ∀ e, fault e → fault' (f e)) : Ends fault' good (x.mapError f) := by
  cases x with
  | error e => exact faults e h
  | ok b => exact h

theorem traced {x : Traced ω ε β} {f : β → Traced ω ε γ} (first : Ends fault good x.outcome)
    (rest : ∀ b, good b → Ends fault next (f b).outcome) : Ends fault next (x >>= f).outcome := by
  rw [Traced.outcome_bind]
  exact first.bind rest

theorem ok {b : β} (h : Ends fault good x) (same : x = .ok b) : good b := by
  subst same
  exact h

theorem error {e : ε} (h : Ends fault good x) (same : x = .error e) : fault e := by
  subst same
  exact h

end Ends

/-- What is said of a last step holds whatever came before it. -/
theorem Ends.after {next : γ → Prop} {x : Except ε β} {f : β → Except ε γ}
    (last : ∀ b, Ends (fun _ => True) next (f b)) : Ends (fun _ => True) next (x >>= f) := by
  cases x with
  | error e => trivial
  | ok b => exact last b

/-- Steps of which only a reading is gone on with. -/
theorem bind_congr_map {δ : Type} {read : β → δ} {x y : Except ε β} {f g : β → Except ε γ}
    (same : x.map read = y.map read) (next : ∀ b c, read b = read c → f b = g c) :
    (x >>= f) = (y >>= g) := by
  cases x with
  | error e =>
    cases y with
    | error e' =>
      cases same
      rfl
    | ok c => cases same
  | ok b =>
    cases y with
    | error e => cases same
    | ok c => exact next b c (Except.ok.inj same)

/-- What fails, fails in one of these ways. -/
def FailsBy (fault : ε → Prop) (x : Except ε β) : Prop := Ends fault (fun _ => True) x

theorem FailsBy.bind {fault : ε → Prop} {x : Except ε β} {f : β → Except ε γ}
    (first : FailsBy fault x) (rest : ∀ b, FailsBy fault (f b)) : FailsBy fault (x >>= f) :=
  Ends.bind first fun b _ => rest b

/-- Steps with equal values, followed by steps with equal values. -/
theorem toOption_bind {x y : Except ε β} {f g : β → Except ε γ}
    (first : x.toOption = y.toOption) (next : ∀ b, (f b).toOption = (g b).toOption) :
    (x >>= f).toOption = (y >>= g).toOption := by
  cases x with
  | error e =>
    cases y with
    | error e' => rfl
    | ok b => cases first
  | ok b =>
    cases y with
    | error e' => cases first
    | ok b' =>
      cases first
      exact next b

/-- Two computations that end in the same fault, or in values that stand in a
relation. -/
def Parallel (R : β → γ → Prop) : Except ε β → Except ε γ → Prop
  | .ok b, .ok c => R b c
  | .error e, .error e' => e = e'
  | _, _ => False

namespace Parallel

variable {β' γ' : Type} {R : β → γ → Prop} {S : β' → γ' → Prop} {x : Except ε β} {y : Except ε γ}

theorem refl (x : Except ε β) : Parallel Eq x x := by
  cases x <;> rfl

theorem of_map (g : β → γ) (x : Except ε β) : Parallel (fun b c => c = g b) x (x.map g) := by
  cases x <;> rfl

theorem inv (h : Parallel R x y) :
    (∃ e, x = .error e ∧ y = .error e) ∨ ∃ b c, x = .ok b ∧ y = .ok c ∧ R b c := by
  cases x with
  | error e =>
    cases y with
    | error e' =>
      have same : e = e' := h
      exact .inl ⟨e, rfl, by rw [same]⟩
    | ok c => cases h
  | ok b =>
    cases y with
    | error e => cases h
    | ok c => exact .inr ⟨b, c, rfl, rfl, h⟩

theorem bind {f : β → Except ε β'} {g : γ → Except ε γ'} (first : Parallel R x y)
    (rest : ∀ b c, R b c → Parallel S (f b) (g c)) : Parallel S (x >>= f) (y >>= g) := by
  rcases first.inv with ⟨e, rfl, rfl⟩ | ⟨b, c, rfl, rfl, related⟩
  · exact rfl
  · exact rest b c related

/-- The same step on both sides. -/
theorem step {f : β → Except ε β'} {g : β → Except ε γ'}
    (rest : ∀ b, Parallel S (f b) (g b)) : Parallel S (x >>= f) (x >>= g) := by
  refine (refl x).bind ?_
  rintro b _ rfl
  exact rest b

theorem traced {x : Traced ω ε β} {y : Traced ω' ε γ} {f : β → Traced ω ε β'}
    {g : γ → Traced ω' ε γ'} (first : Parallel R x.outcome y.outcome)
    (rest : ∀ b c, R b c → Parallel S (f b).outcome (g c).outcome) :
    Parallel S (x >>= f).outcome (y >>= g).outcome := by
  rw [Traced.outcome_bind, Traced.outcome_bind]
  exact first.bind rest

/-- The same step on both sides, for a value that it gives. -/
theorem tracedStep {x : Traced ω ε β} {f : β → Traced ω ε β'} {g : β → Traced ω ε γ'}
    (rest : ∀ b, x.outcome = .ok b → Parallel S (f b).outcome (g b).outcome) :
    Parallel S (x >>= f).outcome (x >>= g).outcome := by
  rw [Traced.outcome_bind, Traced.outcome_bind]
  cases given : x.outcome with
  | error e => exact rfl
  | ok b => exact rest b given

theorem mapError (h : Parallel R x y) (f : ε → ε') :
    Parallel R (x.mapError f) (y.mapError f) := by
  rcases h.inv with ⟨e, rfl, rfl⟩ | ⟨b, c, rfl, rfl, related⟩
  · exact rfl
  · exact related

theorem mono {R' : β → γ → Prop} (h : Parallel R x y) (weaker : ∀ b c, R b c → R' b c) :
    Parallel R' x y := by
  rcases h.inv with ⟨e, rfl, rfl⟩ | ⟨b, c, rfl, rfl, related⟩
  · exact rfl
  · exact weaker b c related

theorem eq_map {g : β → γ} (h : Parallel (fun b c => c = g b) x y) : y = x.map g := by
  rcases h.inv with ⟨e, rfl, rfl⟩ | ⟨b, c, rfl, rfl, same⟩
  · rfl
  · exact congrArg Except.ok same

theorem and {fault : ε → Prop} {good : β → Prop} (h : Parallel R x y)
    (ends : Ends fault good x) : Parallel (fun b c => good b ∧ R b c) x y := by
  rcases h.inv with ⟨e, rfl, rfl⟩ | ⟨b, c, rfl, rfl, related⟩
  · exact rfl
  · exact ⟨ends, related⟩

/-- One more step on the second side only. -/
theorem returns {S : β → γ' → Prop} {g : γ → γ'} (h : Parallel R x y)
    (last : ∀ b c, R b c → S b (g c)) : Parallel S x (do return g (← y)) := by
  rcases h.inv with ⟨e, rfl, rfl⟩ | ⟨b, c, rfl, rfl, related⟩
  · exact rfl
  · exact last b c related

/-- What is parallel to one computation is parallel to each other. -/
theorem join {δ : Type} {Q : β → δ → Prop} {z : Except ε δ} (first : Parallel R x y)
    (second : Parallel Q x z) : Parallel (fun c d => ∃ b, R b c ∧ Q b d) y z := by
  rcases first.inv with ⟨e, rfl, rfl⟩ | ⟨b, c, rfl, rfl, related⟩
  · rcases second.inv with ⟨e', same, rfl⟩ | ⟨_, _, given, _⟩
    · exact Except.error.inj same
    · cases given
  · rcases second.inv with ⟨_, given, _⟩ | ⟨b', d, same, rfl, related'⟩
    · cases given
    · cases same
      exact ⟨b, related, related'⟩

end Parallel

/-- Two runs that leave the same trace and end in parallel. -/
structure Alike (R : β → γ → Prop) (x : Traced ω ε β) (y : Traced ω ε γ) : Prop where
  trace : x.trace = y.trace
  outcome : Parallel R x.outcome y.outcome

namespace Alike

variable {β' γ' : Type} {R : β → γ → Prop} {S : β' → γ' → Prop}

theorem refl (x : Traced ω ε β) : Alike Eq x x := ⟨rfl, Parallel.refl x.outcome⟩

theorem lift {x : Except ε β} {y : Except ε γ} (h : Parallel R x y) :
    Alike R (Traced.lift x : Traced ω ε β) (Traced.lift y) := ⟨rfl, h⟩

theorem bind {x : Traced ω ε β} {y : Traced ω ε γ} {f : β → Traced ω ε β'}
    {g : γ → Traced ω ε γ'} (first : Alike R x y)
    (rest : ∀ b c, R b c → Alike S (f b) (g c)) : Alike S (x >>= f) (y >>= g) := by
  refine ⟨?_, first.outcome.traced fun b c related => (rest b c related).outcome⟩
  show (Traced.bind x f).trace = (Traced.bind y g).trace
  unfold Traced.bind
  rcases first.outcome.inv with ⟨e, failed, failed'⟩ | ⟨b, c, given, given', related⟩
  · rw [failed, failed']
    exact first.trace
  · rw [given, given']
    show x.trace ++ (f b).trace = y.trace ++ (g c).trace
    rw [first.trace, (rest b c related).trace]

/-- The same step on both sides. -/
theorem step {x : Traced ω ε β} {f : β → Traced ω ε β'} {g : β → Traced ω ε γ'}
    (rest : ∀ b, Alike S (f b) (g b)) : Alike S (x >>= f) (x >>= g) := by
  refine (refl x).bind ?_
  rintro b _ rfl
  exact rest b

end Alike

/-- What a computation fails with. -/
def fault? : Except ε β → Option ε
  | .ok _ => none
  | .error e => some e

@[simp]
theorem fault?_ok (b : β) : fault? (.ok b : Except ε β) = none := rfl

@[simp]
theorem fault?_error (e : ε) : fault? (.error e : Except ε β) = some e := rfl

@[simp]
theorem ok_bind (b : β) (f : β → Except ε γ) : (Except.ok b >>= f) = f b := rfl

@[simp]
theorem error_bind (e : ε) (f : β → Except ε γ) : (Except.error e >>= f) = .error e := rfl

theorem fault?_eq_some {x : Except ε β} {e : ε} : fault? x = some e ↔ x = .error e := by
  cases x <;> simp [fault?]

theorem bind_eq_ok {x : Except ε β} {f : β → Except ε γ} {c : γ} :
    (x >>= f) = .ok c ↔ ∃ b, x = .ok b ∧ f b = .ok c := by
  cases x with
  | error e => simp [bind, Except.bind]
  | ok b => simp [bind, Except.bind]

theorem map_eq_ok {x : Except ε β} {f : β → γ} {c : γ} :
    x.map f = .ok c ↔ ∃ b, x = .ok b ∧ f b = c := by
  cases x with
  | error e => simp [Except.map]
  | ok b => simp [Except.map]

theorem mapError_bind (g : ε → ε') (x : Except ε β) (f : β → Except ε γ) :
    (x >>= f).mapError g = x.mapError g >>= fun b => (f b).mapError g := by
  cases x <;> rfl

theorem findSome?_flatMap {δ : Type} (f : γ → List β) (g : β → Option δ) (cs : List γ) :
    (cs.flatMap f).findSome? g = cs.findSome? fun c => (f c).findSome? g := by
  induction cs with
  | nil => rfl
  | cons c cs ih =>
    rw [List.flatMap_cons, List.findSome?_append, List.findSome?_cons, ih]
    cases (f c).findSome? g <;> rfl

theorem findSome?_congr {δ : Type} {f g : β → Option δ} {bs : List β}
    (same : ∀ b ∈ bs, f b = g b) : bs.findSome? f = bs.findSome? g := by
  induction bs with
  | nil => rfl
  | cons b bs ih =>
    rw [List.findSome?_cons, List.findSome?_cons, same b List.mem_cons_self,
      ih fun c mem => same c (List.mem_cons_of_mem b mem)]

theorem fault?_map (g : β → γ) (x : Except ε β) : fault? (g <$> x) = fault? x := by
  cases x <;> rfl

/-- Of the steps of a list the first one that fails decides the fault. -/
theorem fault?_mapM (f : β → Except ε γ) (bs : List β) :
    fault? (bs.mapM f) = bs.findSome? fun b => fault? (f b) := by
  induction bs with
  | nil => rfl
  | cons b bs ih =>
    rw [List.mapM_cons, List.findSome?_cons, ← ih]
    cases f b with
    | error e => rfl
    | ok c => cases bs.mapM f <;> rfl

end ShadeGraph
