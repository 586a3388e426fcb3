import ShadeGraph.Proofs.Lowering.Plain

/-!
# Walking again over finished sockets

Plain lowering that marks every socket it finishes. It has the outcome of plain
lowering, and when it fails it knows whether it failed below a socket that it
had finished before. Such a failure can only be a cycle: the way to the socket
is all that is new the second time.
-/

namespace ShadeGraph

variable {α β γ : Type} {n : Nat}

/-- Computations that may fail and keep their state when they do. -/
abbrev Failing (σ : Type) := ExceptT LowerError (StateM σ)

namespace Failing

variable {σ : Type} (s t : σ)

theorem run_bind (x : Failing σ β) (f : β → Failing σ γ) :
    (x >>= f).run s =
      match x.run s with
      | (.ok a, after) => (f a).run after
      | (.error e, after) => (.error e, after) := by
  show (let (r, after) := x.run s; ExceptT.bindCont f r after) = _
  obtain ⟨r, after⟩ := x.run s
  cases r <;> rfl

theorem run_get : (get : Failing σ σ).run s = (.ok s, s) := rfl

theorem run_set : (set t : Failing σ PUnit).run s = (.ok ⟨⟩, t) := rfl

end Failing

/-- The sockets finished so far, and whether one of them is being walked again. -/
structure Walk where
  finished : List String
  again : Bool

namespace Lowering

/-- Marks the sockets that are finished. A failure below one that was finished
before leaves `again` set. -/
def marking (α : Type) : Effects α (Failing Walk) where
  enter _ := pure ()
  remember key lowered := do
    let walk ← get
    if key ∈ walk.finished then
      set { walk with again := true }
      let expr ← lowered
      set walk
      return expr
    else
      let expr ← lowered
      modify fun after => { after with finished := key :: after.finished }
      return expr

theorem run_marking (key : String) (y : Failing Walk (Expr α)) (walk : Walk) :
    ((marking α).remember key y).run walk =
      if key ∈ walk.finished then
        match y.run { walk with again := true } with
        | (.ok expr, _) => (.ok expr, walk)
        | (.error e, after) => (.error e, after)
      else
        match y.run walk with
        | (.ok expr, after) => (.ok expr, { after with finished := key :: after.finished })
        | (.error e, after) => (.error e, after) := by
  simp only [marking, Failing.run_bind, Failing.run_get]
  split
  · simp only [Failing.run_bind, Failing.run_set]
    rcases y.run { walk with again := true } with ⟨_ | _, _⟩ <;> rfl
  · simp only [Failing.run_bind]
    rcases y.run walk with ⟨_ | _, _⟩ <;> rfl

/-- Marking changes no outcome; a success leaves the walk as deep in finished
sockets as it was, and a failure does not come out of them. -/
def markingCoupling : Coupling (Except LowerError) (Failing Walk) where
  holds x y := ∀ walk, (y.run walk).1 = x ∧
    match x with
    | .ok _ => (y.run walk).2.again = walk.again
    | .error _ => walk.again → (y.run walk).2.again
  pure _ walk := ⟨rfl, rfl⟩
  bind := by
    intro β γ x y f g h hf walk
    obtain ⟨same, again⟩ := h walk
    rw [Failing.run_bind]
    rcases run : y.run walk with ⟨outcome, after⟩
    rw [run] at same again
    cases same
    cases outcome with
    | error e => exact ⟨rfl, again⟩
    | ok a =>
      have quiet : after.again = walk.again := again
      have next := hf a after
      rw [quiet] at next
      exact next
  throw _ walk := ⟨rfl, id⟩

theorem markingCoupling_remember {x : Except LowerError (Expr α)} {y : Failing Walk (Expr α)}
    (h : markingCoupling.holds x y) (key : String) :
    markingCoupling.holds ((silent α).remember key x) ((marking α).remember key y) := by
  intro walk
  rw [run_marking]
  split
  · obtain ⟨same, again⟩ := h { walk with again := true }
    rcases run : y.run { walk with again := true } with ⟨outcome, after⟩
    rw [run] at same again
    cases same
    cases outcome with
    | error e => exact ⟨rfl, fun _ => again rfl⟩
    | ok expr => exact ⟨rfl, rfl⟩
  · obtain ⟨same, again⟩ := h walk
    rcases run : y.run walk with ⟨outcome, after⟩
    rw [run] at same again
    cases same
    cases outcome with
    | error e => exact ⟨rfl, again⟩
    | ok expr => exact ⟨rfl, again⟩

variable [Arithmetic α]

theorem markingCoupling_output (family : Family α n) (seen : List String) (site : Site n)
    (inGroup : Bool) (ref : Endpoint) :
    markingCoupling.holds (output (silent α) family seen site inGroup ref)
      (output (marking α) family seen site inGroup ref) := by
  have enter (entry : Entry) :
      markingCoupling.holds ((silent α).enter entry) ((marking α).enter entry) :=
    fun _ => ⟨rfl, rfl⟩
  exact markingCoupling.output family (fun _ _ => True) (fun _ => trivial) enter
    (fun _ _ _ h => markingCoupling_remember h _) seen trivial ref

/-- Of a node that is not on the way, the marking step alone has the outcome of
plain lowering. -/
theorem markingCoupling_step {family : Family α n} {seen : List String} {site : Site n}
    (inGroup : Bool) {ref : Endpoint} {node : Node α (Fin n)}
    (found : (family.graph site).findNode? ref.node = some node)
    (fresh : (family.graph site).nodeKey node.id ∉ seen) :
    let way := (family.graph site).nodeKey node.id :: seen
    markingCoupling.holds (output (silent α) family seen site inGroup ref)
      (step (marking α) family site inGroup node ref.socket
        (output (marking α) family way)) := by
  intro way
  have enter (entry : Entry) :
      markingCoupling.holds ((silent α).enter entry) ((marking α).enter entry) :=
    fun _ => ⟨rfl, rfl⟩
  rw [output_fresh _ _ _ _ _ _ found fresh]
  exact markingCoupling.step enter node ref.socket
    (markingCoupling_output family way site inGroup)
    fun tree => markingCoupling_output family way (.group tree) true

theorem markingCoupling_rootInput (family : Family α n) (node : Node α (Fin n))
    (socket : String) : markingCoupling.holds (family.lowerInput node socket).outcome
      (rootInput (marking α) family node socket) := by
  rw [outcome_rootInput]
  exact markingCoupling.rootInput (markingCoupling_output family [] .root false) node socket

theorem markingCoupling_rootOutput (family : Family α n) (ref : Endpoint) :
    markingCoupling.holds (family.lowerOutput ref).outcome
      (rootOutput (marking α) family ref) := by
  rw [outcome_rootOutput]
  exact markingCoupling_output family [] .root false ref

end Lowering
end ShadeGraph
