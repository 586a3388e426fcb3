import ShadeGraph.Lowering.Memo
import ShadeGraph.Proofs.Graph.Keys
import ShadeGraph.Proofs.Lowering.Retrace

/-!
# Remembering against plain lowering

What is remembered of a socket is what plain lowering makes of it when nothing
lies on the way. With that kept by every step, a remembering run is followed by
the run that marks finished sockets, up to the first cycle which that one meets
on ground that it walks again.
-/

namespace ShadeGraph

variable {α β γ : Type} {n : Nat}

namespace Session

theorem run_effects (key : String) (x : Memo α (Expr α)) (session : Session α) :
    (effects.remember key x).run session =
      match session.cache[key]? with
      | some expr => (.ok expr, session)
      | none =>
        match x.run session with
        | (.ok expr, after) => (.ok expr, { after with cache := after.cache.insert key expr })
        | (.error e, after) => (.error e, after) := by
  simp only [effects, Failing.run_bind, Failing.run_get]
  cases session.cache[key]? with
  | some expr => rfl
  | none =>
    simp only [Failing.run_bind]
    rcases x.run session with ⟨_ | _, _⟩ <;> rfl

variable [Arithmetic α]

/-- A session remembers the sockets that a walk has finished, each by its plain
expression. -/
structure Tracks (family : Family α n) (session : Session α) (walk : Walk) : Prop where
  finished : ∀ key, key ∈ walk.finished ↔ session.cache[key]?.isSome
  sound : ∀ {site : Site n} {ref : Endpoint} {node : Node α (Fin n)} {expr : Expr α},
    (family.graph site).findNode? ref.node = some node →
    session.cache[Lowering.cacheKey (family.graph site) ref]? = some expr →
    Lowering.output (Lowering.silent α) family [] site site.inGroup ref = .ok expr

/-- The remembering run ends as the marking run does, unless that one fails on
ground that it walks again, and then it fails by a cycle. -/
def followingCoupling (family : Family α n) : Lowering.Coupling (Memo α) (Failing Walk) where
  holds x y := ∀ session walk, Tracks family session walk → walk.again = false →
    match y.run walk with
    | (.ok a, after) =>
      after.again = false ∧ ∃ next, x.run session = (.ok a, next) ∧ Tracks family next after
    | (.error e, after) =>
      if after.again then Cyclic (.error e : Except LowerError Unit)
      else (x.run session).1 = .error e
  pure a session walk tracks quiet := ⟨quiet, session, rfl, tracks⟩
  bind := by
    intro β γ x y f g h hf session walk tracks quiet
    have first := h session walk tracks quiet
    rw [Failing.run_bind, Failing.run_bind]
    rcases run : y.run walk with ⟨outcome, after⟩
    rw [run] at first
    cases outcome with
    | ok a =>
      obtain ⟨still, next, same, tracked⟩ := first
      rw [same]
      exact hf a next after tracked still
    | error e =>
      dsimp only at first ⊢
      split at first
      · rw [if_pos ‹_›]
        exact first
      · rw [if_neg ‹_›]
        rcases other : x.run session with ⟨outcome', after'⟩
        rw [other] at first
        cases first
        rfl
  throw e session walk tracks quiet := by
    show if walk.again then _ else _
    rw [quiet]
    rfl

theorem Tracks.insert {family : Family α n} (keyed : family.Keyed) {session : Session α}
    {walk : Walk} (tracks : Tracks family session walk) {site : Site n} {ref : Endpoint}
    {node : Node α (Fin n)} {expr : Expr α}
    (found : (family.graph site).findNode? ref.node = some node)
    (plain : Lowering.output (Lowering.silent α) family [] site site.inGroup ref = .ok expr) :
    let key := Lowering.cacheKey (family.graph site) ref
    Tracks family { session with cache := session.cache.insert key expr }
      { walk with finished := key :: walk.finished } where
  finished := by
    intro key
    rw [List.mem_cons, tracks.finished, Std.HashMap.getElem?_insert]
    by_cases same : key = Lowering.cacheKey (family.graph site) ref
    · simp [same]
    · simp [same, Ne.symm same]
  sound := by
    intro place ref' node' expr' found' hit
    rw [Std.HashMap.getElem?_insert] at hit
    split at hit
    · rename_i same
      obtain ⟨rfl, rfl⟩ := keyed.cacheKey_unique found found' (eq_of_beq same)
      cases hit
      exact plain
    · exact tracks.sound found' hit

/-- What is remembered agrees with plain lowering on every way on which that
ends in no cycle. -/
theorem Tracks.agrees {family : Family α n} {session : Session α} {walk : Walk}
    (tracks : Tracks family session walk) {site : Site n} {ref : Endpoint}
    {node : Node α (Fin n)} {expr : Expr α}
    (found : (family.graph site).findNode? ref.node = some node)
    (hit : session.cache[Lowering.cacheKey (family.graph site) ref]? = some expr)
    (seen : List String)
    (acyclic : ¬ Cyclic (Lowering.output (Lowering.silent α) family seen site site.inGroup ref)) :
    Lowering.output (Lowering.silent α) family seen site site.inGroup ref = .ok expr := by
  rw [← tracks.sound found hit]
  exact (Lowering.output_eq_of_subset family (List.nil_subset seen) site site.inGroup ref
    acyclic).symm

section
variable {family : Family α n} {seen : List String} {site : Site n} {ref : Endpoint}
  {node : Node α (Fin n)} {session : Session α} {walk : Walk}
  {x : Memo α (Expr α)} {y : Failing Walk (Expr α)}

/-- A socket that is remembered: walking it again either gives what is
remembered or ends in a cycle. -/
theorem following_hit (tracks : Tracks family session walk)
    (found : (family.graph site).findNode? ref.node = some node)
    (plain : Lowering.markingCoupling.holds
      (Lowering.output (Lowering.silent α) family seen site site.inGroup ref) y)
    {expr : Expr α}
    (hit : session.cache[Lowering.cacheKey (family.graph site) ref]? = some expr) :
    match y.run { walk with again := true } with
    | (.ok again, _) => again = expr
    | (.error e, after) => after.again = true ∧ Cyclic (.error e : Except LowerError Unit) := by
  obtain ⟨outcome, again⟩ := plain { walk with again := true }
  have agrees := tracks.agrees found hit seen
  rcases run : y.run { walk with again := true } with ⟨result, after⟩
  rw [run] at outcome again
  rw [← outcome] at agrees again
  cases result with
  | ok expr' => exact Except.ok.inj (agrees (not_cyclic_ok expr'))
  | error e =>
    refine ⟨again rfl, Classical.byContradiction fun acyclic => ?_⟩
    cases agrees fun cyclic => acyclic (cyclic_error cyclic)

/-- A step that is followed is followed when its socket is remembered. -/
theorem followingCoupling_remember (keyed : family.Keyed) (seen : List String)
    (found : (family.graph site).findNode? ref.node = some node)
    (plain : Lowering.markingCoupling.holds
      (Lowering.output (Lowering.silent α) family seen site site.inGroup ref) y)
    (h : (followingCoupling family).holds x y) :
    (followingCoupling family).holds
      (effects.remember (Lowering.cacheKey (family.graph site) ref) x)
      ((Lowering.marking α).remember (Lowering.cacheKey (family.graph site) ref) y) := by
  intro session walk tracks quiet
  rw [run_effects, Lowering.run_marking]
  by_cases known : Lowering.cacheKey (family.graph site) ref ∈ walk.finished
  · -- The session answers from memory, while the walk goes over the socket again.
    rw [if_pos known]
    obtain ⟨expr, hit⟩ := Option.isSome_iff_exists.1 ((tracks.finished _).1 known)
    have second := following_hit tracks found plain hit
    rw [hit]
    rcases run : y.run { walk with again := true } with ⟨_ | expr', after⟩
    · rw [run] at second
      dsimp only
      rw [if_pos second.1]
      exact second.2
    · rw [run] at second
      cases second
      exact ⟨quiet, session, rfl, tracks⟩
  · -- The socket is finished by both, and its plain expression needs no way.
    rw [if_neg known]
    have unknown : session.cache[Lowering.cacheKey (family.graph site) ref]? = none := by
      rw [tracks.finished] at known
      simpa using known
    have followed := h session walk tracks quiet
    obtain ⟨outcome, _⟩ := plain walk
    rw [unknown]
    rcases run : y.run walk with ⟨e | expr, after⟩
    · rw [run] at followed
      rcases other : x.run session with ⟨result, after'⟩
      rw [other] at followed
      dsimp only at followed ⊢
      split at followed
      · rw [if_pos ‹_›]
        exact followed
      · rw [if_neg ‹_›]
        cases followed
        rfl
    · rw [run] at followed outcome
      obtain ⟨still, next, same, tracked⟩ := followed
      have here : Lowering.output (Lowering.silent α) family seen site site.inGroup ref =
          .ok expr := outcome.symm
      have anywhere := Lowering.output_eq_of_subset family (List.nil_subset seen) site
        site.inGroup ref (here ▸ not_cyclic_ok expr)
      dsimp only
      rw [same]
      exact ⟨still, _, rfl, tracked.insert keyed found (anywhere.trans here)⟩

end

theorem followingCoupling_output {family : Family α n} (keyed : family.Keyed)
    (seen : List String) (site : Site n) (ref : Endpoint) :
    (followingCoupling family).holds
      (Lowering.output effects family seen site site.inGroup ref)
      (Lowering.output (Lowering.marking α) family seen site site.inGroup ref) := by
  refine (followingCoupling family).output family (fun site inGroup => inGroup = site.inGroup)
    (fun _ => rfl) ?_ ?_ seen rfl ref
  · intro entry session walk tracks quiet
    exact ⟨quiet, _, rfl, tracks.finished, tracks.sound⟩
  · intro seen site inGroup ref node valid found fresh way x y h
    subst valid
    exact followingCoupling_remember keyed seen found
      (Lowering.markingCoupling_step site.inGroup found fresh) h

end Session
end ShadeGraph
