import ShadeGraph.Proofs.Lowering.Memo

/-!
# Remembering in a list

A session keeps its expressions in a hash table, which nothing unfolds. With a
plain list in its place every call answers the same, and a call on a given graph
can be computed.
-/

namespace ShadeGraph

open Lowering

variable {α : Type} {n : Nat} [Arithmetic α]

namespace Lowering

/-- Remembering in a plain list, the last socket finished first. -/
def listing (α : Type) : Effects α (Failing (List (String × Expr α))) where
  enter _ := pure ()
  remember key lowered := do
    match (← get).lookup key with
    | some expr => return expr
    | none =>
      let expr ← lowered
      modify ((key, expr) :: ·)
      return expr

omit [Arithmetic α] in
theorem run_listing (key : String) (y : Failing (List (String × Expr α)) (Expr α))
    (known : List (String × Expr α)) :
    ((listing α).remember key y).run known =
      match known.lookup key with
      | some expr => (.ok expr, known)
      | none =>
        match y.run known with
        | (.ok expr, after) => (.ok expr, (key, expr) :: after)
        | (.error e, after) => (.error e, after) := by
  simp only [listing, Failing.run_bind, Failing.run_get]
  cases known.lookup key with
  | some expr => rfl
  | none =>
    simp only [Failing.run_bind]
    rcases y.run known with ⟨_ | _, _⟩ <;> rfl

/-- A session and a list that know the same expressions. -/
def listingCoupling (α : Type) :
    Coupling (Session.Memo α) (Failing (List (String × Expr α))) where
  holds x y := ∀ session known, (∀ key, session.cache[key]? = known.lookup key) →
    (x.run session).1 = (y.run known).1 ∧
      ∀ key, (x.run session).2.cache[key]? = (y.run known).2.lookup key
  pure _ _ _ same := ⟨rfl, same⟩
  bind := by
    intro β γ x y f g h hf session known same
    obtain ⟨outcome, after⟩ := h session known same
    rw [Failing.run_bind, Failing.run_bind]
    rcases run : x.run session with ⟨first, session'⟩
    rcases run' : y.run known with ⟨first', known'⟩
    rw [run, run'] at outcome after
    cases outcome
    cases first with
    | error e => exact ⟨rfl, after⟩
    | ok a => exact hf a session' known' after
  throw _ _ _ same := ⟨rfl, same⟩

omit [Arithmetic α] in
theorem listingCoupling_remember {x : Session.Memo α (Expr α)}
    {y : Failing (List (String × Expr α)) (Expr α)} (h : (listingCoupling α).holds x y)
    (key : String) :
    (listingCoupling α).holds (Session.effects.remember key x) ((listing α).remember key y) := by
  intro session known same
  rw [Session.run_effects, run_listing, same]
  cases known.lookup key with
  | some expr => exact ⟨rfl, same⟩
  | none =>
    obtain ⟨outcome, after⟩ := h session known same
    dsimp only
    rcases run : x.run session with ⟨first, session'⟩
    rcases run' : y.run known with ⟨first', known'⟩
    rw [run, run'] at outcome after
    cases outcome
    cases first with
    | error e => exact ⟨rfl, after⟩
    | ok expr =>
      refine ⟨rfl, fun key' => ?_⟩
      rw [Std.HashMap.getElem?_insert, List.lookup_cons, after]
      by_cases here : key = key'
      · simp [here]
      · have other : (key' == key) = false := beq_eq_false_iff_ne.2 (Ne.symm here)
        simp [here, other]

theorem listingCoupling_output (family : Family α n) (seen : List String) (site : Site n)
    (inGroup : Bool) (ref : Endpoint) :
    (listingCoupling α).holds (output Session.effects family seen site inGroup ref)
      (output (listing α) family seen site inGroup ref) := by
  refine (listingCoupling α).output family (fun _ _ => True) (fun _ => trivial) ?_
    (fun _ _ _ h => listingCoupling_remember h _) seen trivial ref
  intro entry session known same
  exact ⟨rfl, same⟩

end Lowering

/-- A call answers as it would with its expressions kept in a list. -/
theorem Session.lowerInputAt_eq_listing (session : Session α) (family : Family α n)
    (ref : Endpoint) : (session.lowerInputAt family ref).1 =
      ((rootInputAt (listing α) family ref).run []).1 := by
  have outputs := listingCoupling_output family [] .root false
  have same := (listingCoupling α).call outputs (.inputAt ref)
  exact (same { session with cache := ∅ } [] (by simp)).1

end ShadeGraph
