import ShadeGraph.Proofs.Lowering.Calls
import ShadeGraph.Proofs.Lowering.Listing

/-!
# Cycles that remembering hides

Remembering is meant to change nothing, but whether a node lies on its own way
depends on the way. A group instance may give one output without looking at its
inputs and need them for another. A socket finished below the one is then
reused below the other, where walking it again would come back to the instance.
-/

namespace ShadeGraph

open Lowering

variable {α : Type} {n : Nat} [Arithmetic α]

/-- The cycle that plain lowering of an input meets below a finished socket. -/
def Family.hiddenCycle? (family : Family α n) (ref : Endpoint) : Option LowerError :=
  hidden? (rootInputAt (marking α) family ref)

namespace Session

variable {family : Family α n}

theorem walked_rootInputAt (family : Family α n) (ref : Endpoint) :
    markingCoupling.holds (family.lowerInputAt ref).outcome
      (rootInputAt (marking α) family ref) := by
  have same : (family.lowerInputAt ref).outcome = rootInputAt (silent α) family ref :=
    outcome_call family (.inputAt ref)
  rw [same]
  exact markingCoupling.call (markingCoupling_output family [] .root false) (.inputAt ref)

theorem followed_rootInputAt (keyed : family.Keyed) (ref : Endpoint) :
    (followingCoupling family).holds (rootInputAt effects family ref)
      (rootInputAt (marking α) family ref) :=
  (followingCoupling family).call (followingCoupling_output keyed [] .root) (.inputAt ref)

/-- Plain lowering of an input ends as remembering does or in a cycle that
remembering hides. So a cycle is reported by both exactly if it is not hidden or
if remembering meets it again elsewhere. -/
theorem cycle_agrees_iff {data? : Option (Data α)} {library : Library α}
    (loaded : Document.load data? = .accept library) (unslashed : library.Unslashed)
    {material : Material α (Fin library.groupCount)} (mem : material ∈ library.materials)
    (ref : Endpoint) (session : Session α) :
    let family := library.family material
    let plain := (family.lowerInputAt ref).outcome
    let remembered := (session.lowerInputAt family ref).1
    (plain = match family.hiddenCycle? ref with
      | some e => .error e
      | none => remembered) ∧
    (∀ e, family.hiddenCycle? ref = some e → Cyclic (.error e : Except LowerError (Expr α))) ∧
    ((∀ graph node, plain = .error (.cycle graph node) →
        remembered = .error (.cycle graph node)) ↔
      ∀ e, family.hiddenCycle? ref = some e → remembered = .error e) := by
  intro family plain remembered
  have keyed : family.Keyed := (Document.load_wellFormed loaded).keyed mem unslashed
  have followed := followed_rootInputAt keyed ref
  have same : plain = match family.hiddenCycle? ref with
      | some e => .error e
      | none => remembered :=
    plain_eq_call (walked_rootInputAt family ref) followed session
  refine ⟨same, fun e hidden => hidden_cyclic followed hidden, ?_⟩
  cases hidden : family.hiddenCycle? ref with
  | none =>
    rw [hidden] at same
    have same : plain = remembered := same
    constructor
    · intro _ e absent
      cases absent
    · intro _ graph node cyclic
      rw [← same, cyclic]
  | some e =>
    rw [hidden] at same
    have same : plain = .error e := same
    obtain ⟨graph, node, cyclic⟩ := hidden_cyclic followed hidden
    cases cyclic
    constructor
    · intro agrees e' found
      cases found
      exact agrees graph node same
    · intro agrees graph' node' cyclic
      rw [same] at cyclic
      cases cyclic
      exact agrees _ rfl

theorem cycle_agrees_masked :
    let family := Sample.library.family Sample.masked
    family.hiddenCycle? ⟨"out", "Alpha"⟩ = none ∧
    ∀ graph node, (family.lowerInputAt ⟨"out", "Alpha"⟩).outcome = .error (.cycle graph node) →
      (start.lowerInputAt family ⟨"out", "Alpha"⟩).1 = .error (.cycle graph node) := by
  intro family
  have shown : family.hiddenCycle? ⟨"out", "Alpha"⟩ = none := by cbv
  refine ⟨shown, (cycle_agrees_iff Sample.loads Sample.unslashed Sample.masked_mem
    ⟨"out", "Alpha"⟩ start).2.2.2 ?_⟩
  intro e hidden
  rw [shown] at hidden
  cases hidden

end Session

/-- The instance is finished for the output that needs no input, and reused on
its own way. -/
theorem Session.remembering_hides_cycle :
    let family := Sample.library.family Sample.looped
    Document.load (some Sample.library.toData) = .accept Sample.library ∧
    Sample.library.Unslashed ∧ Sample.looped ∈ Sample.library.materials ∧
    (family.lowerInputAt ⟨"out", "Alpha"⟩).outcome = .error (.cycle "Looped" "pair") ∧
    (Session.start.lowerInputAt family ⟨"out", "Alpha"⟩).1 =
      .ok (.math "ADD" false (.group "Pass" (.constScalar (1 / 2)))
        (.group "Pass" (.group "Pass" (.constScalar (1 / 2)))) (.constScalar (1 / 2))) := by
  refine ⟨Sample.loads, Sample.unslashed, Sample.looped_mem, by cbv, ?_⟩
  rw [Session.lowerInputAt_eq_listing]
  cbv

end ShadeGraph
