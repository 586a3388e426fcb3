import ShadeGraph.Proofs.Document.Loaded
import ShadeGraph.Proofs.Lowering.Memo

/-!
# Calls on one session

A call starts with nothing remembered, so it does not depend on the calls before
it. Plain lowering and a remembering call differ by one thing only: a cycle that
is met below a socket finished before. A remembering call does not walk there.
-/

namespace ShadeGraph

variable {α : Type} {n : Nat}

namespace Lowering

/-- The cycle on which a marking run ends below a socket that it had finished. -/
def hidden? (marked : Failing Walk (Expr α)) : Option LowerError :=
  match marked.run ⟨[], false⟩ with
  | (.ok _, _) => none
  | (.error e, walk) => if walk.again then some e else none

end Lowering

namespace Session

open Lowering

variable [Arithmetic α] {family : Family α n} {plain : Except LowerError (Expr α)}
  {marked : Failing Walk (Expr α)} {x : Memo α (Expr α)}

theorem tracks_empty (trace : List Entry) : Tracks family (⟨∅, trace⟩ : Session α) ⟨[], false⟩ where
  finished := by simp
  sound _ hit := by simp at hit

theorem hidden_cyclic (followed : (followingCoupling family).holds x marked) {e : LowerError}
    (hidden : hidden? marked = some e) : Cyclic (.error e : Except LowerError (Expr α)) := by
  have follows := followed _ _ (tracks_empty []) rfl
  unfold hidden? at hidden
  split at hidden
  · cases hidden
  · rename_i outcome walk run
    split at hidden
    · cases hidden
      rw [run] at follows
      dsimp only at follows
      rw [if_pos ‹_›] at follows
      exact cyclic_error follows
    · cases hidden

/-- A call on a session against plain lowering, whatever the session holds. -/
theorem plain_eq_call (walked : markingCoupling.holds plain marked)
    (followed : (followingCoupling family).holds x marked) (session : Session α) :
    plain = match hidden? marked with
      | some e => .error e
      | none => (session.call x).1 := by
  have follows := followed _ _ (tracks_empty session.trace) rfl
  obtain ⟨outcome, _⟩ := walked ⟨[], false⟩
  unfold hidden?
  rcases run : marked.run ⟨[], false⟩ with ⟨e | expr, walk⟩
  · rw [run] at follows outcome
    dsimp only at follows ⊢
    by_cases again : walk.again
    · rw [if_pos again]
      exact outcome.symm
    · rw [if_neg again] at follows ⊢
      exact outcome.symm.trans follows.symm
  · rw [run] at follows outcome
    obtain ⟨_, next, same, _⟩ := follows
    show plain = (x.run _).1
    rw [same]
    exact outcome.symm

theorem followingCoupling_rootInput (keyed : family.Keyed) (node : Node α (Fin n))
    (socket : String) : (followingCoupling family).holds (rootInput effects family node socket)
      (rootInput (marking α) family node socket) :=
  (followingCoupling family).rootInput (followingCoupling_output keyed [] .root) node socket

theorem call_eq_plain (walked : markingCoupling.holds plain marked)
    (followed : (followingCoupling family).holds x marked) (session : Session α)
    (acyclic : ¬ Cyclic plain) : (session.call x).1 = plain := by
  have same := plain_eq_call walked followed session
  cases hidden : hidden? marked with
  | none => rw [hidden] at same; exact same.symm
  | some e =>
    rw [hidden] at same
    exact absurd (same ▸ hidden_cyclic followed hidden) acyclic

end Session

namespace Library

/-- A call for a material of the library. -/
inductive Request (library : Library α)
  | input (material : { material // material ∈ library.materials })
      (node : Node α (Fin library.groupCount)) (socket : String)
  | output (material : { material // material ∈ library.materials }) (ref : Endpoint)

variable [Arithmetic α] {library : Library α}

/-- The outcome of lowering without remembering. -/
def Request.plain : library.Request → Except LowerError (Expr α)
  | input material node socket => ((library.family material).lowerInput node socket).outcome
  | output material ref => ((library.family material).lowerOutput ref).outcome

end Library

namespace Session

open Lowering

variable [Arithmetic α] {library : Library α}

def serve (session : Session α) : library.Request → Except LowerError (Expr α) × Session α
  | .input material node socket => session.lowerInput (library.family material) node socket
  | .output material ref => session.lowerOutput (library.family material) ref

/-- The outcomes of calls made one after the other, some of which may fail. -/
def replies (session : Session α) : List library.Request → List (Except LowerError (Expr α))
  | [] => []
  | request :: rest => (session.serve request).1 :: (session.serve request).2.replies rest

theorem serve_eq_plain (formed : library.WellFormed) (unslashed : library.Unslashed)
    (session : Session α) (request : library.Request) (acyclic : ¬ Cyclic request.plain) :
    (session.serve request).1 = request.plain := by
  cases request with
  | input material node socket =>
    have keyed := formed.keyed material.2 unslashed
    exact call_eq_plain (markingCoupling_rootInput _ node socket)
      (followingCoupling_rootInput keyed node socket) session acyclic
  | output material ref =>
    have keyed := formed.keyed material.2 unslashed
    exact call_eq_plain (markingCoupling_rootOutput _ ref)
      (followingCoupling_output keyed [] .root ref) session acyclic

/-- Every call of a run answers as plain lowering does, unless that ends in a
cycle. Neither a group instance nor an earlier call leaves anything behind that
shows. -/
theorem replies_eq_plain {data? : Option (Data α)} (loaded : Document.load data? = .accept library)
    (unslashed : library.Unslashed) (session : Session α) (requests : List library.Request) :
    List.Forall₂ (fun request reply => ¬ Cyclic request.plain → reply = request.plain)
      requests (session.replies requests) := by
  have formed := Document.load_wellFormed loaded
  induction requests generalizing session with
  | nil => exact .nil
  | cons request rest ih =>
    exact .cons (serve_eq_plain formed unslashed session request) (ih (session.serve request).2)

/-- A call that ends in a cycle, and one that passes an input through a group. -/
def cyclicCall : Sample.library.Request :=
  .input ⟨Sample.looped, Sample.looped_mem⟩ ⟨"out", none, none, .bakeOutput⟩ "Alpha"

def groupCall : Sample.library.Request := .output ⟨Sample.masked, Sample.masked_mem⟩ ⟨"pair", "Q"⟩

theorem replies_after_cycle : (start.replies [cyclicCall, groupCall])[1]? =
    some (.ok (.group "Pass" (.attributeScalar "mask" .fac))) := by
  have plain : groupCall.plain = .ok (.group "Pass" (.attributeScalar "mask" .fac)) := by cbv
  have agree := replies_eq_plain Sample.loads Sample.unslashed start [cyclicCall, groupCall]
  obtain _ | ⟨_, _ | ⟨second, _⟩⟩ := agree
  refine congrArg some ((second ?_).trans plain)
  exact plain ▸ not_cyclic_ok _

end Session
end ShadeGraph
