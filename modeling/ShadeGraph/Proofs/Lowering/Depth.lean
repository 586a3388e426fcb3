import Mathlib.Data.List.Dedup
import ShadeGraph.Lowering.Memo
import ShadeGraph.Proofs.Lowering.Step

/-!
# How deep lowering goes

Lowering with a bound on its depth hands over to something else where it would
go beyond. Every step down puts a key on the way that was not there, whether it
follows a link, enters a group or comes back out to bind a boundary input, and a
family has only so many keys. So with room for each of them once, and for the
node at which a way closes, what lies beyond the bound is never asked.
-/

namespace ShadeGraph

variable {α : Type} {n : Nat}

namespace Family

/-- The number of different node keys. -/
def keyCount (family : Family α n) : Nat := family.keys.dedup.length

/-- The number of different node keys that are not on a way. -/
def room (family : Family α n) (seen : List String) : Nat :=
  (family.keys.dedup.filter (· ∉ seen)).length

theorem room_nil (family : Family α n) : family.room [] = family.keyCount := by
  simp [room, keyCount]

theorem room_lt (family : Family α n) {seen : List String} {key : String}
    (mem : key ∈ family.keys) (fresh : key ∉ seen) :
    family.room (key :: seen) < family.room seen :=
  length_unseen_lt (List.mem_dedup.2 mem) fresh

end Family

namespace Lowering

variable {m : Type → Type} [Monad m] [MonadExceptOf LowerError m] [Arithmetic α]

/-- Lowering at most `depth` output sockets one below the other. -/
def outputWithin (effects : Effects α m) (family : Family α n)
    (beyond : Site n → Bool → Endpoint → m (Expr α)) (depth : Nat) (seen : List String)
    (site : Site n) (inGroup : Bool) (ref : Endpoint) : m (Expr α) :=
  match depth with
  | 0 => beyond site inGroup ref
  | depth + 1 =>
    match (family.graph site).findNode? ref.node with
    | none => throw (missingNode (family.graph site) ref.node)
    | some node =>
      let key := (family.graph site).nodeKey node.id
      if key ∈ seen then throw (.cycle (family.graph site).name node.id)
      else effects.remember (cacheKey (family.graph site) ref)
        (step effects family site inGroup node ref.socket
          (outputWithin effects family beyond depth (key :: seen)))

/-- With room for every key that is not on the way and for one node more, the
bound is not noticed. -/
theorem outputWithin_eq_output (effects : Effects α m) (family : Family α n)
    (beyond : Site n → Bool → Endpoint → m (Expr α)) {depth : Nat} {seen : List String}
    (enough : family.room seen < depth) (site : Site n) (inGroup : Bool) (ref : Endpoint) :
    outputWithin effects family beyond depth seen site inGroup ref =
      output effects family seen site inGroup ref := by
  induction depth generalizing seen site inGroup ref with
  | zero => omega
  | succ depth ih =>
    unfold outputWithin
    cases found : (family.graph site).findNode? ref.node with
    | none => exact (output_missing _ _ _ _ _ _ found).symm
    | some node =>
      dsimp only
      by_cases met : (family.graph site).nodeKey node.id ∈ seen
      · rw [if_pos met, output_cycle _ _ _ _ _ _ found met]
      · rw [if_neg met, output_fresh _ _ _ _ _ _ found met]
        have shorter := family.room_lt (family.nodeKey_mem_keys site found) met
        have below : outputWithin effects family beyond depth
            ((family.graph site).nodeKey node.id :: seen) =
            output effects family ((family.graph site).nodeKey node.id :: seen) := by
          funext place within source
          exact ih (by omega) place within source
        rw [below]

namespace Call

/-- A call that lowers at most `depth` output sockets one below the other. -/
def lowerWithin (effects : Effects α m) (family : Family α n)
    (beyond : Site n → Bool → Endpoint → m (Expr α)) (depth : Nat) (call : Call α n) :
    m (Expr α) :=
  call.answer family.root (outputWithin effects family beyond depth [] .root false)

theorem lowerWithin_eq_lower (effects : Effects α m) (family : Family α n)
    (beyond : Site n → Bool → Endpoint → m (Expr α)) (call : Call α n) :
    call.lowerWithin effects family beyond (family.keyCount + 1) = call.lower effects family := by
  have enough : family.room [] < family.keyCount + 1 := by
    rw [Family.room_nil]
    omega
  have outputs : outputWithin effects family beyond (family.keyCount + 1) [] .root false =
      rootOutput effects family :=
    funext (outputWithin_eq_output effects family beyond enough .root false)
  rw [lowerWithin, outputs, lower_eq_answer]

/-- An expression, or one of the errors of lowering. -/
def Answered (outcome : Except LowerError (Expr α)) : Prop :=
  (∃ e, outcome = .ok e) ∨ (∃ graph node, outcome = .error (.cycle graph node)) ∨
    (∃ kind node refusal?, outcome = .error (.unsupportedNode kind node refusal?)) ∨
    ∃ kind node socket, outcome = .error (.unsupportedSocket kind node socket)

omit [Arithmetic α] in
theorem answered (outcome : Except LowerError (Expr α)) : Answered outcome := by
  rcases outcome with (⟨graph, node⟩ | ⟨kind, node, refusal?⟩ | ⟨kind, node, socket⟩) | e
  · exact Or.inr (Or.inl ⟨graph, node, rfl⟩)
  · exact Or.inr (Or.inr (Or.inl ⟨kind, node, refusal?, rfl⟩))
  · exact Or.inr (Or.inr (Or.inr ⟨kind, node, socket, rfl⟩))
  · exact Or.inl ⟨e, rfl⟩

/-- Every call ends, remembering or not, in any family whatever: with an
expression or an error, and no deeper than the keys allow. -/
theorem ends_within_keys (family : Family α n) (call : Call α n) :
    (∀ {m : Type → Type} [Monad m] [MonadExceptOf LowerError m] (effects : Effects α m)
        (beyond : Site n → Bool → Endpoint → m (Expr α)),
      call.lower effects family = call.lowerWithin effects family beyond (family.keyCount + 1)) ∧
    Answered (call.lower (plain α) family).outcome ∧
    ∀ session : Session α, Answered (session.call (call.lower Session.effects family)).1 := by
  refine ⟨?_, answered _, fun session => answered _⟩
  intro m _ _ effects beyond
  exact (call.lowerWithin_eq_lower effects family beyond).symm

/-- A bend into itself goes as deep as its one key allows. -/
example (beyond : Site 0 → Bool → Endpoint → Except LowerError (Expr α)) :
    let bent : Family α 0 := {
      root.id := "bent"
      root.name := "Bent"
      root.nodes := [⟨"bend", none, none, .reroute⟩]
      root.links := [⟨⟨"bend", "Output"⟩, ⟨"bend", "Input"⟩⟩]
      groups := #v[] }
    let quiet : Effects α (Except LowerError) := ⟨fun _ => .ok (), fun _ lowered => lowered⟩
    bent.keyCount = 1 ∧ (output ⟨"bend", "Output"⟩).lowerWithin quiet bent beyond 1 =
      beyond .root false ⟨"bend", "Output"⟩ :=
  ⟨rfl, rfl⟩

end Call
end Lowering
end ShadeGraph
