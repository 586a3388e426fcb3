import Mathlib.Algebra.Ring.Int.Defs
import Mathlib.Data.List.Basic
import ShadeGraph.Proofs.Expr.Nodes

/-!
# Filling in boundary inputs

Filling in a template puts one expression in the place of every boundary input,
all at once, and leaves the rest of the tree and what it puts in as they are.
-/

namespace ShadeGraph.Expr

variable {α ε : Type}

def boundary? : Expr α → Option String
  | groupInput socket => some socket
  | _ => none

/-- The boundary inputs that occur in a tree, in the order of its nodes. -/
def boundaryInputs (e : Expr α) : List String := e.preorder.filterMap boundary?

theorem boundary?_eq_none {e : Expr α} (inner : ∀ socket, e ≠ groupInput socket) :
    e.boundary? = none := by
  cases e with
  | groupInput socket => exact absurd rfl (inner socket)
  | _ => rfl

@[simp]
theorem boundaryInputs_groupInput (socket : String) :
    (groupInput socket : Expr α).boundaryInputs = [socket] := by
  rw [boundaryInputs, preorder_eq]
  rfl

theorem boundaryInputs_node {e : Expr α} (inner : ∀ socket, e ≠ groupInput socket) :
    e.boundaryInputs = e.children.flatMap boundaryInputs := by
  rw [boundaryInputs, preorder_eq, List.filterMap_cons_none (boundary?_eq_none inner),
    List.filterMap_flatMap]
  rfl

theorem boundaryInputs_of_child {e child : Expr α} (mem : child ∈ e.children) {socket : String}
    (occurs : socket ∈ child.boundaryInputs) : socket ∈ e.boundaryInputs := by
  have inner (s : String) : e ≠ groupInput s := by
    rintro rfl
    cases mem
  rw [boundaryInputs_node inner]
  exact List.mem_flatMap.2 ⟨child, mem, occurs⟩

theorem substitute_eq_mapChildren (bind : String → Expr α) {e : Expr α}
    (inner : ∀ socket, e ≠ groupInput socket) :
    e.substitute bind = e.mapChildren (substitute bind) :=
  congrArg Id.run (substituteM_eq_traverseChildren _ inner)

theorem substitute_groupInput (e : Expr α) : e.substitute groupInput = e := by
  induction e using boundary_induction with
  | input socket => rfl
  | node e inner ih => rw [substitute_eq_mapChildren _ inner, mapChildren_congr ih, mapChildren_id]

theorem substitute_congr {f g : String → Expr α} {e : Expr α}
    (same : ∀ socket ∈ e.boundaryInputs, f socket = g socket) :
    e.substitute f = e.substitute g := by
  induction e using boundary_induction with
  | input socket => exact same socket (by simp)
  | node e inner ih =>
    rw [substitute_eq_mapChildren f inner, substitute_eq_mapChildren g inner]
    apply mapChildren_congr
    intro child mem
    exact ih child mem fun socket occurs => same socket (boundaryInputs_of_child mem occurs)

theorem substitute_substitute (f g : String → Expr α) (e : Expr α) :
    (e.substitute f).substitute g = e.substitute fun socket => (f socket).substitute g := by
  induction e using boundary_induction with
  | input socket => rfl
  | node e inner ih =>
    rw [substitute_eq_mapChildren f inner, substitute_eq_mapChildren _ inner,
      substitute_eq_mapChildren g (mapChildren_ne_groupInput inner), mapChildren_mapChildren]
    exact mapChildren_congr ih

theorem boundaryInputs_substitute (f : String → Expr α) (e : Expr α) :
    (e.substitute f).boundaryInputs =
      e.boundaryInputs.flatMap fun socket => (f socket).boundaryInputs := by
  induction e using boundary_induction with
  | input socket =>
    rw [boundaryInputs_groupInput, List.flatMap_singleton]
    rfl
  | node e inner ih =>
    rw [substitute_eq_mapChildren f inner,
      boundaryInputs_node (mapChildren_ne_groupInput inner), children_mapChildren,
      boundaryInputs_node inner, List.flatMap_map, List.flatMap_assoc]
    exact List.flatMap_congr ih

/-- Every boundary input gives up its one node for those of what is put in. -/
theorem countNodes_substitute (f : String → Expr α) (e : Expr α) :
    ((e.substitute f).countNodes : Int) = e.countNodes +
      (e.boundaryInputs.map fun socket => ((f socket).countNodes : Int) - 1).sum := by
  induction e using boundary_induction with
  | input socket =>
    have single : (groupInput socket : Expr α).countNodes = 1 := countNodes_eq_sum _
    have filled : (groupInput socket : Expr α).substitute f = f socket := rfl
    simp only [boundaryInputs_groupInput, single, filled, List.map_cons, List.map_nil,
      List.sum_cons, List.sum_nil]
    omega
  | node e inner ih =>
    have below (children : List (Expr α)) (mem : children ⊆ e.children) :
        (((children.map fun child => (child.substitute f).countNodes).sum : Nat) : Int) =
          (children.map countNodes).sum + ((children.flatMap boundaryInputs).map
            fun socket => ((f socket).countNodes : Int) - 1).sum := by
      induction children with
      | nil => rfl
      | cons child rest later =>
        obtain ⟨here, there⟩ := List.cons_subset.1 mem
        have first := ih child here
        have others := later there
        simp only [List.map_cons, List.sum_cons, List.flatMap_cons, List.map_append,
          List.sum_append]
        omega
    rw [substitute_eq_mapChildren f inner, countNodes_eq_sum (e.mapChildren _),
      children_mapChildren, boundaryInputs_node inner, countNodes_eq_sum e, List.map_map]
    have total := below e.children (List.Subset.refl _)
    simp only [Function.comp_def]
    omega

/-- Filling in fails as the first boundary input does that fails. -/
theorem fault?_substituteM (bind : String → Except ε (Expr α)) (e : Expr α) :
    fault? (e.substituteM bind) =
      e.boundaryInputs.findSome? fun socket => fault? (bind socket) := by
  induction e using boundary_induction with
  | input socket =>
    rw [boundaryInputs_groupInput, List.findSome?_singleton]
    rfl
  | node e inner ih =>
    rw [substituteM_eq_traverseChildren bind inner, fault?_traverseChildren,
      boundaryInputs_node inner, findSome?_flatMap]
    exact findSome?_congr ih

theorem substituteM_ok {bind : String → Except ε (Expr α)} {f : String → Expr α} {e : Expr α}
    (bound : ∀ socket ∈ e.boundaryInputs, bind socket = .ok (f socket)) :
    e.substituteM bind = .ok (e.substitute f) := by
  induction e using boundary_induction with
  | input socket => exact bound socket (by simp)
  | node e inner ih =>
    rw [substituteM_eq_traverseChildren bind inner, substitute_eq_mapChildren f inner]
    apply traverseChildren_ok
    intro child mem
    exact ih child mem fun socket occurs => bound socket (boundaryInputs_of_child mem occurs)

/-- Filling in is simultaneous and captures nothing: what is put in is left as it is,
and so is all else. It takes away the boundary inputs of the template and brings in
those of what is put in, and the first of them that fails decides the fault. -/
theorem substitute_simultaneous (e : Expr α) :
    e.substitute groupInput = e ∧
      (e.boundaryInputs = [] → ∀ f, e.substitute f = e) ∧
      (∀ f g, (e.substitute f).substitute g =
        e.substitute fun socket => (f socket).substitute g) ∧
      (∀ f, (e.substitute f).boundaryInputs =
        e.boundaryInputs.flatMap fun socket => (f socket).boundaryInputs) ∧
      (∀ f, ((e.substitute f).countNodes : Int) = e.countNodes +
        (e.boundaryInputs.map fun socket => ((f socket).countNodes : Int) - 1).sum) ∧
      ∀ {ε : Type} (bind : String → Except ε (Expr α)),
        fault? (e.substituteM bind) =
            e.boundaryInputs.findSome? (fun socket => fault? (bind socket)) ∧
          ∀ f, (∀ socket ∈ e.boundaryInputs, bind socket = .ok (f socket)) →
            e.substituteM bind = .ok (e.substitute f) := by
  have closed (none : e.boundaryInputs = []) (f : String → Expr α) : e.substitute f = e := by
    have same : e.substitute f = e.substitute groupInput :=
      substitute_congr fun socket occurs => by rw [none] at occurs; cases occurs
    rw [same, substitute_groupInput]
  exact ⟨substitute_groupInput e, closed, fun f g => substitute_substitute f g e,
    fun f => boundaryInputs_substitute f e, fun f => countNodes_substitute f e,
    fun bind => ⟨fault?_substituteM bind e, fun f bound => substituteM_ok bound⟩⟩

/-- A template with two boundary inputs. -/
def sumOfTwo : Expr Rat :=
  .group "Sum" (.math "ADD" false (.groupInput "X") (.groupInput "Y") (.constScalar 1))

def exchange (socket : String) : Expr Rat := .groupInput (if socket = "X" then "Y" else "X")

/-- Exchanging inputs that are none of the two fails. -/
def exchange? (socket : String) : Except String (Expr Rat) :=
  if socket = "X" ∨ socket = "Y" then .ok (exchange socket) else .error socket

theorem substitute_simultaneous_exchange :
    (.constScalar 1 : Expr Rat).boundaryInputs = [] ∧
      (.constScalar 1 : Expr Rat).substitute exchange = .constScalar 1 ∧
      (sumOfTwo.substitute exchange).boundaryInputs = ["Y", "X"] ∧
      (∀ socket ∈ sumOfTwo.boundaryInputs, exchange? socket = .ok (exchange socket)) ∧
      sumOfTwo.substituteM exchange? = .ok (sumOfTwo.substitute exchange) ∧
      fault? (sumOfTwo.substituteM fun socket => exchange? (socket ++ "'")) = some "X'" := by
  obtain ⟨-, closed, -⟩ := substitute_simultaneous (.constScalar 1 : Expr Rat)
  obtain ⟨-, -, -, inputs, -, effects⟩ := substitute_simultaneous sumOfTwo
  have none (x : Rat) : (.constScalar x : Expr Rat).boundaryInputs = [] := by
    rw [boundaryInputs_node (by simp)]
    rfl
  have two : sumOfTwo.boundaryInputs = ["X", "Y"] := by
    simp [sumOfTwo, boundaryInputs_node, children, namedChildren]
  have bound : ∀ socket ∈ sumOfTwo.boundaryInputs, exchange? socket = .ok (exchange socket) := by
    rw [two]
    decide +kernel
  refine ⟨none 1, closed (none 1) exchange, ?_, bound, (effects exchange?).2 exchange bound, ?_⟩
  · rw [inputs, two]
    simp [exchange]
  · rw [(effects _).1, two]
    rfl

end ShadeGraph.Expr
