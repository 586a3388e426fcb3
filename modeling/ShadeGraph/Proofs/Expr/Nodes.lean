import Mathlib.Algebra.GroupWithZero.Nat
import ShadeGraph.Expr.Substitute
import ShadeGraph.Proofs.Outcome

/-!
# Nodes of a tree

Counting, listing and rewriting treat a node by the table of its children only.
What they have in common is said here once, constructor by constructor, so that
an argument about them is an induction over the children.
-/

namespace ShadeGraph.Expr

variable {α ε : Type}

theorem child_induction {P : Expr α → Prop}
    (node : ∀ e, (∀ child ∈ e.children, P child) → P e) (e : Expr α) : P e := by
  induction size : sizeOf e using Nat.strongRecOn generalizing e with
  | ind s ih =>
    subst size
    exact node e fun child mem => ih _ (sizeOf_lt_of_mem_children mem) child rfl

/-- Boundary inputs on the one hand, nodes over their children on the other. -/
theorem boundary_induction {P : Expr α → Prop} (input : ∀ socket, P (groupInput socket))
    (node : ∀ e, (∀ socket, e ≠ groupInput socket) → (∀ child ∈ e.children, P child) → P e)
    (e : Expr α) : P e := by
  induction e using child_induction with
  | node e ih =>
    cases e with
    | groupInput socket => exact input socket
    | _ => exact node _ (by simp) ih

theorem traverseChildren_congr {m : Type → Type} [Monad m] {f g : Expr α → m (Expr α)}
    {e : Expr α} (same : ∀ child ∈ e.children, f child = g child) :
    e.traverseChildren f = e.traverseChildren g := by
  cases e <;> simp only [children, namedChildren, List.map_cons, List.map_nil,
    List.forall_mem_cons] at same <;> simp only [traverseChildren, same]

theorem mapChildren_congr {f g : Expr α → Expr α} {e : Expr α}
    (same : ∀ child ∈ e.children, f child = g child) : e.mapChildren f = e.mapChildren g :=
  congrArg Id.run (traverseChildren_congr fun child mem => congrArg pure (same child mem))

theorem mapChildren_id (e : Expr α) : e.mapChildren (fun child => child) = e := by
  cases e <;> rfl

theorem mapChildren_mapChildren (f g : Expr α → Expr α) (e : Expr α) :
    (e.mapChildren f).mapChildren g = e.mapChildren fun child => g (f child) := by
  cases e <;> rfl

@[simp]
theorem children_mapChildren (f : Expr α → Expr α) (e : Expr α) :
    (e.mapChildren f).children = e.children.map f := by
  cases e <;> rfl

theorem mapChildren_ne_groupInput {f : Expr α → Expr α} {e : Expr α}
    (inner : ∀ socket, e ≠ groupInput socket) (socket : String) :
    e.mapChildren f ≠ groupInput socket := by
  cases e with
  | groupInput s => exact absurd rfl (inner s)
  | _ => exact fun same => by cases same

theorem traverseChildren_ok {f : Expr α → Except ε (Expr α)} {g : Expr α → Expr α} {e : Expr α}
    (each : ∀ child ∈ e.children, f child = .ok (g child)) :
    e.traverseChildren f = .ok (e.mapChildren g) := by
  rw [traverseChildren_congr each]
  cases e <;> rfl

/-- The first node that is left; where none is, the child itself. -/
def takeNext (child : Expr α) : StateM (List (Expr α)) (Expr α) :=
  modifyGet fun
    | [] => (child, [])
    | next :: rest => (next, rest)

/-- A node over other children, which take the places of the old ones in turn. -/
def refill (e : Expr α) (nodes : List (Expr α)) : Expr α :=
  (Id.run ((e.traverseChildren takeNext).run nodes)).1

/-- Replacing the children runs through the list of them. -/
theorem traverseChildren_eq_mapM {m : Type → Type} [Monad m] [LawfulMonad m]
    (f : Expr α → m (Expr α)) (e : Expr α) :
    e.traverseChildren f = e.refill <$> e.children.mapM f := by
  cases e <;> simp only [traverseChildren, children, namedChildren, List.map_cons, List.map_nil,
    List.mapM_cons, List.mapM_nil, map_bind, bind_assoc, pure_bind, map_pure] <;> rfl

/-- Of the children the first one that fails decides the fault. -/
theorem fault?_traverseChildren (f : Expr α → Except ε (Expr α)) (e : Expr α) :
    fault? (e.traverseChildren f) = e.children.findSome? fun child => fault? (f child) := by
  rw [traverseChildren_eq_mapM, fault?_map, fault?_mapM]

/-- The nodes of a tree, a parent before its children. -/
def preorder (e : Expr α) : List (Expr α) :=
  e :: e.children.attach.flatMap fun child => child.1.preorder
termination_by e
decreasing_by exact sizeOf_lt_of_mem_children child.2

theorem preorder_eq (e : Expr α) : e.preorder = e :: e.children.flatMap preorder := by
  rw [preorder]
  simp

theorem countNodes_eq_sum (e : Expr α) : e.countNodes = 1 + (e.children.map countNodes).sum := by
  have total (count : Nat) (children : List (Expr α)) :
      children.foldl (fun total child => total + child.countNodes) count =
        count + (children.map countNodes).sum := by
    induction children generalizing count with
    | nil => rfl
    | cons child rest ih =>
      simp only [List.foldl_cons, List.map_cons, List.sum_cons, ih]
      omega
  rw [countNodes_eq, total]

theorem length_preorder (e : Expr α) : e.preorder.length = e.countNodes := by
  induction e using child_induction with
  | node e ih =>
    rw [preorder_eq, countNodes_eq_sum, List.length_cons, List.length_flatMap,
      List.map_congr_left ih]
    omega

end ShadeGraph.Expr
