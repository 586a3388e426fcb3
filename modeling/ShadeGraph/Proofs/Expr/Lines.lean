import Mathlib.Data.List.Basic
import ShadeGraph.Expr.Lines
import ShadeGraph.Proofs.Expr.Nodes

/-!
# Lines of a tree

A tree has a line for every place in it, a parent before its children. The line
is set in by the depth of the place and names the field that the node stands in.
-/

namespace ShadeGraph

variable {α : Type}

/-- The parts of a line from the type of its node on. -/
def Line.unlabelled (line : Line) : List Part := line.parts.dropWhile (·.kind = .label)

namespace Expr

/-- The line of a node without its label. -/
def headline (text : α → String) (e : Expr α) : List Part :=
  ⟨.op, e.typeName⟩ :: e.headerParts text

/-- A node of a tree with the fields that lead to it, the last of them first. -/
structure Place (α : Type) where
  fields : List String
  node : Expr α

/-- The places of a tree, itself reached through some fields. -/
def placesBelow (fields : List String) (e : Expr α) : List (Place α) :=
  ⟨fields, e⟩ :: e.namedChildren.attach.flatMap fun child =>
    child.1.2.placesBelow (child.1.1 :: fields)
termination_by e
decreasing_by exact sizeOf_lt_of_mem_namedChildren child.2

def places (e : Expr α) : List (Place α) := e.placesBelow []

def reach? (e : Expr α) : List String → Option (Expr α)
  | [] => some e
  | field :: fields => (e.reach? fields).bind fun parent => parent.namedChildren.lookup field

def labelParts : List String → List Part
  | [] => []
  | field :: _ => [⟨.label, field ++ ":"⟩]

def Place.line (text : α → String) (place : Place α) : Line :=
  ⟨place.fields.length, labelParts place.fields ++ place.node.headline text⟩

theorem namedChildren_induction {P : Expr α → Prop}
    (node : ∀ e, (∀ child ∈ e.namedChildren, P child.2) → P e) (e : Expr α) : P e := by
  induction e using child_induction with
  | node e ih => exact node e fun child mem => ih child.2 (List.mem_map_of_mem mem)

theorem flatMap_attach {β γ : Type} (l : List β) (f : β → List γ) :
    (l.attach.flatMap fun b => f b.1) = l.flatMap f := by simp

theorem linesAt_eq (text : α → String) (indent : Nat) (label : List Part) (e : Expr α) :
    e.linesAt text indent label = ⟨indent, label ++ e.headline text⟩ ::
      e.namedChildren.flatMap fun child =>
        child.2.linesAt text (indent + 1) [⟨.label, child.1 ++ ":"⟩] := by
  rw [linesAt]
  exact congrArg _ (flatMap_attach e.namedChildren fun child =>
    child.2.linesAt text (indent + 1) [⟨.label, child.1 ++ ":"⟩])

theorem placesBelow_eq (fields : List String) (e : Expr α) :
    e.placesBelow fields = ⟨fields, e⟩ :: e.namedChildren.flatMap fun child =>
      child.2.placesBelow (child.1 :: fields) := by
  rw [placesBelow]
  exact congrArg _ (flatMap_attach e.namedChildren fun child =>
    child.2.placesBelow (child.1 :: fields))

theorem linesAt_eq_places (text : α → String) (fields : List String) (e : Expr α) :
    e.linesAt text fields.length (labelParts fields) =
      (e.placesBelow fields).map (Place.line text) := by
  induction e using namedChildren_induction generalizing fields with
  | node e ih =>
    rw [linesAt_eq, placesBelow_eq, List.map_cons, List.map_flatMap]
    exact congrArg _ (List.flatMap_congr fun child mem => ih child mem (child.1 :: fields))

theorem lines_eq_places (text : α → String) (e : Expr α) :
    e.lines text = e.places.map (Place.line text) := linesAt_eq_places text [] e

theorem placesBelow_nodes (fields : List String) (e : Expr α) :
    (e.placesBelow fields).map Place.node = e.preorder := by
  induction e using namedChildren_induction generalizing fields with
  | node e ih =>
    rw [placesBelow_eq, preorder_eq, List.map_cons, List.map_flatMap, children, List.flatMap_map]
    exact congrArg _ (List.flatMap_congr fun child mem => ih child mem (child.1 :: fields))

theorem places_nodes (e : Expr α) : e.places.map Place.node = e.preorder :=
  placesBelow_nodes [] e

theorem length_lines (text : α → String) (e : Expr α) :
    (e.lines text).length = e.countNodes := by
  rw [lines_eq_places, List.length_map, ← length_preorder, ← places_nodes, List.length_map]

theorem lookup_namedChildren {e : Expr α} {child : String × Expr α}
    (mem : child ∈ e.namedChildren) : e.namedChildren.lookup child.1 = some child.2 := by
  revert child
  cases e <;> simp [namedChildren, List.lookup_cons]

theorem reach?_placesBelow {root e : Expr α} {fields : List String}
    (reached : root.reach? fields = some e) {place : Place α}
    (mem : place ∈ e.placesBelow fields) : root.reach? place.fields = some place.node := by
  induction e using namedChildren_induction generalizing fields with
  | node e ih =>
    rw [placesBelow_eq] at mem
    rcases List.mem_cons.1 mem with rfl | below
    · exact reached
    · obtain ⟨child, here, below⟩ := List.mem_flatMap.1 below
      refine ih child here ?_ below
      rw [reach?, reached]
      exact lookup_namedChildren here

theorem Place.unlabelled_line (text : α → String) (place : Place α) :
    (place.line text).unlabelled = place.node.headline text := by
  obtain ⟨_ | ⟨field, fields⟩, node⟩ := place <;> rfl

/-- The lines of an expression list its nodes, a parent before its children. -/
theorem lines_preorder (text : α → String) (e : Expr α) :
    (e.lines text).map Line.unlabelled = e.preorder.map (headline text) := by
  rw [lines_eq_places, List.map_map, ← places_nodes, List.map_map]
  exact List.map_congr_left fun place _ => place.unlabelled_line text

end Expr
end ShadeGraph
