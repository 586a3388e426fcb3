import Mathlib.Logic.Relation
import ShadeGraph.Proofs.Graph.Keys

/-!
# Dependencies

A node depends on the nodes linked to its inputs, and an instance of a group on
those linked to the active output of the group. With ids that tell graphs apart,
keys tell nodes apart. No node depends on itself if links are acyclic in every
graph and no graph has an instance of itself inside of it.
-/

namespace ShadeGraph

open Relation

variable {α : Type} {n : Nat}

/-- A link leads from an output of one node to an input of the other. -/
def Graph.Feeds {ρ : Type} (graph : Graph α ρ) (source target : String) : Prop :=
  ∃ link ∈ graph.links, link.source.node = source ∧ link.target.node = target

namespace Family

variable {family : Family α n}

theorem mem_graphs_iff {graph : Graph α (Fin n)} :
    graph ∈ family.graphs ↔ ∃ site, family.graph site = graph := by
  constructor
  · intro mem
    rcases List.mem_cons.1 mem with root | group
    · exact ⟨.root, root.symm⟩
    · obtain ⟨i, bound, found⟩ := Vector.mem_iff_getElem.1 (Vector.mem_toList_iff.1 group)
      exact ⟨.group ⟨i, bound⟩, found⟩
  · rintro ⟨site, rfl⟩
    exact family.graph_mem_graphs site

/-- A node of a family, in its graph. -/
@[ext] structure Placed (family : Family α n) where
  graph : Graph α (Fin n)
  listed : graph ∈ family.graphs
  node : Node α (Fin n)
  within : node ∈ graph.nodes

def Placed.key (x : family.Placed) : String := x.graph.nodeKey x.node.id

/-- The node that its id finds in its graph. -/
def Placed.Found (x : family.Placed) : Prop := x.graph.findNode? x.node.id = some x.node

/-- `y` is linked to an input of `x`. -/
def Beside (x y : family.Placed) : Prop :=
  y.graph = x.graph ∧ x.graph.Feeds y.node.id x.node.id

/-- `y` is linked to the active output of the group that `x` is an instance of. -/
def Inside (x y : family.Placed) : Prop :=
  ∃ tree active, x.node.body = .group tree ∧ y.graph = family.groups.get tree ∧
    y.graph.activeOutput? = some active ∧ y.graph.Feeds y.node.id active.id

def Depends (x y : family.Placed) : Prop := Beside x y ∨ Inside x y

/-- A graph has an instance of a group. -/
def Contains (family : Family α n) (graph group : Graph α (Fin n)) : Prop :=
  graph ∈ family.graphs ∧
    ∃ node ∈ graph.nodes, ∃ tree, node.body = .group tree ∧ group = family.groups.get tree

/-- No node feeds itself through links, and no graph has an instance of itself,
at whatever distance. -/
structure Layered (family : Family α n) : Prop where
  links : ∀ x : family.Placed, ¬ TransGen Beside x x
  groups : ∀ graph, ¬ TransGen family.Contains graph graph

/-- Graphs have ids of their own, which hold no slash. -/
structure Unambiguous (family : Family α n) : Prop where
  unslashed : ∀ graph ∈ family.graphs, Unslashed graph.id
  distinct : ∀ graph ∈ family.graphs, ∀ group ∈ family.graphs, graph.id = group.id → graph = group

theorem Keyed.unambiguous (keyed : family.Keyed) : family.Unambiguous where
  unslashed := by
    intro graph mem
    obtain ⟨site, rfl⟩ := mem_graphs_iff.1 mem
    exact (keyed.unslashed site).1
  distinct := by
    intro graph mem group mem' same
    obtain ⟨site, rfl⟩ := mem_graphs_iff.1 mem
    obtain ⟨place, rfl⟩ := mem_graphs_iff.1 mem'
    rw [keyed.distinct site place same]

/-- A key belongs to one of the nodes that ids find. -/
theorem Unambiguous.key_unique (unambiguous : family.Unambiguous) {x y : family.Placed}
    (hx : x.Found) (hy : y.Found) (same : x.key = y.key) : x = y := by
  have unslashed := unambiguous.unslashed
  obtain ⟨graphs, nodes⟩ :=
    joined_unique (unslashed x.graph x.listed) (unslashed y.graph y.listed) same
  have graph : x.graph = y.graph := unambiguous.distinct x.graph x.listed y.graph y.listed graphs
  have id : x.node.id = y.node.id := nodes
  have node : some x.node = some y.node := by
    rw [← hx, ← hy, graph, id]
  exact Placed.ext graph (Option.some.inj node)

/-- A dependency stays in a graph, by links alone, or leads into groups. -/
theorem depends_cases {x y : family.Placed} (path : TransGen Depends x y) :
    (y.graph = x.graph ∧ TransGen Beside x y) ∨ TransGen family.Contains x.graph y.graph := by
  have contains {x y : family.Placed} (inside : Inside x y) :
      family.Contains x.graph y.graph := by
    obtain ⟨tree, active, body, there, _⟩ := inside
    exact ⟨x.listed, x.node, x.within, tree, body, there⟩
  induction path with
  | single step =>
    rcases step with beside | inside
    · exact Or.inl ⟨beside.1, .single beside⟩
    · exact Or.inr (.single (contains inside))
  | tail _ step ih =>
    rcases step with beside | inside
    · rcases ih with ⟨here, links⟩ | groups
      · exact Or.inl ⟨beside.1.trans here, links.tail beside⟩
      · exact Or.inr (beside.1 ▸ groups)
    · rcases ih with ⟨here, _⟩ | groups
      · exact Or.inr (.single (here ▸ contains inside))
      · exact Or.inr (groups.tail (contains inside))

theorem Layered.acyclic (layered : family.Layered) (x : family.Placed) :
    ¬ TransGen Depends x x := by
  intro path
  rcases depends_cases path with ⟨_, links⟩ | groups
  · exact layered.links x links
  · exact layered.groups x.graph groups

/-- Heights that grow along every link, and depths that shrink towards every
group, leave no room for a cycle. -/
theorem layered_of_ranks (height depth : String → Nat)
    (links : ∀ graph ∈ family.graphs, ∀ link ∈ graph.links,
      height link.source.node < height link.target.node)
    (groups : ∀ graph ∈ family.graphs, ∀ node ∈ graph.nodes, ∀ tree, node.body = .group tree →
      depth (family.groups.get tree).id < depth graph.id) : family.Layered where
  links := by
    intro x path
    have lower {y : family.Placed} (path : TransGen Beside x y) :
        height y.node.id < height x.node.id := by
      induction path with
      | single step =>
        obtain ⟨_, link, mem, source, target⟩ := step
        rw [← source, ← target]
        exact links _ (Placed.listed _) link mem
      | tail _ step ih =>
        obtain ⟨_, link, mem, source, target⟩ := step
        have next := links _ (Placed.listed _) link mem
        rw [source, target] at next
        omega
    exact Nat.lt_irrefl _ (lower path)
  groups := by
    intro graph path
    have deeper {group : Graph α (Fin n)} (path : TransGen family.Contains graph group) :
        depth group.id < depth graph.id := by
      induction path with
      | single step =>
        obtain ⟨listed, node, mem, tree, body, rfl⟩ := step
        exact groups _ listed node mem tree body
      | tail _ step ih =>
        obtain ⟨listed, node, mem, tree, body, rfl⟩ := step
        have next := groups _ listed node mem tree body
        omega
    exact Nat.lt_irrefl _ (deeper path)

/-- Every key on the way is that of a node from which dependencies lead to `x`. -/
def Above (seen : List String) (x : family.Placed) : Prop :=
  ∀ key ∈ seen, ∃ y : family.Placed, y.Found ∧ y.key = key ∧ TransGen Depends y x

theorem Above.step {seen : List String} {x y : family.Placed} (above : Above seen x)
    (found : x.Found) (depends : Depends x y) : Above (x.key :: seen) y := by
  intro key mem
  rcases List.mem_cons.1 mem with here | earlier
  · exact ⟨x, found, here.symm, .single depends⟩
  · obtain ⟨z, hz, same, path⟩ := above key earlier
    exact ⟨z, hz, same, path.tail depends⟩

end Family
end ShadeGraph
