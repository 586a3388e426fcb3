import ShadeGraph.Graph.Basic

/-! A graph together with the groups it may refer to, which may refer to one
another in any way. -/

namespace ShadeGraph

structure Family (α : Type) (n : Nat) where
  root : Graph α (Fin n)
  groups : Vector (Graph α (Fin n)) n

/-- A place in a family. -/
inductive Site (n : Nat)
  | root
  | group (i : Fin n)
deriving DecidableEq

namespace Family

variable {α : Type} {n : Nat}

def graph (family : Family α n) : Site n → Graph α (Fin n)
  | .root => family.root
  | .group i => family.groups.get i

def graphs (family : Family α n) : List (Graph α (Fin n)) := family.root :: family.groups.toList

/-- The keys of all nodes. -/
def keys (family : Family α n) : List String :=
  family.graphs.flatMap fun graph => graph.nodes.map fun node => graph.nodeKey node.id

/-- The number of keys not seen yet. -/
def unseen (family : Family α n) (seen : List String) : Nat :=
  (family.keys.filter (· ∉ seen)).length

theorem graph_mem_graphs (family : Family α n) (site : Site n) :
    family.graph site ∈ family.graphs := by
  cases site with
  | root => exact List.mem_cons_self
  | group i => exact List.mem_cons_of_mem _ (by simp [graph, Vector.get])

theorem nodeKey_mem_keys (family : Family α n) (site : Site n) {id : String}
    {node : Node α (Fin n)} (h : (family.graph site).findNode? id = some node) :
    (family.graph site).nodeKey node.id ∈ family.keys :=
  List.mem_flatMap.2 ⟨_, family.graph_mem_graphs site,
    List.mem_map.2 ⟨node, List.mem_of_find?_eq_some h, rfl⟩⟩

theorem length_unseen_lt {keys seen : List String} {key : String} (mem : key ∈ keys)
    (fresh : key ∉ seen) :
    (keys.filter (· ∉ key :: seen)).length < (keys.filter (· ∉ seen)).length := by
  have split : keys.filter (· ∉ key :: seen) = (keys.filter (· ∉ seen)).filter (· ≠ key) := by
    rw [List.filter_filter]
    apply List.filter_congr
    intro k _
    simp
  rw [split]
  exact List.length_filter_lt_length_iff_exists.2 ⟨key, by simp [mem, fresh], by simp⟩

theorem unseen_lt (family : Family α n) {seen : List String} {key : String}
    (mem : key ∈ family.keys) (fresh : key ∉ seen) :
    family.unseen (key :: seen) < family.unseen seen :=
  length_unseen_lt mem fresh

end Family
end ShadeGraph
