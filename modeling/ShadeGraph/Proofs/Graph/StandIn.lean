import ShadeGraph.Proofs.Document.Linked

/-!
# Graphs that stand in for one another

Lowering only looks things up: a node by its id, the link at an input, the
active output of a group. A graph stands in for another if each of these finds
in it what it finds in the other. The order of its lists plays no part, and
neither do nodes that are never looked for.
-/

namespace ShadeGraph

variable {α ρ σ τ : Type} {n n' : Nat}

namespace Node

theorem mapGroup_mapGroup (f : ρ → σ) (g : σ → τ) (node : Node α ρ) :
    (node.mapGroup f).mapGroup g = node.mapGroup (g ∘ f) := by
  obtain ⟨id, label?, inputs?, body⟩ := node
  cases body <;> rfl

/-- References that can be told apart by what replaces them can be put back. -/
theorem traverseGroup_mapGroup {f : ρ → σ} {back : σ → Option ρ}
    (recovers : ∀ tree, back (f tree) = some tree) (node : Node α ρ) :
    (node.mapGroup f).traverseGroup back = some node := by
  obtain ⟨id, label?, inputs?, body⟩ := node
  cases body with
  | group tree =>
    show Option.map _ (Option.map _ (back (f tree))) = _
    rw [recovers]
    rfl
  | _ => rfl

theorem mapGroup_injective {f : ρ → σ} (injective : Function.Injective f) :
    Function.Injective (mapGroup (α := α) f) := by
  intro node other same
  have recovers := Function.partialInv_left injective
  have back := traverseGroup_mapGroup recovers node
  rw [same, traverseGroup_mapGroup recovers other] at back
  exact (Option.some.inj back).symm

theorem socketDefault?_mapGroup [Arithmetic α] (f : ρ → σ) (node : Node α ρ) (socket : String) :
    (node.mapGroup f).socketDefault? socket = node.socketDefault? socket := by
  rw [socketDefault?, socketDefault?, mapGroup_kind]
  rfl

end Node

namespace Graph

theorem findNode?_mapGroup (f : ρ → σ) (graph : Graph α ρ) (id : String) :
    (graph.mapGroup f).findNode? id = (graph.findNode? id).map (Node.mapGroup f) :=
  List.find?_map ..

theorem activeOutput?_mapGroup (f : ρ → σ) (graph : Graph α ρ) :
    (graph.mapGroup f).activeOutput? = graph.activeOutput?.map (Node.mapGroup f) := by
  refine (List.find?_map ..).trans (congrArg _ (List.find?_congr fun node _ => ?_))
  obtain ⟨id, label?, inputs?, body⟩ := node
  cases body <;> rfl

theorem bakeOutput?_mapGroup (f : ρ → σ) (graph : Graph α ρ) :
    (graph.mapGroup f).bakeOutput? = graph.bakeOutput?.map (Node.mapGroup f) := by
  refine (List.find?_map ..).trans (congrArg _ (List.find?_congr fun node _ => ?_))
  simp

theorem mapGroup_mapGroup (f : ρ → σ) (g : σ → τ) (graph : Graph α ρ) :
    (graph.mapGroup f).mapGroup g = graph.mapGroup (g ∘ f) := by
  simp [mapGroup, Function.comp_def, Node.mapGroup_mapGroup]

/-- Whatever is looked up in `graph`, below the nodes that it has, is found in
`other` as well. -/
structure StandsFor (other graph : Graph α ρ) : Prop where
  id : other.id = graph.id
  name : other.name = graph.name
  node : ∀ {id node}, graph.findNode? id = some node → other.findNode? id = some node
  link : ∀ target, other.linkTo? target = graph.linkTo? target
  active : other.activeOutput? = graph.activeOutput?
  sourced : ∀ link ∈ graph.links, ∃ node, graph.findNode? link.source.node = some node

/-- Graphs stand in for one another if they do so with other references, as long
as these can be told apart. -/
theorem standsFor_of_mapGroup {f : ρ → σ} (injective : Function.Injective f)
    {other graph : Graph α ρ} (h : (other.mapGroup f).StandsFor (graph.mapGroup f)) :
    other.StandsFor graph where
  id := h.id
  name := h.name
  node := by
    intro id node found
    have mapped : (other.mapGroup f).findNode? id = some (node.mapGroup f) :=
      h.node (by rw [findNode?_mapGroup, found]; rfl)
    rw [findNode?_mapGroup] at mapped
    exact Option.map_injective (Node.mapGroup_injective injective) mapped
  link := h.link
  active := by
    have mapped := h.active
    rw [activeOutput?_mapGroup, activeOutput?_mapGroup] at mapped
    exact Option.map_injective (Node.mapGroup_injective injective) mapped
  sourced := by
    intro link mem
    obtain ⟨node, found⟩ := h.sourced link mem
    rw [findNode?_mapGroup] at found
    obtain ⟨node, found, _⟩ := Option.map_eq_some_iff.1 found
    exact ⟨node, found⟩

end Graph

def Site.map (place : Fin n → Fin n') : Site n → Site n'
  | .root => .root
  | .group i => .group (place i)

/-- A family whose graphs stand in for those of another, where the group at `i`
has its stand-in at `place i`. -/
structure Family.StandsFor (other : Family α n') (family : Family α n)
    (place : Fin n → Fin n') : Prop where
  root : other.root.StandsFor (family.root.mapGroup place)
  group : ∀ i, (other.groups.get (place i)).StandsFor ((family.groups.get i).mapGroup place)

theorem Family.StandsFor.graph {other : Family α n'} {family : Family α n}
    {place : Fin n → Fin n'} (stands : other.StandsFor family place) (site : Site n) :
    (other.graph (site.map place)).StandsFor ((family.graph site).mapGroup place) := by
  cases site with
  | root => exact stands.root
  | group i => exact stands.group i

namespace Library

variable {library library' : Library α} {material : Material α (Fin library.groupCount)}
  {material' : Material α (Fin library'.groupCount)}

/-- Graphs that stand in for one another as they are written do so in the
libraries that they are linked to, wherever these list them. -/
theorem standsFor (distinct : (library'.graphs.map Graph.id).Nodup)
    (groups : ∀ group ∈ library.document.groups, ∃ other ∈ library'.document.groups,
      other.StandsFor group)
    (root : (material'.graph.mapGroup library'.groupId).StandsFor
      (material.graph.mapGroup library.groupId)) :
    ∃ place, (library'.family material').StandsFor (library.family material) place := by
  have standIn (i : Fin library.groupCount) :
      ∃ j, ((library'.groups.get j).mapGroup library'.groupId).StandsFor
        ((library.groups.get i).mapGroup library.groupId) := by
    obtain ⟨other, mem, stands⟩ := groups ((library.groups.get i).mapGroup library.groupId)
      (List.mem_map_of_mem (by simp [Vector.get]))
    obtain ⟨graph, listed, rfl⟩ := List.mem_map.1 mem
    obtain ⟨j, bound, rfl⟩ := Vector.mem_iff_getElem.1 (Vector.mem_toList_iff.1 listed)
    exact ⟨⟨j, bound⟩, stands⟩
  choose place stands using standIn
  -- Stand-ins have the ids of the groups, so naming groups by id commutes with moving them.
  have names : library'.groupId ∘ place = library.groupId := funext fun i => (stands i).id
  refine ⟨place, ?_, fun i => ?_⟩
  · refine Graph.standsFor_of_mapGroup (groupId_injective distinct) ?_
    rw [Graph.mapGroup_mapGroup, names]
    exact root
  · refine Graph.standsFor_of_mapGroup (groupId_injective distinct) ?_
    rw [Graph.mapGroup_mapGroup, names]
    exact stands i

end Library
end ShadeGraph
