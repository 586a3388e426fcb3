import Mathlib
import ShadeGraph.Document.Resolve
import ShadeGraph.Proofs.Document.Listed

/-!
# Resolved documents

What the checks of a document promise of each graph: its nodes have ids of
their own, its links end at nodes that are there and at sockets that these have,
no two at one input. Resolving changes nothing but what group nodes refer to,
so with the ids put back for the places the graph of the document returns.
-/

namespace ShadeGraph

open Checked

variable {α ρ σ : Type} {n : Nat}

namespace Node

/-- Kinds without a fixed set of sockets have every output. -/
def HasOutput (node : Node α ρ) (socket : String) : Prop :=
  node.kind.isDynamic ∨ socket ∈ node.kind.outputs

def HasInput [Arithmetic α] (node : Node α ρ) (socket : String) : Prop :=
  node.kind.isDynamic ∨ socket ∈ (node.kind.inputs (α := α)).map InputSocket.name

instance (node : Node α ρ) (socket : String) : Decidable (node.HasOutput socket) :=
  inferInstanceAs (Decidable (_ ∨ _))

instance [Arithmetic α] (node : Node α ρ) (socket : String) : Decidable (node.HasInput socket) :=
  inferInstanceAs (Decidable (_ ∨ _))

@[simp] theorem mapGroup_id (f : ρ → σ) (node : Node α ρ) : (node.mapGroup f).id = node.id := rfl

@[simp] theorem mapGroup_kind (f : ρ → σ) (node : Node α ρ) :
    (node.mapGroup f).kind = node.kind := by
  obtain ⟨id, label?, inputs?, body⟩ := node
  cases body <;> rfl

theorem mapGroup_group {f : ρ → σ} {node : Node α ρ} {name : σ}
    (h : (node.mapGroup f).body = .group name) :
    ∃ tree, node.body = .group tree ∧ f tree = name := by
  obtain ⟨id, label?, inputs?, body⟩ := node
  cases body with
  | group tree =>
    cases h
    exact ⟨tree, rfl, rfl⟩
  | _ => cases h

theorem mapGroup_listed (f : ρ → σ) (node : Node α ρ) :
    (node.mapGroup f).body.Listed ↔ node.body.Listed := by
  obtain ⟨id, label?, inputs?, body⟩ := node
  cases body <;> exact Iff.rfl

/-- A reference that is resolved and named again is the same reference. -/
theorem mapGroup_of_traverseGroup {ε : Type} {resolve : ρ → Checked ε σ} {name : σ → ρ}
    {node : Node α ρ} {node' : Node α σ} (h : node.traverseGroup resolve = .accept node')
    (named : ∀ {reference place}, resolve reference = .accept place → name place = reference) :
    node'.mapGroup name = node := by
  obtain ⟨id, label?, inputs?, body⟩ := node
  obtain ⟨body', traversed, rfl⟩ := map_eq_accept.1 h
  cases body with
  | group reference =>
    obtain ⟨place, resolved, rfl⟩ := map_eq_accept.1 traversed
    cases named resolved
    rfl
  | _ =>
    obtain rfl := pure_eq_accept.1 traversed
    rfl

end Node

namespace Graph

def mapGroup (f : ρ → σ) (graph : Graph α ρ) : Graph α σ :=
  ⟨graph.id, graph.name, graph.nodes.map (Node.mapGroup f), graph.links⟩

/-- Nodes and links of a graph fit together. -/
structure Linked [Arithmetic α] (graph : Graph α ρ) : Prop where
  distinct : (graph.nodes.map Node.id).Nodup
  source : ∀ link ∈ graph.links, ∃ node ∈ graph.nodes,
    node.id = link.source.node ∧ node.HasOutput link.source.socket
  target : ∀ link ∈ graph.links, ∃ node ∈ graph.nodes,
    node.id = link.target.node ∧ node.HasInput link.target.socket
  once : (graph.links.map Link.target).Nodup

/-- The node that a link starts from is found by its id. -/
theorem Linked.sourced [Arithmetic α] {graph : Graph α ρ} (linked : graph.Linked) {link : Link}
    (mem : link ∈ graph.links) : ∃ node, graph.findNode? link.source.node = some node := by
  obtain ⟨node, present, named, _⟩ := linked.source link mem
  exact Option.isSome_iff_exists.1 (List.find?_isSome.2 ⟨node, present, by simpa using named⟩)

theorem linked_of_mapGroup [Arithmetic α] {f : ρ → σ} {graph : Graph α ρ}
    (h : (graph.mapGroup f).Linked) : graph.Linked where
  distinct := by simpa [mapGroup, Function.comp_def] using h.distinct
  source := by simpa [mapGroup, Node.HasOutput] using h.source
  target := by simpa [mapGroup, Node.HasInput] using h.target
  once := h.once

theorem listed_of_mapGroup {f : ρ → σ} {graph : Graph α ρ} (h : (graph.mapGroup f).Listed) :
    graph.Listed :=
  fun node mem => (node.mapGroup_listed f).1 (h _ (List.mem_map_of_mem mem))

end Graph

def Material.mapGroup (f : ρ → σ) (material : Material α ρ) : Material α σ :=
  ⟨material.name, material.graph.mapGroup f⟩

/-- Groups before materials, as in a document. -/
def Library.graphs (library : Library α) : List (Graph α (Fin library.groupCount)) :=
  library.groups.toList ++ library.materials.map Material.graph

namespace Document

variable {groupIds : Vector String n} {graph : Graph α String}

theorem resolveNode_accept {graphId : String} {earlier : List (Node α String)}
    {node : Node α String} {node' : Node α (Fin n)}
    (h : resolveNode groupIds graphId earlier node = .accept node') :
    node.id ∉ earlier.map Node.id ∧ node'.mapGroup groupIds.get = node := by
  obtain ⟨⟨_, fresh⟩, resolved⟩ := seqRight_eq_accept.1 (under_eq_accept.1 h)
  refine ⟨by simpa using require_eq_accept.1 fresh, Node.mapGroup_of_traverseGroup resolved ?_⟩
  intro reference place found
  split at found
  · rename_i place' index
    cases found
    exact (Vector.finIdxOf?_eq_some_iff.1 index).1
  · cases found

variable [Arithmetic α]

omit [Arithmetic α] in
theorem checkSource_accept {nodes : List (Node α String)} {source : Endpoint} {u : Unit}
    (h : checkSource nodes source = .accept u) :
    ∃ node ∈ nodes, node.id = source.node ∧ node.HasOutput source.socket := by
  unfold checkSource at h
  split at h
  · cases h
  · rename_i node found
    refine ⟨node, List.mem_reverse.1 (List.mem_of_find?_eq_some found),
      by simpa using List.find?_some found, ?_⟩
    simpa [Node.HasOutput] using require_eq_accept.1 h

theorem checkTarget_accept {nodes : List (Node α String)} {target : Endpoint} {u : Unit}
    (h : checkTarget nodes target = .accept u) :
    ∃ node ∈ nodes, node.id = target.node ∧ node.HasInput target.socket := by
  unfold checkTarget at h
  split at h
  · cases h
  · rename_i node found
    refine ⟨node, List.mem_reverse.1 (List.mem_of_find?_eq_some found),
      by simpa using List.find?_some found, ?_⟩
    simpa [Node.HasInput] using require_eq_accept.1 h

/-- Equal inputs have equal keys, so the check of the keys finds them. -/
theorem checkLink_accept {nodes : List (Node α String)} {earlier : List Link} {link link' : Link}
    (h : checkLink nodes earlier link = .accept link') :
    link' = link ∧
      (∃ node ∈ nodes, node.id = link.source.node ∧ node.HasOutput link.source.socket) ∧
      (∃ node ∈ nodes, node.id = link.target.node ∧ node.HasInput link.target.socket) ∧
      link.target ∉ earlier.map Link.target := by
  obtain ⟨⟨_, checks⟩, kept⟩ := seqRight_eq_accept.1 (under_eq_accept.1 h)
  obtain ⟨⟨_, ends⟩, fresh⟩ := seqRight_eq_accept.1 checks
  obtain ⟨⟨_, source⟩, target⟩ := seqRight_eq_accept.1 ends
  refine ⟨(pure_eq_accept.1 kept).symm, checkSource_accept source, checkTarget_accept target, ?_⟩
  intro mem
  obtain ⟨other, present, same⟩ := List.mem_map.1 mem
  have new : ∀ other ∈ earlier, inputKey other.target ≠ inputKey link.target := by
    simpa using require_eq_accept.1 fresh
  exact new other present (congrArg inputKey same)

theorem resolveGraph_accept {graph' : Graph α (Fin n)}
    (h : resolveGraph groupIds graph = .accept graph') :
    graph.Linked ∧ graph'.mapGroup groupIds.get = graph := by
  obtain ⟨make, links, hmake, hlinks, rfl⟩ := seq_eq_accept.1 h
  obtain ⟨nodes, hnodes, rfl⟩ := map_eq_accept.1 hmake
  have resolved := under_eq_accept.1 hnodes
  have checked := under_eq_accept.1 hlinks
  have kept : links = graph.links := by
    simpa using each_map_eq (f := id) (g := id) (fun h => (checkLink_accept h).1) checked
  have link {link : Link} (mem : link ∈ graph.links) :
      ∃ earlier, checkLink graph.nodes earlier link = .accept link := by
    obtain ⟨link', _, earlier, accepted⟩ := each_result checked mem
    exact ⟨earlier, (checkLink_accept accepted).1 ▸ accepted⟩
  constructor
  · constructor
    · exact each_nodup (f := Node.id) [] (fun h => (resolveNode_accept h).1) resolved .nil
    · intro l mem
      obtain ⟨earlier, accepted⟩ := link mem
      exact (checkLink_accept accepted).2.1
    · intro l mem
      obtain ⟨earlier, accepted⟩ := link mem
      exact (checkLink_accept accepted).2.2.1
    · exact each_nodup (f := Link.target) [] (fun h => (checkLink_accept h).2.2.2) checked .nil
  · have back : nodes.map (Node.mapGroup groupIds.get) = graph.nodes := by
      simpa using each_map_eq (f := id) (fun h => (resolveNode_accept h).2) resolved
    subst kept
    obtain ⟨id, name, nodes', links⟩ := graph
    cases back
    rfl

theorem resolveGraph_id {graph' : Graph α (Fin n)}
    (h : resolveGraph groupIds graph = .accept graph') : graph'.id = graph.id :=
  congrArg Graph.id (resolveGraph_accept h).2

theorem resolveMaterial_accept {earlier : List (Material α String)}
    {material : Material α String} {material' : Material α (Fin n)}
    (h : resolveMaterial groupIds earlier material = .accept material') :
    material'.name = material.name ∧
      resolveGraph groupIds material.graph = .accept material'.graph := by
  obtain ⟨graph, resolved, rfl⟩ := map_eq_accept.1 (under_eq_accept.1 (under_eq_accept.1 h))
  exact ⟨rfl, resolved⟩

omit [Arithmetic α] in
theorem distinctGraphs_accept {document : Document α} {u : Unit}
    (h : distinctGraphs document = .accept u) : (document.graphs.map Graph.id).Nodup := by
  obtain ⟨⟨_, checks⟩, _⟩ := seqRight_eq_accept.1 h
  obtain ⟨⟨_, groups⟩, materials⟩ := seqRight_eq_accept.1 checks
  have fresh {earlier : List String} {id : String} {u : Unit}
      (h : distinctGraph earlier id = .accept u) : id ∉ earlier := by
    simpa using require_eq_accept.1 h
  have groupsNodup := each_nodup (f := Graph.id) []
    (fun h => fresh (under_eq_accept.1 h)) (under_eq_accept.1 groups) List.nodup_nil
  rw [graphs, List.map_append, List.map_map]
  exact each_nodup (f := Graph.id ∘ Material.graph) (document.groups.map Graph.id)
    (fun h => fresh (under_eq_accept.1 (under_eq_accept.1 h))) (under_eq_accept.1 materials)
    (by simpa using groupsNodup)

/-- What a document was resolved into, graph beside graph. -/
theorem resolve_parts {document : Document α} {library : Library α}
    (h : resolve document = .accept library) :
    (document.graphs.map Graph.id).Nodup ∧ ∃ groupIds : Vector String library.groupCount,
      groupIds.toList = document.groups.map Graph.id ∧
      List.Forall₂ (fun graph graph' => resolveGraph groupIds graph = .accept graph')
        document.groups library.groups.toList ∧
      List.Forall₂ (fun material material' => material'.name = material.name ∧
        resolveGraph groupIds material.graph = .accept material'.graph)
        document.materials library.materials := by
  obtain ⟨⟨_, distinct⟩, made⟩ := seqRight_eq_accept.1 h
  obtain ⟨make, materials, hmake, hmaterials, rfl⟩ := seq_eq_accept.1 made
  obtain ⟨groups, hgroups, rfl⟩ := map_eq_accept.1 hmake
  refine ⟨distinctGraphs_accept distinct, document.groups.toArray.toVector.map Graph.id, ?_, ?_, ?_⟩
  · simp
  · refine List.forall₂_iff_get.2 ⟨by simp, fun i inDocument inGroups => ?_⟩
    exact under_eq_accept.1 (vector_accept (under_eq_accept.1 hgroups) ⟨i, inDocument⟩)
  · refine (each_forall₂ (under_eq_accept.1 hmaterials)).imp ?_
    rintro material material' ⟨earlier, resolved⟩
    exact resolveMaterial_accept resolved

/-- Every graph of a library was resolved from the graph that the document has
at its place. -/
theorem resolve_graphs {document : Document α} {library : Library α}
    {groupIds : Vector String library.groupCount}
    (groups : List.Forall₂ (fun graph graph' => resolveGraph groupIds graph = .accept graph')
      document.groups library.groups.toList)
    (materials : List.Forall₂ (fun material material' => material'.name = material.name ∧
      resolveGraph groupIds material.graph = .accept material'.graph)
      document.materials library.materials) :
    List.Forall₂ (fun graph graph' => resolveGraph groupIds graph = .accept graph')
      document.graphs library.graphs := by
  refine List.rel_append groups ?_
  rw [List.forall₂_map_left_iff, List.forall₂_map_right_iff]
  exact materials.imp fun _ _ resolved => resolved.2

end Document
end ShadeGraph
