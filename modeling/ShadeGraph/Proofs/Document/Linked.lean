import ShadeGraph.Proofs.Document.Loaded

/-!
# Linked libraries

A library is the document that was read, with the place of a group wherever a
node names one by its id. Ids are distinct, so every id that is named belongs to
one place, and with the ids put back the document returns unchanged.
-/

namespace ShadeGraph

open Checked

variable {α : Type}

namespace Library

/-- The document that a library was made of. -/
def document (library : Library α) : Document α where
  materials := library.materials.map (Material.mapGroup library.groupId)
  groups := library.groups.toList.map (Graph.mapGroup library.groupId)

/-- Where a node names a group, it now holds the one group of that id. -/
def Resolves (library : Library α) (written : Node α String)
    (placed : Node α (Fin library.groupCount)) : Prop :=
  ∀ id, written.body = .group id →
    ∃ tree, placed.body = .group tree ∧ ∀ place, library.groupId place = id ↔ place = tree

/-- A library in which a document is linked, graph by graph and node by node. -/
structure Links [Arithmetic α] (library : Library α) (document : Document α) : Prop where
  distinct : (library.graphs.map Graph.id).Nodup
  graph : ∀ graph ∈ library.graphs, graph.Linked
  resolved : List.Forall₂ (fun written placed =>
    List.Forall₂ library.Resolves written.nodes placed.nodes) document.graphs library.graphs
  kept : library.document = document

theorem graphs_document (library : Library α) :
    library.document.graphs = library.graphs.map (Graph.mapGroup library.groupId) := by
  simp [Document.graphs, document, graphs, Material.mapGroup, Function.comp_def]

theorem document_resolved {library : Library α}
    (distinct : (library.graphs.map Graph.id).Nodup) :
    List.Forall₂ (fun written placed => List.Forall₂ library.Resolves written.nodes placed.nodes)
      library.document.graphs library.graphs := by
  rw [graphs_document, List.forall₂_map_left_iff, List.forall₂_same]
  intro graph _
  rw [Graph.mapGroup, List.forall₂_map_left_iff, List.forall₂_same]
  intro node _ id names
  obtain ⟨tree, holds, named⟩ := Node.mapGroup_group names
  refine ⟨tree, holds, fun place => ⟨fun same => ?_, fun same => same ▸ named⟩⟩
  exact groupId_injective distinct (same.trans named.symm)

end Library

namespace Document

variable [Arithmetic α]

theorem document_of_resolve {document : Document α} {library : Library α}
    (h : resolve document = .accept library) : library.document = document := by
  obtain ⟨_, groupIds, ids, groups, materials⟩ := resolve_parts h
  have same : library.groups.map Graph.id = groupIds := by
    rw [← Vector.toList_inj, Vector.toList_map, beside_map_eq groups resolveGraph_id, ids]
  have names : library.groupId = groupIds.get := by
    funext place
    simp [Library.groupId, ← same]
  have groupsBack : library.groups.toList.map (Graph.mapGroup groupIds.get) = document.groups := by
    simpa using beside_map_eq (f := id) groups fun resolved => (resolveGraph_accept resolved).2
  have materialsBack :
      library.materials.map (Material.mapGroup groupIds.get) = document.materials := by
    have back {material : Material α String} {material' : Material α (Fin library.groupCount)}
        (h : material'.name = material.name ∧
          resolveGraph groupIds material.graph = .accept material'.graph) :
        material'.mapGroup groupIds.get = material := by
      rw [Material.mapGroup, h.1, (resolveGraph_accept h.2).2]
    simpa using beside_map_eq (f := id) materials back
  rw [Library.document, names, groupsBack, materialsBack]

/-- Resolving links a document: its graphs fit together, and nothing is lost. -/
theorem resolve_links {document : Document α} {library : Library α}
    (h : resolve document = .accept library) : library.Links document := by
  obtain ⟨distinct, _, _, groups, materials⟩ := resolve_parts h
  have kept := document_of_resolve h
  have ids : (library.graphs.map Graph.id).Nodup := by
    rw [← kept, Library.graphs_document] at distinct
    simpa [Function.comp_def, Graph.mapGroup] using distinct
  refine ⟨ids, ?_, kept ▸ Library.document_resolved ids, kept⟩
  intro graph' mem
  obtain ⟨graph, _, made⟩ := beside_left (resolve_graphs groups materials) mem
  obtain ⟨linked, back⟩ := resolveGraph_accept made
  exact Graph.linked_of_mapGroup (back.symm ▸ linked)

/-- What loads is the document that was read, linked. -/
theorem load_links {data? : Option (Data α)} {library : Library α}
    (loaded : load data? = .accept library) :
    ∃ document, read data? = .accept document ∧ library.Links document := by
  obtain ⟨document, hread, resolved⟩ := andThen_eq_accept.1 loaded
  exact ⟨document, hread, resolve_links resolved⟩

theorem sample_links : read (some Sample.library.toData) = .accept Sample.library.document ∧
    Sample.library.Links Sample.library.document := by
  obtain ⟨document, hread, linked⟩ := load_links Sample.loads
  obtain rfl := linked.kept
  exact ⟨hread, linked⟩

end Document
end ShadeGraph
