import ShadeGraph.Proofs.Document.Changed
import ShadeGraph.Proofs.Document.Violations
import ShadeGraph.Proofs.Lowering.StandIn

/-!
# Nodes of unknown kinds

Nodes of kinds outside the table may be appended to the graphs of a document.
They are kept as foreign nodes, whatever else they hold, and as long as nothing
is linked to them no look-up finds them: the document still loads, and calls at
the nodes that it had before answer as before.
-/

namespace ShadeGraph

open Checked

variable {α ρ : Type}

namespace Data

/-- Changes the values of a record as their keys say. -/
def mapFields (f : String → Data α → Data α) : Data α → Data α
  | .record fields => .record (fields.map fun named => (named.1, f named.1 named.2))
  | data => data

def mapItems (f : List (Data α) → List (Data α)) : Data α → Data α
  | .list items => .list (f items)
  | data => data

/-- Data of a node whose kind is not in the table. Of its other fields only the
label and the inputs are read. -/
structure Unmodelled [Arithmetic α] (data : Data α) : Prop where
  named : ∃ id, data.text? "id" = some id ∧ id ≠ ""
  kind : ∃ kind, data.text? "kind" = some kind ∧ kind ∉ Named.names Kind
  label : ∃ label?, Document.optional Document.text (data.get? "label") = .accept label?
  inputs : ∃ inputs?, Document.optional Document.inputs (data.get? "inputs") = .accept inputs?

/-- A foreign node that has the id of the data and is known by its kind. -/
structure KeptAs (data : Data α) (node : Node α ρ) : Prop where
  id : data.text? "id" = some node.id
  kind : ∃ kind, data.text? "kind" = some kind ∧ node.body = .foreign kind

theorem ids_keptAs {items : List (Data α)} {nodes : List (Node α ρ)}
    (kept : List.Forall₂ KeptAs items nodes) :
    nodes.map Node.id = items.filterMap (·.text? "id") := by
  induction kept with
  | nil => rfl
  | cons first _ ih => rw [List.map_cons, List.filterMap_cons, first.id, ih]

end Data

namespace Graph

/-- A graph with the nodes that `extra` has ready for its id. -/
structure Extended (extra : String → List (Data α)) (graph other : Graph α ρ) : Prop where
  id : other.id = graph.id
  name : other.name = graph.name
  links : other.links = graph.links
  nodes : ∃ added, other.nodes = graph.nodes ++ added ∧
    List.Forall₂ Data.KeptAs (extra graph.id) added

namespace Extended

variable {extra : String → List (Data α)} {graph other : Graph α ρ}

/-- Ids of the nodes of a graph and of those appended to it. -/
theorem ids (extended : graph.Extended extra other) : other.nodes.map Node.id =
    graph.nodes.map Node.id ++ (extra graph.id).filterMap (·.text? "id") := by
  obtain ⟨added, nodes, kept⟩ := extended.nodes
  rw [nodes, List.map_append, Data.ids_keptAs kept]

theorem mem_old (extended : graph.Extended extra other) {node : Node α ρ}
    (mem : node ∈ graph.nodes) : node ∈ other.nodes := by
  obtain ⟨added, nodes, _⟩ := extended.nodes
  rw [nodes]
  exact List.mem_append_left _ mem

theorem foreign_of_new (extended : graph.Extended extra other) {node : Node α ρ}
    (mem : node ∈ other.nodes) : node ∈ graph.nodes ∨ ∃ kind, node.body = .foreign kind := by
  obtain ⟨added, nodes, kept⟩ := extended.nodes
  rw [nodes] at mem
  refine (List.mem_append.1 mem).imp_right fun new => ?_
  obtain ⟨data, _, keptAs⟩ := beside_left kept new
  obtain ⟨kind, _, foreign⟩ := keptAs.kind
  exact ⟨kind, foreign⟩

variable [Arithmetic α]

theorem linked (extended : graph.Extended extra other) (linked : graph.Linked)
    (fresh : (graph.nodes.map Node.id ++ (extra graph.id).filterMap (·.text? "id")).Nodup) :
    other.Linked where
  distinct := extended.ids ▸ fresh
  source := by
    intro link mem
    obtain ⟨node, present, found⟩ := linked.source link (extended.links ▸ mem)
    exact ⟨node, extended.mem_old present, found⟩
  target := by
    intro link mem
    obtain ⟨node, present, found⟩ := linked.target link (extended.links ▸ mem)
    exact ⟨node, extended.mem_old present, found⟩
  once := extended.links ▸ linked.once

/-- A foreign node is found only by its id. -/
theorem standsFor (extended : graph.Extended extra other) (linked : graph.Linked) :
    other.StandsFor graph where
  id := extended.id
  name := extended.name
  node := by
    intro id node found
    obtain ⟨added, nodes, _⟩ := extended.nodes
    have found : graph.nodes.find? (·.id == id) = some node := found
    rw [Graph.findNode?, nodes, List.find?_append, found]
    rfl
  link target := by
    rw [linkTo?, extended.links]
    rfl
  active := by
    obtain ⟨added, nodes, kept⟩ := extended.nodes
    rw [activeOutput?, nodes, List.find?_append]
    refine (congrArg _ (List.find?_eq_none.2 fun node mem => ?_)).trans (Option.or_none ..)
    obtain ⟨data, _, keptAs⟩ := beside_left kept mem
    obtain ⟨kind, _, foreign⟩ := keptAs.kind
    rw [foreign]
    exact Bool.false_ne_true
  sourced _ mem := linked.sourced mem

end Extended
end Graph

/-! ### Documents -/

namespace Document

/-- A document in which every graph has the nodes that `extra` has ready for its
id. -/
structure Extends (extra : String → List (Data α)) (document other : Document α) : Prop where
  materials : List.Forall₂ (fun before after =>
    after.name = before.name ∧ before.graph.Extended extra after.graph)
    document.materials other.materials
  groups : List.Forall₂ (Graph.Extended extra) document.groups other.groups

namespace Extends

variable {extra : String → List (Data α)} {document other : Document α}
  (extended : document.Extends extra other)

include extended

theorem graphs : List.Forall₂ (Graph.Extended extra) document.graphs other.graphs := by
  refine List.rel_append extended.groups ?_
  rw [List.forall₂_map_left_iff, List.forall₂_map_right_iff]
  exact extended.materials.imp fun _ _ related => related.2

theorem inputsApart (apart : document.InputsApart) : other.InputsApart := by
  intro graph mem link within link' within' same
  obtain ⟨before, present, related⟩ := beside_left extended.graphs mem
  exact apart before present link (related.links ▸ within) link' (related.links ▸ within') same

variable [Arithmetic α]

/-- Fresh ids are all that the rules ask of nodes of unknown kinds. -/
theorem sound (sound : document.Sound)
    (fresh : ∀ graph ∈ document.graphs,
      (graph.nodes.map Node.id ++ (extra graph.id).filterMap (·.text? "id")).Nodup) :
    other.Sound where
  distinct := by
    rw [beside_map_eq extended.graphs fun related => related.id]
    exact sound.distinct
  linked := by
    intro graph mem
    obtain ⟨before, present, related⟩ := beside_left extended.graphs mem
    exact related.linked (sound.linked before present) (fresh before present)
  named := by
    intro graph mem node within id names
    obtain ⟨before, present, related⟩ := beside_left extended.graphs mem
    rw [beside_map_eq extended.groups fun related => related.id]
    rcases related.foreign_of_new within with old | ⟨kind, foreign⟩
    · exact sound.named before present node old id names
    · cases foreign.symm.trans names

end Extends

/-! ### Data -/

/-- Appends to the nodes of a graph what is ready for its id. -/
def extendGraph (extra : String → List (Data α)) (graph : Data α) : Data α :=
  graph.mapFields fun key value =>
    if key = "nodes" then value.mapItems (· ++ extra ((graph.text? "id").getD "")) else value

def extendMaterial (extra : String → List (Data α)) (material : Data α) : Data α :=
  material.mapFields fun key value => if key = "graph" then extendGraph extra value else value

def extend (extra : String → List (Data α)) (document : Data α) : Data α :=
  document.mapFields fun key value =>
    if key = "materials" then value.mapItems (List.map (extendMaterial extra))
    else if key = "groups" then value.mapItems (List.map (extendGraph extra))
    else value

variable [Arithmetic α] {β : Type} {R : β → β → Prop}

omit [Arithmetic α] in
theorem fieldwise_mapFields {change : String → Data α → Data α → Prop}
    {f : String → Data α → Data α} (related : ∀ key value, change key value (f key value))
    (fields : List (String × Data α)) :
    Data.Fieldwise change (.record fields) ((Data.record fields).mapFields f) :=
  List.forall₂_map_right_iff.2 (List.forall₂_same.2 fun _ _ => ⟨rfl, related _ _⟩)

theorem Carries.mapFields {read : List (String × Data α) → Checked Issue β}
    {change : String → Data α → Data α → Prop}
    (carries : Carries (record read) (Data.Fieldwise change) R) {f : String → Data α → Data α}
    (related : ∀ key value, change key value (f key value)) :
    Carries (record read) (fun before after => after = before.mapFields f) R := by
  rintro data _ b rfl h
  obtain ⟨fields, rfl, _⟩ := record_eq_accept.1 h
  exact carries (fieldwise_mapFields related fields) h

theorem Carries.mapItems {read : Reader α β} {f : Data α → Data α}
    (carries : Carries read (fun before after => after = f before) R) :
    Carries (list read) (fun before after => after = before.mapItems (List.map f))
      (List.Forall₂ R) := by
  rintro data _ bs rfl h
  obtain ⟨values, rfl, _⟩ := list_eq_accept.1 h
  refine carries.forall₂ ?_ h
  exact List.forall₂_map_right_iff.2 (List.forall₂_same.2 fun _ _ => rfl)

theorem node_unmodelled {data : Data α} (unmodelled : data.Unmodelled) :
    ∃ n, node data = .accept n ∧ data.KeptAs n := by
  obtain ⟨id, hid, nonempty⟩ := unmodelled.named
  obtain ⟨kind, hkind, unlisted⟩ := unmodelled.kind
  obtain ⟨label?, hlabel⟩ := unmodelled.label
  obtain ⟨inputs?, hinputs⟩ := unmodelled.inputs
  refine ⟨⟨id, label?, inputs?, .foreign kind⟩, ?_, hid, kind, hkind, rfl⟩
  obtain ⟨fields, rfl, written⟩ := Data.text?_eq_some.1 hkind
  obtain ⟨_, same, named⟩ := Data.text?_eq_some.1 hid
  cases same
  have unknown : Named.find? Kind kind = none := by
    refine List.find?_eq_none.2 fun listed mem same => unlisted ?_
    exact List.mem_map.2 ⟨listed, mem, eq_of_beq same⟩
  refine node_eq_accept.2 ⟨fields, kind, rfl, written, ?_, field_eq_accept.2 hlabel,
    field_eq_accept.2 hinputs, ?_⟩
  · rw [field_eq_accept, named]
    exact if_neg nonempty
  · rw [unknown]
    rfl

theorem nodes_unmodelled {more : List (Data α)} (unmodelled : ∀ data ∈ more, data.Unmodelled) :
    ∃ added, List.Forall₂ (fun data n => node data = .accept n) more added ∧
      List.Forall₂ Data.KeptAs more added := by
  induction more with
  | nil => exact ⟨[], .nil, .nil⟩
  | cons first rest ih =>
    obtain ⟨n, accepted, kept⟩ := node_unmodelled (unmodelled first List.mem_cons_self)
    obtain ⟨ns, others, keptOthers⟩ :=
      ih fun data mem => unmodelled data (List.mem_cons_of_mem _ mem)
    exact ⟨n :: ns, .cons accepted others, .cons kept keptOthers⟩

theorem nodes_append {more : List (Data α)} (unmodelled : ∀ data ∈ more, data.Unmodelled) :
    Carries (list node) (fun before after => after = before.mapItems (· ++ more))
      fun before after => ∃ added, after = before ++ added ∧
        List.Forall₂ Data.KeptAs more added := by
  rintro data _ ns rfl h
  obtain ⟨values, rfl, accepted⟩ := list_eq_accept.1 h
  obtain ⟨added, acceptedMore, kept⟩ := nodes_unmodelled unmodelled
  refine ⟨ns ++ added, list_eq_accept.2 ⟨_, rfl, ?_⟩, added, rfl, kept⟩
  exact List.rel_append accepted acceptedMore

theorem nonemptyText_eq_accept {data : Data α} {value : String}
    (h : nonemptyText data = .accept value) : data = .text value := by
  unfold nonemptyText at h
  split at h
  · split at h
    · cases h
    · rw [pure_eq_accept.1 h]
  · cases h

theorem graph_id {data : Data α} {g : Graph α String} (h : graph data = .accept g) :
    data.text? "id" = some g.id := by
  obtain ⟨fields, rfl, accepted⟩ := record_eq_accept.1 h
  obtain ⟨id, _, _, _, hid, _, _, _, rfl⟩ := map₄_eq_accept.1 accepted
  refine Data.text?_eq_some.2 ⟨fields, rfl, ?_⟩
  rw [field_eq_accept] at hid
  cases written : fields.lookup "id" with
  | none =>
    rw [written] at hid
    cases hid
  | some value =>
    rw [written] at hid
    rw [nonemptyText_eq_accept hid]

section
variable {extra : String → List (Data α)}
  (unmodelled : ∀ id, ∀ data ∈ extra id, data.Unmodelled)

include unmodelled

theorem graph_extended : Carries graph (fun before after => after = extendGraph extra before)
    (Graph.Extended extra) := by
  rintro data _ g rfl h
  rw [extendGraph, graph_id h, Option.getD_some]
  have change := graph_carries (nodes_append (unmodelled g.id)) (carries_eq (list link)) rfl
  have carries := change.mapFields
    (f := fun key value => if key = "nodes" then value.mapItems (· ++ extra g.id) else value) ?_
  · obtain ⟨g', accepted, id, name, nodes, links⟩ := carries rfl h
    exact ⟨g', accepted, id, name, links.symm, nodes⟩
  · intro key value
    split_ifs <;> rfl

theorem material_extended :
    Carries material (fun before after => after = extendMaterial extra before)
      fun before after => after.name = before.name ∧ before.graph.Extended extra after.graph := by
  refine (material_carries (graph_extended unmodelled)).mapFields ?_
  intro key value
  split_ifs <;> rfl

theorem read_extend {data : Data α} {document : Document α}
    (h : read (some data) = .accept document) :
    ∃ other, read (some (extend extra data)) = .accept other ∧ document.Extends extra other := by
  obtain ⟨fields, rfl, _⟩ := record_eq_accept.1 h
  have changed : documentChange
      (fun before after => after = before.mapItems (List.map (extendMaterial extra)))
      (fun before after => after = before.mapItems (List.map (extendGraph extra)))
      (.record fields) (extend extra (.record fields)) :=
    fieldwise_mapFields (fun key value => by split_ifs <;> rfl) fields
  obtain ⟨other, accepted, materials, groups⟩ :=
    read_carries (material_extended unmodelled).mapItems (graph_extended unmodelled).mapItems .nil
      (.some changed) h
  exact ⟨other, accepted, materials, groups⟩

end

end Document

/-- Two materials of two libraries, where calls at the nodes of the one answer
for the other as well. -/
structure Library.Keeps [Arithmetic α] (library other : Library α)
    (material : Material α (Fin library.groupCount))
    (material' : Material α (Fin other.groupCount)) : Prop where
  name : material'.name = material.name
  id : material'.graph.id = material.graph.id
  calls : ∀ node ∈ material.graph.nodes, ∀ socket,
    (other.family material').AnswersAlike (library.family material) ⟨node.id, socket⟩

namespace Document

variable [Arithmetic α]

/-- Corresponding materials of a library and of one whose document has further
nodes. -/
theorem Extends.keeps {extra : String → List (Data α)} {library other : Library α}
    (distinct : (other.graphs.map Graph.id).Nodup) (sound : library.document.Sound)
    (extended : library.document.Extends extra other.document) :
    List.Forall₂ (library.Keeps other) library.materials other.materials := by
  have materials := extended.materials
  rw [Library.document, Library.document, List.forall₂_map_left_iff, List.forall₂_map_right_iff]
    at materials
  have listed := (List.forall₂_and_left _ _).2 ⟨fun material mem => mem, materials⟩
  refine listed.imp ?_
  rintro material material' ⟨mem, name, related⟩
  have linked := sound.linked_material mem
  have groups : ∀ group ∈ library.document.groups, ∃ standIn ∈ other.document.groups,
      standIn.StandsFor group := by
    intro group present
    obtain ⟨standIn, within, related⟩ := beside_left extended.groups.flip present
    exact ⟨standIn, within, related.standsFor (sound.linked _ (List.mem_append_left _ present))⟩
  obtain ⟨place, stands⟩ := Library.standsFor distinct groups (related.standsFor linked)
  refine ⟨name, related.id, fun node present socket => stands.answersAlike fun absent => ?_⟩
  have found : (material.graph.findNode? node.id).isSome :=
    List.find?_isSome.2 ⟨node, present, beq_self_eq_true _⟩
  have absent : material.graph.findNode? node.id = none := absent
  rw [absent] at found
  cases found

/-- A document that loads still loads with nodes of unknown kinds appended to its
graphs. They are kept as foreign nodes, and calls at the nodes that were there
before answer as before. -/
theorem load_extend {data : Data α} {library : Library α}
    (loaded : load (some data) = .accept library) {extra : String → List (Data α)}
    (unmodelled : ∀ id, ∀ data ∈ extra id, data.Unmodelled)
    (fresh : ∀ graph ∈ library.graphs,
      (graph.nodes.map Node.id ++ (extra graph.id).filterMap (·.text? "id")).Nodup) :
    ∃ other, load (some (extend extra data)) = .accept other ∧
      List.Forall₂ (Graph.Extended extra) library.document.graphs other.document.graphs ∧
      List.Forall₂ (library.Keeps other) library.materials other.materials := by
  obtain ⟨document, hread, resolved⟩ := andThen_eq_accept.1 loaded
  obtain ⟨document', hread', extended⟩ := read_extend unmodelled hread
  obtain ⟨sound, apart⟩ := resolve_sound resolved
  obtain rfl := document_of_resolve resolved
  have fresh' : ∀ graph ∈ library.document.graphs,
      (graph.nodes.map Node.id ++ (extra graph.id).filterMap (·.text? "id")).Nodup := by
    intro graph mem
    rw [Library.graphs_document] at mem
    obtain ⟨placed, present, rfl⟩ := List.mem_map.1 mem
    simpa [Graph.mapGroup, Function.comp_def] using fresh placed present
  obtain ⟨other, resolved'⟩ :=
    (extended.sound sound fresh').resolves (extended.inputsApart apart)
  obtain rfl := document_of_resolve resolved'
  exact ⟨other, andThen_eq_accept.2 ⟨_, hread', resolved'⟩, extended.graphs,
    extended.keeps (resolve_links resolved').distinct sound⟩

end Document

/-! Two nodes of unknown kinds, one with fields that would not be read. -/

namespace Draft

def extra : String → List (Data Rat)
  | "paint" => [.record [("id", .text "noise"), ("kind", .text "tex_noise"), ("hostType", .null),
      ("value", .text "none"), ("inputs", .record [("Scale", .number 5)])]]
  | "tint" => [.record [("kind", .text "wave"), ("id", .text "ramp 2"), ("label", .text "Wave")]]
  | _ => []

theorem unmodelled : ∀ id, ∀ data ∈ extra id, data.Unmodelled := by
  intro id data mem
  unfold extra at mem
  split at mem
  · obtain rfl := List.mem_singleton.1 mem
    exact ⟨⟨"noise", by rfl, by decide⟩, ⟨"tex_noise", by rfl, by decide⟩, ⟨_, rfl⟩,
      ⟨some [("Scale", .scalar 5)], by cbv⟩⟩
  · obtain rfl := List.mem_singleton.1 mem
    exact ⟨⟨"ramp 2", by rfl, by decide⟩, ⟨"wave", by rfl, by decide⟩, ⟨_, rfl⟩, ⟨none, by rfl⟩⟩
  · cases mem

theorem fresh : ∀ graph ∈ library.graphs,
    (graph.nodes.map Node.id ++ (extra graph.id).filterMap (·.text? "id")).Nodup := by
  decide +kernel

end Draft

theorem Document.load_extend_draft : Document.load (some Draft.data) = .accept Draft.library ∧
    (∀ id, ∀ data ∈ Draft.extra id, data.Unmodelled) ∧
    (∀ graph ∈ Draft.library.graphs,
      (graph.nodes.map Node.id ++ (Draft.extra graph.id).filterMap (·.text? "id")).Nodup) ∧
    ∃ other, Document.load (some (Document.extend Draft.extra Draft.data)) = .accept other ∧
      List.Forall₂ (Graph.Extended Draft.extra) Draft.library.document.graphs
        other.document.graphs ∧
      List.Forall₂ (Draft.library.Keeps other) Draft.library.materials other.materials :=
  ⟨Draft.loads, Draft.unmodelled, Draft.fresh,
    load_extend Draft.loads Draft.unmodelled Draft.fresh⟩

end ShadeGraph
