import ShadeGraph.Number.Double
import ShadeGraph.Proofs.Document.Linked
import ShadeGraph.Proofs.Document.Rereads

/-!
# Loading what was written

A node is written with all its settings and one of an unknown kind as a foreign
one, and it reads as the node that was written. So does a document. A library is
written as the document that it was made of, hence a document that loads, loads
as the same library from what is written of that library.
-/

namespace ShadeGraph

open Checked

variable {α β ρ : Type}

namespace Document

variable [Arithmetic α]

theorem inputs_rereads : Rereads (α := α) inputs fun values =>
    .record (values.map fun named => (named.1, named.2.toData)) := by
  intro data values h
  obtain ⟨fields, h⟩ := record_accept h
  refine each_again ?_ h []
  intro before item named accepted prior
  obtain ⟨value, hvalue, rfl⟩ := map_eq_accept.1 accepted
  exact map_eq_accept.2
    ⟨value, under_eq_accept.2 (socketValue_rereads (under_eq_accept.1 hvalue)), rfl⟩

/-- A reference is written as the id that it is. -/
def reference (group : String) : List (String × Data α) := [("group", .text group)]

end Document

section
variable {κ : Type} {key other : String} {value : κ} {rest : List (String × κ)}

theorem lookup_other (apart : key ≠ other) :
    ((other, value) :: rest).lookup key = rest.lookup key := by
  rw [List.lookup_cons, beq_eq_false_iff_ne.2 apart]

/-- A field that is written only if there is something to write. -/
theorem lookup_present (write : β → κ) (b? : Option β) :
    (b?.map fun b => (key, write b)).toList.lookup key = b?.map write := by
  cases b? with
  | none => rfl
  | some b => exact List.lookup_cons_self

theorem lookup_present_other (write : β → κ) (b? : Option β) (apart : key ≠ other) :
    (b?.map fun b => (other, write b)).toList.lookup key = none := by
  cases b? with
  | none => rfl
  | some b => exact lookup_other apart

end

namespace Node

/-- The fields of a node that do not hang on its kind. -/
def commonFields (node : Node α ρ) : List (String × Data α) :=
  ("id", .text node.id) :: ((node.label?.map fun label => ("label", .text label)).toList ++
    ((node.inputs?.map fun inputs =>
      ("inputs", .record (inputs.map fun named => (named.1, named.2.toData)))).toList ++
    [("kind", .text node.kind.name)]))

theorem toData_eq (group : ρ → List (String × Data α)) (node : Node α ρ) :
    node.toData group = .record (node.commonFields ++ node.body.fields group) := by
  simp [toData, commonFields]

def commonKeys : List String := ["id", "label", "inputs", "kind"]

/-- What hangs on the kind of a node stands apart from what does not. -/
theorem lookup_bodyFields (key : String) (common : key ∈ commonKeys) (body : NodeBody α String) :
    (body.fields Document.reference).lookup key = none := by
  obtain rfl | rfl | rfl | rfl : key = "id" ∨ key = "label" ∨ key = "inputs" ∨ key = "kind" := by
    simpa [commonKeys] using common
  all_goals
    cases body with
    | «attribute» name source? => cases source? <;> rfl
    | groupOutput active? => cases active? <;> rfl
    | _ => rfl

theorem lookup_own (node : Node α ρ) (rest : List (String × Data α)) {key : String}
    (own : key ∉ commonKeys) : (node.commonFields ++ rest).lookup key = rest.lookup key := by
  obtain ⟨id, label, inputs, kind⟩ :
      key ≠ "id" ∧ key ≠ "label" ∧ key ≠ "inputs" ∧ key ≠ "kind" := by
    simpa [commonKeys] using own
  simp [commonFields, List.lookup_append, lookup_other, lookup_present_other, id, label, inputs,
    kind]

section
variable (node : Node α String)

theorem lookup_label : (node.commonFields ++ node.body.fields Document.reference).lookup "label" =
    node.label?.map .text := by
  have absent := lookup_bodyFields "label" (by decide) node.body
  simp [commonFields, List.lookup_append, lookup_other, lookup_present, lookup_present_other,
    absent]

theorem lookup_inputs : (node.commonFields ++ node.body.fields Document.reference).lookup "inputs" =
    node.inputs?.map fun inputs =>
      .record (inputs.map fun named => (named.1, named.2.toData)) := by
  have absent := lookup_bodyFields "inputs" (by decide) node.body
  simp [commonFields, List.lookup_append, lookup_other, lookup_present, lookup_present_other,
    absent]

theorem lookup_kind : (node.commonFields ++ node.body.fields Document.reference).lookup "kind" =
    some (.text node.kind.name) := by
  simp [commonFields, List.lookup_append, lookup_other, lookup_present_other]
end

end Node

namespace Document

theorem find?_kind (kind : Kind) : Named.find? Kind kind.name = some kind := by
  cases kind with
  | separate space => cases space <;> rfl
  | combine space => cases space <;> rfl
  | _ => rfl

variable [Arithmetic α]

theorem body_kind {fields : List (String × Data α)} {kind : Kind} {b : NodeBody α String}
    (h : body fields kind = .accept b) : b.kind = kind := by
  cases kind with
  | math | mixRgb | mapRange | «attribute» =>
    obtain ⟨_, _, _, _, rfl⟩ := map₂_eq_accept.1 h
    rfl
  | mix | colorRamp =>
    obtain ⟨_, _, _, _, _, _, rfl⟩ := map₃_eq_accept.1 h
    rfl
  | rgb | value | vectorMath | vertexColor | clamp | group | groupOutput | foreign =>
    obtain ⟨setting, _, rfl⟩ := map_eq_accept.1 h
    rfl
  | geometry | rgbToBw | invert | gamma | brightContrast | separate | combine | hueSaturation
  | groupInput | reroute | bakeOutput =>
    obtain rfl := pure_eq_accept.1 h
    rfl

/-- What hangs on the kind, from fields that hold what is written of it. -/
theorem body_rereads (one : ((1 : α) == 1) = true) {fields fields' : List (String × Data α)}
    {kind : Kind} {b : NodeBody α String} (h : body fields kind = .accept b)
    (kept : ∀ key ∉ Node.commonKeys, fields'.lookup key = (b.fields reference).lookup key) :
    body fields' kind = .accept b := by
  have blend := (oneOf_rereads (α := α) (Named.names BlendMode)).orElse "MIX"
    (oneOf_text (by decide))
  have flag := (boolean_rereads (α := α)).orElse false rfl
  cases kind with
  | rgb =>
    obtain ⟨c, hc, rfl⟩ := map_eq_accept.1 h
    exact map_eq_accept.2 ⟨c, color_rereads.variant.field hc (kept "color" (by decide)), rfl⟩
  | value =>
    obtain ⟨x, hx, rfl⟩ := map_eq_accept.1 h
    exact map_eq_accept.2 ⟨x, number_rereads.required.field hx (kept "value" (by decide)), rfl⟩
  | math =>
    obtain ⟨operation, k, hop, hk, rfl⟩ := map₂_eq_accept.1 h
    exact map₂_eq_accept.2 ⟨operation, k,
      (oneOf_rereads _).required.field hop (kept "operation" (by decide)),
      flag.field hk (kept "useClamp" (by decide)), rfl⟩
  | vectorMath =>
    obtain ⟨operation, hop, rfl⟩ := map_eq_accept.1 h
    exact map_eq_accept.2 ⟨operation,
      (oneOf_rereads _).required.field hop (kept "operation" (by decide)), rfl⟩
  | mixRgb =>
    obtain ⟨b, k, hb, hk, rfl⟩ := map₂_eq_accept.1 h
    exact map₂_eq_accept.2 ⟨b, k, blend.field hb (kept "blendType" (by decide)),
      flag.field hk (kept "useClamp" (by decide)), rfl⟩
  | mix =>
    obtain ⟨type, b, k, htype, hb, hk, rfl⟩ := map₃_eq_accept.1 h
    exact map₃_eq_accept.2 ⟨type, b, k,
      (oneOf_rereads _).required.field htype (kept "dataType" (by decide)),
      blend.field hb (kept "blendType" (by decide)),
      flag.field hk (kept "clampResult" (by decide)), rfl⟩
  | clamp =>
    obtain ⟨mode, hmode, rfl⟩ := map_eq_accept.1 h
    have modes := (oneOf_rereads (α := α) clampTypes).orElse "MINMAX"
      (oneOf_text (by decide))
    exact map_eq_accept.2 ⟨mode, modes.field hmode (kept "clampType" (by decide)), rfl⟩
  | colorRamp =>
    obtain ⟨mode, between, stops, hmode, hbetween, hstops, rfl⟩ := map₃_eq_accept.1 h
    have modes := (oneOf_rereads (α := α) rampColorModes).orElse "RGB"
      (oneOf_text (by decide))
    have ways := (oneOf_rereads (α := α) rampInterpolations).orElse "LINEAR"
      (oneOf_text (by decide))
    exact map₃_eq_accept.2 ⟨mode, between, stops,
      modes.field hmode (kept "colorMode" (by decide)),
      ways.field hbetween (kept "interpolation" (by decide)),
      (stop_rereads one).nonemptyList.required.field hstops (kept "stops" (by decide)), rfl⟩
  | mapRange =>
    obtain ⟨mode, k, hmode, hk, rfl⟩ := map₂_eq_accept.1 h
    have modes := (oneOf_rereads (α := α) (Named.names MapRangeMode)).orElse "LINEAR"
      (oneOf_text (by decide))
    have clamped := (boolean_rereads (α := α)).orElse true rfl
    exact map₂_eq_accept.2 ⟨mode, k,
      modes.field hmode (kept "interpolationType" (by decide)),
      clamped.field hk (kept "clamp" (by decide)), rfl⟩
  | «attribute» =>
    obtain ⟨name, source?, hname, hsource, rfl⟩ := map₂_eq_accept.1 h
    have written : (NodeBody.fields reference (.attribute name source? : NodeBody α String)).lookup
        "attributeType" = source?.map .text := by
      cases source? <;> rfl
    exact map₂_eq_accept.2 ⟨name, source?,
      text_rereads.required.field hname (kept "attributeName" (by decide)),
      (oneOf_rereads _).optional.field hsource
        ((kept "attributeType" (by decide)).trans written), rfl⟩
  | vertexColor =>
    obtain ⟨layer, hlayer, rfl⟩ := map_eq_accept.1 h
    exact map_eq_accept.2
      ⟨layer, text_rereads.required.field hlayer (kept "layerName" (by decide)), rfl⟩
  | group =>
    obtain ⟨id, hid, rfl⟩ := map_eq_accept.1 h
    exact map_eq_accept.2 ⟨id, text_rereads.required.field hid (kept "group" (by decide)), rfl⟩
  | groupOutput =>
    obtain ⟨active?, hactive, rfl⟩ := map_eq_accept.1 h
    have written : (NodeBody.fields reference (.groupOutput active? : NodeBody α String)).lookup
        "isActiveOutput" = active?.map .bool := by
      cases active? <;> rfl
    exact map_eq_accept.2 ⟨active?, boolean_rereads.optional.field hactive
      ((kept "isActiveOutput" (by decide)).trans written), rfl⟩
  | foreign =>
    obtain ⟨hostType, hhost, rfl⟩ := map_eq_accept.1 h
    exact map_eq_accept.2
      ⟨hostType, text_rereads.required.field hhost (kept "hostType" (by decide)), rfl⟩
  | geometry | rgbToBw | invert | gamma | brightContrast | separate | combine | hueSaturation
  | groupInput | reroute | bakeOutput => exact h

theorem node_eq_accept {data : Data α} {n : Node α String} : node data = .accept n ↔
    ∃ fields kind, data = .record fields ∧ fields.lookup "kind" = some (.text kind) ∧
      field fields "id" (required nonemptyText) = .accept n.id ∧
      field fields "label" (optional text) = .accept n.label? ∧
      field fields "inputs" (optional inputs) = .accept n.inputs? ∧
      (match Named.find? Kind kind with
        | some known => body fields known
        | none => pure (.foreign kind)) = .accept n.body := by
  constructor
  · intro h
    obtain ⟨fields, rfl, accepted⟩ := record_eq_accept.1 h
    split at accepted
    · rename_i kind written
      obtain ⟨id, label?, inputs?, body, hid, hlabel, hinputs, hbody, rfl⟩ :=
        map₄_eq_accept.1 accepted
      exact ⟨fields, kind, rfl, written, hid, hlabel, hinputs, hbody⟩
    · cases accepted
  · rintro ⟨fields, kind, rfl, written, hid, hlabel, hinputs, hbody⟩
    refine record_eq_accept.2 ⟨fields, rfl, ?_⟩
    rw [written]
    exact map₄_eq_accept.2 ⟨n.id, n.label?, n.inputs?, n.body, hid, hlabel, hinputs, hbody, rfl⟩

/-- A node of an unknown kind is written as a foreign one, which reads as the
same node. -/
theorem node_rereads (one : ((1 : α) == 1) = true) :
    Rereads (α := α) Document.node (Node.toData reference) := by
  intro data node h
  obtain ⟨fields, kind, rfl, _, hid, hlabel, hinputs, hbody⟩ := node_eq_accept.1 h
  have kept (key : String) (own : key ∉ Node.commonKeys) :=
    node.lookup_own (node.body.fields reference) own
  refine node_eq_accept.2 ⟨_, _, node.toData_eq reference, node.lookup_kind,
    nonemptyText_rereads.required.field hid rfl,
    text_rereads.optional.field hlabel node.lookup_label,
    inputs_rereads.optional.field hinputs node.lookup_inputs, ?_⟩
  rw [find?_kind]
  split at hbody
  · rename_i known _
    have same : node.kind = known := body_kind hbody
    rw [same]
    exact body_rereads one hbody kept
  · have foreign := pure_eq_accept.1 hbody
    have kind : node.kind = .foreign := congrArg NodeBody.kind foreign.symm
    rw [kind]
    refine map_eq_accept.2 ⟨_, ?_, foreign⟩
    rw [field_eq_accept, kept "hostType" (by decide), ← foreign]
    rfl

/-! ### Documents -/

theorem endpoint_rereads : Rereads (α := α) endpoint Endpoint.toData := by
  intro data e h
  obtain ⟨fields, h⟩ := record_accept h
  obtain ⟨node, socket, hnode, hsocket, rfl⟩ := map₂_eq_accept.1 h
  exact map₂_eq_accept.2 ⟨node, socket, text_rereads.required.field hnode rfl,
    text_rereads.required.field hsocket rfl, rfl⟩

theorem link_rereads : Rereads (α := α) link Link.toData := by
  intro data l h
  obtain ⟨fields, h⟩ := record_accept h
  obtain ⟨source, target, hsource, htarget, rfl⟩ := map₂_eq_accept.1 h
  exact map₂_eq_accept.2 ⟨source, target, endpoint_rereads.required.field hsource rfl,
    endpoint_rereads.required.field htarget rfl, rfl⟩

theorem graph_rereads (one : ((1 : α) == 1) = true) :
    Rereads (α := α) Document.graph (Graph.toData reference) := by
  intro data g h
  obtain ⟨fields, h⟩ := record_accept h
  obtain ⟨id, name, nodes, links, hid, hname, hnodes, hlinks, rfl⟩ := map₄_eq_accept.1 h
  have linkList := (link_rereads (α := α)).list.orElse [] rfl
  exact map₄_eq_accept.2 ⟨id, name, nodes, links,
    nonemptyText_rereads.required.field hid rfl, text_rereads.required.field hname rfl,
    (node_rereads one).list.required.field hnodes rfl, linkList.field hlinks rfl, rfl⟩

theorem material_rereads (one : ((1 : α) == 1) = true) :
    Rereads (α := α) Document.material (Material.toData reference) := by
  intro data m h
  obtain ⟨fields, h⟩ := record_accept h
  obtain ⟨name, graph, hname, hgraph, rfl⟩ := map₂_eq_accept.1 h
  exact map₂_eq_accept.2 ⟨name, graph, text_rereads.required.field hname rfl,
    (graph_rereads one).required.field hgraph rfl, rfl⟩

def toData (document : Document α) : Data α :=
  .record [("version", .number 1),
    ("materials", .list (document.materials.map (Material.toData reference))),
    ("groups", .list (document.groups.map (Graph.toData reference)))]

theorem read_toData (one : ((1 : α) == 1) = true) {data? : Option (Data α)} {document : Document α}
    (h : read data? = .accept document) : read (some document.toData) = .accept document := by
  obtain ⟨data, h⟩ := required_accept h
  obtain ⟨fields, h⟩ := record_accept h
  obtain ⟨_, materials, groups, _, hmaterials, hgroups, rfl⟩ := map₃_eq_accept.1 h
  have groupList := (graph_rereads one).list.orElse [] rfl
  refine map₃_eq_accept.2 ⟨(), materials, groups, ?_,
    (material_rereads one).list.required.field hmaterials rfl, groupList.field hgroups rfl, rfl⟩
  exact field_eq_accept.2 (if_pos one)

end Document

/-! ### Libraries -/

theorem Node.toData_mapGroup (name : ρ → String) (node : Node α ρ) :
    (node.mapGroup name).toData Document.reference =
      node.toData fun place => Document.reference (name place) := by
  rw [toData_eq, toData_eq]
  obtain ⟨id, label?, inputs?, body⟩ := node
  cases body <;> rfl

theorem Graph.toData_mapGroup (name : ρ → String) (graph : Graph α ρ) :
    (graph.mapGroup name).toData Document.reference =
      graph.toData fun place => Document.reference (name place) := by
  have nodes : (graph.nodes.map (Node.mapGroup name)).map (Node.toData Document.reference) =
      graph.nodes.map (Node.toData fun place => Document.reference (name place)) := by
    rw [List.map_map]
    exact List.map_congr_left fun node _ => node.toData_mapGroup name
  rw [Graph.toData, Graph.toData, mapGroup, nodes]

theorem Material.toData_mapGroup (name : ρ → String) (material : Material α ρ) :
    (material.mapGroup name).toData Document.reference =
      material.toData fun place => Document.reference (name place) := by
  rw [Material.toData, Material.toData, mapGroup, Graph.toData_mapGroup]

/-- A library is written as the document that it was made of. -/
theorem Library.toData_eq [Arithmetic α] (library : Library α) :
    library.toData = library.document.toData := by
  have materials : library.document.materials.map (Material.toData Document.reference) =
      library.materials.map
        (Material.toData fun place => Document.reference (library.groupId place)) := by
    rw [document, List.map_map]
    exact List.map_congr_left fun material _ => material.toData_mapGroup _
  have groups : library.document.groups.map (Graph.toData Document.reference) =
      library.groups.toList.map
        (Graph.toData fun place => Document.reference (library.groupId place)) := by
    rw [document, List.map_map]
    exact List.map_congr_left fun graph _ => graph.toData_mapGroup _
  rw [Document.toData, materials, groups]
  rfl

namespace Document

variable [Arithmetic α]

/-- What loads, loads again as the same library from what is written of it. -/
theorem load_toData (one : ((1 : α) == 1) = true) {data? : Option (Data α)} {library : Library α}
    (loaded : load data? = .accept library) : load (some library.toData) = .accept library := by
  obtain ⟨document, hread, resolved⟩ := andThen_eq_accept.1 loaded
  have written : library.toData = document.toData := by
    rw [Library.toData_eq, document_of_resolve resolved]
  rw [written]
  exact andThen_eq_accept.2 ⟨document, read_toData one hread, resolved⟩

/-- Among doubles one equals itself. -/
example : ((1 : Float) == 1) = true := by decide

end Document

/-! A document with little written out: a ramp without alpha, settings left to
their defaults, a node of an unknown kind. -/

namespace Draft

def linkData (node socket node' socket' : String) : Data Rat :=
  .record [("from", .record [("node", .text node), ("socket", .text socket)]),
    ("to", .record [("node", .text node'), ("socket", .text socket')])]

def tintData : Data Rat :=
  .record [("id", .text "tint"), ("name", .text "Tint"), ("nodes", .list [
      .record [("kind", .text "color_ramp"), ("id", .text "ramp"), ("stops", .list [
        .record [("position", .number 0), ("color", .list [.number 0, .number 0, .number (1 / 2)])],
        .record [("color", .list [.number 1, .number 1, .number 1, .number (1 / 4)]),
          ("position", .number 1)]])],
      .record [("kind", .text "group_output"), ("id", .text "end"), ("location", .null)]]),
    ("links", .list [linkData "ramp" "Color" "end" "C"])]

def paintData : Data Rat :=
  .record [("id", .text "paint"), ("name", .text "Paint"), ("nodes", .list [
      .record [("id", .text "out"), ("kind", .text "bake_output")],
      .record [("id", .text "tint"), ("kind", .text "group"), ("group", .text "tint"),
        ("inputs", .record [("Fac", .number (1 / 2))])],
      .record [("id", .text "bump"), ("kind", .text "bump"), ("group", .text "none"),
        ("hostType", .number 3)],
      .record [("id", .text "sum"), ("kind", .text "math"), ("operation", .text "ADD")]]),
    ("links", .list [linkData "tint" "C" "out" "Color"])]

def data : Data Rat :=
  .record [("version", .number 1), ("groups", .list [tintData]),
    ("materials", .list [.record [("name", .text "Paint"), ("graph", paintData)]])]

def tint : Graph Rat (Fin 1) where
  id := "tint"
  name := "Tint"
  nodes := [⟨"ramp", none, none, .colorRamp "RGB" "LINEAR"
      [⟨0, ⟨⟨0, 0, (1 / 2)⟩, 1⟩⟩, ⟨1, ⟨⟨1, 1, 1⟩, (1 / 4)⟩⟩]⟩,
    ⟨"end", none, none, .groupOutput none⟩]
  links := [⟨⟨"ramp", "Color"⟩, ⟨"end", "C"⟩⟩]

def paint : Material Rat (Fin 1) where
  name := "Paint"
  graph.id := "paint"
  graph.name := "Paint"
  graph.nodes := [⟨"out", none, none, .bakeOutput⟩,
    ⟨"tint", none, some [("Fac", .scalar (1 / 2))], .group (Fin.last 0)⟩,
    ⟨"bump", none, none, .foreign "bump"⟩, ⟨"sum", none, none, .math "ADD" false⟩]
  graph.links := [⟨⟨"tint", "C"⟩, ⟨"out", "Color"⟩⟩]

def library : Library Rat := ⟨1, #v[tint], [paint]⟩

theorem loads : Document.load (some data) = .accept library := by cbv

end Draft

theorem Document.load_toData_draft : ((1 : Rat) == 1) = true ∧
    Document.load (some Draft.data) = .accept Draft.library ∧
    Document.load (some Draft.library.toData) = .accept Draft.library := by
  have one : ((1 : Rat) == 1) = true := by decide
  exact ⟨one, Draft.loads, Document.load_toData one Draft.loads⟩

end ShadeGraph
