import ShadeGraph.Proofs.Document.Accepted

/-!
# Settings that stand in the tables

Reading takes the names of operations, blend modes and interpolations only from
their tables, and so does every default. Names that lowering refuses on its own
account need no table.
-/

namespace ShadeGraph

variable {α β ρ : Type}

/-- The names that lowering passes on stand in the tables. -/
def NodeBody.Listed : NodeBody α ρ → Prop
  | .math operation _ => operation ∈ Named.names MathOp
  | .vectorMath operation => operation ∈ Document.vectorOperations
  | .mixRgb blend _ | .mix _ blend _ => blend ∈ Named.names BlendMode
  | .mapRange interpolation _ => interpolation ∈ Named.names MapRangeMode
  | _ => True

def Graph.Listed (graph : Graph α ρ) : Prop := ∀ node ∈ graph.nodes, node.body.Listed

namespace Document

open Checked

def graphs (document : Document α) : List (Graph α String) :=
  document.groups ++ document.materials.map Material.graph

theorem under_eq_accept {key : String} {x : Checked Issue β} {b : β} :
    under key x = .accept b ↔ x = .accept b :=
  mapErrors_eq_accept

theorem field_eq_accept {fields : List (String × Data α)} {key : String}
    {read : FieldReader α β} {b : β} :
    field fields key read = .accept b ↔ read (fields.lookup key) = .accept b :=
  under_eq_accept

theorem required_accept {read : Reader α β} {data? : Option (Data α)} {b : β}
    (h : required read data? = .accept b) : ∃ data, read data = .accept b := by
  cases data? with
  | none => cases h
  | some data => exact ⟨data, h⟩

theorem orElse_accept {default : β} {read : Reader α β} {data? : Option (Data α)} {b : β}
    (h : orElse default read data? = .accept b) :
    b = default ∨ ∃ data, read data = .accept b := by
  cases data? with
  | none => exact Or.inl (accept_inj h).symm
  | some data => exact Or.inr ⟨data, h⟩

variable [Arithmetic α]

theorem oneOf_accept {options : List String} {data : Data α} {s : String}
    (h : oneOf options data = .accept s) : s ∈ options := by
  unfold oneOf at h
  split at h
  · split at h
    · exact accept_inj h ▸ ‹_›
    · cases h
  · cases h

theorem record_eq_accept {read : List (String × Data α) → Checked Issue β} {data : Data α}
    {b : β} : record read data = .accept b ↔
      ∃ fields, data = .record fields ∧ read fields = .accept b := by
  constructor
  · intro h
    unfold record at h
    split at h
    · exact ⟨_, rfl, h⟩
    · cases h
  · rintro ⟨fields, rfl, h⟩
    exact h

theorem record_accept {read : List (String × Data α) → Checked Issue β} {data : Data α} {b : β}
    (h : record read data = .accept b) : ∃ fields, read fields = .accept b := by
  obtain ⟨fields, _, accepted⟩ := record_eq_accept.1 h
  exact ⟨fields, accepted⟩

theorem list_accept {read : Reader α β} {data : Data α} {bs : List β}
    (h : list read data = .accept bs) {b : β} (mem : b ∈ bs) :
    ∃ item, read item = .accept b := by
  unfold list at h
  split at h
  · obtain ⟨item, _, before, read⟩ := each_source h mem
    exact ⟨item, under_eq_accept.1 read⟩
  · cases h

/-- A name with a default is one of the options if the default is. -/
theorem defaulted_accept {fields : List (String × Data α)} {key default s : String}
    {options : List String} (listed : default ∈ options)
    (h : field fields key (orElse default (oneOf options)) = .accept s) : s ∈ options := by
  obtain rfl | ⟨data, chosen⟩ := orElse_accept (field_eq_accept.1 h)
  · exact listed
  · exact oneOf_accept chosen

theorem chosen_accept {fields : List (String × Data α)} {key s : String}
    {options : List String} (h : field fields key (required (oneOf options)) = .accept s) :
    s ∈ options := by
  obtain ⟨data, chosen⟩ := required_accept (field_eq_accept.1 h)
  exact oneOf_accept chosen

theorem body_listed {fields : List (String × Data α)} {kind : Kind} {b : NodeBody α String}
    (h : body fields kind = .accept b) : b.Listed := by
  cases kind with
  | math =>
    obtain ⟨make, clamp, hmake, _, rfl⟩ := seq_eq_accept.1 h
    obtain ⟨operation, hop, rfl⟩ := map_eq_accept.1 hmake
    exact chosen_accept hop
  | vectorMath =>
    obtain ⟨operation, hop, rfl⟩ := map_eq_accept.1 h
    exact chosen_accept hop
  | mixRgb =>
    obtain ⟨make, clamp, hmake, _, rfl⟩ := seq_eq_accept.1 h
    obtain ⟨blend, hblend, rfl⟩ := map_eq_accept.1 hmake
    exact defaulted_accept (by decide) hblend
  | mix =>
    obtain ⟨make, clamp, hmake, _, rfl⟩ := seq_eq_accept.1 h
    obtain ⟨make', blend, hmake', hblend, rfl⟩ := seq_eq_accept.1 hmake
    obtain ⟨dataType, _, rfl⟩ := map_eq_accept.1 hmake'
    exact defaulted_accept (by decide) hblend
  | mapRange =>
    obtain ⟨make, clamp, hmake, _, rfl⟩ := seq_eq_accept.1 h
    obtain ⟨interpolation, hmode, rfl⟩ := map_eq_accept.1 hmake
    exact defaulted_accept (by decide) hmode
  | colorRamp =>
    obtain ⟨make, stops, hmake, _, rfl⟩ := seq_eq_accept.1 h
    obtain ⟨make', interpolation, hmake', _, rfl⟩ := seq_eq_accept.1 hmake
    obtain ⟨colorMode, _, rfl⟩ := map_eq_accept.1 hmake'
    trivial
  | «attribute» =>
    obtain ⟨make, source?, hmake, _, rfl⟩ := seq_eq_accept.1 h
    obtain ⟨name, _, rfl⟩ := map_eq_accept.1 hmake
    trivial
  | rgb | value | vertexColor | clamp | group | groupOutput | foreign =>
    obtain ⟨setting, _, rfl⟩ := map_eq_accept.1 h
    trivial
  | geometry | rgbToBw | invert | gamma | brightContrast | separate | combine | hueSaturation
  | groupInput | reroute | bakeOutput =>
    obtain rfl := pure_eq_accept.1 h
    trivial

theorem node_listed {data : Data α} {node : Node α String} (h : Document.node data = .accept node) :
    node.body.Listed := by
  obtain ⟨fields, h⟩ := record_accept h
  split at h
  · obtain ⟨make, body, hmake, hbody, rfl⟩ := seq_eq_accept.1 h
    obtain ⟨make', inputs?, hmake', _, rfl⟩ := seq_eq_accept.1 hmake
    obtain ⟨make'', label?, hmake'', _, rfl⟩ := seq_eq_accept.1 hmake'
    obtain ⟨id, _, rfl⟩ := map_eq_accept.1 hmake''
    split at hbody
    · exact body_listed hbody
    · obtain rfl := pure_eq_accept.1 hbody
      trivial
  · cases h

theorem graph_listed {data : Data α} {graph : Graph α String}
    (h : Document.graph data = .accept graph) : graph.Listed := by
  obtain ⟨fields, h⟩ := record_accept h
  obtain ⟨make, links, hmake, _, rfl⟩ := seq_eq_accept.1 h
  obtain ⟨make', nodes, hmake', hnodes, rfl⟩ := seq_eq_accept.1 hmake
  obtain ⟨make'', name, hmake'', _, rfl⟩ := seq_eq_accept.1 hmake'
  obtain ⟨id, _, rfl⟩ := map_eq_accept.1 hmake''
  obtain ⟨data, hlist⟩ := required_accept (field_eq_accept.1 hnodes)
  intro node mem
  obtain ⟨item, hnode⟩ := list_accept hlist mem
  exact node_listed hnode

theorem material_listed {data : Data α} {material : Material α String}
    (h : Document.material data = .accept material) : material.graph.Listed := by
  obtain ⟨fields, h⟩ := record_accept h
  obtain ⟨make, graph, hmake, hgraph, rfl⟩ := seq_eq_accept.1 h
  obtain ⟨name, _, rfl⟩ := map_eq_accept.1 hmake
  obtain ⟨data, hgraph⟩ := required_accept (field_eq_accept.1 hgraph)
  exact graph_listed hgraph

theorem read_listed {data? : Option (Data α)} {document : Document α}
    (h : read data? = .accept document) : ∀ graph ∈ document.graphs, graph.Listed := by
  obtain ⟨data, h⟩ := required_accept h
  obtain ⟨fields, h⟩ := record_accept h
  obtain ⟨make, groups, hmake, hgroups, rfl⟩ := seq_eq_accept.1 h
  obtain ⟨make', materials, hmake', hmaterials, rfl⟩ := seq_eq_accept.1 hmake
  obtain ⟨version, _, rfl⟩ := map_eq_accept.1 hmake'
  intro graph mem
  obtain inGroups | inMaterials := List.mem_append.1 mem
  · obtain rfl | ⟨data, hlist⟩ := orElse_accept (field_eq_accept.1 hgroups)
    · cases inGroups
    · obtain ⟨item, hgraph⟩ := list_accept hlist inGroups
      exact graph_listed hgraph
  · obtain ⟨material, listed, rfl⟩ := List.mem_map.1 inMaterials
    obtain ⟨data, hlist⟩ := required_accept (field_eq_accept.1 hmaterials)
    obtain ⟨item, hmaterial⟩ := list_accept hlist listed
    exact material_listed hmaterial

end Document
end ShadeGraph
