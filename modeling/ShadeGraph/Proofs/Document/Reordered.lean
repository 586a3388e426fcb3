import ShadeGraph.Bake
import ShadeGraph.Proofs.Document.Changed
import ShadeGraph.Proofs.Document.Violations
import ShadeGraph.Proofs.Lowering.StandIn

/-!
# Documents in another order

A document may list its groups, its materials, and the nodes and the links of
every graph in another order. Only of group outputs and bake outputs the first
one counts, so these keep their order. Such a document loads if the first one
does, because ids and link targets are distinct in any order, and for the same
reason every look-up finds the same, so every call answers the same.
-/

namespace ShadeGraph

open Checked

variable {α ρ : Type}

/-! ### Graphs -/

/-- The kinds of which a graph may have several nodes, and the first counts. -/
def rankedKinds : List Kind := [.groupOutput, .bakeOutput]

namespace Graph

structure Reordered (graph other : Graph α ρ) : Prop where
  id : other.id = graph.id
  name : other.name = graph.name
  nodes : graph.nodes.Perm other.nodes
  ranked : ∀ kind ∈ rankedKinds,
    graph.nodes.filter (·.kind = kind) = other.nodes.filter (·.kind = kind)
  links : graph.links.Perm other.links

variable [Arithmetic α] {graph other : Graph α ρ}

namespace Reordered

variable (reordered : graph.Reordered other)

include reordered

theorem linked (linked : graph.Linked) : other.Linked where
  distinct := (reordered.nodes.map Node.id).nodup_iff.1 linked.distinct
  source := by
    intro link mem
    obtain ⟨node, present, found⟩ := linked.source link (reordered.links.mem_iff.2 mem)
    exact ⟨node, reordered.nodes.mem_iff.1 present, found⟩
  target := by
    intro link mem
    obtain ⟨node, present, found⟩ := linked.target link (reordered.links.mem_iff.2 mem)
    exact ⟨node, reordered.nodes.mem_iff.1 present, found⟩
  once := (reordered.links.map Link.target).nodup_iff.1 linked.once

theorem findNode? (linked : graph.Linked) (id : String) :
    other.findNode? id = graph.findNode? id := by
  refine (List.find?_eq_find?_of_perm reordered.nodes ?_).symm
  rintro node ⟨mem, named⟩ node' ⟨mem', named'⟩
  have same : node.id = node'.id := (beq_iff_eq.1 named).trans (beq_iff_eq.1 named').symm
  exact List.inj_on_of_nodup_map linked.distinct mem mem' same

theorem linkTo? (linked : graph.Linked) (target : Endpoint) :
    other.linkTo? target = graph.linkTo? target := by
  refine (List.find?_eq_find?_of_perm reordered.links ?_).symm
  rintro link ⟨mem, ends⟩ link' ⟨mem', ends'⟩
  have same : link.target = link'.target :=
    (of_decide_eq_true ends).trans (of_decide_eq_true ends').symm
  exact List.inj_on_of_nodup_map linked.once mem mem' same

omit [Arithmetic α] in
/-- The first node of a ranked kind that has some property. -/
theorem find?_ranked (kind : Kind) (ranked : kind ∈ rankedKinds) {p : Node α ρ → Bool}
    (only : ∀ node, p node = true → node.kind = kind) :
    other.nodes.find? p = graph.nodes.find? p := by
  have first (nodes : List (Node α ρ)) :
      nodes.find? p = (nodes.filter (·.kind = kind)).find? p := by
    -- Only nodes of the kind are candidates, and these are in the same order.
    rw [List.find?_filter]
    refine List.find?_congr fun node _ => ?_
    by_cases holds : p node = true
    · simp [holds, only node holds]
    · simp [holds]
  rw [first other.nodes, first graph.nodes, reordered.ranked kind ranked]

omit [Arithmetic α] in
theorem activeOutput? : other.activeOutput? = graph.activeOutput? := by
  refine reordered.find?_ranked .groupOutput (by decide) ?_
  rintro ⟨id, label?, inputs?, body⟩ holds
  cases body with
  | groupOutput active? => rfl
  | _ => cases holds

omit [Arithmetic α] in
theorem bakeOutput? : other.bakeOutput? = graph.bakeOutput? :=
  reordered.find?_ranked .bakeOutput (by decide) fun _ holds => of_decide_eq_true holds

theorem standsFor (linked : graph.Linked) : other.StandsFor graph where
  id := reordered.id
  name := reordered.name
  node found := (reordered.findNode? linked _).trans found
  link := reordered.linkTo? linked
  active := reordered.activeOutput?
  sourced _ mem := linked.sourced mem

end Reordered
end Graph

/-! ### Documents -/

/-- Whether data is a node of a kind. -/
def Data.hasKind (kind : Kind) (data : Data α) : Bool := data.text? "kind" == some kind.name

namespace Document

variable [Arithmetic α]

/-- A document and its parts in another order. -/
structure Reorders (document other : Document α) : Prop where
  materials : Shuffled (fun before after =>
    after.name = before.name ∧ before.graph.Reordered after.graph)
    document.materials other.materials
  groups : Shuffled Graph.Reordered document.groups other.groups

namespace Reorders

variable {document other : Document α} (reorders : document.Reorders other)

include reorders

omit [Arithmetic α] in
theorem graphs : Shuffled Graph.Reordered document.graphs other.graphs :=
  reorders.groups.append (reorders.materials.map fun related => related.2)

omit [Arithmetic α] in
theorem groupIds : (document.groups.map Graph.id).Perm (other.groups.map Graph.id) :=
  reorders.groups.map_perm fun related => related.id

theorem sound (sound : document.Sound) : other.Sound where
  distinct := (reorders.graphs.map_perm fun related => related.id).nodup_iff.1 sound.distinct
  linked := by
    intro graph mem
    obtain ⟨before, present, related⟩ := reorders.graphs.exists_left mem
    exact related.linked (sound.linked before present)
  named := by
    intro graph mem node within id names
    obtain ⟨before, present, related⟩ := reorders.graphs.exists_left mem
    refine reorders.groupIds.mem_iff.1 (sound.named before present node ?_ id names)
    exact related.nodes.mem_iff.2 within

omit [Arithmetic α] in
theorem inputsApart (apart : document.InputsApart) : other.InputsApart := by
  intro graph mem link within link' within' same
  obtain ⟨before, present, related⟩ := reorders.graphs.exists_left mem
  exact apart before present link (related.links.mem_iff.2 within) link'
    (related.links.mem_iff.2 within') same

end Reorders

/-! ### Data -/

section

/-- Nodes in another order, in which those of ranked kinds keep theirs. -/
def NodesReordered (nodes nodes' : List (Data α)) : Prop :=
  nodes.Perm nodes' ∧
    ∀ kind ∈ rankedKinds, nodes.filter (Data.hasKind kind) = nodes'.filter (Data.hasKind kind)

def GraphReordered : Data α → Data α → Prop :=
  graphChange (Data.Listwise NodesReordered) (Data.Listwise List.Perm)

/-- A document that lists its groups, its materials, and the nodes and links of
every graph in another order. -/
def Reordered : Data α → Data α → Prop :=
  documentChange (Data.Listwise (Shuffled (materialChange GraphReordered)))
    (Data.Listwise (Shuffled GraphReordered))

end

theorem node_hasKind {data : Data α} {n : Node α String} (h : node data = .accept n) {kind : Kind}
    (known : kind ≠ .foreign) : data.hasKind kind = true ↔ n.kind = kind := by
  obtain ⟨fields, name, rfl, written, _, _, _, hbody⟩ := node_eq_accept.1 h
  have text : (Data.record fields).text? "kind" = some name :=
    Data.text?_eq_some.2 ⟨fields, rfl, written⟩
  rw [Data.hasKind, text, beq_iff_eq, Option.some.injEq]
  split at hbody
  · rename_i listed found
    have named : listed.name = name :=
      eq_of_beq (List.find?_some (p := (Named.name · == name)) found)
    have same : n.kind = listed := body_kind hbody
    rw [same]
    constructor
    · rintro rfl
      exact Option.some.inj (found.symm.trans (find?_kind kind))
    · rintro rfl
      exact named.symm
  · rename_i unlisted
    have foreign : n.kind = .foreign := congrArg NodeBody.kind (pure_eq_accept.1 hbody).symm
    rw [foreign]
    constructor
    · rintro rfl
      cases unlisted.symm.trans (find?_kind kind)
    · rintro rfl
      exact absurd rfl known

theorem nodes_reordered : Carries (list (node (α := α))) (Data.Listwise NodesReordered)
    fun before after => before.Perm after ∧ ∀ kind ∈ rankedKinds,
      before.filter (·.kind = kind) = after.filter (·.kind = kind) := by
  refine list_carries ?_
  rintro values values' ns ⟨perm, ranked⟩ accepted
  obtain ⟨ns', accepted', reordered⟩ := List.perm_comp_forall₂ perm.symm accepted
  refine ⟨ns', accepted', reordered.symm, fun kind mem => ?_⟩
  have known : kind ≠ .foreign := by
    rintro rfl
    simp [rankedKinds] at mem
  have kept : ∀ ⦃value : Data α⦄ ⦃n : Node α String⦄, node value = .accept n →
      (value.hasKind kind = true ↔ decide (n.kind = kind) = true) := fun value n read => by
    rw [node_hasKind read known, decide_eq_true_iff]
  have before := List.rel_filter kept accepted
  have after := List.rel_filter kept accepted'
  -- Reading is a function, so equal lists of data are read as equal lists of nodes.
  rw [← ranked kind mem] at after
  refine List.right_unique_forall₂' ?_ before after
  intro value n n' one two
  exact accept_inj (one.symm.trans two)

theorem graph_reordered : Carries (graph (α := α)) GraphReordered Graph.Reordered := by
  intro data data' g changed h
  obtain ⟨g', accepted, id, name, ⟨nodes, ranked⟩, links⟩ :=
    graph_carries nodes_reordered list_perm .nil changed h
  exact ⟨g', accepted, id, name, nodes, ranked, links⟩

theorem read_reordered {data data' : Data α} {document : Document α}
    (reordered : Reordered data data') (h : read (some data) = .accept document) :
    ∃ other, read (some data') = .accept other ∧ document.Reorders other := by
  have empty {β : Type} {R : β → β → Prop} : Shuffled R [] [] := ⟨[], .nil, .nil⟩
  obtain ⟨other, accepted, materials, groups⟩ :=
    read_carries (material_carries graph_reordered).shuffled graph_reordered.shuffled empty
      (.some reordered) h
  exact ⟨other, accepted, materials, groups⟩

end Document

/-! ### Libraries -/

/-- Two materials of two libraries that nothing but the order of their lists
tells apart: every call for the one answers as for the other, and the same node
is baked. -/
structure Library.Alike [Arithmetic α] (library other : Library α)
    (material : Material α (Fin library.groupCount))
    (material' : Material α (Fin other.groupCount)) : Prop where
  name : material'.name = material.name
  id : material'.graph.id = material.graph.id
  calls : ∀ ref, (other.family material').AnswersAlike (library.family material) ref
  baked : (Bake.findOutput material').outcome.map (Node.mapGroup other.groupId) =
    (Bake.findOutput material).outcome.map (Node.mapGroup library.groupId)

theorem Bake.findOutput_mapGroup {n : Nat} (material : Material α (Fin n)) (f : Fin n → ρ) :
    (Bake.findOutput material).outcome.map (Node.mapGroup f) =
      match (material.mapGroup f).graph.bakeOutput? with
      | some node => .ok node
      | none => .error ⟨material.name, .noOutput material.graph.name⟩ := by
  rw [Material.mapGroup, Graph.bakeOutput?_mapGroup, findOutput, bakeOutput]
  cases material.graph.bakeOutput? <;> rfl

namespace Document

variable [Arithmetic α]

/-- Corresponding materials of a library and of one linked from the same document
in another order. -/
theorem Reorders.alike {library other : Library α}
    (distinct : (other.graphs.map Graph.id).Nodup) (sound : library.document.Sound)
    (reorders : library.document.Reorders other.document) :
    Shuffled (library.Alike other) library.materials other.materials := by
  refine reorders.materials.of_map.of_mem.imp ?_
  rintro material material' ⟨mem, name, reordered⟩
  have linked := sound.linked_material mem
  have groups : ∀ group ∈ library.document.groups, ∃ standIn ∈ other.document.groups,
      standIn.StandsFor group := by
    intro group present
    obtain ⟨standIn, listed, related⟩ := reorders.groups.exists_right present
    exact ⟨standIn, listed, related.standsFor (sound.linked _ (List.mem_append_left _ present))⟩
  obtain ⟨place, stands⟩ := Library.standsFor distinct groups (reordered.standsFor linked)
  refine ⟨name, reordered.id, fun ref => stands.answersAlike fun absent => ?_, ?_⟩
  · have same := reordered.findNode? linked ref.node
    have absent : material.graph.findNode? ref.node = none := absent
    rw [Material.mapGroup, Material.mapGroup, Graph.findNode?_mapGroup, Graph.findNode?_mapGroup,
      absent, Option.map_none, Option.map_eq_none_iff] at same
    exact same
  · have graphName : material'.graph.name = material.graph.name := reordered.name
    have materialName : material'.name = material.name := name
    rw [Bake.findOutput_mapGroup, Bake.findOutput_mapGroup, reordered.bakeOutput?, materialName,
      graphName]

/-- A document that loads also loads in another order, and every call for a
material of it answers as before. -/
theorem load_reordered {data data' : Data α} {library : Library α}
    (loaded : load (some data) = .accept library) (reordered : Reordered data data') :
    ∃ other, load (some data') = .accept other ∧
      Shuffled (library.Alike other) library.materials other.materials := by
  obtain ⟨document, hread, resolved⟩ := andThen_eq_accept.1 loaded
  obtain ⟨document', hread', reorders⟩ := read_reordered reordered hread
  obtain ⟨sound, apart⟩ := resolve_sound resolved
  obtain ⟨other, resolved'⟩ := (reorders.sound sound).resolves (reorders.inputsApart apart)
  refine ⟨other, andThen_eq_accept.2 ⟨document', hread', resolved'⟩, ?_⟩
  obtain rfl := document_of_resolve resolved
  obtain rfl := document_of_resolve resolved'
  exact reorders.alike (resolve_links resolved').distinct sound

end Document

/-! A document of two groups and two materials, and the same in another order. -/

namespace Swapped

open Draft (linkData)

def nodeData (id kind : String) (more : List (String × Data Rat)) : Data Rat :=
  .record (("id", .text id) :: ("kind", .text kind) :: more)

def graphData (id : String) (nodes links : List (Data Rat)) : Data Rat :=
  .record [("id", .text id), ("name", .text id), ("nodes", .list nodes), ("links", .list links)]

def documentData (materials groups : List (Data Rat)) : Data Rat :=
  .record [("version", .number 1), ("groups", .list groups), ("materials", .list
    (materials.map fun graph => .record [("name", .text "Paint"), ("graph", graph)]))]

def input : Data Rat := nodeData "in" "group_input" []
def ending : Data Rat := nodeData "end" "group_output" []
def spare : Data Rat := nodeData "spare" "group_output" []
def out : Data Rat := nodeData "out" "bake_output" []
def half : Data Rat := nodeData "half" "value" [("value", .number (1 / 2))]
def pair : Data Rat := nodeData "pair" "group" [("group", .text "pass")]
def through : Data Rat := linkData "in" "X" "end" "Y"
def fed : Data Rat := linkData "half" "Value" "pair" "X"
def baked : Data Rat := linkData "pair" "Y" "out" "Alpha"

def data : Data Rat := documentData
  [graphData "wet" [out, half, pair] [fed, baked], graphData "dry" [out] []]
  [graphData "idle" [ending] [], graphData "pass" [input, ending, spare] [through]]

def swapped : Data Rat := documentData
  [graphData "dry" [out] [], graphData "wet" [half, out, pair] [baked, fed]]
  [graphData "pass" [ending, input, spare] [through], graphData "idle" [ending] []]

def library : Library Rat where
  groupCount := 2
  groups := #v[⟨"idle", "idle", [⟨"end", none, none, .groupOutput none⟩], []⟩,
    ⟨"pass", "pass", [⟨"in", none, none, .groupInput⟩,
      ⟨"end", none, none, .groupOutput none⟩, ⟨"spare", none, none, .groupOutput none⟩],
      [⟨⟨"in", "X"⟩, ⟨"end", "Y"⟩⟩]⟩]
  materials := [⟨"Paint", "wet", "wet", [⟨"out", none, none, .bakeOutput⟩,
      ⟨"half", none, none, .value (1 / 2)⟩, ⟨"pair", none, none, .group (Fin.last 1)⟩],
      [⟨⟨"half", "Value"⟩, ⟨"pair", "X"⟩⟩, ⟨⟨"pair", "Y"⟩, ⟨"out", "Alpha"⟩⟩]⟩,
    ⟨"Paint", "dry", "dry", [⟨"out", none, none, .bakeOutput⟩], []⟩]

theorem loads : Document.load (some data) = .accept library := by cbv

open Document

theorem graph_swapped {id : String} {nodes nodes' links links' : List (Data Rat)}
    (hnodes : NodesReordered nodes nodes') (hlinks : links.Perm links') :
    GraphReordered (graphData id nodes links) (graphData id nodes' links') :=
  .cons ⟨rfl, rfl⟩ (.cons ⟨rfl, rfl⟩ (.cons ⟨rfl, hnodes⟩ (.cons ⟨rfl, hlinks⟩ .nil)))

theorem material_swapped {graph graph' : Data Rat} (h : GraphReordered graph graph') :
    materialChange GraphReordered (.record [("name", .text "Paint"), ("graph", graph)])
      (.record [("name", .text "Paint"), ("graph", graph')]) :=
  .cons ⟨rfl, rfl⟩ (.cons ⟨rfl, h⟩ .nil)

theorem nodes_refl (nodes : List (Data Rat)) : NodesReordered nodes nodes :=
  ⟨.refl nodes, fun _ _ => rfl⟩

/-- Two nodes change places of which at most one is of a ranked kind. -/
theorem nodes_swap {first second : Data Rat} (rest : List (Data Rat))
    (apart : ∀ kind ∈ rankedKinds, (first.hasKind kind && second.hasKind kind) = false) :
    NodesReordered (first :: second :: rest) (second :: first :: rest) := by
  refine ⟨.swap .., fun kind mem => ?_⟩
  have apart := apart kind mem
  cases here : first.hasKind kind <;> cases there : second.hasKind kind
  all_goals simp_all

theorem reordered : Reordered data swapped := by
  have wet : GraphReordered (graphData "wet" [out, half, pair] [fed, baked])
      (graphData "wet" [half, out, pair] [baked, fed]) :=
    graph_swapped (nodes_swap [pair] (by decide)) (.swap baked fed [])
  have pass : GraphReordered (graphData "pass" [input, ending, spare] [through])
      (graphData "pass" [ending, input, spare] [through]) :=
    graph_swapped (nodes_swap [spare] (by decide)) (.refl _)
  have dry : GraphReordered (graphData "dry" [out] []) (graphData "dry" [out] []) :=
    graph_swapped (nodes_refl _) (.refl _)
  have idle : GraphReordered (graphData "idle" [ending] []) (graphData "idle" [ending] []) :=
    graph_swapped (nodes_refl _) (.refl _)
  have passIdle := List.Forall₂.cons pass (.cons idle .nil)
  have dryWet := List.Forall₂.cons (material_swapped dry) (.cons (material_swapped wet) .nil)
  have groups : Shuffled GraphReordered _ _ := ⟨_, .swap .., passIdle⟩
  have materials : Shuffled (materialChange GraphReordered) _ _ := ⟨_, .swap .., dryWet⟩
  exact .cons ⟨rfl, rfl⟩ (.cons ⟨rfl, groups⟩ (.cons ⟨rfl, materials⟩ .nil))

end Swapped

theorem Document.load_reordered_swapped :
    Document.load (some Swapped.data) = .accept Swapped.library ∧
    Document.Reordered Swapped.data Swapped.swapped ∧
    ∃ other, Document.load (some Swapped.swapped) = .accept other ∧
      Shuffled (Swapped.library.Alike other) Swapped.library.materials other.materials :=
  ⟨Swapped.loads, Swapped.reordered, load_reordered Swapped.loads Swapped.reordered⟩

end ShadeGraph
