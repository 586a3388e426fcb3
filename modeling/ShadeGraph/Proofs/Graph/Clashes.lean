import ShadeGraph.Proofs.Document.Linked
import ShadeGraph.Proofs.Lowering.Listing

/-!
# Keys that clash

Ids may hold the slash that keys are joined by. Two nodes of a library share a
key exactly when the id of one graph goes on where that of the other ends and
the ids of the nodes make up for it; two output sockets share one also when the
key of a node goes on where that of a node with free sockets ends. Then one
passes for the other: on a way as a cycle, in memory as its expression.
-/

namespace ShadeGraph

variable {α : Type}

namespace Kind

theorem unslashed_of_mem_outputs {kind : Kind} {socket : String} (mem : socket ∈ kind.outputs) :
    Unslashed socket := by
  have table : ∀ socket ∈ kind.outputs, '/' ∉ socket.toList := by
    cases kind with
    | separate space => cases space <;> decide +kernel
    | combine space => cases space <;> decide +kernel
    | _ => decide +kernel
  exact table socket mem

theorem outputs_ne_nil {kind : Kind} (fixed : ¬ kind.isDynamic) : kind.outputs ≠ [] := by
  cases kind with
  | group | groupInput | groupOutput | bakeOutput | foreign => exact absurd rfl fixed
  | _ => exact List.cons_ne_nil _ _

end Kind

theorem Node.exists_output {ρ : Type} (node : Node α ρ) : ∃ socket, node.HasOutput socket := by
  by_cases free : node.kind.isDynamic
  · exact ⟨"", Or.inl free⟩
  · obtain ⟨socket, mem⟩ := List.exists_mem_of_ne_nil _ (Kind.outputs_ne_nil free)
    exact ⟨socket, Or.inr mem⟩

theorem ne_joined (a rest : String) : a ≠ a ++ "/" ++ rest := by
  intro same
  have longer := congrArg String.length same
  simp only [String.length_append] at longer
  have slash : "/".length = 1 := rfl
  omega

namespace Library

/-- A node of a library, in its graph. -/
@[ext] structure PlacedNode (library : Library α) where
  graph : Graph α (Fin library.groupCount)
  listed : graph ∈ library.graphs
  node : Node α (Fin library.groupCount)
  within : node ∈ graph.nodes

/-- An output socket of a node of a library. -/
@[ext] structure PlacedOutput (library : Library α) extends PlacedNode library where
  socket : String
  has : node.HasOutput socket

/-- What lowering tells nodes on a way apart by. -/
def nodeKey (library : Library α) (x : library.PlacedNode) : String :=
  x.graph.nodeKey x.node.id

/-- What lowering remembers an output socket by. -/
def outputKey (library : Library α) (x : library.PlacedOutput) : String :=
  Lowering.cacheKey x.graph ⟨x.node.id, x.socket⟩

/-- No key goes on, after a slash, where a part of another one ends. -/
structure Unjoined (library : Library α) : Prop where
  graphs : ∀ (x y : library.PlacedNode) (rest : String),
    ¬ (y.graph.id = x.graph.id ++ "/" ++ rest ∧ x.node.id = rest ++ "/" ++ y.node.id)
  nodes : ∀ (x y : library.PlacedNode) (rest : String), x.node.kind.isDynamic →
    library.nodeKey y ≠ library.nodeKey x ++ "/" ++ rest

variable {library : Library α}

theorem nodeKey_eq (x : library.PlacedNode) :
    library.nodeKey x = x.graph.id ++ "/" ++ x.node.id := rfl

theorem outputKey_eq (x : library.PlacedOutput) :
    library.outputKey x = library.nodeKey x.toPlacedNode ++ "/" ++ x.socket := rfl

theorem Unslashed.unjoined (unslashed : library.Unslashed) : library.Unjoined where
  graphs := by
    rintro x y rest ⟨joined, _⟩
    have whole := (unslashed y.graph y.listed).1
    exact not_unslashed_joined x.graph.id rest (joined ▸ whole)
  nodes := by
    intro x y rest _ joined
    have parts : y.graph.id ++ "/" ++ y.node.id =
        x.graph.id ++ "/" ++ (x.node.id ++ "/" ++ rest) := by
      simpa only [nodeKey_eq, String.append_assoc] using joined
    obtain ⟨yGraph, yNodes⟩ := unslashed y.graph y.listed
    have node := (joined_unique yGraph (unslashed x.graph x.listed).1 parts).2
    have whole := yNodes y.node y.within
    exact not_unslashed_joined x.node.id rest (node ▸ whole)

section
variable [Arithmetic α] {document : Document α} (linked : library.Links document)

include linked

theorem Links.placed_unique {x y : library.PlacedNode} (graphs : x.graph.id = y.graph.id)
    (nodes : x.node.id = y.node.id) : x = y := by
  obtain ⟨graph, listed, node, within⟩ := x
  obtain ⟨graph', listed', node', within'⟩ := y
  obtain rfl : graph = graph' := List.inj_on_of_nodup_map linked.distinct listed listed' graphs
  obtain rfl : node = node' :=
    List.inj_on_of_nodup_map (linked.graph graph listed).distinct within within' nodes
  rfl

/-- Keys that are equal in another way than part by part are excluded. -/
theorem Links.node_key_injective (unjoined : library.Unjoined) :
    Function.Injective library.nodeKey := by
  intro x y same
  rw [nodeKey_eq, nodeKey_eq] at same
  obtain ⟨graphs, nodes⟩ | ⟨rest, joined⟩ | ⟨rest, joined⟩ := joined_cases same
  · exact linked.placed_unique graphs nodes
  · exact absurd joined (unjoined.graphs x y rest)
  · exact absurd joined (unjoined.graphs y x rest)

/-- The sockets of a fixed set hold no slash, so only those of a dynamic kind
can make up for the rest of a key. -/
theorem Links.output_key_injective (unjoined : library.Unjoined) :
    Function.Injective library.outputKey := by
  have apart (x y : library.PlacedOutput) (rest : String)
      (joined : library.nodeKey y.toPlacedNode = library.nodeKey x.toPlacedNode ++ "/" ++ rest)
      (socket : x.socket = rest ++ "/" ++ y.socket) : False := by
    obtain free | declared := x.has
    · exact unjoined.nodes x.toPlacedNode y.toPlacedNode rest free joined
    · exact not_unslashed_joined rest y.socket (socket ▸ Kind.unslashed_of_mem_outputs declared)
  intro x y same
  rw [outputKey_eq, outputKey_eq] at same
  obtain ⟨nodes, sockets⟩ | ⟨rest, joined, socket⟩ | ⟨rest, joined, socket⟩ := joined_cases same
  · have place := linked.node_key_injective unjoined nodes
    obtain ⟨x, socket, has⟩ := x
    obtain ⟨y, socket', has'⟩ := y
    cases place
    cases sockets
    rfl
  · exact (apart x y rest joined socket).elim
  · exact (apart y x rest joined socket).elim

end

/-- Where keys go on, two nodes or two sockets share one. -/
theorem unjoined_of_injective (nodes : Function.Injective library.nodeKey)
    (outputs : Function.Injective library.outputKey) : library.Unjoined where
  graphs := by
    rintro x y rest ⟨joined, made⟩
    have same : x = y := by
      apply nodes
      rw [nodeKey_eq, nodeKey_eq, joined, made]
      simp only [String.append_assoc]
    exact ne_joined x.graph.id rest (same ▸ joined)
  nodes := by
    intro x y rest free joined
    obtain ⟨socket, has⟩ := y.node.exists_output
    have same : (⟨x, rest ++ "/" ++ socket, Or.inl free⟩ : library.PlacedOutput) =
        ⟨y, socket, has⟩ := by
      apply outputs
      rw [outputKey_eq, outputKey_eq, joined]
      simp only [String.append_assoc]
    have place : x = y := congrArg PlacedOutput.toPlacedNode same
    exact ne_joined (library.nodeKey x) rest (place ▸ joined)

/-- In a library that loads, keys tell nodes and output sockets apart exactly if
none goes on where a part of another one ends. -/
theorem keys_identify_iff [Arithmetic α] {data? : Option (Data α)}
    (loaded : Document.load data? = .accept library) :
    (Function.Injective library.nodeKey ∧ Function.Injective library.outputKey) ↔
      library.Unjoined := by
  obtain ⟨document, _, resolved⟩ := Checked.andThen_eq_accept.1 loaded
  have linked := Document.resolve_links resolved
  constructor
  · rintro ⟨nodes, outputs⟩
    exact unjoined_of_injective nodes outputs
  · intro unjoined
    exact ⟨linked.node_key_injective unjoined, linked.output_key_injective unjoined⟩

theorem sample_keys_identify : Sample.library.Unslashed ∧
    Function.Injective Sample.library.nodeKey ∧ Function.Injective Sample.library.outputKey :=
  ⟨Sample.unslashed, (keys_identify_iff Sample.loads).2 Sample.unslashed.unjoined⟩

end Library

/-! Ids with slashes. An instance and a node of its group share a key, and so do
an output of an instance and one of a node beside it. -/

namespace Slashed

def skin : Graph Rat (Fin 1) where
  id := "mat/skin"
  name := "Skin"
  nodes := [⟨"tone", none, none, .value (1 / 2)⟩, ⟨"end", none, none, .groupOutput none⟩]
  links := [⟨⟨"tone", "Value"⟩, ⟨"end", "P"⟩⟩, ⟨⟨"tone", "Value"⟩, ⟨"end", "tone/Value"⟩⟩]

def marked : Material Rat (Fin 1) where
  name := "Marked"
  graph.id := "mat"
  graph.name := "Marked"
  graph.nodes := [⟨"out", none, none, .bakeOutput⟩, ⟨"skin/tone", none, none, .group (Fin.last 0)⟩]
  graph.links := [⟨⟨"skin/tone", "P"⟩, ⟨"out", "Alpha"⟩⟩]

def mixed : Material Rat (Fin 1) where
  name := "Mixed"
  graph.id := "mix"
  graph.name := "Mixed"
  graph.nodes := [⟨"out", none, none, .bakeOutput⟩, ⟨"sum", none, none, .math "ADD" false⟩,
    ⟨"skin", none, none, .group (Fin.last 0)⟩, ⟨"skin/tone", none, none, .value (1 / 4)⟩]
  graph.links := [⟨⟨"sum", "Value"⟩, ⟨"out", "Alpha"⟩⟩,
    ⟨⟨"skin", "tone/Value"⟩, ⟨"sum", "A"⟩⟩, ⟨⟨"skin/tone", "Value"⟩, ⟨"sum", "B"⟩⟩]

def library : Library Rat := ⟨1, #v[skin], [marked, mixed]⟩

theorem loads : Document.load (some library.toData) = .accept library := by cbv

/-- The instance in `marked`. -/
def markedSkin : library.PlacedNode where
  graph := marked.graph
  listed := List.mem_append_right _ List.mem_cons_self
  node := ⟨"skin/tone", none, none, .group (Fin.last 0)⟩
  within := List.mem_cons_of_mem _ List.mem_cons_self

/-- The value inside the group. -/
def skinTone : library.PlacedNode where
  graph := skin
  listed := List.mem_append_left _ List.mem_cons_self
  node := ⟨"tone", none, none, .value (1 / 2)⟩
  within := List.mem_cons_self

/-- An output of the instance in `mixed`. -/
def mixedSkin : library.PlacedOutput where
  graph := mixed.graph
  listed := List.mem_append_right _ (List.mem_cons_of_mem _ List.mem_cons_self)
  node := ⟨"skin", none, none, .group (Fin.last 0)⟩
  within := List.mem_cons_of_mem _ (List.mem_cons_of_mem _ List.mem_cons_self)
  socket := "tone/Value"
  has := Or.inl rfl

/-- The output of the value beside it. -/
def mixedTone : library.PlacedOutput where
  graph := mixed.graph
  listed := List.mem_append_right _ (List.mem_cons_of_mem _ List.mem_cons_self)
  node := ⟨"skin/tone", none, none, .value (1 / 4)⟩
  within := List.mem_cons_of_mem _ (List.mem_cons_of_mem _ (List.mem_cons_of_mem _
    List.mem_cons_self))
  socket := "Value"
  has := Or.inr List.mem_cons_self

/-- The value inside the group passes for the instance that it is lowered for,
and the value beside an instance for that instance. -/
theorem slashed_keys_clash :
    Document.load (some library.toData) = .accept library ∧
    ¬ Function.Injective library.nodeKey ∧ ¬ Function.Injective library.outputKey ∧
    ((library.family marked).lowerInputAt ⟨"out", "Alpha"⟩).outcome =
      .error (.cycle "Skin" "tone") ∧
    ((library.family mixed).lowerInputAt ⟨"out", "Alpha"⟩).outcome =
      .ok (.math "ADD" false (.group "Skin" (.constScalar (1 / 2))) (.constScalar (1 / 4))
        (.constScalar (1 / 2))) ∧
    (Session.start.lowerInputAt (library.family mixed) ⟨"out", "Alpha"⟩).1 =
      .ok (.math "ADD" false (.group "Skin" (.constScalar (1 / 2)))
        (.group "Skin" (.constScalar (1 / 2))) (.constScalar (1 / 2))) := by
  refine ⟨loads, ?_, ?_, by cbv, by cbv, ?_⟩
  · intro injective
    have same : markedSkin = skinTone := injective (by decide)
    exact absurd (congrArg (fun x => x.node.id) same) (by decide)
  · intro injective
    have same : mixedSkin = mixedTone := injective (by decide)
    exact absurd (congrArg (fun x => x.node.id) same) (by decide)
  · rw [Session.lowerInputAt_eq_listing]
    cbv

end Slashed
end ShadeGraph
