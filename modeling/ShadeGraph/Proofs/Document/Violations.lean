import ShadeGraph.Proofs.Document.Reloaded
import ShadeGraph.Proofs.Document.Reports

/-!
# Violations and false alarms

The rules of a document, as violations at a path, stated without the checks.
Whatever is reported violates a rule, with one exception: the inputs of a graph
are told apart by keys, and two inputs may share one if their names hold the
character that keys are joined by. Where that does not happen, a document loads
exactly if it violates no rule.
-/

namespace ShadeGraph

open Checked

variable {α β : Type} {n : Nat}

/-- If an item whose key is not new never has a new value, then keys tell values
apart. -/
theorem injOn_of_repeats {κ : Type} {f : α → β} {key : β → κ} {items : List α}
    (repeats : ∀ {before item after}, items = before ++ item :: after →
      ∀ other ∈ before, key (f other) = key (f item) → f item ∈ before.map f) :
    ∀ item ∈ items, ∀ other ∈ items, key (f item) = key (f other) → f item = f other := by
  have apart (before after : List α) (split : items = before ++ after) :
      ∀ item ∈ before, ∀ other ∈ before, key (f item) = key (f other) → f item = f other := by
    induction before using List.reverseRecOn generalizing after with
    | nil => simp
    | append_singleton before last ih =>
      have split : items = before ++ last :: after := by simpa using split
      have earlier := ih (last :: after) split
      have new : ∀ other ∈ before, key (f other) = key (f last) → f other = f last := by
        intro other mem same
        obtain ⟨first, listed, value⟩ := List.mem_map.1 (repeats split other mem same)
        exact (earlier other mem first listed (same.trans (congrArg key value).symm)).trans value
      intro item here other there same
      rcases List.mem_append.1 here with before' | last'
      · rcases List.mem_append.1 there with before'' | last''
        · exact earlier item before' other before'' same
        · obtain rfl := List.mem_singleton.1 last''
          exact new item before' same
      · obtain rfl := List.mem_singleton.1 last'
        rcases List.mem_append.1 there with before'' | last''
        · exact (new other before'' same.symm).symm
        · obtain rfl := List.mem_singleton.1 last''
          rfl
  exact apart items [] (List.append_nil _).symm

/-- What violates the rules of a document within one graph, where the groups of
the document have the ids `groups`. -/
inductive Graph.Violation [Arithmetic α] (groups : List String) (graph : Graph α String) :
    Issue → Prop
  | repeatedNode {before after : List (Node α String)} {node : Node α String}
    (place : graph.nodes = before ++ node :: after)
    (repeats : node.id ∈ before.map Node.id) :
    Violation groups graph ⟨["nodes", toString before.length, "id"],
      .duplicateNode node.id graph.id⟩
  | unknownGroup {before after : List (Node α String)} {node : Node α String} {id : String}
    (place : graph.nodes = before ++ node :: after)
    (names : node.body = .group id) (unknown : id ∉ groups) :
    Violation groups graph ⟨["nodes", toString before.length, "group"],
      .unknownGroup node.id id⟩
  | noSource {before after : List Link} {link : Link}
    (place : graph.links = before ++ link :: after)
    (absent : link.source.node ∉ graph.nodes.map Node.id) :
    Violation groups graph ⟨["links", toString before.length, "from", "node"],
      .noSource link.source.node⟩
  | noOutput {before after : List Link} {link : Link} {node : Node α String}
    (place : graph.links = before ++ link :: after)
    (present : node ∈ graph.nodes) (named : node.id = link.source.node)
    (lacks : ¬ node.HasOutput link.source.socket) :
    Violation groups graph ⟨["links", toString before.length, "from", "socket"],
      .noOutput node.id node.kind link.source.socket⟩
  | noTarget {before after : List Link} {link : Link}
    (place : graph.links = before ++ link :: after)
    (absent : link.target.node ∉ graph.nodes.map Node.id) :
    Violation groups graph ⟨["links", toString before.length, "to", "node"],
      .noTarget link.target.node⟩
  | noInput {before after : List Link} {link : Link} {node : Node α String}
    (place : graph.links = before ++ link :: after)
    (present : node ∈ graph.nodes) (named : node.id = link.target.node)
    (lacks : ¬ node.HasInput link.target.socket) :
    Violation groups graph ⟨["links", toString before.length, "to", "socket"],
      .noInput node.id node.kind link.target.socket⟩
  | linkedTwice {before after : List Link} {link : Link}
    (place : graph.links = before ++ link :: after)
    (repeats : link.target ∈ before.map Link.target) :
    Violation groups graph ⟨["links", toString before.length, "to"],
      .linkedTwice link.target.node link.target.socket⟩

theorem Graph.Linked.no_violation [Arithmetic α] {groups : List String} {graph : Graph α String}
    (linked : graph.Linked)
    (named : ∀ node ∈ graph.nodes, ∀ id, node.body = .group id → id ∈ groups)
    (issue : Issue) : ¬ graph.Violation groups issue := by
  intro violation
  cases violation with
  | repeatedNode place repeats => exact new_of_split linked.distinct place repeats
  | unknownGroup place names unknown => exact unknown (named _ (mem_of_split place) _ names)
  | noSource place absent =>
    obtain ⟨node, present, found, _⟩ := linked.source _ (mem_of_split place)
    exact absent (List.mem_map.2 ⟨node, present, found⟩)
  | noOutput place present found lacks =>
    obtain ⟨node, present', found', has⟩ := linked.source _ (mem_of_split place)
    obtain rfl := List.inj_on_of_nodup_map linked.distinct present present' (found.trans found'.symm)
    exact lacks has
  | noTarget place absent =>
    obtain ⟨node, present, found, _⟩ := linked.target _ (mem_of_split place)
    exact absent (List.mem_map.2 ⟨node, present, found⟩)
  | noInput place present found lacks =>
    obtain ⟨node, present', found', has⟩ := linked.target _ (mem_of_split place)
    obtain rfl := List.inj_on_of_nodup_map linked.distinct present present' (found.trans found'.symm)
    exact lacks has
  | linkedTwice place repeats => exact new_of_split linked.once place repeats

namespace Document

/-- What violates the rules of a document. -/
inductive Violation [Arithmetic α] (document : Document α) : Issue → Prop
  | repeatedGraph {path earlier graph} (place : document.Place path earlier graph)
    (repeats : graph.id ∈ earlier.map Graph.id) :
    Violation document ⟨path ++ ["id"], .duplicateGraph graph.id⟩
  | inGraph {path earlier graph issue} (place : document.Place path earlier graph)
    (inside : graph.Violation (document.groups.map Graph.id) issue) :
    Violation document ⟨path ++ issue.path, issue.problem⟩

/-- No two links of a graph end at inputs that differ and share a key. -/
def InputsApart (document : Document α) : Prop :=
  ∀ graph ∈ document.graphs, ∀ link ∈ graph.links, ∀ other ∈ graph.links,
    inputKey link.target = inputKey other.target → link.target = other.target

variable [Arithmetic α]

theorem resolveGraph_reports {groupIds : Vector String n} {graph : Graph α String} {issue : Issue}
    (apart : ∀ link ∈ graph.links, ∀ other ∈ graph.links,
      inputKey link.target = inputKey other.target → link.target = other.target)
    (h : issue ∈ (resolveGraph groupIds graph).errors) :
    graph.Violation groupIds.toList issue := by
  rw [resolveGraph, errors_seq, errors_map, List.mem_append, mem_errors_under,
    mem_errors_under] at h
  rcases h with ⟨inner, reported, rfl⟩ | ⟨inner, reported, rfl⟩
  · obtain ⟨before, node, after, place, reported⟩ := mem_errors_each.1 reported
    rcases resolveNode_reports reported with ⟨repeats, rfl⟩ | ⟨id, names, unknown, rfl⟩
    · exact .repeatedNode place repeats
    · exact .unknownGroup place names unknown
  · obtain ⟨before, link, after, place, reported⟩ := mem_errors_each.1 reported
    obtain ⟨inner, rfl, source | target | ⟨⟨other, earlier, same⟩, rfl⟩⟩ :=
      mem_errors_checkLink.1 reported
    · rcases checkSource_reports source with ⟨absent, rfl⟩ | ⟨node, present, named, lacks, rfl⟩
      · exact .noSource place absent
      · exact .noOutput place present named lacks
    · rcases checkTarget_reports target with ⟨absent, rfl⟩ | ⟨node, present, named, lacks, rfl⟩
      · exact .noTarget place absent
      · exact .noInput place present named lacks
    · refine .linkedTwice place (List.mem_map.2 ⟨other, earlier, ?_⟩)
      refine apart other ?_ link ?_ same
      · rw [place]
        exact List.mem_append_left _ earlier
      · exact mem_of_split place

variable {document : Document α}

/-- An input that is reported as linked twice in a graph is so. -/
theorem Violation.linkedTwice_inv {path : List String} {earlier : List (Graph α String)}
    {graph : Graph α String} (place : document.Place path earlier graph)
    {before after : List Link} {link : Link} (split : graph.links = before ++ link :: after)
    (violation : document.Violation ⟨path ++ ["links", toString before.length, "to"],
      .linkedTwice link.target.node link.target.socket⟩) :
    link.target ∈ before.map Link.target := by
  generalize same : (⟨path ++ ["links", toString before.length, "to"],
    .linkedTwice link.target.node link.target.socket⟩ : Issue) = issue at violation
  cases violation with
  | repeatedGraph => cases congrArg Issue.problem same
  | inGraph place' inside =>
    obtain ⟨rfl, paths⟩ := place.unique place' (congrArg Issue.path same)
    cases inside with
    | linkedTwice split' repeats =>
      simp only [List.cons.injEq, true_and, and_true] at paths
      obtain ⟨rfl, rfl⟩ := split_unique split split' paths
      exact repeats
    | _ => cases congrArg Issue.problem same

/-- The reported issues are violations exactly if no two different inputs that
links of a graph end at share a key. -/
theorem reports_violations_iff :
    (∀ issue ∈ (resolve document).errors, document.Violation issue) ↔ document.InputsApart := by
  constructor
  · intro violations graph mem
    obtain ⟨path, earlier, place⟩ := exists_place_of_mem mem
    refine injOn_of_repeats fun {before link after} split other present same => ?_
    have reported := mem_errors_resolve.2 ⟨path, _, graph, place,
      Or.inr ⟨_, resolveGraph_reports_key split present same, rfl⟩⟩
    exact Violation.linkedTwice_inv place split (violations _ reported)
  · intro apart issue reported
    obtain ⟨path, earlier, graph, place, ⟨repeats, rfl⟩ | ⟨inner, inside, rfl⟩⟩ :=
      mem_errors_resolve.1 reported
    · exact .repeatedGraph place repeats
    · have violation := resolveGraph_reports (apart graph place.mem_graphs) inside
      have ids : (document.groups.toArray.toVector.map Graph.id).toList =
          document.groups.map Graph.id := by simp
      exact .inGraph place (ids ▸ violation)

/-- What the rules of a document say of it as a whole. -/
structure Sound (document : Document α) : Prop where
  distinct : (document.graphs.map Graph.id).Nodup
  linked : ∀ graph ∈ document.graphs, graph.Linked
  named : ∀ graph ∈ document.graphs, ∀ node ∈ graph.nodes, ∀ id, node.body = .group id →
    id ∈ document.groups.map Graph.id

theorem Sound.linked_material {library : Library α} (sound : library.document.Sound)
    {material : Material α (Fin library.groupCount)} (mem : material ∈ library.materials) :
    (material.graph.mapGroup library.groupId).Linked := by
  refine sound.linked _ (List.mem_append_right _ ?_)
  exact List.mem_map_of_mem (List.mem_map_of_mem mem)

theorem Sound.no_violation (sound : document.Sound) (issue : Issue) :
    ¬ document.Violation issue := by
  intro violation
  cases violation with
  | repeatedGraph place repeats =>
    obtain ⟨later, cut⟩ := place.graphs_eq
    exact new_of_split sound.distinct cut repeats
  | inGraph place inside =>
    have mem := place.mem_graphs
    exact Graph.Linked.no_violation (sound.linked _ mem) (sound.named _ mem) _ inside

/-- A document that follows the rules resolves, as long as the keys of its
inputs tell them apart. -/
theorem Sound.resolves (sound : document.Sound) (apart : document.InputsApart) :
    ∃ library, resolve document = .accept library := by
  refine exists_accept_iff.2 (List.eq_nil_iff_forall_not_mem.2 fun issue reported => ?_)
  exact sound.no_violation issue (reports_violations_iff.2 apart issue reported)

theorem resolve_sound {library : Library α} (h : resolve document = .accept library) :
    document.Sound ∧ document.InputsApart := by
  have linked := resolve_links h
  have written : document.graphs = library.graphs.map (Graph.mapGroup library.groupId) := by
    rw [← linked.kept, Library.graphs_document]
  have groups : document.groups.map Graph.id = library.groups.toList.map Graph.id := by
    simp [← linked.kept, Library.document, Function.comp_def, Graph.mapGroup]
  have accepted : (resolve document).errors = [] := exists_accept_iff.1 ⟨library, h⟩
  refine ⟨⟨(resolve_parts h).1, ?_, ?_⟩, ?_⟩
  · intro graph mem
    obtain ⟨_, groupIds, _, groupsMade, materialsMade⟩ := resolve_parts h
    obtain ⟨_, _, made⟩ := beside_left (resolve_graphs groupsMade materialsMade).flip mem
    exact (resolveGraph_accept made).1
  · intro graph mem node within id names
    rw [written] at mem
    obtain ⟨placed, _, rfl⟩ := List.mem_map.1 mem
    obtain ⟨inner, _, rfl⟩ := List.mem_map.1 within
    obtain ⟨tree, _, rfl⟩ := Node.mapGroup_group names
    rw [groups]
    exact List.mem_map_of_mem (by simp [Vector.get])
  · refine reports_violations_iff.1 fun issue reported => ?_
    rw [accepted] at reported
    cases reported

omit [Arithmetic α] in
/-- A null character joins the parts of a key, so ids without one keep the keys
apart, whatever the sockets are called. -/
theorem inputsApart_of_ids (ids : ∀ graph ∈ document.graphs, ∀ link ∈ graph.links,
    Char.ofNat 0 ∉ link.target.node.toList) : document.InputsApart := by
  intro graph mem link within other within' same
  have chars : link.target.node.toList ++ Char.ofNat 0 :: link.target.socket.toList =
      other.target.node.toList ++ Char.ofNat 0 :: other.target.socket.toList := by
    simpa [inputKey] using congrArg String.toList same
  rcases cut_cases chars with ⟨nodes, sockets⟩ | ⟨rest, longer, _⟩ | ⟨rest, longer, _⟩
  · obtain ⟨⟨_, _⟩, node, socket⟩ := link
    obtain ⟨⟨_, _⟩, node', socket'⟩ := other
    obtain rfl : node = node' := String.toList_inj.1 nodes
    obtain rfl : socket = socket' := String.toList_inj.1 sockets
    rfl
  · exact absurd (by simp [longer]) (ids graph mem other within')
  · exact absurd (by simp [longer]) (ids graph mem link within)

/-- Of a document that could be read, every reported issue is a violation at its
path exactly if no two different inputs that links of a graph end at share a
key, and so it is with loading a document that has no violation. -/
theorem reports_real_iff {data? : Option (Data α)} (hread : read data? = .accept document) :
    ((∀ issue ∈ (load data?).errors, document.Violation issue) ↔ document.InputsApart) ∧
    ((∀ issue, ¬ document.Violation issue) →
      ((∃ library, load data? = .accept library) ↔ document.InputsApart)) := by
  have loading : load data? = resolve document := by
    rw [load, hread, andThen]
  rw [loading, exists_accept_iff]
  refine ⟨reports_violations_iff, fun none => ⟨fun silent => ?_, fun apart => ?_⟩⟩
  · refine reports_violations_iff.1 fun issue reported => ?_
    rw [silent] at reported
    cases reported
  · refine List.eq_nil_iff_forall_not_mem.2 fun issue reported => ?_
    exact none issue (reports_violations_iff.2 apart issue reported)

end Document

/-! A document with a repeated node and a link from nowhere. -/

namespace Faulty

def document : Document Rat where
  groups := []
  materials := [{
    name := "Faulty"
    graph.id := "faulty"
    graph.name := "Faulty"
    graph.nodes := [⟨"out", none, none, .bakeOutput⟩, ⟨"out", none, none, .reroute⟩]
    graph.links := [⟨⟨"half", "Value"⟩, ⟨"out", "Input"⟩⟩] }]

def issues : List Issue :=
  [⟨["materials", "0", "graph", "nodes", "1", "id"], .duplicateNode "out" "faulty"⟩,
    ⟨["materials", "0", "graph", "links", "0", "from", "node"], .noSource "half"⟩]

theorem reads : Document.read (some document.toData) = .accept document := by cbv

theorem reported : (Document.load (some document.toData)).errors = issues := by cbv

theorem reports_real : Document.read (some document.toData) = .accept document ∧
    ∀ issue ∈ issues, document.Violation issue := by
  refine ⟨reads, ?_⟩
  rw [← reported]
  refine (Document.reports_real_iff reads).1.2 (Document.inputsApart_of_ids ?_)
  decide

end Faulty

/-! Two links that end at different inputs of different nodes, of which one has
a null character in its id and the other in the name of its socket. -/

namespace Nulled

def document : Document Rat where
  groups := []
  materials := [{
    name := "Wires"
    graph.id := "wires"
    graph.name := "Wires"
    graph.nodes := [⟨"half", none, none, .value (1 / 2)⟩, ⟨"a\x00b", none, none, .foreign "mixer"⟩,
      ⟨"a", none, none, .foreign "mixer"⟩]
    graph.links := [⟨⟨"half", "Value"⟩, ⟨"a\x00b", "c"⟩⟩, ⟨⟨"half", "Value"⟩, ⟨"a", "b\x00c"⟩⟩] }]

theorem sound : document.Sound where
  distinct := by decide
  linked := by
    intro graph mem
    obtain rfl := List.mem_singleton.1 mem
    exact ⟨by decide, by decide, by decide, by decide⟩
  named := by
    intro graph mem node within id names
    obtain rfl := List.mem_singleton.1 mem
    obtain rfl | rfl | rfl : node = ⟨"half", none, none, .value (1 / 2)⟩ ∨
        node = ⟨"a\x00b", none, none, .foreign "mixer"⟩ ∨
        node = ⟨"a", none, none, .foreign "mixer"⟩ := by
      simpa using within
    all_goals cases names

theorem nulls_reported : Document.read (some document.toData) = .accept document ∧
    (Document.load (some document.toData)).errors =
      [⟨["materials", "0", "graph", "links", "1", "to"], .linkedTwice "a" "b\x00c"⟩] ∧
    ∀ issue, ¬ document.Violation issue :=
  ⟨by cbv, by cbv, sound.no_violation⟩

end Nulled
end ShadeGraph
