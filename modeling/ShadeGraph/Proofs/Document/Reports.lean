import ShadeGraph.Proofs.Document.Linked

/-!
# What is reported of a document

A refused check names all faults of its parts. A fault in a list is one of an
item, met after the items before it, and a fault of a document is one of a graph
at a path. So each kind of report says what was found, and where.
-/

namespace ShadeGraph

open Checked

variable {α β ε : Type} {n : Nat}

section
variable {items before after : List β} {item : β}

theorem mem_of_split (split : items = before ++ item :: after) : item ∈ items := by
  rw [split]
  exact List.mem_append_right _ List.mem_cons_self

theorem new_of_split {κ : Type} {key : β → κ} (distinct : (items.map key).Nodup)
    (split : items = before ++ item :: after) : key item ∉ before.map key := by
  rw [split, List.map_append, List.map_cons, List.nodup_middle, List.nodup_cons] at distinct
  exact fun repeats => distinct.1 (List.mem_append_left _ repeats)

/-- A place of a list is known by the number of items before it. -/
theorem split_unique {before' after' : List β} {item' : β}
    (split : items = before ++ item :: after) (split' : items = before' ++ item' :: after')
    (length : toString before.length = toString before'.length) :
    before = before' ∧ item = item' := by
  have same : before.length = before'.length := Nat.repr_inj.1 length
  obtain ⟨heads, tails⟩ := List.append_inj (split.symm.trans split') same
  exact ⟨heads, (List.cons.inj tails).1⟩

end

namespace Checked

theorem exists_accept_iff {x : Checked ε α} : (∃ a, x = accept a) ↔ x.errors = [] := by
  cases x with
  | accept a => exact ⟨fun _ => rfl, fun _ => ⟨a, rfl⟩⟩
  | refuse first rest => exact ⟨fun ⟨_, h⟩ => (by cases h), fun h => (by cases h)⟩

@[simp] theorem errors_pure (a : α) : (pure a : Checked ε α).errors = [] := rfl

@[simp] theorem errors_map (f : α → β) (x : Checked ε α) : (f <$> x).errors = x.errors := by
  cases x <;> rfl

@[simp] theorem errors_seq (f : Checked ε (α → β)) (x : Checked ε α) :
    (f <*> x).errors = f.errors ++ x.errors := by
  cases f with
  | accept f => cases x <;> rfl
  | refuse first rest => cases x <;> rfl

@[simp] theorem errors_seqRight (x : Checked ε α) (y : Checked ε β) :
    (x *> y).errors = x.errors ++ y.errors := by
  cases x with
  | accept a => cases y <;> rfl
  | refuse first rest => cases y <;> rfl

@[simp] theorem errors_mapErrors (f : ε → ε) (x : Checked ε α) :
    (x.mapErrors f).errors = x.errors.map f := by
  cases x <;> rfl

@[simp] theorem mem_errors_require {ok : Bool} {error e : ε} :
    e ∈ (require ok error).errors ↔ ok = false ∧ e = error := by
  cases ok with
  | false => simp [require, errors]
  | true => simp [require, errors]

/-- A fault in a list of items is a fault of one of them, met after the ones
before it. -/
theorem mem_errors_each {check : List α → α → Checked ε β} {earlier items : List α} {e : ε} :
    e ∈ (each check earlier items).errors ↔ ∃ before item after,
      items = before ++ item :: after ∧ e ∈ (check (earlier ++ before) item).errors := by
  induction items generalizing earlier with
  | nil => simp [each, errors]
  | cons first rest ih =>
    rw [each, errors_seq, errors_map, List.mem_append, ih]
    constructor
    · rintro (here | ⟨before, item, after, rfl, there⟩)
      · exact ⟨[], first, rest, rfl, by simpa using here⟩
      · exact ⟨first :: before, item, after, rfl, by simpa using there⟩
    · rintro ⟨before, item, after, split, found⟩
      cases before with
      | nil =>
        cases split
        exact Or.inl (by simpa using found)
      | cons head before =>
        cases split
        exact Or.inr ⟨before, item, after, rfl, by simpa using found⟩

theorem mem_errors_vector {k : Nat} {check : Fin k → Checked ε α} {e : ε} :
    e ∈ (vector check).errors ↔ ∃ i, e ∈ (check i).errors := by
  induction k with
  | zero => simp [vector, errors]
  | succ k ih =>
    rw [vector, errors_seq, errors_map, List.mem_append, ih, Fin.exists_fin_succ']

end Checked

namespace Document

@[simp] theorem mem_errors_under {key : String} {x : Checked Issue β} {issue : Issue} :
    issue ∈ (under key x).errors ↔
      ∃ inner ∈ x.errors, issue = ⟨key :: inner.path, inner.problem⟩ := by
  simp [under, Issue.under, eq_comm]

/-- A graph of a document, its path and the graphs that come before it. -/
inductive Place (document : Document α) : List String → List (Graph α String) →
    Graph α String → Prop
  | group {before after graph} (split : document.groups = before ++ graph :: after) :
    Place document ["groups", toString before.length] before graph
  | material {before after material} (split : document.materials = before ++ material :: after) :
    Place document ["materials", toString before.length, "graph"]
      (document.groups ++ before.map Material.graph) material.graph

section
variable {groupIds : Vector String n} {graph : Graph α String} {issue : Issue}

theorem mem_errors_traverseGroup {resolve : String → Checked Issue (Fin n)}
    {node : Node α String} :
    issue ∈ (node.traverseGroup resolve).errors ↔
      ∃ id, node.body = .group id ∧ issue ∈ (resolve id).errors := by
  obtain ⟨id, label?, inputs?, body⟩ := node
  rw [Node.traverseGroup, errors_map]
  cases body with
  | group tree => simp [NodeBody.traverseGroup]
  | _ => simp [NodeBody.traverseGroup]

theorem resolveNode_reports {earlier : List (Node α String)} {node : Node α String}
    (h : issue ∈ (resolveNode groupIds graph.id earlier node).errors) :
    (node.id ∈ earlier.map Node.id ∧
      issue = ⟨[toString earlier.length, "id"], .duplicateNode node.id graph.id⟩) ∨
    ∃ id, node.body = .group id ∧ id ∉ groupIds.toList ∧
      issue = ⟨[toString earlier.length, "group"], .unknownGroup node.id id⟩ := by
  obtain ⟨inner, reported, rfl⟩ := mem_errors_under.1 h
  rw [errors_seqRight, List.mem_append, mem_errors_require, mem_errors_traverseGroup] at reported
  rcases reported with ⟨repeated, rfl⟩ | ⟨id, names, unresolved⟩
  · exact Or.inl ⟨by simpa using repeated, rfl⟩
  · refine Or.inr ⟨id, names, ?_⟩
    split at unresolved
    · cases unresolved
    · rename_i unknown
      obtain rfl := List.mem_singleton.1 unresolved
      exact ⟨by simpa using unknown, rfl⟩

theorem lastNode?_eq_none {nodes : List (Node α String)} {id : String} :
    lastNode? nodes id = none ↔ id ∉ nodes.map Node.id := by
  simp [lastNode?]

theorem mem_of_lastNode? {nodes : List (Node α String)} {id : String} {node : Node α String}
    (h : lastNode? nodes id = some node) : node ∈ nodes ∧ node.id = id :=
  ⟨List.mem_reverse.1 (List.mem_of_find?_eq_some h), by simpa using List.find?_some h⟩

theorem checkSource_reports {nodes : List (Node α String)} {source : Endpoint}
    (h : issue ∈ (checkSource nodes source).errors) :
    (source.node ∉ nodes.map Node.id ∧ issue = ⟨["from", "node"], .noSource source.node⟩) ∨
    ∃ node ∈ nodes, node.id = source.node ∧ ¬ node.HasOutput source.socket ∧
      issue = ⟨["from", "socket"], .noOutput node.id node.kind source.socket⟩ := by
  unfold checkSource at h
  split at h
  · rename_i absent
    exact Or.inl ⟨lastNode?_eq_none.1 absent, List.mem_singleton.1 h⟩
  · rename_i node found
    obtain ⟨present, named⟩ := mem_of_lastNode? found
    obtain ⟨lacks, rfl⟩ := mem_errors_require.1 h
    exact Or.inr ⟨node, present, named, by simpa [Node.HasOutput] using lacks, rfl⟩

variable [Arithmetic α]

theorem checkTarget_reports {nodes : List (Node α String)} {target : Endpoint}
    (h : issue ∈ (checkTarget nodes target).errors) :
    (target.node ∉ nodes.map Node.id ∧ issue = ⟨["to", "node"], .noTarget target.node⟩) ∨
    ∃ node ∈ nodes, node.id = target.node ∧ ¬ node.HasInput target.socket ∧
      issue = ⟨["to", "socket"], .noInput node.id node.kind target.socket⟩ := by
  unfold checkTarget at h
  split at h
  · rename_i absent
    exact Or.inl ⟨lastNode?_eq_none.1 absent, List.mem_singleton.1 h⟩
  · rename_i node found
    obtain ⟨present, named⟩ := mem_of_lastNode? found
    obtain ⟨lacks, rfl⟩ := mem_errors_require.1 h
    exact Or.inr ⟨node, present, named, by simpa [Node.HasInput] using lacks, rfl⟩

theorem mem_errors_checkLink {earlier : List Link} {link : Link} :
    issue ∈ (checkLink graph.nodes earlier link).errors ↔
      ∃ inner, issue = ⟨toString earlier.length :: inner.path, inner.problem⟩ ∧
        (inner ∈ (checkSource graph.nodes link.source).errors ∨
        inner ∈ (checkTarget graph.nodes link.target).errors ∨
        ((∃ other ∈ earlier, inputKey other.target = inputKey link.target) ∧
          inner = ⟨["to"], .linkedTwice link.target.node link.target.socket⟩)) := by
  simp [checkLink, and_comm]

/-- A link whose key is that of an earlier one is reported. -/
theorem resolveGraph_reports_key {before after : List Link} {link other : Link}
    (place : graph.links = before ++ link :: after) (earlier : other ∈ before)
    (same : inputKey other.target = inputKey link.target) :
    ⟨["links", toString before.length, "to"], .linkedTwice link.target.node link.target.socket⟩ ∈
      (resolveGraph groupIds graph).errors := by
  rw [resolveGraph, errors_seq, List.mem_append]
  have twice : ⟨[toString before.length, "to"],
      .linkedTwice link.target.node link.target.socket⟩ ∈
      (checkLink graph.nodes before link).errors :=
    mem_errors_checkLink.2 ⟨_, rfl, Or.inr (Or.inr ⟨⟨other, earlier, same⟩, rfl⟩)⟩
  exact Or.inr (mem_errors_under.2
    ⟨_, mem_errors_each.2 ⟨before, link, after, place, twice⟩, rfl⟩)

end

section
variable {document : Document α} {issue : Issue}

/-- A place of a vector made of a list is a place of the list. -/
theorem exists_place {items : List β} {P : Nat → β → Prop} :
    (∃ i, P i.val (items.toArray.toVector.get i)) ↔
      ∃ before item after, items = before ++ item :: after ∧ P before.length item := by
  constructor
  · rintro ⟨⟨i, bound⟩, holds⟩
    have inside : i < items.length := bound
    refine ⟨items.take i, items[i], items.drop (i + 1), ?_, ?_⟩
    · rw [List.getElem_cons_drop, List.take_append_drop]
    · rw [List.length_take, Nat.min_eq_left inside.le]
      exact holds
  · rintro ⟨before, item, after, rfl, holds⟩
    refine ⟨⟨before.length, by simp⟩, ?_⟩
    have found :
        (before ++ item :: after).toArray.toVector.get ⟨before.length, by simp⟩ = item := by
      simp [Vector.get]
    rw [found]
    exact holds

theorem mem_errors_distinctGraph {earlier : List String} {id : String} :
    issue ∈ (distinctGraph earlier id).errors ↔
      id ∈ earlier ∧ issue = ⟨["id"], .duplicateGraph id⟩ := by
  simp [distinctGraph]

theorem mem_errors_distinctGraphs : issue ∈ (distinctGraphs document).errors ↔
    ∃ path earlier graph, document.Place path earlier graph ∧ graph.id ∈ earlier.map Graph.id ∧
      issue = ⟨path ++ ["id"], .duplicateGraph graph.id⟩ := by
  simp only [distinctGraphs, errors_seqRight, errors_pure, List.append_nil, List.mem_append,
    mem_errors_under, mem_errors_each, mem_errors_distinctGraph, List.nil_append]
  constructor
  · rintro (⟨_, ⟨before, graph, after, split, _, ⟨repeats, rfl⟩, rfl⟩, rfl⟩ |
      ⟨_, ⟨before, material, after, split, _, ⟨_, ⟨repeats, rfl⟩, rfl⟩, rfl⟩, rfl⟩)
    · exact ⟨_, _, _, .group split, repeats, rfl⟩
    · exact ⟨_, _, _, .material split, by simpa using repeats, rfl⟩
  · rintro ⟨_, _, _, place, repeats, rfl⟩
    cases place with
    | group split => exact Or.inl ⟨_, ⟨_, _, _, split, _, ⟨repeats, rfl⟩, rfl⟩, rfl⟩
    | material split =>
      exact Or.inr ⟨_, ⟨_, _, _, split, _, ⟨_, ⟨by simpa using repeats, rfl⟩, rfl⟩, rfl⟩, rfl⟩

/-- The graphs of a document, cut where a graph stands. -/
theorem Place.graphs_eq {path : List String} {earlier : List (Graph α String)}
    {graph : Graph α String} (place : document.Place path earlier graph) :
    ∃ later, document.graphs = earlier ++ graph :: later := by
  cases place with
  | @group before after graph split =>
    refine ⟨after ++ document.materials.map Material.graph, ?_⟩
    simp [graphs, split]
  | @material before after material split =>
    refine ⟨after.map Material.graph, ?_⟩
    simp [graphs, split]

theorem Place.mem_graphs {path : List String} {earlier : List (Graph α String)}
    {graph : Graph α String} (place : document.Place path earlier graph) :
    graph ∈ document.graphs := by
  obtain ⟨later, cut⟩ := place.graphs_eq
  exact mem_of_split cut

theorem exists_place_of_mem {graph : Graph α String} (mem : graph ∈ document.graphs) :
    ∃ path earlier, document.Place path earlier graph := by
  rcases List.mem_append.1 mem with inGroups | inMaterials
  · obtain ⟨before, after, split⟩ := List.append_of_mem inGroups
    exact ⟨_, _, .group split⟩
  · obtain ⟨material, listed, rfl⟩ := List.mem_map.1 inMaterials
    obtain ⟨before, after, split⟩ := List.append_of_mem listed
    exact ⟨_, _, .material split⟩

/-- The path of an issue tells the graph that it is in. -/
theorem Place.unique {path path' rest rest' : List String}
    {earlier earlier' : List (Graph α String)}
    {graph graph' : Graph α String} (place : document.Place path earlier graph)
    (place' : document.Place path' earlier' graph') (same : path ++ rest = path' ++ rest') :
    graph = graph' ∧ rest = rest' := by
  cases place with
  | group split =>
    cases place' with
    | group split' =>
      simp only [List.cons_append, List.nil_append, List.cons.injEq, true_and] at same
      exact ⟨(split_unique split split' same.1).2, same.2⟩
    | material split' => simp at same
  | material split =>
    cases place' with
    | group split' => simp at same
    | material split' =>
      simp only [List.cons_append, List.nil_append, List.cons.injEq, true_and] at same
      obtain rfl := (split_unique split split' same.1).2
      exact ⟨rfl, same.2⟩

end

variable [Arithmetic α] {document : Document α} {issue : Issue}

/-- What is reported of a document is reported of one of its graphs: that its id
is not new, or something inside of it. -/
theorem mem_errors_resolve : issue ∈ (resolve document).errors ↔
    ∃ path earlier graph, document.Place path earlier graph ∧
      ((graph.id ∈ earlier.map Graph.id ∧
        issue = ⟨path ++ ["id"], .duplicateGraph graph.id⟩) ∨
      ∃ inner ∈ (resolveGraph (document.groups.toArray.toVector.map Graph.id) graph).errors,
        issue = ⟨path ++ inner.path, inner.problem⟩) := by
  simp only [resolve, errors_seqRight, errors_seq, errors_map, List.mem_append,
    mem_errors_distinctGraphs, mem_errors_under, mem_errors_vector, mem_errors_each,
    resolveMaterial, List.nil_append]
  let inGroup (i : Nat) (graph : Graph α String) : Prop :=
    ∃ inner ∈ (resolveGraph (document.groups.toArray.toVector.map Graph.id) graph).errors,
      issue = ⟨"groups" :: toString i :: inner.path, inner.problem⟩
  constructor
  · rintro (⟨path, earlier, graph, place, repeats, rfl⟩ | ⟨_, ⟨i, inner, reported, rfl⟩, rfl⟩ |
      ⟨_, ⟨before, material, after, split, _, ⟨inner, reported, rfl⟩, rfl⟩, rfl⟩)
    · exact ⟨path, earlier, graph, place, Or.inl ⟨repeats, rfl⟩⟩
    · obtain ⟨before, graph, after, split, inside⟩ :=
        exists_place (P := inGroup).1 ⟨i, inner, reported, rfl⟩
      exact ⟨_, _, _, .group split, Or.inr inside⟩
    · exact ⟨_, _, _, .material split, Or.inr ⟨inner, reported, rfl⟩⟩
  · rintro ⟨path, earlier, graph, place, ⟨repeats, rfl⟩ | ⟨inner, reported, rfl⟩⟩
    · exact Or.inl ⟨path, earlier, graph, place, repeats, rfl⟩
    · cases place with
      | group split =>
        obtain ⟨i, inner, reported, same⟩ := exists_place (P := inGroup).2
          ⟨_, _, _, split, inner, reported, rfl⟩
        exact Or.inr (Or.inl ⟨_, ⟨i, inner, reported, rfl⟩, same⟩)
      | material split =>
        exact Or.inr (Or.inr ⟨_, ⟨_, _, _, split, _, ⟨inner, reported, rfl⟩, rfl⟩, rfl⟩)

end Document
end ShadeGraph
