import ShadeGraph.Document.Write
import ShadeGraph.Mesh.Context
import ShadeGraph.Number.Exact
import ShadeGraph.Proofs.Document.Resolved
import ShadeGraph.Proofs.Graph.Keys

/-!
# Loaded libraries

What loading promises of every graph of a library: no other graph has its id,
the source of every link is a node of it, and its settings stand in the tables.
-/

namespace ShadeGraph

open Checked

variable {α ρ : Type} {n : Nat}

/-- What loading promises of a graph on its own. -/
structure Graph.WellFormed (graph : Graph α ρ) : Prop where
  sourced : ∀ link ∈ graph.links, ∃ node, graph.findNode? link.source.node = some node
  listed : graph.Listed

namespace Library

structure WellFormed (library : Library α) : Prop where
  distinct : (library.graphs.map Graph.id).Nodup
  graph : ∀ graph ∈ library.graphs, graph.WellFormed

/-- The ids of a library hold no slash. -/
def Unslashed (library : Library α) : Prop := ∀ graph ∈ library.graphs, graph.Unslashed

/-- The id that group nodes of a document name a group by. -/
def groupId (library : Library α) (place : Fin library.groupCount) : String :=
  (library.groups.get place).id

variable {library : Library α} {material : Material α (Fin library.groupCount)}

theorem groupId_injective (distinct : (library.graphs.map Graph.id).Nodup) :
    Function.Injective library.groupId := by
  intro i j same
  rw [graphs, List.map_append] at distinct
  have groups : (library.groups.toList.map Graph.id).Nodup := distinct.of_append_left
  have here : i.val < (library.groups.toList.map Graph.id).length := by simp
  have there : j.val < (library.groups.toList.map Graph.id).length := by simp
  have index : (library.groups.toList.map Graph.id)[i.val] =
      (library.groups.toList.map Graph.id)[j.val] := by
    rw [List.getElem_map, List.getElem_map]
    exact same
  exact Fin.ext (groups.getElem_inj_iff.1 index)

theorem mem_graphs_of_family (mem : material ∈ library.materials)
    (site : Site library.groupCount) : (library.family material).graph site ∈ library.graphs := by
  cases site with
  | root => exact List.mem_append_right _ (List.mem_map_of_mem mem)
  | group i =>
    refine List.mem_append_left _ ?_
    simp [family, Family.graph, Vector.get]

namespace WellFormed

variable (formed : library.WellFormed) (mem : material ∈ library.materials)

include formed mem

theorem family_graph (site : Site library.groupCount) :
    ((library.family material).graph site).WellFormed :=
  formed.graph _ (mem_graphs_of_family mem site)

theorem distinct_places (site place : Site library.groupCount)
    (same : ((library.family material).graph site).id =
      ((library.family material).graph place).id) : site = place := by
  have injective := groupId_injective formed.distinct
  have distinct := formed.distinct
  rw [graphs, List.map_append, List.nodup_append] at distinct
  have apart (i : Fin library.groupCount) : library.groupId i ≠ material.graph.id := by
    refine distinct.2.2 _ (List.mem_map_of_mem ?_) _
      (List.mem_map_of_mem (List.mem_map_of_mem mem))
    simp [Vector.get]
  cases site with
  | root =>
    cases place with
    | root => rfl
    | group j => exact absurd same.symm (apart j)
  | group i =>
    cases place with
    | root => exact absurd same (apart i)
    | group j => rw [injective same]

theorem keyed (unslashed : library.Unslashed) : (library.family material).Keyed where
  unslashed site := unslashed _ (mem_graphs_of_family mem site)
  distinct := formed.distinct_places mem

end WellFormed
end Library

namespace Document

variable [Arithmetic α]

/-- The nodes that links start from are found by their ids. -/
theorem resolveGraph_wellFormed {groupIds : Vector String n} {graph : Graph α String}
    {graph' : Graph α (Fin n)} (h : resolveGraph groupIds graph = .accept graph')
    (listed : graph.Listed) : graph'.WellFormed := by
  obtain ⟨linked, back⟩ := resolveGraph_accept h
  constructor
  · intro link mem
    have linked' : graph'.Linked := Graph.linked_of_mapGroup (back.symm ▸ linked)
    exact linked'.sourced mem
  · exact Graph.listed_of_mapGroup (back.symm ▸ listed)

theorem resolve_accept {document : Document α} {library : Library α}
    (listed : ∀ graph ∈ document.graphs, graph.Listed)
    (h : resolve document = .accept library) : library.WellFormed := by
  obtain ⟨distinct, groupIds, _, groups, materials⟩ := resolve_parts h
  have graphs := resolve_graphs groups materials
  constructor
  · rw [beside_map_eq graphs resolveGraph_id]
    exact distinct
  · intro graph' mem
    obtain ⟨graph, present, resolved⟩ := beside_left graphs mem
    exact resolveGraph_wellFormed resolved (listed graph present)

theorem load_wellFormed {data? : Option (Data α)} {library : Library α}
    (h : load data? = .accept library) : library.WellFormed := by
  obtain ⟨document, hread, hresolve⟩ := andThen_eq_accept.1 h
  exact resolve_accept (read_listed hread) hresolve

end Document

/-! A library of two materials that share a group: one output of the group
passes an input on, the other needs none. -/

namespace Sample

def pass : Graph Rat (Fin 1) where
  id := "pass"
  name := "Pass"
  nodes := [⟨"in", none, none, .groupInput⟩, ⟨"half", none, none, .value (1 / 2)⟩,
    ⟨"end", none, none, .groupOutput none⟩]
  links := [⟨⟨"half", "Value"⟩, ⟨"end", "P"⟩⟩, ⟨⟨"in", "X"⟩, ⟨"end", "Q"⟩⟩]

/-- The output that passes an input on is fed by the one that needs none. -/
def looped : Material Rat (Fin 1) where
  name := "Looped"
  graph.id := "looped"
  graph.name := "Looped"
  graph.nodes := [⟨"out", none, none, .bakeOutput⟩, ⟨"sum", none, none, .math "ADD" false⟩,
    ⟨"bend", none, none, .reroute⟩, ⟨"pair", none, none, .group 0⟩]
  graph.links := [⟨⟨"sum", "Value"⟩, ⟨"out", "Alpha"⟩⟩, ⟨⟨"bend", "Output"⟩, ⟨"sum", "A"⟩⟩,
    ⟨⟨"pair", "Q"⟩, ⟨"sum", "B"⟩⟩, ⟨⟨"pair", "P"⟩, ⟨"bend", "Input"⟩⟩,
    ⟨⟨"bend", "Output"⟩, ⟨"pair", "X"⟩⟩]

def masked : Material Rat (Fin 1) where
  name := "Masked"
  graph.id := "masked"
  graph.name := "Masked"
  graph.nodes := [⟨"out", none, none, .bakeOutput⟩, ⟨"mask", none, none, .attribute "mask" none⟩,
    ⟨"pair", none, none, .group 0⟩]
  graph.links := [⟨⟨"mask", "Fac"⟩, ⟨"pair", "X"⟩⟩, ⟨⟨"pair", "Q"⟩, ⟨"out", "Alpha"⟩⟩,
    ⟨⟨"pair", "P"⟩, ⟨"out", "Color"⟩⟩]

def library : Library Rat := ⟨1, #v[pass], [looped, masked]⟩

/-- A mesh of two elements with one layer. -/
def context : Context Rat 2 := ⟨[("mask", .scalar #v[1 / 4, 3 / 4])], none, none⟩

/-- Rationals have no elementary functions. The samples use none, so anything
may stand for them. -/
@[reducible] def elementary : Elementary Rat where
  pi := 3
  sqrt x := x
  pow x _ := x
  exp x := x
  log x := x
  sin x := x
  cos x := x
  tan x := x
  asin x := x
  acos x := x
  atan x := x
  atan2 x _ := x
  sinh x := x
  cosh x := x
  tanh x := x

theorem looped_mem : looped ∈ library.materials := List.mem_cons_self

theorem masked_mem : masked ∈ library.materials := List.mem_cons_of_mem _ List.mem_cons_self

theorem loads : Document.load (some library.toData) = .accept library := by cbv

theorem unslashed : library.Unslashed := by
  unfold Library.Unslashed Graph.Unslashed Unslashed
  decide +kernel

end Sample
end ShadeGraph
