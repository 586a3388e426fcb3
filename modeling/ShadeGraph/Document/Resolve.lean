import ShadeGraph.Document.Basic
import ShadeGraph.Document.Checked
import ShadeGraph.Document.Issue
import ShadeGraph.Document.Read

/-!
# Resolving a document

The checks that look beyond a single value, and the references of group nodes
turned into places. Graph ids are distinct over the whole document, node ids
within a graph; links end at nodes of their graph and at sockets that those
declare, no two at one input; a group node names a group of the document.
-/

namespace ShadeGraph.Document

variable {α : Type}

def distinctGraph (earlier : List String) (id : String) : Checked Issue Unit :=
  Checked.require (!earlier.contains id) ⟨["id"], .duplicateGraph id⟩

def resolveNode {n : Nat} (groupIds : Vector String n) (graphId : String)
    (earlier : List (Node α String)) (node : Node α String) :
    Checked Issue (Node α (Fin n)) :=
  let resolve (group : String) : Checked Issue (Fin n) :=
    match groupIds.finIdxOf? group with
    | some place => pure place
    | none => .refuse ⟨["group"], .unknownGroup node.id group⟩ []
  under (toString earlier.length) <|
    Checked.require (!earlier.any (·.id == node.id)) ⟨["id"], .duplicateNode node.id graphId⟩ *>
      node.traverseGroup resolve

/-- Tells the inputs of a graph apart: node and socket, joined by a null
character. -/
def inputKey (target : Endpoint) : String := target.node ++ "\x00" ++ target.socket

/-- The last node of an id is the one that links are checked against. -/
def lastNode? (nodes : List (Node α String)) (id : String) : Option (Node α String) :=
  nodes.reverse.find? (·.id == id)

variable [Arithmetic α]

def checkSource (nodes : List (Node α String)) (source : Endpoint) : Checked Issue Unit :=
  match lastNode? nodes source.node with
  | none => .refuse ⟨["from", "node"], .noSource source.node⟩ []
  | some node =>
    Checked.require (node.kind.isDynamic || node.kind.outputs.contains source.socket)
      ⟨["from", "socket"], .noOutput node.id node.kind source.socket⟩

def checkTarget (nodes : List (Node α String)) (target : Endpoint) : Checked Issue Unit :=
  match lastNode? nodes target.node with
  | none => .refuse ⟨["to", "node"], .noTarget target.node⟩ []
  | some node =>
    Checked.require
      (node.kind.isDynamic || (node.kind.inputs (α := α)).any (·.name == target.socket))
      ⟨["to", "socket"], .noInput node.id node.kind target.socket⟩

def checkLink (nodes : List (Node α String)) (earlier : List Link) (link : Link) :
    Checked Issue Link :=
  under (toString earlier.length) <|
    checkSource nodes link.source *> checkTarget nodes link.target *>
      Checked.require (!earlier.any (inputKey ·.target == inputKey link.target))
        ⟨["to"], .linkedTwice link.target.node link.target.socket⟩ *>
      pure link

def resolveGraph {n : Nat} (groupIds : Vector String n) (graph : Graph α String) :
    Checked Issue (Graph α (Fin n)) :=
  Graph.mk graph.id graph.name
    <$> under "nodes" (Checked.each (resolveNode groupIds graph.id) [] graph.nodes)
    <*> under "links" (Checked.each (checkLink graph.nodes) [] graph.links)

/-- The graphs of a document count as listed groups first. -/
def distinctGraphs (document : Document α) : Checked Issue Unit :=
  let groupIds := document.groups.map Graph.id
  under "groups" (Checked.each (fun earlier graph =>
      under (toString earlier.length) (distinctGraph (earlier.map Graph.id) graph.id))
    [] document.groups) *>
  under "materials" (Checked.each (fun earlier material =>
      under (toString earlier.length) <| under "graph" <|
        distinctGraph (groupIds ++ earlier.map (·.graph.id)) material.graph.id)
    [] document.materials) *>
  pure ()

def resolveMaterial {n : Nat} (groupIds : Vector String n)
    (earlier : List (Material α String)) (material : Material α String) :
    Checked Issue (Material α (Fin n)) :=
  under (toString earlier.length) <| under "graph" <|
    Material.mk material.name <$> resolveGraph groupIds material.graph

def resolve (document : Document α) : Checked Issue (Library α) :=
  let groups := document.groups.toArray.toVector
  let groupIds := groups.map Graph.id
  distinctGraphs document *>
    (Library.mk groups.size
      <$> under "groups" (Checked.vector fun i =>
        under (toString i.val) (resolveGraph groupIds (groups.get i)))
      <*> under "materials" (Checked.each (resolveMaterial groupIds) [] document.materials))

/-- A document is resolved only when nothing is wrong with its structure. -/
def load (data? : Option (Data α)) : Checked Issue (Library α) :=
  (read data?).andThen resolve

end ShadeGraph.Document
