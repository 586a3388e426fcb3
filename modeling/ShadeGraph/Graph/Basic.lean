import ShadeGraph.Node.Basic

/-! Material graphs: nodes, and links from output sockets to input sockets.
Where a graph lists something twice, the first one counts. -/

namespace ShadeGraph

structure Endpoint where
  node : String
  socket : String
deriving DecidableEq

structure Link where
  source : Endpoint
  target : Endpoint
deriving DecidableEq

structure Graph (α ρ : Type) where
  id : String
  name : String
  nodes : List (Node α ρ)
  links : List Link
deriving DecidableEq

structure Material (α ρ : Type) where
  name : String
  graph : Graph α ρ
deriving DecidableEq

namespace Graph

variable {α ρ : Type}

def findNode? (graph : Graph α ρ) (id : String) : Option (Node α ρ) :=
  graph.nodes.find? (·.id == id)

/-- The link that ends at an input socket. -/
def linkTo? (graph : Graph α ρ) (target : Endpoint) : Option Link :=
  graph.links.find? (·.target = target)

/-- The node whose inputs are the outputs of the graph as a group: the first
group output not marked inactive. -/
def activeOutput? (graph : Graph α ρ) : Option (Node α ρ) :=
  graph.nodes.find? fun node =>
    match node.body with
    | .groupOutput active? => active? ≠ some false
    | _ => false

def bakeOutput? (graph : Graph α ρ) : Option (Node α ρ) :=
  graph.nodes.find? (·.kind = .bakeOutput)

/-- Names a node across graphs. -/
def nodeKey (graph : Graph α ρ) (id : String) : String := s!"{graph.id}/{id}"

/-- Adding a node to a graph that has one of the same id. -/
structure DuplicateNode where
  graph : String
  node : String
deriving DecidableEq

def DuplicateNode.message (e : DuplicateNode) : String :=
  s!"Duplicate Node ID '{e.node}' in graph '{e.graph}'"

def empty (id name : String) : Graph α ρ := ⟨id, name, [], []⟩

def addNode (graph : Graph α ρ) (node : Node α ρ) : Except DuplicateNode (Graph α ρ) :=
  if graph.nodes.any (·.id == node.id) then .error ⟨graph.id, node.id⟩
  else .ok { graph with nodes := graph.nodes ++ [node] }

def addLink (graph : Graph α ρ) (link : Link) : Graph α ρ :=
  { graph with links := graph.links ++ [link] }

end Graph
end ShadeGraph
