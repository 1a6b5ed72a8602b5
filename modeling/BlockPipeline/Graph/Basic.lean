import BlockPipeline.Graph.Edge

/-!
# Graphs

A graph is the pipeline while it is being edited: its nodes and its edges in the order in
which they were added, and every id that was ever given to one of its nodes. An id stays
given when its node is removed and when the graph is cleared, so no id ever names two nodes.

Ids of new nodes come from a supply of suffixes that the caller draws at random. What is
drawn is an argument here: `freshId?` takes the first drawn suffix whose id was not given
before, and there is no id if none of them will do.
-/

namespace BlockPipeline

/-- A pipeline under construction. -/
structure Graph where
  nodes : List Node := []
  edges : List Edge := []
  /-- Every id that was ever given. -/
  issued : List String := []

namespace Graph

def empty : Graph := {}

instance : Inhabited Graph := ⟨empty⟩

/-! ## Looking things up -/

/-- The node with an id. -/
def node? (g : Graph) (id : String) : Option Node := g.nodes.find? (·.id == id)

/-- The edge with an id. -/
def edge? (g : Graph) (id : String) : Option Edge := g.edges.find? (·.id == id)

/-- The edges that end at a node. -/
def incoming (g : Graph) (id : String) : List Edge := g.edges.filter (·.target.node == id)

/-- The edges that start at a node. -/
def outgoing (g : Graph) (id : String) : List Edge := g.edges.filter (·.source.node == id)

def isEmpty (g : Graph) : Bool := g.nodes.isEmpty

def nodeIds (g : Graph) : List String := g.nodes.map (·.id)

def edgeIds (g : Graph) : List String := g.edges.map (·.id)

/-! ## Adding and removing nodes -/

/-- The graph with a node behind the others, its id being given from now on. -/
def push (g : Graph) (n : Node) : Graph :=
  { g with nodes := g.nodes ++ [n], issued := n.id :: g.issued }

/-- The id made of a stem and a suffix. -/
def idOf (stem suffix : String) : String := stem ++ "_" ++ suffix

/-- The id of the first drawn suffix that was not given before, and the draws behind it. -/
def freshId? (g : Graph) (stem : String) : List String → Option (String × List String)
  | [] => none
  | suffix :: draws =>
    if g.issued.contains (idOf stem suffix) then g.freshId? stem draws
    else some (idOf stem suffix, draws)

/-- Places a node under a fresh id. -/
def add? (g : Graph) (stem : String) (draws : List String) (body : NodeBody) :
    Option (Node × Graph) :=
  (g.freshId? stem draws).map fun (id, _) => (⟨body, id⟩, g.push ⟨body, id⟩)

/-- Places a node under an id of the caller's choice; nothing if the id was given before. -/
def insert? (g : Graph) (id : String) (body : NodeBody) : Option Graph :=
  if g.issued.contains id then none else some (g.push ⟨body, id⟩)

/-- Removes a node and every edge that touches it. -/
def remove? (g : Graph) (id : String) : Option (Node × Graph) :=
  (g.node? id).map fun n =>
    (n, { g with
      nodes := g.nodes.eraseP (·.id == id)
      edges := g.edges.filter fun e => !e.touches id })

/-- Removes one edge. -/
def disconnect? (g : Graph) (id : String) : Option (Edge × Graph) :=
  (g.edge? id).map fun e => (e, { g with edges := g.edges.eraseP (·.id == id) })

/-- Removes all nodes and edges; the ids stay given. -/
def clear (g : Graph) : Graph := { g with nodes := [], edges := [] }

/-! ## Changing a node -/

/-- Changes the first node with an id. -/
def modifyNode (id : String) (f : Node → Node) : List Node → List Node
  | [] => []
  | n :: nodes => if n.id == id then f n :: nodes else n :: modifyNode id f nodes

/-- Edits a node's configuration. -/
def configure (g : Graph) (id : String) (f : Config → Config) : Graph :=
  { g with nodes := modifyNode id (fun n => { n with config := f n.config }) g.nodes }

/-- Moves a node on the canvas. -/
def move (g : Graph) (id : String) (position : Position) : Graph :=
  { g with nodes := modifyNode id (fun n => { n with position := position }) g.nodes }

end Graph

end BlockPipeline
