import BlockPipeline.Graph.Basic
import BlockPipeline.Spec.Validate

/-!
# Compiling a graph

A compilation takes the nodes of a graph as they are, reduces the handles of its edges to
bare port names, and locks the blocks that the nodes use: each published block once, in the
order in which the nodes first refer to it. A block that is not published is not locked, and
the graph compiles all the same.

Apart from its stamp the result depends on the graph, the snapshot of the registry and the
settings alone.
-/

namespace BlockPipeline

/-- The identity that a compilation gives to its result. -/
structure Stamp where
  id : String
  createdAt : Instant

/-- The settings of a compilation. -/
structure Compiler where
  name : String := "MVP Pipeline"
  description : Option String := none
  runConfig : RunConfig := {}

/-- Keeps the first of several elements with one key. -/
def keepFirst {α : Type} (key : α → String) : List α → List α
  | [] => []
  | a :: rest => a :: (keepFirst key rest).filter fun b => key b != key a

/-- The published versions of the blocks that nodes use, in the order of their first use. -/
def lockBlocks (nodes : List Node) (r : Registry) : List BlockVersion :=
  keepFirst (·.blockId) (nodes.filterMap fun n => r.lookup n.block.blockId)

/-- An edge by the bare names of its ports. -/
def SpecEdge.ofEdge (e : Edge) : SpecEdge :=
  ⟨e.id, ⟨e.source.node, e.source.handle.port⟩, ⟨e.target.node, e.target.handle.port⟩⟩

/-- The nodes and edges of a graph as a specification has them. -/
def SpecGraph.ofGraph (g : Graph) : SpecGraph := ⟨g.nodes, g.edges.map .ofEdge⟩

/-- Compiles a graph against a snapshot of the registry. -/
def Compiler.compile (c : Compiler) (g : Graph) (r : Registry) (stamp : Stamp) : Spec :=
  { specVersion := specVersion
    pipeline :=
      { id := stamp.id, name := c.name, description := c.description, createdAt := stamp.createdAt }
    graph := .ofGraph g
    lockedBlocks := lockBlocks g.nodes r
    runConfig := c.runConfig }

end BlockPipeline
