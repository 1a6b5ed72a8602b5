import BlockPipeline.Diagnose
import BlockPipeline.Proofs.Graph.Search

/-!
# What findings depend on

A finding speaks of nodes and of what joins them, never of the id of an edge. So graphs with the
same nodes whose edges have the same ends, in the same order, have the same findings against every
snapshot of the registry. The search for a cycle is where this takes an induction: its steps read
the graph through `successors` alone, and the bound on its depth through the number of edges
(`findCycle?_congr`).
-/

set_option autoImplicit false

namespace BlockPipeline

namespace Graph

/-- **The same wiring**: graphs that may differ in the ids of their edges, and in the ids that were
given, but in nothing else. -/
structure SameWiring (g h : Graph) : Prop where
  nodes : g.nodes = h.nodes
  ends : g.edges.map Edge.ends = h.edges.map Edge.ends

namespace SameWiring

variable {g h : Graph}

theorem edges_length (same : g.SameWiring h) : g.edges.length = h.edges.length := by
  have lengths := congrArg List.length same.ends
  rwa [List.length_map, List.length_map] at lengths

/-- Asked for something about the ends of their edges, both answer the same. -/
theorem map_filter (same : g.SameWiring h) {α : Type} (p : Endpoint × Endpoint → Bool)
    (f : Endpoint × Endpoint → α) :
    (g.edges.filter fun e => p e.ends).map (fun e => f e.ends) =
      (h.edges.filter fun e => p e.ends).map fun e => f e.ends := by
  have read : ∀ edges : List Edge, (edges.filter fun e => p e.ends).map (fun e => f e.ends) =
      ((edges.map Edge.ends).filter p).map f := fun edges => by
    rw [List.filter_map, List.map_map]
    rfl
  rw [read, read, same.ends]

/-- The same sources feed each input. -/
theorem feeds (same : g.SameWiring h) (node port : String) :
    BlockPipeline.feeds g node port = BlockPipeline.feeds h node port :=
  same.map_filter (fun ends => ends.2.node == node && ends.2.handle.port == port) (·.1.node)

/-- The same arcs leave each node. -/
theorem successors (same : g.SameWiring h) (id : String) : g.successors id = h.successors id :=
  same.map_filter (fun ends => ends.1.node == id) (·.2.node)

/-- The same cycle is found. -/
theorem findCycle? (same : g.SameWiring h) : g.findCycle? = h.findCycle? :=
  findCycle?_congr (congrArg (·.map (·.id)) same.nodes) same.successors same.edges_length

/-- **The same wiring has the same findings.** -/
theorem diagnose (same : g.SameWiring h) (r : Registry) :
    BlockPipeline.diagnose g r = BlockPipeline.diagnose h r := by
  have wiring : wiringFindings g = wiringFindings h := by
    funext n
    simp only [wiringFindings, inputFindings, same.feeds]
  have cycles : cycleFindings g = cycleFindings h := by
    rw [cycleFindings, same.findCycle?, cycleFindings]
  rw [BlockPipeline.diagnose, same.nodes, wiring, cycles, BlockPipeline.diagnose]

end SameWiring

end Graph

end BlockPipeline
