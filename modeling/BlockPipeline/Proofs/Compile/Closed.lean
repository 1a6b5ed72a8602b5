import BlockPipeline.Compile
import BlockPipeline.Proofs.Graph.WellFormed

/-!
# Compiled specifications are closed

No rule of a specification looks at the ends of its edges, so that they name ports of its own nodes
rests on the graph it was compiled from. Compiling takes the side off each handle. In a well-formed
graph the side is known from the end at which the handle stands, so it can be put on again
(`tagged`): nothing of the graph is lost, and two edges that differ still differ.

| Statement | In words | From |
| --- | --- | --- |
| `WellFormed.tagged_edges` | the edges with their sides put on again are those of the graph | `tagged_ofEdge` |
| `WellFormed.closed` | every edge joins ports of two nodes that are there, and no two edges the same ports | `WellFormed.edge_nodes` |
| `compile_closed` | both about whatever is compiled from a reachable graph | `Reachable.wellFormed` |
-/

set_option autoImplicit false

namespace BlockPipeline

/-! ## The side of a handle -/

/-- The edge with the side of each port put on: it leads from an output to an input. -/
def SpecEdge.tagged (e : SpecEdge) : Edge :=
  ⟨e.id, ⟨e.source.node, .output e.source.port⟩, ⟨e.target.node, .input e.target.port⟩⟩

/-- An edge from an output to an input loses nothing. -/
theorem SpecEdge.tagged_ofEdge {e : Edge} (source : e.source.handle.side = some .output)
    (target : e.target.handle.side = some .input) : (ofEdge e).tagged = e := by
  obtain ⟨id, ⟨before, ⟨_, output⟩⟩, ⟨behind, ⟨_, input⟩⟩⟩ := e
  cases source
  cases target
  rfl

/-- **A closed specification**: every edge joins an output and an input of two of its nodes, and no
two edges join the same ports. -/
structure SpecGraph.Closed (s : SpecGraph) : Prop where
  nodeIds : (s.nodes.map (·.id)).Nodup
  edgeIds : (s.edges.map (·.id)).Nodup
  /-- No connection is made twice. -/
  ends : s.edges.Pairwise fun e f => ¬ (e.source = f.source ∧ e.target = f.target)
  /-- The first output and the first input under the names of the ports have one type. -/
  joined : ∀ e ∈ s.edges, ∃ n ∈ s.nodes, ∃ m ∈ s.nodes,
    n.id = e.source.node ∧ m.id = e.target.node ∧ n.id ≠ m.id ∧
    ∃ a b, n.output? e.source.port = some a ∧ m.input? e.target.port = some b ∧
      a.portType = b.portType

namespace Graph

/-! ## The specification of a well-formed graph -/

/-- **With their sides put on again, the compiled edges are those of the graph.** -/
theorem WellFormed.tagged_edges {g : Graph} (wf : g.WellFormed) :
    (SpecGraph.ofGraph g).edges.map SpecEdge.tagged = g.edges := by
  have each : ∀ e ∈ g.edges, (SpecEdge.ofEdge e).tagged = e := fun e he =>
    SpecEdge.tagged_ofEdge (wf.joinable e he).sourceSide (wf.joinable e he).targetSide
  rw [SpecGraph.ofGraph, List.map_map]
  exact (List.map_congr_left each).trans (List.map_id _)

/-- Well-formed graphs that are compiled alike have the same nodes and edges. -/
theorem WellFormed.ofGraph_inj {g h : Graph} (wg : g.WellFormed) (wh : h.WellFormed)
    (same : SpecGraph.ofGraph h = SpecGraph.ofGraph g) : h.nodes = g.nodes ∧ h.edges = g.edges := by
  refine ⟨congrArg SpecGraph.nodes same, ?_⟩
  rw [← wh.tagged_edges, same, wg.tagged_edges]

/-- **A well-formed graph is compiled to a closed specification.** -/
theorem WellFormed.closed {g : Graph} (wf : g.WellFormed) : (SpecGraph.ofGraph g).Closed where
  nodeIds := wf.nodeIds
  edgeIds := by
    rw [SpecGraph.ofGraph, List.map_map]
    exact wf.edgeIds
  ends := by
    -- edges with the same bare ports would have the same ends once these have their sides
    have differ : ((SpecGraph.ofGraph g).edges.map SpecEdge.tagged).Pairwise
        fun e f => e.ends ≠ f.ends := by
      rw [wf.tagged_edges]
      exact List.pairwise_map.mp wf.ends
    refine (List.pairwise_map.mp differ).imp fun differ same => differ ?_
    simp only [Edge.ends, SpecEdge.tagged, same.1, same.2]
  joined e he := by
    obtain ⟨f, hf, rfl⟩ := List.mem_map.mp he
    exact wf.edge_nodes hf

/-! ## Compiling reachable graphs -/

/-- **A compiled specification is closed and loses nothing of the graph.** Its nodes are those of the
graph in their order, its edges join ports of these nodes, and with their sides put on again they
are the edges of the graph. So reachable graphs that are compiled to the same nodes and edges, under
whatever settings, snapshots and stamps, have the same nodes and edges. -/
theorem compile_closed {g : Graph} (reached : g.Reachable) (c : Compiler) (r : Registry)
    (stamp : Stamp) :
    (c.compile g r stamp).graph.nodes = g.nodes ∧
    (c.compile g r stamp).graph.Closed ∧
    (c.compile g r stamp).graph.edges.map SpecEdge.tagged = g.edges ∧
    ∀ (h : Graph) (c' : Compiler) (r' : Registry) (stamp' : Stamp), h.Reachable →
      (c'.compile h r' stamp').graph = (c.compile g r stamp).graph →
        h.nodes = g.nodes ∧ h.edges = g.edges := by
  have wf := reached.wellFormed
  refine ⟨rfl, wf.closed, wf.tagged_edges, ?_⟩
  intro h c' r' stamp' reachedToo same
  exact wf.ofGraph_inj reachedToo.wellFormed same

/-- The two ends of the history below, with two outputs of one name. -/
def pairedBody : NodeBody :=
  { kind := .fusion
    block := ⟨"fusions.concat", "1.0.0"⟩
    inputs := [{ name := "in:x", portType := "text" }]
    outputs := [{ name := "x", portType := "text" }, { name := "x", portType := "image" }] }

/-- Two nodes and the edge between them. -/
def pairedHistory : List Edit :=
  [.insert "a" pairedBody, .insert "b" pairedBody, .connect (.between "a" "x" "b" "in:x")]

/-- The edge of the pair comes back with its sides; a history that asks for it once more in vain and
takes a third node away again is compiled to the same, and so has led to the same edge. -/
theorem compile_closed_paired :
    ((({} : Compiler).compile (empty.run pairedHistory) .empty ⟨"p", default⟩).graph.edges.map
      SpecEdge.tagged).map Edge.ends = [(⟨"a", .output "x"⟩, ⟨"b", .input "in:x"⟩)] ∧
    (empty.run (pairedHistory ++ [.connect (.between "a" "x" "b" "in:x"), .insert "c" pairedBody,
      .connect (.between "c" "x" "b" "in:x"), .remove "c"])).edges =
        (empty.run pairedHistory).edges := by
  obtain ⟨-, -, tagged, unique⟩ :=
    compile_closed ⟨pairedHistory, rfl⟩ {} .empty ⟨"p", default⟩
  constructor
  · rw [tagged]
    decide
  · exact (unique _ {} .empty ⟨"q", default⟩ ⟨_, rfl⟩ rfl).2

end Graph

end BlockPipeline
