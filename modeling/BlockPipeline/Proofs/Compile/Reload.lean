import BlockPipeline.Proofs.Compile.Closed
import BlockPipeline.Proofs.Draft.Reload

/-!
# What a reloaded draft is compiled to

A draft does not hold the ids of edges, and a specification does. So a graph that is saved and loaded
is compiled to the same specification but for the ids of its edges, and to the very same one exactly
if loading finds these ids again, that is, if the edges are numbered in order. A history can lead
elsewhere: an edge keeps the number by which it gave way to one that is gone.

| Statement | In words | From |
| --- | --- | --- |
| `SameWiring.compile` | graphs with the same wiring are compiled alike but for the ids of edges | `SameWiring` |
| `compile_eq_iff` | they are compiled to the same exactly if their nodes and edges are the same | `WellFormed.ofGraph_inj` |
| `compile_reloaded` | both about a graph that is saved and loaded | `load_anew`, `joinInOrder_eq_iff` |
| `not_compile_reloaded` | not every such graph is compiled to the same | a history with a removal |
-/

set_option autoImplicit false

namespace BlockPipeline

/-! ## Specifications without the ids of edges -/

def SpecEdge.withoutId (e : SpecEdge) : SpecEdge := { e with id := "" }

/-- What an edge is compiled to is, apart from its id, a matter of its ends. -/
theorem SpecEdge.withoutId_ofEdge (e : Edge) :
    (ofEdge e).withoutId = ofEdge ⟨"", e.ends.1, e.ends.2⟩ := rfl

/-- A specification with nothing in place of the ids of its edges. -/
def Spec.withoutEdgeIds (s : Spec) : Spec :=
  { s with graph := ⟨s.graph.nodes, s.graph.edges.map .withoutId⟩ }

namespace Graph

variable {g h : Graph}

/-! ## Compiling alike -/

/-- **Graphs with the same wiring are compiled alike** but for the ids of edges. -/
theorem SameWiring.compile (same : h.SameWiring g) (c : Compiler) (r : Registry) (stamp : Stamp) :
    (c.compile h r stamp).withoutEdgeIds = (c.compile g r stamp).withoutEdgeIds := by
  have bare : ∀ edges : List Edge, (edges.map SpecEdge.ofEdge).map SpecEdge.withoutId =
      (edges.map Edge.ends).map fun ends => .ofEdge ⟨"", ends.1, ends.2⟩ := by
    intro edges
    simp only [List.map_map, Function.comp_def, SpecEdge.withoutId_ofEdge]
  simp only [Spec.withoutEdgeIds, Compiler.compile, SpecGraph.ofGraph, bare, same.ends, same.nodes]

/-- **Well-formed graphs are compiled to the same** exactly if they have the same nodes and edges. -/
theorem WellFormed.compile_eq_iff (wg : g.WellFormed) (wh : h.WellFormed) {c : Compiler}
    {r : Registry} {stamp : Stamp} :
    c.compile h r stamp = c.compile g r stamp ↔ h.nodes = g.nodes ∧ h.edges = g.edges := by
  constructor
  · intro same
    exact wg.ofGraph_inj wh (congrArg Spec.graph same)
  · rintro ⟨nodes, edges⟩
    simp only [Compiler.compile, SpecGraph.ofGraph, nodes, edges]

/-! ## Graphs that are saved and loaded -/

/-- **A reloaded graph is compiled to the same specification but for the ids of edges**, and to the
very same one exactly if its edges are numbered in order. They are if none of them has a number, and
they are if a history led to them in which edges came and went at the end alone. -/
theorem compile_reloaded (reached : g.Reachable) (named : ∀ n ∈ g.nodes, n.id ≠ "") :
    ∃ loaded, (Draft.ofGraph g).load = .ok loaded ∧
      (∀ (c : Compiler) (r : Registry) (stamp : Stamp),
        (c.compile loaded.graph r stamp).withoutEdgeIds = (c.compile g r stamp).withoutEdgeIds ∧
        (c.compile loaded.graph r stamp = c.compile g r stamp ↔ NumberedInOrder g.edges)) ∧
      ((∀ e ∈ g.edges, e.id = baseEdgeId e.source e.target) → NumberedInOrder g.edges) ∧
      ∀ edits, empty.run edits = g → empty.StacksEdges edits → NumberedInOrder g.edges := by
  have wf := reached.wellFormed
  obtain ⟨loaded, load, -, anew⟩ := Draft.load_anew wf named
  have loadedWf := (Draft.reachable_of_load load).wellFormed
  have same := Draft.sameWiring_anew g
  rw [← anew] at same
  refine ⟨loaded, load, ?_, numbered_of_base wf.edgeIds, ?_⟩
  · intro c r stamp
    refine ⟨same.compile c r stamp, ?_⟩
    have edges : loaded.graph.edges = joinInOrder [] (g.edges.map Edge.ends) := congrArg edges anew
    rw [wf.compile_eq_iff loadedWf, and_iff_right same.nodes, edges, joinInOrder_eq_iff]
  · rintro edits rfl stacking
    exact numbered_run .nil stacking

/-- **Not every graph is compiled to the same** when it was saved and loaded: in this history an edge
comes behind one with the same base id, and that one goes. -/
theorem not_compile_reloaded :
    ¬ ∀ g : Graph, g.Reachable → (∀ n ∈ g.nodes, n.id ≠ "") →
      ∀ (c : Compiler) (r : Registry) (stamp : Stamp), ∃ loaded,
        (Draft.ofGraph g).load = .ok loaded ∧
          c.compile loaded.graph r stamp = c.compile g r stamp := by
  intro always
  obtain ⟨loaded, load, same⟩ := always (empty.run Draft.rewiredHistory) ⟨_, rfl⟩ (by decide) {}
    .empty ⟨"p", default⟩
  have renamed : (Draft.ofGraph (empty.run Draft.rewiredHistory)).load.toOption.map
      (fun l => (l.graph.edges.map SpecEdge.ofEdge)) ≠
        some ((empty.run Draft.rewiredHistory).edges.map SpecEdge.ofEdge) := by decide
  rw [load] at renamed
  exact renamed (congrArg (fun s : Spec => some s.graph.edges) same)

/-- The history up to the removal, behind which the last connection is taken back and made again. -/
def stackedHistory : List Edit :=
  Draft.rewiredHistory.take 5 ++
    [.disconnect "e_a_out:p_c_in:q_c_in:q_2", .connect (.between "a" "p" "c_in:q_c" "q")]

/-- What the edge that is left behind the removal is compiled to loses its number when the graph is
loaded, and nothing else does. Where edges come and go at the end, two of one base id are compiled
as before. -/
theorem compile_reloaded_rewired :
    (∃ loaded, (Draft.ofGraph (empty.run Draft.rewiredHistory)).load = .ok loaded ∧
      ∀ (c : Compiler) (r : Registry) (stamp : Stamp),
        (c.compile loaded.graph r stamp).withoutEdgeIds =
          (c.compile (empty.run Draft.rewiredHistory) r stamp).withoutEdgeIds ∧
        c.compile loaded.graph r stamp ≠ c.compile (empty.run Draft.rewiredHistory) r stamp) ∧
    (empty.run stackedHistory).edgeIds =
      ["e_a_out:p_c_in:q_c_in:q", "e_a_out:p_c_in:q_c_in:q_2"] ∧
    ∃ loaded, (Draft.ofGraph (empty.run stackedHistory)).load = .ok loaded ∧
      ∀ (c : Compiler) (r : Registry) (stamp : Stamp),
        c.compile loaded.graph r stamp = c.compile (empty.run stackedHistory) r stamp := by
  refine ⟨?_, by decide, ?_⟩
  · obtain ⟨loaded, load, law, -⟩ :=
      compile_reloaded (g := empty.run Draft.rewiredHistory) ⟨_, rfl⟩ (by decide)
    have unnumbered : ¬ NumberedInOrder (empty.run Draft.rewiredHistory).edges := by decide
    exact ⟨loaded, load, fun c r stamp =>
      ⟨(law c r stamp).1, fun same => unnumbered ((law c r stamp).2.mp same)⟩⟩
  · obtain ⟨loaded, load, law, -, stacked⟩ :=
      compile_reloaded (g := empty.run stackedHistory) ⟨_, rfl⟩ (by decide)
    have numbered := stacked stackedHistory rfl (by decide)
    exact ⟨loaded, load, fun c r stamp => (law c r stamp).2.mpr numbered⟩

end Graph

end BlockPipeline
