import BlockPipeline.Proofs.Diagnose.Passes
import BlockPipeline.Proofs.Graph.WellFormed
import Mathlib.Data.List.Dedup
import Mathlib.Data.List.Nodup

/-!
# The findings about wiring

What a diagnosis says about an input depends on the edges that end there (`Graph.into`): none is too
few and two are too many (`arrivalReport`). It looks for these edges by the names of a node and of a
port. In a reachable graph this is the same as to look for the input itself, because every edge ends
at an input, and no edge is missed, because it ends at one that a node declares.

| Statement | In words | From |
| --- | --- | --- |
| `feeds_eq` | the names lead to the edges that end at the input | `WellFormed.joinable` |
| `inputEnds_flatMap_into` | grouped by the declared inputs, the edges are all there, each once | `WellFormed.edge_nodes` |
| `wiring_of_diagnose` | the findings about wiring, in order, and what they count and name | the above, `filter_diagnose` |
-/

set_option autoImplicit false

namespace BlockPipeline

/-- **What is to be said about an input**, by the edges that end there. -/
def arrivalReport (node port : String) (arriving : List Edge) : Option Finding :=
  if arriving.length = 0 then some (.unconnectedInput node port)
  else if arriving.length = 1 then none
  else some (.fanIn node port (arriving.map (·.source.node)))

/-- What is found under the name of an input is one of the inputs and has the name. -/
theorem Node.input?_eq_some {n : Node} {name : String} {p : Port} (found : n.input? name = some p) :
    p ∈ n.inputs ∧ p.name = name := by
  have first : n.inputs.find? (fun p => p.name == name) = some p := found
  exact ⟨List.mem_of_find?_eq_some first, by simpa only [beq_iff_eq] using List.find?_some first⟩

namespace Graph

/-- The edges that end at a port, in order. -/
def into (g : Graph) (target : Endpoint) : List Edge := g.edges.filter (·.target = target)

/-- The inputs that the nodes declare, each of them once. -/
def inputEnds (g : Graph) : List Endpoint :=
  (g.nodes.flatMap fun n => n.inputs.map fun p => ⟨n.id, .input p.name⟩).dedup

variable {g : Graph}

/-! ## Edges and inputs -/

theorem mem_into {target : Endpoint} {e : Edge} :
    e ∈ g.into target ↔ e ∈ g.edges ∧ e.target = target := by
  rw [into, List.mem_filter, decide_eq_true_eq]

theorem mem_inputEnds {target : Endpoint} :
    target ∈ g.inputEnds ↔ ∃ n ∈ g.nodes, ∃ p ∈ n.inputs, ⟨n.id, .input p.name⟩ = target := by
  simp only [inputEnds, List.mem_dedup, List.mem_flatMap, List.mem_map]

/-- An edge ends at an input exactly if it ends at a port of this name. -/
theorem WellFormed.target_eq_iff (wf : g.WellFormed) {e : Edge} (he : e ∈ g.edges)
    (node port : String) :
    e.target = ⟨node, .input port⟩ ↔ e.target.node = node ∧ e.target.handle.port = port := by
  constructor
  · intro same
    rw [same]
    exact ⟨rfl, rfl⟩
  · rintro ⟨rfl, rfl⟩
    have side := (wf.joinable e he).targetSide
    show e.target = ⟨e.target.node, ⟨some .input, e.target.handle.port⟩⟩
    rw [← side]

/-- The sources of the edges that are found under the names are those of the edges that end at the
input. -/
theorem WellFormed.feeds_eq (wf : g.WellFormed) (node port : String) :
    feeds g node port = (g.into ⟨node, .input port⟩).map (·.source.node) := by
  unfold feeds into
  congr 1
  refine List.filter_congr fun e he => ?_
  rw [Bool.eq_iff_iff, Bool.and_eq_true, beq_iff_eq, beq_iff_eq, decide_eq_true_eq]
  exact (wf.target_eq_iff he node port).symm

/-- Every edge ends at an input that a node declares. -/
theorem WellFormed.target_mem_inputEnds (wf : g.WellFormed) {e : Edge} (he : e ∈ g.edges) :
    e.target ∈ g.inputEnds := by
  obtain ⟨n, hn, m, hm, -, named, -, a, p, -, found, -⟩ := wf.edge_nodes he
  obtain ⟨hp, portNamed⟩ := Node.input?_eq_some found
  refine mem_inputEnds.mpr ⟨m, hm, p, hp, ?_⟩
  exact ((wf.target_eq_iff he m.id p.name).mpr ⟨named.symm, portNamed.symm⟩).symm

/-- **Grouped by the declared inputs**, the edges are all there, each of them once. -/
theorem WellFormed.inputEnds_flatMap_into (wf : g.WellFormed) :
    (g.inputEnds.flatMap g.into).Perm g.edges := by
  have distinct : g.edges.Nodup := List.Nodup.of_map _ wf.edgeIds
  have apart : (g.inputEnds.flatMap g.into).Nodup := by
    refine List.nodup_flatMap.mpr ⟨fun target _ => distinct.filter _, ?_⟩
    refine List.Pairwise.imp ?_ (List.nodup_dedup _)
    intro target other differs e here there
    exact differs ((mem_into.mp here).2.symm.trans (mem_into.mp there).2)
  refine (List.perm_ext_iff_of_nodup apart distinct).mpr fun e => ?_
  rw [List.mem_flatMap]
  constructor
  · rintro ⟨target, -, mem⟩
    exact (mem_into.mp mem).1
  · intro he
    exact ⟨e.target, wf.target_mem_inputEnds he, mem_into.mpr ⟨he, rfl⟩⟩

/-! ## The findings -/

/-- What is found about an input is what is to be said about it. -/
theorem WellFormed.inputFindings_eq (wf : g.WellFormed) (node port : String) :
    inputFindings g node port =
      (arrivalReport node port (g.into ⟨node, .input port⟩)).toList := by
  rw [inputFindings, wf.feeds_eq]
  rcases g.into ⟨node, .input port⟩ with _ | ⟨e, _ | ⟨f, rest⟩⟩
  · rfl
  · rfl
  · simp [arrivalReport]

theorem WellFormed.wiringFindings_eq (wf : g.WellFormed) (n : Node) :
    wiringFindings g n =
      n.inputs.filterMap fun p => arrivalReport n.id p.name (g.into ⟨n.id, .input p.name⟩) := by
  rw [List.filterMap_eq_flatMap_toList]
  exact List.flatMap_congr fun p _ => wf.inputFindings_eq n.id p.name

end Graph

/-- What is said about an input names it, and the sources of the edges if anything else. -/
theorem arrivalReport_eq_some {node port : String} {arriving : List Edge} {f : Finding}
    (said : arrivalReport node port arriving = some f) :
    f = .unconnectedInput node port ∨ f = .fanIn node port (arriving.map (·.source.node)) := by
  unfold arrivalReport at said
  split at said
  · exact .inl (Option.some.inj said).symm
  · obtain ⟨-, said⟩ := Option.ite_none_left_eq_some.mp said
    exact .inr (Option.some.inj said).symm

/-- **The findings about the wiring of a reachable graph**: node by node and input by input what is
to be said by the edges that end there, and nothing else. The edges that end at an input are those
whose target has the names of the node and of the port. Grouped by the declared inputs the edges are
all there, each of them once. And what a finding names is in the graph: the node, the input, and the
nodes from which the edges come. -/
theorem wiring_of_diagnose {g : Graph} (reached : g.Reachable) (r : Registry) :
    (diagnose g r).filter (·.pass = .wiring) = (g.nodes.flatMap fun n =>
      n.inputs.filterMap fun p => arrivalReport n.id p.name (g.into ⟨n.id, .input p.name⟩)) ∧
    (∀ node port, g.into ⟨node, .input port⟩ =
      g.edges.filter fun e => e.target.node = node ∧ e.target.handle.port = port) ∧
    (g.inputEnds.flatMap g.into).Perm g.edges ∧
    ∀ f ∈ diagnose g r, f.pass = .wiring → ∃ n ∈ g.nodes, ∃ p ∈ n.inputs,
      f = .unconnectedInput n.id p.name ∨
        ∃ sources, f = .fanIn n.id p.name sources ∧ sources ⊆ g.nodeIds ∧ n.id ∉ sources := by
  have wf := reached.wellFormed
  have found : Pass.wiring.findings g r = g.nodes.flatMap fun n =>
      n.inputs.filterMap fun p => arrivalReport n.id p.name (g.into ⟨n.id, .input p.name⟩) :=
    List.flatMap_congr fun n _ => wf.wiringFindings_eq n
  refine ⟨(filter_diagnose g r .wiring).trans found, fun node port => ?_,
    wf.inputEnds_flatMap_into, fun f mem pass => ?_⟩
  · exact List.filter_congr fun e he => decide_eq_decide.mpr (wf.target_eq_iff he node port)
  · rw [mem_diagnose, pass, found] at mem
    obtain ⟨n, hn, mem⟩ := List.mem_flatMap.mp mem
    obtain ⟨p, hp, said⟩ := List.mem_filterMap.mp mem
    refine ⟨n, hn, p, hp, ?_⟩
    rcases arrivalReport_eq_some said with rfl | rfl
    · exact .inl rfl
    · refine .inr ⟨_, rfl, fun id source => ?_, fun self => ?_⟩
      · obtain ⟨e, he, rfl⟩ := List.mem_map.mp source
        obtain ⟨m, hm, -, -, same, -⟩ := wf.edge_nodes (Graph.mem_into.mp he).1
        exact same ▸ List.mem_map_of_mem hm
      · obtain ⟨e, he, same⟩ := List.mem_map.mp self
        obtain ⟨he, target⟩ := Graph.mem_into.mp he
        exact (wf.joinable e he).apart (by rw [same, target])

/-- A node with two outputs, and one with a repeated input and a further one. -/
def forkBody : NodeBody :=
  { kind := .fusion
    block := ⟨"texts.fork", "1.0.0"⟩
    outputs := [{ name := "y", portType := "text" }, { name := "z", portType := "text" }] }

def joinBody : NodeBody :=
  { kind := .fusion
    block := ⟨"texts.join", "1.0.0"⟩
    inputs :=
      [{ name := "x", portType := "text" }, { name := "w", portType := "text" },
       { name := "x", portType := "text" }] }

/-- Both outputs of one node feed the repeated input of another, and so does a third node. -/
def forkHistory : List Edit :=
  [.insert "j" joinBody, .insert "k" joinBody, .insert "a" forkBody, .insert "b" forkBody,
   .connect (.between "a" "y" "j" "x"), .connect (.between "b" "y" "j" "x"),
   .connect (.between "a" "z" "j" "x"), .connect (.between "a" "y" "k" "w")]

/-- The repeated input is reported as often as it is declared, with one source for each edge. -/
theorem wiring_of_diagnose_fork :
    (diagnose (Graph.empty.run forkHistory) .empty).filter (·.pass = .wiring) =
      [.fanIn "j" "x" ["a", "b", "a"], .unconnectedInput "j" "w", .fanIn "j" "x" ["a", "b", "a"],
       .unconnectedInput "k" "x", .unconnectedInput "k" "x"] :=
  (wiring_of_diagnose ⟨forkHistory, rfl⟩ .empty).1.trans (by decide)

end BlockPipeline
