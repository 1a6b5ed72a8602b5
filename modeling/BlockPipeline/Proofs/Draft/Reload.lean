import BlockPipeline.Proofs.Diagnose.Frame
import BlockPipeline.Proofs.Draft.Load

/-!
# A saved graph is loaded again

Loading builds a graph anew, edit by edit, so a graph that was saved comes back only if every one
of these edits is accepted again. Its nodes are, since their ids are distinct and the graph that is
being built has given none of them; only a node whose id is empty is turned away, and the draft
with it. Its edges are, since by then all nodes are there, each edge is joinable by the invariant,
and no two edges join the same ends. Ids of edges are found anew and may differ.

| Statement | In words | From |
| --- | --- | --- |
| `loadNodes_saved` | the nodes are placed in order, unless one of them has no id | `loadNode_saved` |
| `proposeEdges_saved` | every edge is accepted, and appended in order | `proposeEdge_saved` |
| `load_anew` | the graph that is loaded is built anew from the nodes and connections of the one that was saved | both |
| `load_saved` | saving and loading a reachable graph gives the same wiring | `load_anew`, `Reachable.wellFormed` |
| `load_settles` | what was loaded before is loaded as the same graph, with the ids of its edges | `load_anew`, `numbered_of_load` |
-/

set_option autoImplicit false

namespace BlockPipeline.Draft

open BlockPipeline.Graph

/-! ## Nodes -/

/-- A saved node is placed as it was, unless its id is empty. -/
theorem loadNode_saved {g : Graph} {n : Node} (fresh : n.id ∉ g.issued) :
    loadNode g (.ofNode n) = if n.id = "" then .error .emptyNodeId else .ok (g.push n) := by
  have placed : g.insert? n.id (DraftNode.ofNode n).body = some (g.push n) :=
    insert?_eq_some_iff.mpr ⟨fresh, rfl⟩
  unfold loadNode
  rw [show (DraftNode.ofNode n).id = n.id from rfl, placed]

/-- **Saved nodes are placed in their order** where their ids are distinct and none was given, unless
one of them is empty. -/
theorem loadNodes_saved {g : Graph} {nodes : List Node} (distinct : (nodes.map (·.id)).Nodup)
    (fresh : ∀ n ∈ nodes, n.id ∉ g.issued) :
    (nodes.map DraftNode.ofNode).foldlM loadNode g =
      if "" ∈ nodes.map (·.id) then .error .emptyNodeId else .ok (nodes.foldl push g) := by
  induction nodes generalizing g with
  | nil => rfl
  | cons n nodes ih =>
    rw [List.map_cons, List.foldlM_cons, loadNode_saved (fresh n List.mem_cons_self)]
    by_cases unnamed : n.id = ""
    · have mem : "" ∈ (n :: nodes).map (·.id) := unnamed ▸ List.mem_cons_self
      rw [if_pos unnamed, if_pos mem]
      rfl
    · rw [if_neg unnamed]
      refine (ih (List.nodup_cons.mp distinct).2 (fresh_push distinct fresh)).trans ?_
      simp only [List.map_cons, List.mem_cons, Ne.symm unnamed, false_or, List.foldl_cons]

/-! ## Edges -/

/-- **A saved edge is accepted** where its ends are joinable and no edge joins them yet. -/
theorem proposeEdge_saved {g : Graph} {e : Edge} (joinable : g.Joinable e.source e.target)
    (new : e.ends ∉ g.edges.map Edge.ends) :
    proposeEdge g (.ofEdge e) =
      (.ok (.behind g.edges e.ends),
        { g with edges := g.edges ++ [.behind g.edges e.ends] }) :=
  proposeEdge_of_check_ok (check_ofEdge joinable new)

/-- **Saved edges are all accepted**, and their connections made anew in order: each of them is
joinable in the graph as it is being built, because that depends on the nodes alone. -/
theorem proposeEdges_saved {g : Graph} {edges : List Edge}
    (joinable : ∀ e ∈ edges, g.Joinable e.source e.target)
    (new : (g.edges.map Edge.ends ++ edges.map Edge.ends).Nodup) :
    (proposeEdges g (edges.map .ofEdge)).graph =
        { g with edges := joinInOrder g.edges (edges.map Edge.ends) } ∧
      (proposeEdges g (edges.map .ofEdge)).refused = [] := by
  induction edges generalizing g with
  | nil => exact ⟨rfl, rfl⟩
  | cons e edges ih =>
    obtain ⟨differs, -⟩ := List.nodup_cons.mp (List.nodup_middle.mp new)
    have proposed := proposeEdge_saved (joinable e List.mem_cons_self)
      fun mem => differs (List.mem_append_left _ mem)
    let next : Graph := { g with edges := g.edges ++ [.behind g.edges e.ends] }
    -- the edges behind are joinable in the graph with this one too, and none of them has its ends
    have later : ∀ f ∈ edges, next.Joinable f.source f.target := fun f hf =>
      (joinable f (List.mem_cons_of_mem _ hf)).congr rfl
    have distinct : (next.edges.map Edge.ends ++ edges.map Edge.ends).Nodup := by
      rw [List.map_append, List.append_assoc]
      exact new
    obtain ⟨graph, refused⟩ := ih later distinct
    rw [List.map_cons, proposeEdges_cons, proposed]
    exact ⟨graph, refused⟩

/-! ## Whole drafts -/

/-- A graph in which a node has no id cannot be loaded. -/
theorem load_unnamed {g : Graph} (wf : g.WellFormed) (unnamed : ∃ n ∈ g.nodes, n.id = "") :
    (ofGraph g).load = .error .emptyNodeId := by
  obtain ⟨n, hn, unnamed⟩ := unnamed
  have nodes := loadNodes_saved (g := .empty) wf.nodeIds fun _ _ => List.not_mem_nil
  have mem : "" ∈ g.nodes.map (·.id) := unnamed ▸ List.mem_map_of_mem hn
  rw [if_pos mem] at nodes
  rw [load, ofGraph, nodes]
  rfl

/-- The graph that is built anew from the nodes of a graph and its connections. -/
def anew (g : Graph) : Graph :=
  { g.nodes.foldl push .empty with edges := joinInOrder [] (g.edges.map Edge.ends) }

theorem sameWiring_anew (g : Graph) : (anew g).SameWiring g where
  nodes := nodes_foldl_push .empty g.nodes
  ends := ends_joinInOrder [] _

/-- **Every other well-formed graph is built anew**, and no edge is refused. -/
theorem load_anew {g : Graph} (wf : g.WellFormed) (named : ∀ n ∈ g.nodes, n.id ≠ "") :
    ∃ loaded, (ofGraph g).load = .ok loaded ∧ loaded.refused = [] ∧ loaded.graph = anew g := by
  have nodes := loadNodes_saved (g := .empty) wf.nodeIds fun _ _ => List.not_mem_nil
  have noneEmpty : "" ∉ g.nodes.map (·.id) := fun mem => by
    obtain ⟨n, hn, unnamed⟩ := List.mem_map.mp mem
    exact named n hn unnamed
  rw [if_neg noneEmpty] at nodes
  -- the graph that has all the nodes, and no edge yet
  have placed : (g.nodes.foldl push .empty).nodes = g.nodes := nodes_foldl_push .empty g.nodes
  have bare : (g.nodes.foldl push .empty).edges = [] := edges_foldl_push .empty g.nodes
  have joinable : ∀ e ∈ g.edges, (g.nodes.foldl push .empty).Joinable e.source e.target :=
    fun e he => (wf.joinable e he).congr (congrArg (List.map Node.placement) placed)
  have distinct : ((g.nodes.foldl push .empty).edges.map Edge.ends ++
      g.edges.map Edge.ends).Nodup := by
    rw [bare]
    exact wf.ends
  obtain ⟨graph, refused⟩ := proposeEdges_saved joinable distinct
  rw [bare] at graph
  refine ⟨_, ?_, refused, graph⟩
  rw [load, ofGraph, nodes]
  rfl

/-- So it is loaded with the same wiring. -/
theorem load_named {g : Graph} (wf : g.WellFormed) (named : ∀ n ∈ g.nodes, n.id ≠ "") :
    ∃ loaded, (ofGraph g).load = .ok loaded ∧ loaded.refused = [] ∧
      loaded.graph.SameWiring g := by
  obtain ⟨loaded, hload, refused, graph⟩ := load_anew wf named
  exact ⟨loaded, hload, refused, graph ▸ sameWiring_anew g⟩

/-- If its edges are numbered in order they come back with their ids. -/
theorem load_numbered {g : Graph} (wf : g.WellFormed) (named : ∀ n ∈ g.nodes, n.id ≠ "")
    (numbered : NumberedInOrder g.edges) :
    ∃ loaded, (ofGraph g).load = .ok loaded ∧ loaded.refused = [] ∧
      loaded.graph.nodes = g.nodes ∧ loaded.graph.edges = g.edges := by
  obtain ⟨loaded, hload, refused, graph⟩ := load_anew wf named
  refine ⟨loaded, hload, refused, ?_, ?_⟩
  · rw [graph]
    exact (sameWiring_anew g).nodes
  · rw [graph]
    exact joinInOrder_eq_iff.mpr numbered

/-- **A reachable graph is loaded as it was saved**: if a node has no id the draft is turned away for
it; otherwise every edge is accepted, the nodes are the same with all their data, the edges have the
same ends in the same order, and so the findings against every snapshot of the registry are the
same. -/
theorem load_saved {g : Graph} (reached : g.Reachable) :
    ((∃ n ∈ g.nodes, n.id = "") → (ofGraph g).load = .error .emptyNodeId) ∧
    ((∀ n ∈ g.nodes, n.id ≠ "") → ∃ loaded, (ofGraph g).load = .ok loaded ∧
      loaded.refused = [] ∧ loaded.graph.nodes = g.nodes ∧
      loaded.graph.edges.map Edge.ends = g.edges.map Edge.ends ∧
      ∀ r, diagnose loaded.graph r = diagnose g r) := by
  have wf := reached.wellFormed
  refine ⟨load_unnamed wf, fun named => ?_⟩
  obtain ⟨loaded, hload, refused, same⟩ := load_named wf named
  exact ⟨loaded, hload, refused, same.nodes, same.ends, same.diagnose⟩

/-- A node that takes part in the history below; its port names are chosen so that two connections
are written alike. -/
def forkBody : NodeBody :=
  { kind := .fusion
    block := ⟨"fusions.concat", "1.0.0"⟩
    inputs := [{ name := "q", portType := "text" }, { name := "q_c_in:q", portType := "text" }]
    outputs := [{ name := "p", portType := "text" }, { name := "p", portType := "image" }] }

/-- Two connections with the same base id, of which the one that came first goes. -/
def rewiredHistory : List Edit :=
  [.insert "a" forkBody, .insert "c" forkBody, .insert "c_in:q_c" forkBody,
   .connect (.between "a" "p" "c" "q_c_in:q"), .connect (.between "a" "p" "c_in:q_c" "q"),
   .remove "c"]

/-- The edge that is left is found again, without the number in its id; with a node that has no id
in front of the others nothing is. -/
theorem load_saved_rewired :
    (∃ loaded, (ofGraph (empty.run rewiredHistory)).load = .ok loaded ∧ loaded.refused = [] ∧
      loaded.graph.edges.map Edge.ends = (empty.run rewiredHistory).edges.map Edge.ends ∧
      loaded.graph.edgeIds ≠ (empty.run rewiredHistory).edgeIds) ∧
    (ofGraph (empty.run (.insert "" forkBody :: rewiredHistory))).load = .error .emptyNodeId := by
  constructor
  · have named : ∀ n ∈ (empty.run rewiredHistory).nodes, n.id ≠ "" := by decide
    obtain ⟨loaded, hload, refused, -, same, -⟩ := (load_saved ⟨rewiredHistory, rfl⟩).2 named
    have renamed : (ofGraph (empty.run rewiredHistory)).load.toOption.map (·.graph.edgeIds) ≠
        some (empty.run rewiredHistory).edgeIds := by decide
    rw [hload] at renamed
    exact ⟨loaded, hload, refused, same, fun ids => renamed (congrArg some ids)⟩
  · have unnamed : ∃ n ∈ (empty.run (.insert "" forkBody :: rewiredHistory)).nodes, n.id = "" := by
      decide
    exact (load_saved ⟨_, rfl⟩).1 unnamed

/-! ## Drafts that were loaded before -/

/-- **Loading settles a draft.** What was loaded once, whatever edges were refused then, is saved and
loaded again without a refusal and as the very same graph, with the ids of its edges: a loaded graph
is numbered in order, so its connections find the same ids again. So it is saved as the same draft
from then on. -/
theorem load_settles {d : Draft} {first : LoadedDraft} (load : d.load = .ok first) :
    ∃ second, (ofGraph first.graph).load = .ok second ∧ second.refused = [] ∧
      second.graph = first.graph ∧ ofGraph second.graph = ofGraph first.graph := by
  have wf := (reachable_of_load load).wellFormed
  have nodes := nodes_load load
  have named : ∀ n ∈ first.graph.nodes, n.id ≠ "" := by
    rw [nodes]
    exact List.forall_mem_map.mpr (load_eq_ok load).1
  obtain ⟨second, again, refused, graph⟩ := load_anew wf named
  have same : second.graph = first.graph := by
    rw [graph, anew, joinInOrder_eq_iff.mpr (numbered_of_load load), nodes]
    exact (graph_load load).symm
  exact ⟨second, again, refused, same, congrArg ofGraph same⟩

/-- A draft with two connections that are written alike, one of them twice and with bare names, a
node that is to be connected to itself, and a node that is missing. -/
def forkDraft : Draft :=
  { nodes := ["a", "c", "c_in:q_c"].map fun id => .ofNode ⟨forkBody, id⟩
    edges :=
      [.between "a" "p" "c" "q_c_in:q", .between "a" "p" "c_in:q_c" "q",
       ⟨"a", "p", "c_in:q_c", "q"⟩, .between "a" "p" "a" "q", .between "b" "p" "a" "q"] }

/-- Three of its edges are refused at first; then nothing is, and the number in an id stays. -/
theorem load_settles_fork :
    ∃ first second, forkDraft.load = .ok first ∧ first.refused.length = 3 ∧
      (ofGraph first.graph).load = .ok second ∧ second.refused = [] ∧
      second.graph.edgeIds = ["e_a_out:p_c_in:q_c_in:q", "e_a_out:p_c_in:q_c_in:q_2"] := by
  have ids : forkDraft.load.toOption.map (·.graph.edgeIds) =
      some ["e_a_out:p_c_in:q_c_in:q", "e_a_out:p_c_in:q_c_in:q_2"] := by decide
  have count : forkDraft.load.toOption.map (·.refused.length) = some 3 := by decide
  obtain ⟨first, load⟩ : ∃ first, forkDraft.load = .ok first := ⟨_, rfl⟩
  obtain ⟨second, again, refused, same, -⟩ := load_settles load
  rw [load] at ids count
  refine ⟨first, second, load, Option.some.inj count, again, refused, ?_⟩
  rw [same]
  exact Option.some.inj ids

end BlockPipeline.Draft
