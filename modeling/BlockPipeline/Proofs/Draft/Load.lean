import BlockPipeline.Draft
import BlockPipeline.Proofs.Graph.Construction
import BlockPipeline.Proofs.Graph.Verdict

/-!
# What loading does

Loading a draft is a history of edits: each of its nodes is inserted and each of its edges is
proposed, in order. So a loaded graph is reachable, and it has what every reachable graph has. Of its
edges more is known, because they are only ever added (`Proposals`): they are numbered in order.

| Statement | In words | From |
| --- | --- | --- |
| `loadNodes_eq_ok_iff` | the nodes are placed one behind the other, if each of them has an id of its own | `loadNode_eq_ok_iff` |
| `proposals` | each edge is declined by the nodes, is a duplicate, or is added behind the others | `check_of_resolve` |
| `load_eq_ok` | a draft that is loaded gives the graph of its nodes and what is proposed to it | both |
| `reachable_of_load` | a loaded graph is reachable | `run_inserts` from `insert_all`, `run_connects` |
| `numbered_of_load` | the edges of a loaded graph are numbered in order | `Proposals.numbered` |
-/

set_option autoImplicit false

namespace BlockPipeline

/-- The node that is placed for a node of a draft. -/
def DraftNode.node (n : DraftNode) : Node := ⟨n.body, n.id⟩

namespace Draft

open BlockPipeline.Graph

/-! ## Nodes -/

/-- Placing nodes one behind the other appends them. -/
theorem nodes_foldl_push (g : Graph) (nodes : List Node) :
    (nodes.foldl push g).nodes = g.nodes ++ nodes := by
  induction nodes generalizing g with
  | nil => exact (List.append_nil _).symm
  | cons n nodes ih => rw [List.foldl_cons, ih, push, List.append_assoc, List.singleton_append]

theorem edges_foldl_push (g : Graph) (nodes : List Node) :
    (nodes.foldl push g).edges = g.edges := by
  induction nodes generalizing g with
  | nil => rfl
  | cons n nodes ih => exact ih (g.push n)

/-- **A node of a draft is placed** exactly if it has an id, and one that was not given before. -/
theorem loadNode_eq_ok_iff {g g' : Graph} {n : DraftNode} :
    loadNode g n = .ok g' ↔ n.id ≠ "" ∧ n.id ∉ g.issued ∧ g' = g.push n.node := by
  unfold loadNode
  by_cases unnamed : n.id = ""
  · rw [if_pos unnamed]
    constructor
    · intro placed
      cases placed
    · rintro ⟨named, -⟩
      exact absurd unnamed named
  · have inserted : g.insert? n.id n.body = some g' ↔ n.id ∉ g.issued ∧ g' = g.push n.node :=
      insert?_eq_some_iff
    rw [if_neg unnamed, and_iff_right unnamed, ← inserted]
    cases g.insert? n.id n.body with
    | none => simp only [reduceCtorEq]
    | some h => simp only [Except.ok.injEq, Option.some.injEq]

/-- **Nodes that can be placed together**: each has an id, and no two have the same. -/
structure Usable (nodes : List DraftNode) : Prop where
  named : ∀ n ∈ nodes, n.id ≠ ""
  distinct : (nodes.map (·.id)).Nodup

/-- **Nodes of a draft are placed** exactly if they are usable and none of their ids was given, and
then they stand one behind the other. -/
theorem loadNodes_eq_ok_iff {nodes : List DraftNode} {g g' : Graph} :
    nodes.foldlM loadNode g = .ok g' ↔
      Usable nodes ∧ (∀ n ∈ nodes, n.id ∉ g.issued) ∧
        g' = (nodes.map DraftNode.node).foldl push g := by
  induction nodes generalizing g with
  | nil =>
    constructor
    · rintro ⟨⟩
      exact ⟨⟨List.forall_mem_nil _, List.nodup_nil⟩, List.forall_mem_nil _, rfl⟩
    · rintro ⟨-, -, rfl⟩
      rfl
  | cons n nodes ih =>
    -- no later node has an id that was given by then, that of this node included
    have given : ∀ m : DraftNode, m.id ∉ (g.push n.node).issued ↔ m.id ≠ n.id ∧ m.id ∉ g.issued := by
      intro m
      rw [push, List.mem_cons, not_or]
      rfl
    rw [List.foldlM_cons, bind_eq_ok]
    constructor
    · rintro ⟨_, placed, others⟩
      obtain ⟨named, fresh, rfl⟩ := loadNode_eq_ok_iff.mp placed
      obtain ⟨usable, later, rfl⟩ := ih.mp others
      simp only [given] at later
      refine ⟨⟨List.forall_mem_cons.mpr ⟨named, usable.named⟩, ?_⟩,
        List.forall_mem_cons.mpr ⟨fresh, fun m hm => (later m hm).2⟩, rfl⟩
      refine List.nodup_cons.mpr ⟨fun mem => ?_, usable.distinct⟩
      obtain ⟨m, hm, same⟩ := List.mem_map.mp mem
      exact (later m hm).1 same
    · rintro ⟨⟨named, distinct⟩, fresh, rfl⟩
      obtain ⟨named, allNamed⟩ := List.forall_mem_cons.mp named
      obtain ⟨fresh, allFresh⟩ := List.forall_mem_cons.mp fresh
      obtain ⟨differs, distinct⟩ := List.nodup_cons.mp distinct
      refine ⟨_, loadNode_eq_ok_iff.mpr ⟨named, fresh, rfl⟩, ih.mpr ⟨⟨allNamed, distinct⟩, ?_, rfl⟩⟩
      intro m hm
      refine (given m).mpr ⟨fun same => ?_, allFresh m hm⟩
      exact differs (List.mem_map.mpr ⟨m, hm, same⟩)

/-- Placing them is a history of edits. -/
theorem run_inserts {nodes : List DraftNode} {g g' : Graph}
    (placed : nodes.foldlM loadNode g = .ok g') :
    g.run (nodes.map fun n => .insert n.id n.body) = g' := by
  obtain ⟨usable, fresh, rfl⟩ := loadNodes_eq_ok_iff.mp placed
  have distinct : ((nodes.map DraftNode.node).map (·.id)).Nodup := by
    rw [List.map_map]
    exact usable.distinct
  have inserted := (insert_all distinct (List.forall_mem_map.mpr fresh)).run
  rwa [List.map_map] at inserted

/-! ## Edges -/

/-- A candidate that the check accepts is added. -/
theorem proposeEdge_of_check_ok {g : Graph} {c : Candidate} {ends : Endpoint × Endpoint}
    (accepted : g.check c = .ok ends) :
    proposeEdge g c =
      (.ok (.behind g.edges ends), { g with edges := g.edges ++ [.behind g.edges ends] }) := by
  have connected : g.connect c = .ok (.behind g.edges ends, _) :=
    connect_eq_ok_iff.mpr ⟨accepted, rfl, rfl⟩
  rw [proposeEdge, connected]

/-- A candidate that the check refuses changes nothing. -/
theorem proposeEdge_of_check_error {g : Graph} {c : Candidate} {reason : Refusal}
    (refused : g.check c = .error reason) : proposeEdge g c = (.error reason, g) := by
  have unconnected : g.connect c = .error reason := by
    rw [connect, refused]
    rfl
  rw [proposeEdge, unconnected]

/-- The first edge is proposed to the graph, and the others to what it leaves. -/
theorem proposeEdges_cons (g : Graph) (c : Candidate) (rest : List Candidate) :
    proposeEdges g (c :: rest) =
      { graph := (proposeEdges (proposeEdge g c).2 rest).graph
        outcomes := (c, (proposeEdge g c).1) :: (proposeEdges (proposeEdge g c).2 rest).outcomes } :=
  rfl

/-- **What becomes of edges that are proposed**: each of them is declined by the nodes, is the
duplicate of an edge that is there by then, or is added behind the others. -/
inductive Proposals : Graph → List Candidate → LoadedDraft → Prop where
  | done {g : Graph} : Proposals g [] ⟨g, []⟩
  | declined {g : Graph} {c : Candidate} {reason : Refusal} {rest : List Candidate}
      {later : LoadedDraft} (resolution : g.resolve c = .error reason)
      (others : Proposals g rest later) :
      Proposals g (c :: rest) { later with outcomes := (c, .error reason) :: later.outcomes }
  | duplicate {g : Graph} {c : Candidate} {e : Edge} {rest : List Candidate} {later : LoadedDraft}
      (resolution : g.resolve c = .ok e.ends) (present : e ∈ g.edges)
      (others : Proposals g rest later) :
      Proposals g (c :: rest)
        { later with outcomes := (c, .error (.duplicate e.id)) :: later.outcomes }
  | accepted {g : Graph} {c : Candidate} {ends : Endpoint × Endpoint} {rest : List Candidate}
      {later : LoadedDraft} (resolution : g.resolve c = .ok ends)
      (new : ends ∉ g.edges.map Edge.ends)
      (others : Proposals { g with edges := g.edges ++ [.behind g.edges ends] } rest later) :
      Proposals g (c :: rest)
        { later with outcomes := (c, .ok (.behind g.edges ends)) :: later.outcomes }

theorem proposals (g : Graph) (candidates : List Candidate) :
    Proposals g candidates (proposeEdges g candidates) := by
  induction candidates generalizing g with
  | nil => exact .done
  | cons c rest ih =>
    rw [proposeEdges_cons]
    cases resolution : g.resolve c with
    | error reason =>
      rw [proposeEdge_of_check_error (check_of_resolve_error resolution)]
      exact .declined resolution (ih g)
    | ok ends =>
      rcases check_of_resolve resolution with ⟨new, accepted⟩ | ⟨e, present, rfl, refused⟩
      · rw [proposeEdge_of_check_ok accepted]
        exact .accepted resolution new (ih _)
      · rw [proposeEdge_of_check_error refused]
        exact .duplicate resolution present (ih g)

namespace Proposals

variable {g : Graph} {candidates : List Candidate} {loaded : LoadedDraft}

/-- Proposing edges changes nothing but the edges. -/
theorem graph_eq (run : Proposals g candidates loaded) :
    loaded.graph = { g with edges := loaded.graph.edges } := by
  induction run with
  | done => rfl
  | declined _ _ ih => exact ih
  | duplicate _ _ _ ih => exact ih
  | accepted _ _ _ ih => exact ih

/-- Edges that are proposed are numbered in order, if those that are there are. -/
theorem numbered (run : Proposals g candidates loaded) (before : NumberedInOrder g.edges) :
    NumberedInOrder loaded.graph.edges := by
  induction run with
  | done => exact before
  | declined _ _ ih => exact ih before
  | duplicate _ _ _ ih => exact ih before
  | accepted _ _ _ ih => exact ih (before.snoc _)

end Proposals

/-- Proposing edges is a history of edits. -/
theorem run_connects (g : Graph) (candidates : List Candidate) :
    g.run (candidates.map .connect) = (proposeEdges g candidates).graph := by
  induction candidates generalizing g with
  | nil => rfl
  | cons c rest ih =>
    have step : (g.apply (.connect c)).2 = (proposeEdge g c).2 := by
      simp only [apply, proposeEdge]
      cases g.connect c with
      | ok _ => rfl
      | error _ => rfl
    rw [proposeEdges_cons, ← ih, ← step]
    rfl

/-! ## Whole drafts -/

section Load

variable {d : Draft} {loaded : LoadedDraft}

/-- **A draft that is loaded**: all its nodes have ids, and its edges are proposed to the graph of
its nodes. -/
theorem load_eq_ok (load : d.load = .ok loaded) :
    (∀ n ∈ d.nodes, n.id ≠ "") ∧
      loaded = proposeEdges ((d.nodes.map DraftNode.node).foldl push .empty) d.edges := by
  obtain ⟨g, placed, ⟨⟩⟩ := bind_eq_ok.mp load
  obtain ⟨usable, -, rfl⟩ := loadNodes_eq_ok_iff.mp placed
  exact ⟨usable.named, rfl⟩

/-- A loaded graph is the graph of the draft's nodes, with edges. -/
theorem graph_load (load : d.load = .ok loaded) :
    loaded.graph =
      { (d.nodes.map DraftNode.node).foldl push .empty with edges := loaded.graph.edges } := by
  obtain ⟨-, rfl⟩ := load_eq_ok load
  exact (proposals _ _).graph_eq

/-- **The nodes of a loaded draft** are those of the draft. -/
theorem nodes_load (load : d.load = .ok loaded) :
    loaded.graph.nodes = d.nodes.map DraftNode.node := by
  rw [graph_load load]
  exact nodes_foldl_push .empty _

/-- **A loaded graph is reachable.** -/
theorem reachable_of_load (load : d.load = .ok loaded) : loaded.graph.Reachable := by
  obtain ⟨g, placed, ⟨⟩⟩ := bind_eq_ok.mp load
  let inserts : List Edit := d.nodes.map fun n => .insert n.id n.body
  refine ⟨inserts ++ d.edges.map .connect, ?_⟩
  calc empty.run (inserts ++ d.edges.map .connect)
      = (empty.run inserts).run (d.edges.map .connect) := run_append ..
    _ = g.run (d.edges.map .connect) := by rw [run_inserts placed]
    _ = (proposeEdges g d.edges).graph := run_connects g d.edges

/-- **The edges of a loaded graph are numbered in order.** -/
theorem numbered_of_load (load : d.load = .ok loaded) : NumberedInOrder loaded.graph.edges := by
  obtain ⟨-, rfl⟩ := load_eq_ok load
  refine (proposals _ _).numbered ?_
  rw [edges_foldl_push]
  exact .nil

end Load

end Draft

end BlockPipeline
