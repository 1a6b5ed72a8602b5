import BlockPipeline.Proofs.Graph.Change

/-!
# Graphs stay well-formed

A graph that a history of edits leads to from the empty one is well-formed: no id names two nodes
or two edges, every node's id was given, and every edge is joinable in the graph as it stands, so
no edge survives one of its nodes, and no connection is made twice. The ids that were given are
part of the invariant, because it is they that keep a new node from taking the id of a present one.

| Statement | In words | From |
| --- | --- | --- |
| `WellFormed.change` | each way in which an edit changes a graph keeps the invariant | one lemma for each way |
| `Reachable.wellFormed` | every reachable graph is well-formed | `apply_change`, `run_keeps` |
| `run_invariants` | the same, field by field and in terms of nodes | `WellFormed.edge_nodes` |
-/

set_option autoImplicit false

namespace BlockPipeline

namespace Graph

/-- **The invariant of a graph.** -/
structure WellFormed (g : Graph) : Prop where
  nodeIds : g.nodeIds.Nodup
  /-- Every id of a node was given. -/
  issued : g.nodeIds ⊆ g.issued
  edgeIds : g.edgeIds.Nodup
  /-- No connection is made twice. -/
  ends : (g.edges.map Edge.ends).Nodup
  joinable : ∀ e ∈ g.edges, g.Joinable e.source e.target

/-- A list without repetitions stays so when something new is put behind it. -/
theorem nodup_append_singleton {α : Type} {l : List α} {a : α} (h : l.Nodup) (new : a ∉ l) :
    (l ++ [a]).Nodup :=
  (List.perm_append_singleton a l).nodup_iff.mpr (List.nodup_cons.mpr ⟨new, h⟩)

namespace WellFormed

/-! ## Each way of changing a graph -/

/-- A node under a new id disturbs nothing. -/
theorem push {g : Graph} (wf : g.WellFormed) {n : Node} (fresh : n.id ∉ g.issued) :
    (g.push n).WellFormed where
  nodeIds := by
    have ids : (g.push n).nodeIds = g.nodeIds ++ [n.id] := List.map_append
    rw [ids]
    exact nodup_append_singleton wf.nodeIds fun mem => fresh (wf.issued mem)
  issued := by
    intro id mem
    obtain ⟨m, hm, rfl⟩ := List.mem_map.mp mem
    rcases List.mem_append.mp hm with hm | hm
    · exact List.mem_cons_of_mem _ (wf.issued (List.mem_map_of_mem hm))
    · obtain rfl := List.mem_singleton.mp hm
      exact List.mem_cons_self
  edgeIds := wf.edgeIds
  ends := wf.ends
  joinable e he :=
    (wf.joinable e he).mono (fun _ hp => placement?_push hp n) fun _ hp => placement?_push hp n

/-- A node that goes takes its edges along, so no edge is left behind without its node. -/
theorem remove {g : Graph} (wf : g.WellFormed) (id : String) :
    WellFormed
      { g with
        nodes := g.nodes.eraseP (·.id == id)
        edges := g.edges.filter fun e => !e.touches id } where
  nodeIds := (List.eraseP_sublist.map _).nodup wf.nodeIds
  issued := fun _ mem => wf.issued ((List.eraseP_sublist.map _).subset mem)
  edgeIds := (List.filter_sublist.map _).nodup wf.edgeIds
  ends := (List.filter_sublist.map _).nodup wf.ends
  joinable e he := by
    obtain ⟨mem, untouched⟩ := List.mem_filter.mp he
    simp only [Edge.touches, Bool.not_eq_true', Bool.or_eq_false_iff, beq_eq_false_iff_ne]
      at untouched
    have keeps : ∀ {other : String} {p : Placement}, other ≠ id → g.placement? other = some p →
        ((g.nodes.eraseP (·.id == id)).find? (·.id == other)).map Node.placement = some p := by
      intro other p hne hp
      rw [find?_eraseP_of_ne hne]
      exact hp
    exact (wf.joinable e mem).mono (fun _ => keeps untouched.1) fun _ => keeps untouched.2

/-- An edge between joinable ends that no edge joins, under a free id. -/
theorem connect {g : Graph} (wf : g.WellFormed) {e : Edge}
    (joinable : g.Joinable e.source e.target) (new : e.ends ∉ g.edges.map Edge.ends)
    (free : e.id ∉ g.edgeIds) : WellFormed { g with edges := g.edges ++ [e] } where
  nodeIds := wf.nodeIds
  issued := wf.issued
  edgeIds := by
    simp only [Graph.edgeIds, List.map_append]
    exact nodup_append_singleton wf.edgeIds free
  ends := by
    rw [List.map_append]
    exact nodup_append_singleton wf.ends new
  joinable f hf := by
    have sound : g.Joinable f.source f.target := by
      rcases List.mem_append.mp hf with hf | hf
      · exact wf.joinable f hf
      · obtain rfl := List.mem_singleton.mp hf
        exact joinable
    exact sound.congr rfl

theorem disconnect {g : Graph} (wf : g.WellFormed) (id : String) :
    WellFormed { g with edges := g.edges.eraseP (·.id == id) } where
  nodeIds := wf.nodeIds
  issued := wf.issued
  edgeIds := (List.eraseP_sublist.map _).nodup wf.edgeIds
  ends := (List.eraseP_sublist.map _).nodup wf.ends
  joinable e he := (wf.joinable e (List.mem_of_mem_eraseP he)).congr rfl

/-- A graph without nodes and edges is well-formed, whatever ids were given. -/
theorem clear (g : Graph) : g.clear.WellFormed where
  nodeIds := List.nodup_nil
  issued := List.nil_subset _
  edgeIds := List.nodup_nil
  ends := List.nodup_nil
  joinable := nofun

/-- A change of a node that keeps its placement keeps whatever depends on placements. -/
theorem modify {g : Graph} (wf : g.WellFormed) (id : String) {f : Node → Node}
    (keeps : ∀ n, (f n).placement = n.placement) :
    WellFormed { g with nodes := modifyNode id f g.nodes } := by
  have same := map_placement_modifyNode keeps id g.nodes
  have ids : Graph.nodeIds { g with nodes := modifyNode id f g.nodes } = g.nodeIds := by
    rw [nodeIds_eq_map_placement, nodeIds_eq_map_placement, same]
  exact {
    nodeIds := ids ▸ wf.nodeIds
    issued := ids ▸ wf.issued
    edgeIds := wf.edgeIds
    ends := wf.ends
    joinable := fun e he => (wf.joinable e he).congr same }

/-! ## Histories -/

/-- **Every change keeps the invariant.** -/
theorem change {g h : Graph} {handed : Option Node} (wf : g.WellFormed) (c : Change g handed h) :
    h.WellFormed := by
  cases c with
  | kept => exact wf
  | placed n fresh => exact wf.push fresh
  | removed id => exact wf.remove id
  | connected e joinable new named =>
    exact wf.connect joinable new (named ▸ freeEdgeId_not_mem g _)
  | disconnected id => exact wf.disconnect id
  | cleared => exact clear g
  | modified id f keeps => exact wf.modify id keeps

/-- A history of edits keeps the invariant. -/
theorem run {g : Graph} (wf : g.WellFormed) (edits : List Edit) : (g.run edits).WellFormed :=
  run_keeps (fun g edit wf => wf.change (apply_change g edit)) wf edits

end WellFormed

/-- **Every reachable graph is well-formed.** -/
theorem Reachable.wellFormed {g : Graph} (reached : g.Reachable) : g.WellFormed := by
  obtain ⟨edits, rfl⟩ := reached
  have start : empty.WellFormed := WellFormed.clear empty
  exact start.run edits

/-- **The nodes of an edge**: both are there and are two, and the first output and the first input
under the names of its ports have one type. -/
theorem WellFormed.edge_nodes {g : Graph} (wf : g.WellFormed) {e : Edge} (he : e ∈ g.edges) :
    ∃ n ∈ g.nodes, ∃ m ∈ g.nodes, n.id = e.source.node ∧ m.id = e.target.node ∧ n.id ≠ m.id ∧
      ∃ a b, n.output? e.source.handle.port = some a ∧ m.input? e.target.handle.port = some b ∧
        a.portType = b.portType := by
  have joinable := wf.joinable e he
  obtain ⟨p, q, a, b, hp, hq, ha, hb, types⟩ := joinable.typed
  obtain ⟨n, hn, rfl⟩ := placement?_eq_some.mp hp
  obtain ⟨m, hm, rfl⟩ := placement?_eq_some.mp hq
  obtain ⟨hn, hnid⟩ := node?_eq_some hn
  obtain ⟨hm, hmid⟩ := node?_eq_some hm
  refine ⟨n, hn, m, hm, hnid, hmid, ?_, a, b, ha, hb, types⟩
  rw [hnid, hmid]
  exact joinable.apart

/-- **What holds after every history of edits**, accepted or refused: the ids of the nodes differ
and were all given; the ids of the edges differ; every edge leads from an output to an input, both
named, of two nodes that are there, and the first ports of these names have one type; and no two
edges join the same ends. -/
theorem run_invariants (edits : List Edit) :
    (empty.run edits).nodeIds.Nodup ∧
    (∀ n ∈ (empty.run edits).nodes, n.id ∈ (empty.run edits).issued) ∧
    (empty.run edits).edgeIds.Nodup ∧
    (∀ e ∈ (empty.run edits).edges,
      e.source.handle.side = some .output ∧ e.target.handle.side = some .input ∧
      e.source.handle.port ≠ "" ∧ e.target.handle.port ≠ "" ∧
      ∃ n ∈ (empty.run edits).nodes, ∃ m ∈ (empty.run edits).nodes,
        n.id = e.source.node ∧ m.id = e.target.node ∧ n.id ≠ m.id ∧
        ∃ a b, n.output? e.source.handle.port = some a ∧ m.input? e.target.handle.port = some b ∧
          a.portType = b.portType) ∧
    (empty.run edits).edges.Pairwise fun e f => ¬ (e.source = f.source ∧ e.target = f.target) := by
  have wf : (empty.run edits).WellFormed := Reachable.wellFormed ⟨edits, rfl⟩
  refine ⟨wf.nodeIds, fun n hn => wf.issued (List.mem_map_of_mem hn), wf.edgeIds, ?_, ?_⟩
  · intro e he
    have joinable := wf.joinable e he
    exact ⟨joinable.sourceSide, joinable.targetSide, joinable.sourceNamed, joinable.targetNamed,
      wf.edge_nodes he⟩
  · refine (List.pairwise_map.mp wf.ends).imp fun differ same => differ ?_
    exact Prod.ext same.1 same.2

end Graph

end BlockPipeline
