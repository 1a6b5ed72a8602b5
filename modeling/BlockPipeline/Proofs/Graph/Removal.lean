import BlockPipeline.Proofs.Graph.WellFormed

/-!
# What a removed node takes along

Removing a node takes away the first node with an id and every edge that touches the id. In a
well-formed graph this is the graph without everything that belongs to the id (`without`): the first
node is the only one, and an id that no node has is touched by no edge. Leaving things out does not
depend on the order, so neither does removing two nodes.

Since no edge leads from a node to itself, the edges that go are those that come in and those that
go out, each counted once.

| Statement | In words | From |
| --- | --- | --- |
| `WellFormed.apply_remove` | removing is leaving out | `eraseP_key_eq_filter`, `WellFormed.touches_of_not_mem` |
| `length_without` | as many edges go as come in and go out | `WellFormed.joinable` |
| `without_comm` | the order does not matter | |
| `remove_effect` | all of this for a reachable graph | the above |
-/

set_option autoImplicit false

namespace BlockPipeline

namespace Graph

variable {g : Graph} {id : String}

/-- **The graph without an id**: without the nodes that have it and the edges that touch it. -/
def without (g : Graph) (id : String) : Graph :=
  { g with
    nodes := g.nodes.filter (·.id != id)
    edges := g.edges.filter fun e => !e.touches id }

/-- What is left out first does not matter. -/
theorem without_comm (g : Graph) (id other : String) :
    (g.without id).without other = (g.without other).without id := by
  simp only [without, List.filter_filter, Bool.and_comm]

/-! ## Nodes -/

/-- The graph without a node has the nodes before and behind it. -/
theorem WellFormed.nodes_without (wf : g.WellFormed) {n : Node} (hn : n ∈ g.nodes) :
    ∃ before after, g.nodes = before ++ n :: after ∧
      (g.without n.id).nodes = before ++ after := by
  obtain ⟨before, after, split, erased⟩ := exists_eraseP_key wf.nodeIds hn
  exact ⟨before, after, split, (eraseP_key_eq_filter wf.nodeIds n.id).symm.trans erased⟩

/-- There is no node under an id that no node has. -/
theorem node?_eq_none_iff : g.node? id = none ↔ id ∉ g.nodeIds := by
  simp only [node?, List.find?_eq_none, beq_iff_eq, nodeIds, List.mem_map, not_exists, not_and]

/-! ## Edges -/

/-- No edge touches an id that no node has. -/
theorem WellFormed.touches_of_not_mem (wf : g.WellFormed) (absent : id ∉ g.nodeIds) {e : Edge}
    (he : e ∈ g.edges) : e.touches id = false := by
  obtain ⟨n, hn, m, hm, source, target, -⟩ := wf.edge_nodes he
  rw [Edge.touches, Bool.or_eq_false_iff, beq_eq_false_iff_ne, beq_eq_false_iff_ne]
  constructor
  · rintro rfl
    exact absent (source ▸ List.mem_map_of_mem hn)
  · rintro rfl
    exact absent (target ▸ List.mem_map_of_mem hm)

/-- **As many edges go as come in and go out**, where no edge leads from a node to itself. -/
theorem length_without (apart : ∀ e ∈ g.edges, e.source.node ≠ e.target.node) (id : String) :
    (g.without id).edges.length + ((g.incoming id).length + (g.outgoing id).length) =
      g.edges.length := by
  obtain ⟨nodes, edges, issued⟩ := g
  simp only [without, incoming, outgoing, Edge.touches]
  induction edges with
  | nil => rfl
  | cons e edges ih =>
    obtain ⟨here, apart⟩ := List.forall_mem_cons.mp apart
    have rest := ih apart
    -- an edge is counted at its source, at its target, or among those that stay
    by_cases source : e.source.node = id
    · have target : e.target.node ≠ id := fun target => here (source.trans target.symm)
      simp only [List.filter_cons, source, beq_self_eq_true, Bool.true_or,
        Bool.not_true, Bool.false_eq_true, ↓reduceIte, beq_false_of_ne target, List.length_cons]
      omega
    · by_cases target : e.target.node = id
      · simp only [List.filter_cons, target, beq_self_eq_true, Bool.or_true,
          Bool.not_true, Bool.false_eq_true, ↓reduceIte, beq_false_of_ne source, List.length_cons]
        omega
      · simp only [List.filter_cons, beq_false_of_ne source, beq_false_of_ne target,
          Bool.or_false, Bool.not_false, Bool.false_eq_true, ↓reduceIte, List.length_cons]
        omega

/-! ## Removing -/

/-- A node that is there is removed, and the graph is without it. -/
theorem WellFormed.remove?_of_mem (wf : g.WellFormed) {n : Node} (hn : n ∈ g.nodes) :
    g.remove? n.id = some (n, g.without n.id) := by
  refine remove?_eq_some_iff.mpr ⟨find?_key_of_mem wf.nodeIds hn, ?_⟩
  rw [without, eraseP_key_eq_filter wf.nodeIds]

/-- Nothing is removed where there is no node. -/
theorem remove?_eq_none_iff : g.remove? id = none ↔ id ∉ g.nodeIds := by
  rw [remove?, Option.map_eq_none_iff, node?_eq_none_iff]

/-- A graph is without an id that no node has. -/
theorem WellFormed.without_of_not_mem (wf : g.WellFormed) (absent : id ∉ g.nodeIds) :
    g.without id = g := by
  have nodes : g.nodes.filter (·.id != id) = g.nodes := by
    rw [List.filter_eq_self]
    intro n hn
    rw [bne_iff_ne]
    rintro rfl
    exact absent (List.mem_map_of_mem hn)
  have edges : (g.edges.filter fun e => !e.touches id) = g.edges := by
    rw [List.filter_eq_self]
    intro e he
    rw [wf.touches_of_not_mem absent he]
    rfl
  rw [without, nodes, edges]

/-- **Removing a node leaves out what belongs to its id**, whether it is there or not. -/
theorem WellFormed.apply_remove (wf : g.WellFormed) (id : String) :
    (g.apply (.remove id)).2 = g.without id := by
  simp only [apply]
  by_cases there : id ∈ g.nodeIds
  · obtain ⟨n, hn, rfl⟩ := List.mem_map.mp there
    rw [wf.remove?_of_mem hn]
    rfl
  · rw [remove?_eq_none_iff.mpr there, wf.without_of_not_mem there]
    rfl

theorem WellFormed.run_removes (wf : g.WellFormed) (id other : String) :
    g.run [.remove id, .remove other] = (g.without id).without other := by
  have next : (g.without id).WellFormed := by
    rw [← wf.apply_remove]
    exact wf.change (apply_change g _)
  rw [← next.apply_remove, ← wf.apply_remove]
  rfl

/-- **What removing does.** A node that is there is handed out; the nodes before and behind it stay as
they are, as do the edges that neither start nor end at it, in their order; those that go are as many
as come in and go out; and no id is given back. Where there is no node nothing changes. Of two nodes
either may be removed first. -/
theorem remove_effect (reached : g.Reachable) (id : String) :
    (∀ n ∈ g.nodes, n.id = id → ∃ h, g.remove? id = some (n, h) ∧
      g.apply (.remove id) = (.removed (some n), h) ∧
      (∃ before after, g.nodes = before ++ n :: after ∧ h.nodes = before ++ after) ∧
      h.edges = g.edges.filter (fun e => e.source.node ≠ id ∧ e.target.node ≠ id) ∧
      h.edges.length + ((g.incoming id).length + (g.outgoing id).length) = g.edges.length ∧
      h.issued = g.issued) ∧
    (id ∉ g.nodeIds → g.apply (.remove id) = (.removed none, g)) ∧
    ∀ other, g.run [.remove id, .remove other] = g.run [.remove other, .remove id] := by
  have wf := reached.wellFormed
  refine ⟨?_, fun absent => ?_, fun other => ?_⟩
  · rintro n hn rfl
    have removed := wf.remove?_of_mem hn
    refine ⟨_, removed, by rw [apply, removed]; rfl, ?_, ?_, ?_, rfl⟩
    · exact wf.nodes_without hn
    · simp only [without, Edge.touches]
      refine List.filter_congr fun e _ => ?_
      rw [Bool.eq_iff_iff]
      simp
    · exact length_without (fun e he => (wf.joinable e he).apart) n.id
  · rw [apply, remove?_eq_none_iff.mpr absent]
    rfl
  · rw [wf.run_removes, wf.run_removes, without_comm]

/-- A node with an input and an output. -/
def linkBody : NodeBody :=
  { kind := .fusion
    block := ⟨"texts.join", "1.0.0"⟩
    inputs := [{ name := "q", portType := "text" }]
    outputs := [{ name := "p", portType := "text" }] }

/-- Three such nodes in a row, and an edge past the one in the middle. -/
def rowHistory : List Edit :=
  ["a", "b", "c"].map (.insert · linkBody) ++
    [.connect (.between "a" "p" "b" "q"), .connect (.between "b" "p" "c" "q"),
     .connect (.between "a" "p" "c" "q")]

/-- The node in the middle takes its two edges along, and the edge past it stays. An id that no node
has takes nothing along. -/
theorem remove_effect_row :
    (∃ h, (empty.run rowHistory).apply (.remove "b") = (.removed (some ⟨linkBody, "b"⟩), h) ∧
      h.edges = (empty.run rowHistory).edges.drop 2 ∧ h.edges.length + (1 + 1) = 3) ∧
    "d" ∉ (empty.run rowHistory).nodeIds ∧
    (empty.run rowHistory).apply (.remove "d") = (.removed none, empty.run rowHistory) ∧
    (empty.run rowHistory).run [.remove "a", .remove "b"] =
      (empty.run rowHistory).run [.remove "b", .remove "a"] := by
  have reached : (empty.run rowHistory).Reachable := ⟨rowHistory, rfl⟩
  have there : ⟨linkBody, "b"⟩ ∈ (empty.run rowHistory).nodes := by
    have nodes : (empty.run rowHistory).nodes = ["a", "b", "c"].map (⟨linkBody, ·⟩) := rfl
    rw [nodes]
    exact List.mem_map_of_mem (by decide)
  have absent : "d" ∉ (empty.run rowHistory).nodeIds := by decide
  refine ⟨?_, absent, (remove_effect reached "d").2.1 absent, (remove_effect reached "a").2.2 "b"⟩
  obtain ⟨h, -, removed, -, edges, count, -⟩ := (remove_effect reached "b").1 _ there rfl
  exact ⟨h, removed, edges, count⟩

end Graph

end BlockPipeline
