import BlockPipeline.Proofs.Graph.Removal

/-!
# Edits that undo each other

An edge that was just added is taken away under its id, and a node that was just placed under its own,
and the graph is as it was. The first rests on the id being free when the edge was added, however the
edges are written, so that no other edge is found under it. The second rests on the id never having
been given, so that no node in front is found, and no edge that is there touches it. Only the id of the
node stays given.

An edge that is taken away can be added again through the texts of its handles, which are read back as
they were; it then stands behind the others, and its id is found anew.

| Statement | In words | From |
| --- | --- | --- |
| `disconnect?_connect` | an edge that was added is taken away | `freeEdgeId_not_mem` |
| `WellFormed.remove?_push` | a node that was placed is removed | `WellFormed.remove?_of_mem`, `WellFormed.without_of_not_mem` |
| `WellFormed.connect_disconnect` | an edge that was taken away is added again | `check_ofEdge` |
| `edits_undone` | all three for a reachable graph | |
-/

set_option autoImplicit false

namespace BlockPipeline

namespace Graph

variable {g h : Graph}

/-! ## Adding, and taking away -/

/-- **An edge that was added is taken away again**, and the graph is as it was: no edge in front of it
has its id. -/
theorem disconnect?_connect {c : Candidate} {e : Edge} (connected : g.connect c = .ok (e, h)) :
    h.disconnect? e.id = some (e, g) := by
  obtain ⟨-, named, rfl⟩ := connect_eq_ok_iff.mp connected
  have new : ∀ f ∈ g.edges, ¬ (f.id == e.id) = true := by
    intro f hf same
    have free := freeEdgeId_not_mem g (baseEdgeId e.source e.target)
    rw [← named] at free
    exact free (List.mem_map.mpr ⟨f, hf, beq_iff_eq.mp same⟩)
  refine disconnect?_eq_some_iff.mpr ⟨?_, ?_⟩
  · rw [edge?, List.find?_append, List.find?_eq_none.mpr new, Option.none_or,
      List.find?_singleton, if_pos (beq_self_eq_true _)]
  · rw [List.eraseP_append_right _ new,
      List.eraseP_cons_of_pos (p := fun f : Edge => f.id == e.id) (beq_self_eq_true _),
      List.append_nil]

/-- A node that is added and left out again leaves its id given. -/
theorem without_push (g : Graph) (n : Node) :
    (g.push n).without n.id = { g.without n.id with issued := n.id :: g.issued } := by
  simp only [without, push, List.filter_append, List.filter_cons, bne_self_eq_false,
    Bool.false_eq_true, ↓reduceIte, List.filter_nil, List.append_nil]

/-- **A node that was placed is removed again**, and the graph is as it was, but that the id stays
given: no node has it, and no edge touches it. -/
theorem WellFormed.remove?_push (wf : g.WellFormed) {n : Node} (fresh : n.id ∉ g.issued) :
    (g.push n).remove? n.id = some (n, { g with issued := n.id :: g.issued }) := by
  have there : n ∈ (g.push n).nodes := List.mem_append_right _ List.mem_cons_self
  have absent : n.id ∉ g.nodeIds := fun mem => fresh (wf.issued mem)
  rw [(wf.push fresh).remove?_of_mem there, without_push, wf.without_of_not_mem absent]

/-! ## Taking away, and adding -/

/-- **An edge that was taken away is added again** through the texts of its handles. It has the ends
that it had, and so the graph has the connections that it had. -/
theorem WellFormed.connect_disconnect (wf : g.WellFormed) {e : Edge} (he : e ∈ g.edges) :
    ∃ h f k, g.disconnect? e.id = some (e, h) ∧ h.connect (.ofEdge e) = .ok (f, k) ∧
      f.ends = e.ends ∧ (k.edges.map Edge.ends).Perm (g.edges.map Edge.ends) ∧
      k.nodes = g.nodes ∧ k.issued = g.issued := by
  obtain ⟨before, after, split, erased⟩ := exists_eraseP_key wf.edgeIds he
  have removed : g.disconnect? e.id = some (e, { g with edges := before ++ after }) :=
    disconnect?_eq_some_iff.mpr ⟨find?_key_of_mem wf.edgeIds he, by rw [erased]⟩
  -- no other edge has the ends of this one
  have distinct := wf.ends
  rw [split, List.map_append, List.map_cons, List.nodup_middle, ← List.map_append] at distinct
  have new : e.ends ∉ (before ++ after).map Edge.ends := (List.nodup_cons.mp distinct).1
  have joinable : Joinable { g with edges := before ++ after } e.source e.target :=
    (wf.joinable e he).congr rfl
  let again : Edge :=
    ⟨freeEdgeId { g with edges := before ++ after } (baseEdgeId e.source e.target), e.source, e.target⟩
  refine ⟨_, again, _, removed,
    connect_eq_ok_iff.mpr ⟨check_ofEdge joinable new, rfl, rfl⟩, rfl, ?_, rfl, rfl⟩
  rw [List.map_append, split]
  exact (List.perm_append_singleton e.ends _).trans (List.perm_middle.map Edge.ends).symm

/-- **Edits undo each other.** An edge that was just added is taken away under its id, and the graph is
the one in front of it. A node that was just placed, under a drawn id or a chosen one, is removed under
its id, and the graph is the one in front of it with that id given. An edge that is there is taken away
under its id, and can be added again through the texts of its handles; the graph then has the same
nodes and makes the same connections. -/
theorem edits_undone (reached : g.Reachable) :
    (∀ c e h, g.connect c = .ok (e, h) → h.disconnect? e.id = some (e, g)) ∧
    (∀ stem draws body n h, g.add? stem draws body = some (n, h) →
      h.remove? n.id = some (n, { g with issued := n.id :: g.issued })) ∧
    (∀ id body h, g.insert? id body = some h →
      h.remove? id = some (⟨body, id⟩, { g with issued := id :: g.issued })) ∧
    ∀ e ∈ g.edges, ∃ h f k, g.disconnect? e.id = some (e, h) ∧
      h.connect (.ofEdge e) = .ok (f, k) ∧ f.ends = e.ends ∧
      (k.edges.map Edge.ends).Perm (g.edges.map Edge.ends) ∧
      k.nodes = g.nodes ∧ k.issued = g.issued := by
  have wf := reached.wellFormed
  refine ⟨fun c e h => disconnect?_connect, fun stem draws body n h added => ?_,
    fun id body h inserted => ?_, fun e => wf.connect_disconnect⟩
  · obtain ⟨fresh, rfl⟩ := add?_eq_some added
    exact wf.remove?_push fresh
  · obtain ⟨fresh, rfl⟩ := insert?_eq_some_iff.mp inserted
    exact wf.remove?_push (n := ⟨body, id⟩) fresh

/-- A node whose ports are named so that two connections are written alike. -/
def alikeBody : NodeBody :=
  { kind := .fusion
    block := ⟨"fusions.concat", "1.0.0"⟩
    inputs := [{ name := "q", portType := "text" }, { name := "q_c_in:q", portType := "text" }]
    outputs := [{ name := "p", portType := "text" }] }

/-- Three such nodes, and one of the two connections. -/
def alikeHistory : List Edit :=
  ["a", "c", "c_in:q_c"].map (.insert · alikeBody) ++ [.connect (.between "a" "p" "c" "q_c_in:q")]

/-- The other connection, which is written alike and gets a number. -/
def alikeEdge : Edge :=
  ⟨"e_a_out:p_c_in:q_c_in:q_2", ⟨"a", .output "p"⟩, ⟨"c_in:q_c", .input "q"⟩⟩

/-- The other connection is made and taken away under its id, which leaves the first. A node is placed
under the second drawn id, since the first was given, and one under a chosen id, and either is removed.
The edge that is there is taken away and added again. -/
theorem edits_undone_alike :
    (∃ h, (empty.run alikeHistory).connect (.between "a" "p" "c_in:q_c" "q") = .ok (alikeEdge, h) ∧
      h.disconnect? alikeEdge.id = some (alikeEdge, empty.run alikeHistory)) ∧
    (∃ n h k, (empty.run alikeHistory).add? "c_in:q" ["c", "d"] alikeBody = some (n, h) ∧
      n.id = "c_in:q_d" ∧ h.remove? n.id = some (n, k) ∧ k.nodes = (empty.run alikeHistory).nodes) ∧
    (∃ h k, (empty.run alikeHistory).insert? "d" alikeBody = some h ∧
      h.remove? "d" = some (⟨alikeBody, "d"⟩, k) ∧ k.edges = (empty.run alikeHistory).edges) ∧
    ∃ e ∈ (empty.run alikeHistory).edges, ∃ h f k,
      (empty.run alikeHistory).disconnect? e.id = some (e, h) ∧ h.edges.length = 0 ∧
      h.connect (.ofEdge e) = .ok (f, k) ∧ f.ends = e.ends := by
  have reached : (empty.run alikeHistory).Reachable := ⟨alikeHistory, rfl⟩
  obtain ⟨connecting, adding, inserting, disconnecting⟩ := edits_undone reached
  have connected : (empty.run alikeHistory).connect (.between "a" "p" "c_in:q_c" "q") =
      .ok (alikeEdge, _) := connect_eq_ok_iff.mpr ⟨by decide, by decide, rfl⟩
  refine ⟨⟨_, connected, connecting _ _ _ connected⟩,
    ⟨_, _, _, rfl, by decide, adding "c_in:q" ["c", "d"] alikeBody _ _ rfl, rfl⟩,
    ⟨_, _, rfl, inserting _ _ _ rfl, rfl⟩, ?_⟩
  obtain ⟨e, there⟩ : ∃ e, (empty.run alikeHistory).edges = [e] :=
    List.length_eq_one_iff.mp (by decide)
  have mem : e ∈ (empty.run alikeHistory).edges := there ▸ List.mem_singleton_self e
  obtain ⟨h, f, k, removed, again, same, -⟩ := disconnecting e mem
  refine ⟨e, mem, h, f, k, removed, ?_, again, same⟩
  obtain ⟨-, rfl⟩ := disconnect?_eq_some_iff.mp removed
  rw [there, List.eraseP_cons_of_pos (p := fun f : Edge => f.id == e.id) (beq_self_eq_true _)]
  rfl

end Graph

end BlockPipeline
