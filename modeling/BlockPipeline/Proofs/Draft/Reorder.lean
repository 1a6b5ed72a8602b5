import BlockPipeline.Proofs.Draft.Reload

/-!
# Drafts whose edges are reordered

An edge that is proposed meets the edges in front of it in one way only: one of them may have made
its connection already. What the nodes say of it does not depend on them. So the connections of a
loaded graph are those to which the edges of the draft are resolved, each once, and the order
decides only which of the edges that are written for a connection is accepted and which are its
duplicates.

| Statement | In words | From |
| --- | --- | --- |
| `Proposals.mem_ends_iff` | a connection is made exactly if an edge is resolved to it | `Proposals` |
| `Proposals.length_refused` | every edge is refused or adds one | `Proposals` |
| `Proposals.filter_refused` | what is refused and is no duplicate is what the nodes decline | `isDuplicate_of_resolve` |
| `load_reordered` | none of this depends on the order of the edges | the above, `WellFormed.ends` |
-/

set_option autoImplicit false

namespace BlockPipeline

/-! ## What is refused -/

/-- The candidates that the nodes decline, with their reasons. -/
def Graph.declined (g : Graph) (candidates : List Candidate) : List (Candidate × Refusal) :=
  candidates.filterMap fun c =>
    match g.resolve c with
    | .ok _ => none
    | .error reason => some (c, reason)

namespace Graph

theorem declined_cons_ok {g : Graph} {c : Candidate} {ends : Endpoint × Endpoint}
    (resolution : g.resolve c = .ok ends) (rest : List Candidate) :
    g.declined (c :: rest) = g.declined rest := by
  simp only [declined, List.filterMap_cons, resolution]

theorem declined_cons_error {g : Graph} {c : Candidate} {reason : Refusal}
    (resolution : g.resolve c = .error reason) (rest : List Candidate) :
    g.declined (c :: rest) = (c, reason) :: g.declined rest := by
  simp only [declined, List.filterMap_cons, resolution]

end Graph

namespace LoadedDraft

variable {l : LoadedDraft} {c : Candidate}

theorem refused_error {reason : Refusal} :
    refused { l with outcomes := (c, .error reason) :: l.outcomes } = (c, reason) :: l.refused := rfl

theorem refused_ok {e : Edge} :
    refused { l with outcomes := (c, .ok e) :: l.outcomes } = l.refused := rfl

end LoadedDraft

namespace Draft

open BlockPipeline.Graph

/-! ## What does not depend on the order -/

namespace Proposals

variable {g : Graph} {candidates : List Candidate} {loaded : LoadedDraft}

/-- **A connection is made** exactly if it is there, or an edge is resolved to it. -/
theorem mem_ends_iff (run : Proposals g candidates loaded) {ends : Endpoint × Endpoint} :
    ends ∈ loaded.graph.edges.map Edge.ends ↔
      ends ∈ g.edges.map Edge.ends ∨ ∃ c ∈ candidates, g.resolve c = .ok ends := by
  induction run with
  | done => simp only [List.not_mem_nil, false_and, exists_false, or_false]
  | declined resolution _ ih =>
    simp only [ih, List.exists_mem_cons_iff, resolution, reduceCtorEq, false_or]
  | duplicate resolution present _ ih =>
    simp only [ih, List.exists_mem_cons_iff, resolution, Except.ok.injEq]
    constructor
    · exact Or.imp_right .inr
    · rintro (there | rfl | later)
      · exact .inl there
      · exact .inl (List.mem_map_of_mem present)
      · exact .inr later
  | accepted resolution new _ ih =>
    simp only [List.exists_mem_cons_iff, resolution, Except.ok.injEq]
    refine ih.trans ?_
    rw [List.map_append, List.mem_append, List.map_singleton, List.mem_singleton, or_assoc]
    exact or_congr_right (or_congr_left eq_comm)

/-- **Every edge is refused or adds one.** -/
theorem length_refused (run : Proposals g candidates loaded) :
    loaded.refused.length + loaded.graph.edges.length = candidates.length + g.edges.length := by
  induction run with
  | done => rfl
  | declined _ _ ih =>
    simp only [LoadedDraft.refused_error, List.length_cons]
    omega
  | duplicate _ _ _ ih =>
    simp only [LoadedDraft.refused_error, List.length_cons]
    omega
  | accepted _ _ _ ih =>
    simp only [List.length_append, List.length_singleton] at ih
    simp only [LoadedDraft.refused_ok, List.length_cons]
    omega

/-- **What is refused and is no duplicate** is what the nodes decline. -/
theorem filter_refused (run : Proposals g candidates loaded) :
    loaded.refused.filter (!·.2.isDuplicate) = g.declined candidates := by
  induction run with
  | done => rfl
  | declined resolution _ ih =>
    rw [LoadedDraft.refused_error, declined_cons_error resolution, ← ih,
      List.filter_cons_of_pos (by rw [isDuplicate_of_resolve resolution]; rfl)]
  | duplicate resolution _ _ ih =>
    rw [LoadedDraft.refused_error, declined_cons_ok resolution, ← ih]
    rfl
  | accepted resolution _ _ ih =>
    rw [LoadedDraft.refused_ok, declined_cons_ok resolution]
    exact ih

end Proposals

/-! ## Whole drafts -/

/-- **The order of the edges decides nothing but their spelling.** Where the nodes of a draft are
placed, it is loaded with its edges in any order: with the same nodes and connections and as many
refusals, of which those that are no duplicates are the same, for the same reasons. -/
theorem load_reordered {d : Draft} {g : Graph} (placed : d.nodes.foldlM loadNode .empty = .ok g)
    {edges : List Candidate} (reordered : edges.Perm d.edges) :
    ∃ first second, d.load = .ok first ∧ load { d with edges := edges } = .ok second ∧
      second.graph.nodes = first.graph.nodes ∧
      (second.graph.edges.map Edge.ends).Perm (first.graph.edges.map Edge.ends) ∧
      second.refused.length = first.refused.length ∧
      (second.refused.filter (!·.2.isDuplicate)).Perm
        (first.refused.filter (!·.2.isDuplicate)) := by
  have load : ∀ edges, load { d with edges := edges } = .ok (proposeEdges g edges) := by
    intro edges
    rw [Draft.load, placed]
    rfl
  have first := proposals g d.edges
  have second := proposals g edges
  have connections : ((proposeEdges g edges).graph.edges.map Edge.ends).Perm
      ((proposeEdges g d.edges).graph.edges.map Edge.ends) := by
    have distinct : ∀ edges, ((proposeEdges g edges).graph.edges.map Edge.ends).Nodup := by
      intro edges
      exact (reachable_of_load (load edges)).wellFormed.ends
    rw [List.perm_ext_iff_of_nodup (distinct _) (distinct _)]
    intro ends
    simp only [first.mem_ends_iff, second.mem_ends_iff, reordered.mem_iff]
  refine ⟨_, _, load d.edges, load edges, ?_, connections, ?_, ?_⟩
  · rw [first.graph_eq, second.graph_eq]
  · -- as many edges are proposed, and as many are accepted
    have proposed := reordered.length_eq
    have accepted := connections.length_eq
    have all := first.length_refused
    have others := second.length_refused
    rw [List.length_map, List.length_map] at accepted
    omega
  · rw [first.filter_refused, second.filter_refused]
    exact reordered.filterMap _

/-- The draft of before, with its edges the other way round. The connection that is written twice is
now made as it is written with bare names, and under the id that the other one had; the two
refusals that are no duplicate are there again. -/
theorem load_reordered_fork :
    ∃ first second, forkDraft.load = .ok first ∧
      load { forkDraft with edges := forkDraft.edges.reverse } = .ok second ∧
      second.graph.edgeIds = first.graph.edgeIds ∧
      second.graph.edges.map Edge.ends ≠ first.graph.edges.map Edge.ends ∧
      (second.graph.edges.map Edge.ends).Perm (first.graph.edges.map Edge.ends) ∧
      second.refused.length = 3 ∧
      (second.refused.filter (!·.2.isDuplicate)).Perm
        [(.between "a" "p" "a" "q", .selfLoop "a"),
         (.between "b" "p" "a" "q", .sourceNodeMissing "b")] := by
  have outcome : forkDraft.load.toOption.map
      (fun l => (l.refused.length, l.refused.filter (!·.2.isDuplicate))) =
      some (3, [(.between "a" "p" "a" "q", .selfLoop "a"),
        (.between "b" "p" "a" "q", .sourceNodeMissing "b")]) := by decide
  have ids : (load { forkDraft with edges := forkDraft.edges.reverse }).toOption.map
      (·.graph.edgeIds) = forkDraft.load.toOption.map (·.graph.edgeIds) := by decide
  have swapped : (load { forkDraft with edges := forkDraft.edges.reverse }).toOption.map
      (·.graph.edges.map Edge.ends) ≠
        forkDraft.load.toOption.map (·.graph.edges.map Edge.ends) := by decide
  obtain ⟨first, second, load, again, -, connections, refused, declined⟩ :=
    load_reordered (d := forkDraft) rfl (List.reverse_perm _)
  rw [load] at outcome ids swapped
  rw [again] at ids swapped
  obtain ⟨three, others⟩ := Prod.mk.inj (Option.some.inj outcome)
  exact ⟨first, second, load, again, Option.some.inj ids, fun same => swapped (congrArg some same),
    connections, refused.trans three, others ▸ declined⟩

end Draft

end BlockPipeline
