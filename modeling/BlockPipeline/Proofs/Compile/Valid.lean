import BlockPipeline.Proofs.Compile.Locks
import BlockPipeline.Proofs.Graph.EdgeId
import BlockPipeline.Proofs.Graph.WellFormed
import BlockPipeline.Proofs.Spec.Rules

/-!
# What a compiled specification is refused for

Whether a compiled specification keeps the rules depends on the texts that were given to it: on the
stamp, the settings, the nodes and the versions that are locked for them. Its version is the
supported one, the graph keeps the ids of its nodes distinct, each block is locked once, and the
edges are complete as soon as the nodes are, because their ports have names and their nodes are
there.

| Statement | In words | From |
| --- | --- | --- |
| `compile_violations_eq_nil_iff` | no rule is broken exactly if the texts are given | `Spec.nodesViolations_eq_nil_iff` and its like |
| `compile_violation_local` | the first breach concerns a text that was given | `Spec.nodesViolations_local` and its like |
| `validate_compile` | both about the specification of a reachable graph | the above |
-/

set_option autoImplicit false

namespace BlockPipeline.Graph

variable {g : Graph} {r : Registry}

/-- **The edges are complete** where all nodes have ids. -/
theorem edges_complete (reached : g.Reachable) (named : ∀ n ∈ g.nodes, n.id ≠ "") :
    ∀ e ∈ (SpecGraph.ofGraph g).edges, e.Complete := by
  intro e he
  obtain ⟨e, mem, rfl⟩ := List.mem_map.mp he
  have wf : g.WellFormed := reached.wellFormed
  obtain ⟨n, hn, m, hm, source, target, -⟩ := wf.edge_nodes mem
  have sourceId : e.source.node ≠ "" := source ▸ named n hn
  have targetId : e.target.node ≠ "" := target ▸ named m hm
  exact
    { id := reached.edgeIds_ne e mem
      source := ⟨sourceId, (wf.joinable e mem).sourceNamed⟩
      target := ⟨targetId, (wf.joinable e mem).targetNamed⟩ }

/-- The locked versions are complete exactly if the snapshot has nothing incomplete for the nodes,
whose blocks are named. -/
theorem locks_complete_iff (published : r.Reached) {nodes : List Node}
    (named : ∀ n ∈ nodes, n.block.blockId ≠ "") :
    (∀ b ∈ lockBlocks nodes r, b.Complete) ↔
      ∀ n ∈ nodes, ∀ b, r.lookup n.block.blockId = some b →
        5 ≤ b.version.utf8ByteSize ∧ 8 ≤ b.digest.utf8ByteSize := by
  constructor
  · intro complete n hn b found
    have locked := complete b ((mem_lockBlocks published).mpr ⟨n, hn, found⟩)
    exact ⟨locked.version, locked.digest⟩
  · intro long b hb
    obtain ⟨n, hn, found⟩ := (mem_lockBlocks published).mp hb
    obtain ⟨version, digest⟩ := long n hn b found
    exact ⟨published.blockId found ▸ named n hn, version, digest⟩

/-- **A compiled specification breaks no rule** exactly if the texts given to it are there. -/
theorem compile_violations_eq_nil_iff (reached : g.Reachable) (published : r.Reached)
    (c : Compiler) (stamp : Stamp) :
    (c.compile g r stamp).violations = [] ↔
      stamp.id ≠ "" ∧ c.name ≠ "" ∧ (∀ n ∈ g.nodes, n.Complete) ∧
        ∀ n ∈ g.nodes, ∀ b, r.lookup n.block.blockId = some b →
          5 ≤ b.version.utf8ByteSize ∧ 8 ≤ b.digest.utf8ByteSize := by
  simp only [Spec.violations, Compiler.compile, List.append_eq_nil_iff, Spec.nonEmpty_eq_nil_iff,
    Spec.nodesViolations_eq_nil_iff, Spec.edgesViolations_eq_nil_iff,
    Spec.locksViolations_eq_nil_iff, List.not_mem_nil, not_false_eq_true, implies_true, and_true]
  constructor
  · rintro ⟨⟨⟨⟨id, name⟩, nodes, -⟩, -⟩, locks, -⟩
    exact ⟨id, name, nodes, (locks_complete_iff published fun n hn => (nodes n hn).block).mp locks⟩
  · rintro ⟨id, name, nodes, long⟩
    have edges := edges_complete reached fun n hn => (nodes n hn).id
    have locks := (locks_complete_iff published fun n hn => (nodes n hn).block).mpr long
    exact ⟨⟨⟨⟨id, name⟩, nodes, reached.wellFormed.nodeIds⟩, edges⟩, locks,
      lockBlocks_ids_nodup g.nodes r⟩

/-- **The first breach of a compiled specification is local**: no id is repeated, and where an edge
is incomplete, a node in front of it is. -/
theorem compile_violation_local (reached : g.Reachable) {c : Compiler} {stamp : Stamp}
    {v : Violation} (first : (c.compile g r stamp).violations.head? = some v) : v.Local := by
  have pipeline : ∀ name value, ∀ v ∈ Spec.nonEmpty (.pipeline name) value, v.Local :=
    fun name value => Spec.nonEmpty_local (by simp)
  have nodes : ∀ v ∈ Spec.nodesViolations [] 0 g.nodes, v.Local :=
    Spec.nodesViolations_local reached.wellFormed.nodeIds fun _ _ => List.not_mem_nil
  have front : ∀ v ∈ Spec.nonEmpty (.pipeline "id") stamp.id ++
      Spec.nonEmpty (.pipeline "name") c.name ++ Spec.nodesViolations [] 0 g.nodes, v.Local :=
    List.forall_mem_append.mpr
      ⟨List.forall_mem_append.mpr ⟨pipeline "id" stamp.id, pipeline "name" c.name⟩, nodes⟩
  have locks : ∀ v ∈ Spec.locksViolations [] 0 (lockBlocks g.nodes r), v.Local :=
    Spec.locksViolations_local (lockBlocks_ids_nodup g.nodes r) fun _ _ => List.not_mem_nil
  simp only [Spec.violations, Compiler.compile] at first
  by_cases complete : Spec.nodesViolations [] 0 g.nodes = []
  · -- the nodes have ids, so the edges break no rule
    have named := (Spec.nodesViolations_eq_nil_iff.mp complete).1
    have edges : Spec.edgesViolations 0 (SpecGraph.ofGraph g).edges = [] :=
      Spec.edgesViolations_eq_nil_iff.mpr (edges_complete reached fun n hn => (named n hn).id)
    rw [edges, List.append_nil] at first
    exact List.forall_mem_append.mpr ⟨front, locks⟩ v (List.mem_of_head? first)
  · -- some node is incomplete, so the first breach is not behind the nodes
    rw [List.append_assoc, List.head?_append_of_ne_nil] at first
    · exact front v (List.mem_of_head? first)
    · exact fun none' => complete (List.append_eq_nil_iff.mp none').2

/-- **What a compiled specification is accepted for, and refused for.** It is accepted exactly if
its stamp, its name, its nodes and the versions that the snapshot has for them come with all their
texts. If it is refused, then for a rule, so not for its version; not for an id that two nodes or
two locked versions share; and not for a field of an edge. -/
theorem validate_compile (reached : g.Reachable) (published : r.Reached) (c : Compiler)
    (stamp : Stamp) :
    ((c.compile g r stamp).validate = .ok () ↔
      stamp.id ≠ "" ∧ c.name ≠ "" ∧ (∀ n ∈ g.nodes, n.Complete) ∧
        ∀ n ∈ g.nodes, ∀ b, r.lookup n.block.blockId = some b →
          5 ≤ b.version.utf8ByteSize ∧ 8 ≤ b.digest.utf8ByteSize) ∧
    ∀ e, (c.compile g r stamp).validate = .error e →
      ∃ v, e = .invalid v ∧ (∀ id, v.problem ≠ .repeatedNode id) ∧
        (∀ id, v.problem ≠ .repeatedLock id) ∧ ∀ i name, v.field ≠ .edge i name := by
  have version : (c.compile g r stamp).specVersion = BlockPipeline.specVersion := rfl
  constructor
  · rw [Spec.validate_eq_ok_iff version]
    exact compile_violations_eq_nil_iff reached published c stamp
  · intro e refused
    obtain ⟨v, first, rfl⟩ := (Spec.validate_eq_error_iff version).mp refused
    have v_local := compile_violation_local reached first
    exact ⟨v, rfl, v_local.node, v_local.lock, v_local.edge⟩

/-- A node with all its texts. -/
def namedBody : NodeBody :=
  { kind := .fusion
    block := ⟨"texts.join", "1.0.0"⟩
    outputs := [{ name := "x", portType := "text" }] }

/-- A snapshot with its block, under a digest of seven bytes. -/
def shortRegistry : Registry :=
  .ofVersions [{ blockId := "texts.join", version := "1.0.0", digest := "d1g3st0" }]

/-- One such node is accepted where nothing is published, and is refused where its block is published
under a digest that is too short. -/
theorem validate_compile_named :
    (({} : Compiler).compile (empty.run [.insert "a" namedBody]) .empty ⟨"p", default⟩).validate =
      .ok () ∧
    (({} : Compiler).compile (empty.run [.insert "a" namedBody]) shortRegistry
      ⟨"p", default⟩).validate ≠ .ok () := by
  have reached : (empty.run [.insert "a" namedBody]).Reachable := ⟨_, rfl⟩
  have published : Registry.empty.Reached := .inl ⟨[], rfl⟩
  have publishedShort : shortRegistry.Reached := .inl ⟨_, rfl⟩
  constructor
  · refine (validate_compile reached published {} ⟨"p", default⟩).1.mpr
      ⟨by decide, by decide, ?_, fun n _ b found => nomatch found⟩
    rintro n (_ | ⟨_, ⟨⟩⟩)
    exact ⟨by decide, by decide, by decide, by decide⟩
  · refine mt (validate_compile reached publishedShort {} ⟨"p", default⟩).1.mp ?_
    rintro ⟨-, -, -, long⟩
    exact absurd (long _ List.mem_cons_self _ rfl).2 (by decide)

end BlockPipeline.Graph
