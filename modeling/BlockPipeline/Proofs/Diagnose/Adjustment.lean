import BlockPipeline.Proofs.Diagnose.Config
import BlockPipeline.Proofs.Diagnose.Placement
import BlockPipeline.Proofs.Graph.Removal
import BlockPipeline.Proofs.Graph.Verdict

/-!
# What adjusting a node comes to

A node that is there may have its configuration edited, and it may be moved. Neither touches its
placement, and almost all that reads a graph reads the placements of its nodes and the edges: the
check of a candidate, the choice of what is locked, the counting of edges at each input, the search
for a cycle (`SamePlan`). What reads more is the specification, which has the nodes as they are, and
of the findings those about a configuration. These stand together, behind what else is found about
the node against the snapshot, so an edit of the configuration puts others in their place and a move
changes no finding at all.

That an adjustment reaches one node, and that the findings that change are all of those that name it,
is because no other node has the id.

| Statement | In words | From |
| --- | --- | --- |
| `WellFormed.split_nodes` | no node before or behind a node has its id | `WellFormed.nodeIds` |
| `SamePlan.check` | the same placements and edges give the same verdict on a candidate | `resolve_congr` |
| `SamePlan.findings` | and what three of the four passes find | `findCycle?_congr` |
| `lockFindings_eq` | what the first pass finds about a node, the part about its configuration last | |
| `diagnose_at` | a diagnosis, around what it finds about the configuration of a node | these, `diagnose_eq` |
| `adjustment_is_local` | what each adjustment of a node changes, in a reachable graph | all of these |
-/

set_option autoImplicit false

namespace BlockPipeline

namespace Graph

/-! ## Graphs with the same placements and edges -/

/-- **The same plan**: graphs that may differ in the configurations and the positions of their nodes,
and in the ids that were given, but in nothing else. -/
structure SamePlan (g h : Graph) : Prop where
  placements : g.nodes.map Node.placement = h.nodes.map Node.placement
  edges : g.edges = h.edges

namespace SamePlan

variable {g h : Graph}

theorem nodeIds (same : g.SamePlan h) : g.nodeIds = h.nodeIds := by
  rw [nodeIds_eq_map_placement, same.placements, nodeIds_eq_map_placement]

/-- Both give the same verdict on every candidate. -/
theorem check (same : g.SamePlan h) (c : Candidate) : g.check c = h.check c := by
  have resolved : g.resolve c = h.resolve c :=
    resolve_congr (placement?_congr same.placements _) (placement?_congr same.placements _)
  have joined : g.unlessJoined = h.unlessJoined := by
    funext ends
    rw [unlessJoined, same.edges, unlessJoined]
  rw [check_eq, resolved, joined, check_eq]

/-- Of both the same versions are locked. -/
theorem lockBlocks (same : g.SamePlan h) (r : Registry) :
    BlockPipeline.lockBlocks g.nodes r = BlockPipeline.lockBlocks h.nodes r := by
  have read : ∀ nodes : List Node, nodes.filterMap (fun n => r.lookup n.block.blockId) =
      (nodes.map Node.placement).filterMap fun p => r.lookup p.block.blockId := fun nodes => by
    rw [List.filterMap_map]
    rfl
  rw [BlockPipeline.lockBlocks, read, same.placements, ← read, BlockPipeline.lockBlocks]

/-- Of both the inputs are fed alike. -/
theorem wiring (same : g.SamePlan h) :
    g.nodes.flatMap (wiringFindings g) = h.nodes.flatMap (wiringFindings h) := by
  have fed : inputFindings g = inputFindings h := by
    funext node port
    rw [inputFindings, feeds, same.edges]
    rfl
  have read : ∀ g : Graph, g.nodes.flatMap (wiringFindings g) =
      (g.nodes.map Node.placement).flatMap fun p =>
        p.inputs.flatMap fun i => inputFindings g p.id i.name := fun g => by
    rw [List.flatMap_map]
    rfl
  rw [read, same.placements, fed, ← read]

/-- In both the same cycle is found. -/
theorem findCycle? (same : g.SamePlan h) : g.findCycle? = h.findCycle? :=
  findCycle?_congr same.nodeIds (fun id => by rw [successors, outgoing, same.edges]; rfl)
    (congrArg List.length same.edges)

/-- **Only the pass over the registry may tell them apart.** -/
theorem findings (same : g.SamePlan h) (r : Registry) {p : Pass} (other : p ≠ .registry) :
    p.findings g r = p.findings h r := by
  cases p with
  | registry => exact absurd rfl other
  | deprecation => exact congrArg deprecationFindings (same.lockBlocks r)
  | wiring => exact same.wiring
  | cycle => exact congrArg (·.toList.map Finding.cycle) same.findCycle?

end SamePlan

/-! ## One node among the others -/

/-- **No node before or behind a node has its id.** -/
theorem WellFormed.split_nodes {g : Graph} (wf : g.WellFormed) {n : Node} (hn : n ∈ g.nodes) :
    ∃ before after, g.nodes = before ++ n :: after ∧ n.id ∉ before.map (·.id) ∧
      n.id ∉ after.map (·.id) := by
  obtain ⟨before, after, split⟩ := List.append_of_mem hn
  have distinct := wf.nodeIds
  rw [Graph.nodeIds, split, List.map_append, List.map_cons] at distinct
  obtain ⟨-, behind, apart⟩ := List.nodup_append.mp distinct
  exact ⟨before, after, split, fun mem => apart _ mem _ List.mem_cons_self rfl,
    (List.nodup_cons.mp behind).1⟩

/-- Another record in the place of a node, with the same placement, makes no other plan. -/
theorem samePlan_of_split {g : Graph} {before after : List Node} {n m : Node}
    (split : g.nodes = before ++ n :: after) (settled : m.placement = n.placement) :
    SamePlan { g with nodes := before ++ m :: after } g where
  placements := by
    rw [split, List.map_append, List.map_cons, settled, ← List.map_cons, ← List.map_append]
  edges := rfl

end Graph

/-! ## What is found about a configuration -/

/-- **A finding about the configuration of a node**: a key that the schema does not know, or a value
of another type than it declares. -/
def Finding.IsAboutConfig (id : String) (f : Finding) : Prop :=
  (∃ key, f = .unknownConfigKey id key) ∨ ∃ key expected, f = .configTypeMismatch id key expected

/-- What is found about the configuration of a node against the version that is published for its
block. -/
def configReport (r : Registry) (n : Node) : List Finding :=
  (r.lookup n.block.blockId).elim [] fun b => configFindings n b.inputSchema

/-- What is found about a node against the snapshot besides. -/
def versionReport (r : Registry) (n : Node) : List Finding :=
  (r.lookup n.block.blockId).elim [.unlocked n.id n.block.blockId] fun b =>
    if b.version = n.block.version then [] else [.versionDrift n.id n.block.version b.version]

/-- What is found about a node against the snapshot, with what is found about its configuration
last. -/
theorem lockFindings_eq (r : Registry) (n : Node) :
    lockFindings r n = versionReport r n ++ configReport r n := by
  unfold lockFindings versionReport configReport
  cases r.lookup n.block.blockId <;> rfl

theorem isAboutConfig_of_mem {r : Registry} {n : Node} {f : Finding} (mem : f ∈ configReport r n) :
    f.IsAboutConfig n.id := by
  unfold configReport at mem
  cases published : r.lookup n.block.blockId with
  | none =>
    rw [published] at mem
    cases mem
  | some b =>
    rw [published] at mem
    exact of_mem_configFindings mem

/-- What is found besides is about no configuration. -/
theorem not_isAboutConfig_of_mem {r : Registry} {n : Node} {f : Finding}
    (mem : f ∈ versionReport r n) (id : String) : ¬ f.IsAboutConfig id := by
  unfold versionReport at mem
  cases published : r.lookup n.block.blockId with
  | none =>
    rw [published] at mem
    obtain rfl := List.mem_singleton.mp mem
    rintro (⟨key, ⟨⟩⟩ | ⟨key, expected, ⟨⟩⟩)
  | some b =>
    rw [published, Option.elim_some] at mem
    split at mem
    · cases mem
    · obtain rfl := List.mem_singleton.mp mem
      rintro (⟨key, ⟨⟩⟩ | ⟨key, expected, ⟨⟩⟩)

/-- Only the pass over the registry has findings about a configuration, and they name the node. -/
theorem Finding.IsAboutConfig.pass {id : String} {f : Finding} (about : f.IsAboutConfig id) :
    f.pass = .registry := by
  rcases about with ⟨key, rfl⟩ | ⟨key, expected, rfl⟩
  · rfl
  · rfl

theorem Finding.IsAboutConfig.node? {id : String} {f : Finding} (about : f.IsAboutConfig id) :
    f.node? = some id := by
  rcases about with ⟨key, rfl⟩ | ⟨key, expected, rfl⟩
  · rfl
  · rfl

/-- **A diagnosis around what it finds about one configuration**: what stands before and behind
depends on the record of the node through its placement alone, and is not about its configuration. -/
theorem diagnose_at {g : Graph} {before after : List Node} {n : Node}
    (split : g.nodes = before ++ n :: after) (first : n.id ∉ before.map (·.id))
    (last : n.id ∉ after.map (·.id)) (r : Registry) :
    ∃ front back, (∀ f ∈ front ++ back, ¬ f.IsAboutConfig n.id) ∧
      ∀ m : Node, m.placement = n.placement →
        diagnose { g with nodes := before ++ m :: after } r =
          front ++ configReport r m ++ back := by
  refine ⟨before.flatMap (lockFindings r) ++ versionReport r n,
    after.flatMap (lockFindings r) ++ Pass.deprecation.findings g r ++ Pass.wiring.findings g r ++
      Pass.cycle.findings g r, ?_, ?_⟩
  · -- the other nodes have other ids, and the other passes find other things
    have others : ∀ nodes : List Node, n.id ∉ nodes.map (·.id) →
        ∀ f ∈ nodes.flatMap (lockFindings r), ¬ f.IsAboutConfig n.id := by
      intro nodes apart f mem about
      obtain ⟨m, hm, mem⟩ := List.mem_flatMap.mp mem
      have same : m.id = n.id :=
        Option.some.inj ((node?_of_mem_lockFindings mem).symm.trans about.node?)
      exact apart (same ▸ List.mem_map_of_mem hm)
    have passes : ∀ p : Pass, p ≠ .registry → ∀ f ∈ p.findings g r, ¬ f.IsAboutConfig n.id :=
      fun p other f mem about => other ((Pass.pass_of_mem_findings mem).symm.trans about.pass)
    intro f mem
    simp only [List.mem_append] at mem
    rcases mem with (mem | mem) | ((mem | mem) | mem) | mem
    · exact others before first f mem
    · exact not_isAboutConfig_of_mem mem n.id
    · exact others after last f mem
    · exact passes .deprecation (by decide) f mem
    · exact passes .wiring (by decide) f mem
    · exact passes .cycle (by decide) f mem
  · intro m settled
    have plan := Graph.samePlan_of_split split settled
    have version : versionReport r m = versionReport r n := by
      obtain ⟨id, -, block, -, -⟩ := Node.placement_eq_iff.mp settled
      rw [versionReport, id, block, versionReport]
    have registry : Pass.registry.findings { g with nodes := before ++ m :: after } r =
        before.flatMap (lockFindings r) ++ (versionReport r n ++ configReport r m ++
          after.flatMap (lockFindings r)) := by
      rw [← version, ← lockFindings_eq, ← List.flatMap_cons, ← List.flatMap_append]
      rfl
    rw [diagnose_eq, registry, plan.findings r (p := .deprecation) (by decide),
      plan.findings r (p := .wiring) (by decide), plan.findings r (p := .cycle) (by decide)]
    simp only [List.append_assoc]

/-- **What adjusting a node changes.** In a reachable graph a node that is there has a place among the
others, none of which has its id. An edit of its configuration puts the node with the new
configuration in this place, and a move the node with the new position; all else of the graph stays.
So the specification that the graph is compiled to has the changed node in its place, and is
otherwise the same. The diagnosis has other findings about the configuration where the configuration
was edited, between the same findings as before, none of which is about it; where the node was moved,
it is the same. Every candidate has the same verdict as before. And under an id that no node has
nothing changes. -/
theorem adjustment_is_local {g : Graph} (reached : g.Reachable) (r : Registry) (c : Compiler)
    (stamp : Stamp) (id : String) :
    (∀ n ∈ g.nodes, n.id = id → ∃ before after,
      g.nodes = before ++ n :: after ∧ id ∉ before.map (·.id) ∧ id ∉ after.map (·.id) ∧
      (∀ edit : ConfigEdit,
        let tuned : Node := { n with config := edit.apply n.config }
        let h : Graph := { g with nodes := before ++ tuned :: after }
        g.apply (.configure id edit) = (.configured (some (edit.old? n.config)), h) ∧
        c.compile h r stamp = { c.compile g r stamp with
          graph := ⟨before ++ tuned :: after, (c.compile g r stamp).graph.edges⟩ } ∧
        (∃ front back, diagnose g r = front ++ configReport r n ++ back ∧
          diagnose h r = front ++ configReport r tuned ++ back ∧
          (∀ f ∈ front ++ back, ¬ f.IsAboutConfig id) ∧
          ∀ f ∈ configReport r n ++ configReport r tuned, f.IsAboutConfig id) ∧
        ∀ candidate, h.check candidate = g.check candidate) ∧
      ∀ position : Position,
        let moved : Node := { n with position := position }
        let h : Graph := { g with nodes := before ++ moved :: after }
        g.apply (.move id position) = (.moved true, h) ∧
        c.compile h r stamp = { c.compile g r stamp with
          graph := ⟨before ++ moved :: after, (c.compile g r stamp).graph.edges⟩ } ∧
        diagnose h r = diagnose g r ∧
        ∀ candidate, h.check candidate = g.check candidate) ∧
    (id ∉ g.nodeIds →
      (∀ edit, g.apply (.configure id edit) = (.configured none, g)) ∧
      ∀ position, g.apply (.move id position) = (.moved false, g)) := by
  constructor
  · rintro n hn rfl
    have found : g.node? n.id = some n := find?_key_of_mem reached.wellFormed.nodeIds hn
    obtain ⟨before, after, split, first, last⟩ := reached.wellFormed.split_nodes hn
    obtain ⟨front, back, others, around⟩ := diagnose_at split first last r
    have now : diagnose g r = front ++ configReport r n ++ back := by
      rw [← around n rfl, ← split]
    refine ⟨before, after, split, first, last, fun edit => ?_, fun position => ?_⟩
    · intro tuned h
      have plan : h.SamePlan g := Graph.samePlan_of_split split rfl
      refine ⟨?_, ?_, ⟨front, back, now, around tuned rfl, others, ?_⟩, plan.check⟩
      · simp only [Graph.apply, found, Option.map_some, Graph.configure, split,
          Graph.modifyNode_append first]
        rfl
      · simp only [Compiler.compile, SpecGraph.ofGraph, plan.lockBlocks r]
        rfl
      · intro f mem
        rcases List.mem_append.mp mem with mem | mem
        · exact isAboutConfig_of_mem mem
        · have about : f.IsAboutConfig tuned.id := isAboutConfig_of_mem mem
          exact about
    · intro moved h
      have plan : h.SamePlan g := Graph.samePlan_of_split split rfl
      refine ⟨?_, ?_, ?_, plan.check⟩
      · simp only [Graph.apply, found, Option.isSome_some, Graph.move, split,
          Graph.modifyNode_append first]
        rfl
      · simp only [Compiler.compile, SpecGraph.ofGraph, plan.lockBlocks r]
        rfl
      · rw [around moved rfl, now]
        rfl
  · intro absent
    have missing : g.node? id = none := Graph.node?_eq_none_iff.mpr absent
    refine ⟨fun edit => ?_, fun position => ?_⟩
    · simp only [Graph.apply, missing, Option.map_none, Graph.configure,
        Graph.modifyNode_of_not_mem absent]
    · simp only [Graph.apply, missing, Option.isSome_none, Graph.move,
        Graph.modifyNode_of_not_mem absent]

/-- A node with values that its schema does not allow, an input and an output. -/
def tunableBody : NodeBody :=
  { mixedBody with
    inputs := [{ name := "q", portType := "text" }]
    outputs := [{ name := "p", portType := "text" }] }

/-- Two such nodes, the one in front of the other. -/
def tunableHistory : List Edit :=
  [.insert "a" tunableBody, .insert "b" tunableBody, .connect (.between "a" "p" "b" "q")]

/-- A later version of their block, with the schema. -/
def tunableRegistry : Registry :=
  .ofVersions
    [{ blockId := "texts.mixed", version := "2.0.0", digest := "d1g3st00"
       inputSchema := mixedSchema }]

/-- One of two nodes that are configured alike gets a value of the declared type. Of the two findings
about its configuration one is left, and the other node keeps both. A move changes no finding. -/
theorem adjustment_is_local_tuned :
    let g := Graph.empty.run tunableHistory
    ∃ h moved,
      g.apply (.configure "b" (.set "count" (.ofWord 3))) =
        (.configured (some (some (.string "3"))), h) ∧
      (∃ front back,
        diagnose g tunableRegistry = front ++ [.configTypeMismatch "b" "count" "integer",
          .unknownConfigKey "b" "extra"] ++ back ∧
        diagnose h tunableRegistry = front ++ [.unknownConfigKey "b" "extra"] ++ back ∧
        ∀ f ∈ front ++ back, ¬ f.IsAboutConfig "b") ∧
      h.check (.between "a" "p" "b" "q") = .error (.duplicate "e_a_out:p_b_in:q") ∧
      g.apply (.move "b" (.ofInts 3 4)) = (.moved true, moved) ∧
      diagnose moved tunableRegistry = diagnose g tunableRegistry ∧
      g.apply (.move "x" (.ofInts 3 4)) = (.moved false, g) := by
  intro g
  have reached : g.Reachable := ⟨tunableHistory, rfl⟩
  have here : (⟨tunableBody, "b"⟩ : Node) ∈ g.nodes :=
    List.mem_cons_of_mem _ (List.mem_singleton_self _)
  let stamp : Stamp := ⟨"p", default⟩
  obtain ⟨present, -⟩ := adjustment_is_local reached tunableRegistry {} stamp "b"
  obtain ⟨-, absent⟩ := adjustment_is_local reached tunableRegistry {} stamp "x"
  obtain ⟨before, after, -, -, -, edits, moves⟩ := present _ here rfl
  obtain ⟨edited, -, ⟨front, back, old, new, others, -⟩, verdict⟩ :=
    edits (.set "count" (.ofWord 3))
  obtain ⟨moved, -, same, -⟩ := moves (.ofInts 3 4)
  refine ⟨_, _, edited, ⟨front, back, old, new, others⟩, ?_, moved, same,
    (absent (by decide)).2 _⟩
  rw [verdict]
  decide

end BlockPipeline
