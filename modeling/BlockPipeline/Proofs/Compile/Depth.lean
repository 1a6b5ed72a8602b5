import BlockPipeline.Compile
import BlockPipeline.Proofs.Compile.Locks
import BlockPipeline.Proofs.Draft.Load
import BlockPipeline.Proofs.Spec.Wire

/-!
# How deep a compiled specification is

A draft, a listing and a specification have the same free values at different places. A node's
configuration and the schemas of its ports lie as deep in a specification as in a draft, and the
schemas of a locked block lie as deep in a specification as in a listing. So a specification that is
compiled from a draft and a listing is no deeper than the deeper of them
(`Compiler.codec_depth_le`), and if both were read from texts it can be written to one.
-/

set_option autoImplicit false

namespace BlockPipeline

open Codec Record

/-! ## The wire forms of drafts and listings -/

theorem DraftNodeData.codec_shallow : DraftNodeData.codec.Shallow 4 :=
  Record.codec_shallow fun _ =>
    Ensures.start DraftNodeData.mk (by grind)
      |>.optional string_shallow
      |>.required NodeKind.codec_shallow
      |>.required string_shallow
      |>.required string_shallow
      |>.defaulted Port.codec_shallow.list (by decide)
      |>.defaulted Port.codec_shallow.list (by decide)
      |>.defaulted object_shallow (by decide)

theorem DraftNode.codec_shallow : DraftNode.codec.Shallow 5 :=
  Record.codec_shallow fun _ =>
    Ensures.start DraftNode.mk (by grind)
      |>.required string_shallow
      |>.defaulted Position.codec_shallow (by decide)
      |>.required DraftNodeData.codec_shallow

theorem Candidate.codec_shallow : Candidate.codec.Shallow 1 :=
  Record.codec_shallow fun _ =>
    Ensures.start Candidate.mk (by grind)
      |>.required string_shallow
      |>.required string_shallow
      |>.required string_shallow
      |>.required string_shallow

theorem Draft.codec_shallow : Draft.codec.Shallow 7 :=
  Record.codec_shallow fun _ =>
    Ensures.start Draft.mk (by grind)
      |>.required DraftNode.codec_shallow.list
      |>.defaulted Candidate.codec_shallow.list (by decide)

theorem PublishedVersion.codec_shallow : PublishedVersion.codec.Shallow 2 :=
  Record.codec_shallow fun _ =>
    Ensures.start PublishedVersion.mk (by grind)
      |>.required string_shallow
      |>.required string_shallow
      |>.nullable object_shallow
      |>.nullable object_shallow
      |>.nullable string_shallow
      |>.nullable bool_shallow

theorem BlockRecord.codec_shallow : BlockRecord.codec.Shallow 3 :=
  Record.codec_shallow fun _ =>
    Ensures.start BlockRecord.mk (by grind)
      |>.required string_shallow
      |>.nullable string_shallow
      |>.nullable string_shallow
      |>.nullable string_shallow
      |>.nullable PublishedVersion.codec_shallow

/-! ## Types without free values -/

theorem NodeKind.codec_depth (kind : NodeKind) : (codec.encode kind).depth = 0 := rfl

theorem BlockRef.codec_depth_le (b : BlockRef) : (codec.encode b).depth ≤ 1 :=
  Record.codec_depth_le_iff.mpr (by simp)

theorem Position.codec_depth_le (p : Position) : (codec.encode p).depth ≤ 1 :=
  Record.codec_depth_le_iff.mpr (by simp)

theorem Candidate.codec_depth_le (c : Candidate) : (codec.encode c).depth ≤ 1 :=
  Record.codec_depth_le_iff.mpr (by simp)

theorem PortRef.codec_depth_le (p : PortRef) : (codec.encode p).depth ≤ 1 :=
  Record.codec_depth_le_iff.mpr (by simp)

theorem SpecEdge.codec_depth_le (e : SpecEdge) : (codec.encode e).depth ≤ 2 :=
  Record.codec_depth_le_iff.mpr (by simp [PortRef.codec_depth_le])

theorem PipelineMeta.codec_depth_le (p : PipelineMeta) : (codec.encode p).depth ≤ 1 :=
  Record.codec_depth_le_iff.mpr (by simp [Instant.codec, Json.depth])

theorem RunResources.codec_depth_le (r : RunResources) : (codec.encode r).depth ≤ 1 :=
  Record.codec_depth_le_iff.mpr (by simp)

theorem RunConfig.codec_depth_le (c : RunConfig) : (codec.encode c).depth ≤ 2 :=
  Record.codec_depth_le_iff.mpr (by simp [RunMode.codec, RunResources.codec_depth_le])

/-! ## Where the free values are -/

section Levels

variable {k : Nat}

/-- Below a node are its ports and its configuration. -/
theorem Node.codec_depth_le_iff (positive : 1 ≤ k) {n : Node} :
    (codec.encode n).depth ≤ k + 1 ↔
      (Port.codec.list.encode n.inputs).depth ≤ k ∧ (Port.codec.list.encode n.outputs).depth ≤ k ∧
        (object.encode n.config).depth ≤ k := by
  have block := Nat.le_trans (BlockRef.codec_depth_le n.block) positive
  have position := Nat.le_trans (Position.codec_depth_le n.position) positive
  refine Record.codec_depth_le_iff.trans ?_
  simp [NodeKind.codec_depth, block, position, and_assoc]

/-- A node of a draft has them one level deeper. -/
theorem DraftNode.codec_depth_le_iff (positive : 1 ≤ k) {n : DraftNode} :
    (codec.encode n).depth ≤ k + 2 ↔
      (Port.codec.list.encode n.data.inputs).depth ≤ k ∧
        (Port.codec.list.encode n.data.outputs).depth ≤ k ∧
        (object.encode n.data.config).depth ≤ k := by
  have position := Nat.le_trans (Position.codec_depth_le n.position) (Nat.le_succ_of_le positive)
  have data : (DraftNodeData.codec.encode n.data).depth ≤ k + 1 ↔ _ :=
    Record.codec_depth_le_iff
  refine Record.codec_depth_le_iff.trans ?_
  simp [NodeKind.codec_depth, data, position, and_assoc]

theorem Draft.codec_depth_le_iff (positive : 1 ≤ k) {d : Draft} :
    (codec.encode d).depth ≤ k + 2 ↔ ∀ n ∈ d.nodes, (DraftNode.codec.encode n).depth ≤ k := by
  have edges : ∀ c ∈ d.edges, (Candidate.codec.encode c).depth ≤ k := fun c _ =>
    Nat.le_trans c.codec_depth_le positive
  refine Record.codec_depth_le_iff.trans ?_
  simp only [within_required, within_defaulted, within_start, list_depth_le_iff, true_and]
  exact and_iff_left edges

theorem BlockVersion.codec_depth_le_iff {b : BlockVersion} :
    (codec.encode b).depth ≤ k + 1 ↔
      (object.encode b.inputSchema).depth ≤ k ∧ (object.encode b.outputSchema).depth ≤ k := by
  refine Record.codec_depth_le_iff.trans ?_
  simp

theorem PublishedVersion.codec_depth_le_iff {p : PublishedVersion} :
    (codec.encode p).depth ≤ k + 1 ↔
      (∀ schema, p.inputSchema = some schema → (object.encode schema).depth ≤ k) ∧
        ∀ schema, p.outputSchema = some schema → (object.encode schema).depth ≤ k := by
  refine Record.codec_depth_le_iff.trans ?_
  simp

theorem BlockRecord.codec_depth_le_iff {r : BlockRecord} :
    (codec.encode r).depth ≤ k + 1 ↔
      ∀ p, r.latestPublished = some p → (PublishedVersion.codec.encode p).depth ≤ k := by
  refine Record.codec_depth_le_iff.trans ?_
  simp

end Levels

/-! ## From a draft and a listing to a specification -/

section Compile

variable {k : Nat}

/-- A loaded node lies one level higher than in the draft. -/
theorem Draft.node_depth_le (positive : 1 ≤ k) {d : Draft} {loaded : LoadedDraft}
    (load : d.load = .ok loaded) (within : (codec.encode d).depth ≤ k + 4) :
    ∀ n ∈ loaded.graph.nodes, (Node.codec.encode n).depth ≤ k + 1 := by
  have nodes := (Draft.codec_depth_le_iff (Nat.le_add_left 1 _)).mp within
  rw [Draft.nodes_load load]
  refine List.forall_mem_map.mpr fun n mem => ?_
  exact (Node.codec_depth_le_iff positive).mpr
    ((DraftNode.codec_depth_le_iff positive).mp (nodes n mem))

/-- A version in the snapshot of a listing lies two levels higher than the listing. -/
theorem Registry.version_depth_le (positive : 1 ≤ k) {records : List BlockRecord}
    (within : (BlockRecord.codec.list.encode records).depth ≤ k + 3) {id : String}
    {b : BlockVersion} (found : (ofRecords records).lookup id = some b) :
    (BlockVersion.codec.encode b).depth ≤ k + 1 := by
  obtain ⟨mem, -⟩ := of_lookup_ofVersions found
  obtain ⟨record, there, published⟩ := List.mem_filterMap.mp mem
  obtain ⟨p, latest, rfl⟩ := Option.map_eq_some_iff.mp published
  have inListing := list_depth_le_iff.mp within record there
  have level := BlockRecord.codec_depth_le_iff.mp inListing p latest
  obtain ⟨input, output⟩ := PublishedVersion.codec_depth_le_iff.mp level
  -- a schema that is not given is written as an object without members
  have given : ∀ {schema : Option FreeObject},
      (∀ s, schema = some s → (object.encode s).depth ≤ k) →
        (object.encode (schema.getD .empty)).depth ≤ k := by
    rintro (_ | s) each
    · exact positive
    · exact each s rfl
  exact BlockVersion.codec_depth_le_iff.mpr ⟨given input, given output⟩

/-- A specification has three levels above those of its nodes, and two above those of the versions
that are locked. -/
theorem Compiler.codec_depth_le (room : 2 ≤ k) {g : Graph} {r : Registry}
    (nodes : ∀ n ∈ g.nodes, (Node.codec.encode n).depth ≤ k)
    (versions : ∀ id b, r.lookup id = some b → (BlockVersion.codec.encode b).depth ≤ k + 1)
    (c : Compiler) (stamp : Stamp) :
    (Spec.codec.encode (c.compile g r stamp)).depth ≤ k + 3 := by
  have graph : (SpecGraph.codec.encode (.ofGraph g)).depth ≤ k + 2 := by
    have edges : ∀ e ∈ g.edges.map SpecEdge.ofEdge, (SpecEdge.codec.encode e).depth ≤ k :=
      fun e _ => Nat.le_trans e.codec_depth_le room
    refine Record.codec_depth_le_iff.mpr ?_
    simp only [within_required, within_defaulted, within_start, list_depth_le_iff, true_and]
    exact ⟨nodes, edges⟩
  have locks : ∀ b ∈ lockBlocks g.nodes r, (BlockVersion.codec.encode b).depth ≤ k + 1 := by
    intro b mem
    obtain ⟨id, found⟩ := lookup_of_mem_lockBlocks mem
    exact versions id b found
  refine Record.codec_depth_le_iff.mpr ?_
  simp only [within_required, within_defaulted, within_start, list_depth_le_iff, true_and]
  refine ⟨⟨⟨⟨Nat.zero_le _, ?_⟩, graph⟩, locks⟩, ?_⟩
  · exact Nat.le_trans (PipelineMeta.codec_depth_le _) (by omega)
  · exact Nat.le_trans (RunConfig.codec_depth_le _) (by omega)

end Compile

end BlockPipeline
