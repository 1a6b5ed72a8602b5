import BlockPipeline.Proofs.Json.Faithful
import BlockPipeline.Proofs.Json.Shallow
import BlockPipeline.Proofs.Time.Instant
import BlockPipeline.Spec.Validate

/-!
# The wire forms of a specification

Every type in a specification is read back from what is written for it (`codec_faithful`), and what
is decoded is no deeper than the document, up to the levels that the type always has
(`codec_shallow`). Both follow the description of a type, field by field, and need of the types of
its fields only the same two properties.
-/

set_option autoImplicit false

namespace BlockPipeline

open Codec Record

/-! ## Nodes -/

theorem Port.codec_faithful : Port.codec.Faithful :=
  Record.codec_faithful (by decide) fun _ =>
    restores_start Port.mk
      |>.required string_faithful Port.name
      |>.required string_faithful Port.portType
      |>.optional object_faithful nofun Port.schema

theorem Port.codec_shallow : Port.codec.Shallow 2 :=
  Record.codec_shallow fun _ =>
    Ensures.start Port.mk (by grind)
      |>.required string_shallow
      |>.required string_shallow
      |>.optional object_shallow

theorem NodeKind.codec_faithful : NodeKind.codec.Faithful :=
  variant_faithful fun kind => by cases kind <;> rfl

theorem NodeKind.codec_shallow : NodeKind.codec.Shallow 0 := variant_shallow _ _

theorem BlockRef.codec_faithful : BlockRef.codec.Faithful :=
  Record.codec_faithful (by decide) fun _ =>
    restores_start BlockRef.mk
      |>.required string_faithful BlockRef.blockId
      |>.required string_faithful BlockRef.version

theorem BlockRef.codec_shallow : BlockRef.codec.Shallow 1 :=
  Record.codec_shallow fun _ =>
    Ensures.start BlockRef.mk (by grind)
      |>.required string_shallow
      |>.required string_shallow

theorem Position.codec_faithful : Position.codec.Faithful :=
  Record.codec_faithful (by decide) fun _ =>
    restores_start Position.mk
      |>.required double_faithful Position.x
      |>.required double_faithful Position.y

theorem Position.codec_shallow : Position.codec.Shallow 1 :=
  Record.codec_shallow fun _ =>
    Ensures.start Position.mk (by grind)
      |>.required double_shallow
      |>.required double_shallow

theorem Node.codec_faithful : Node.codec.Faithful :=
  Record.codec_faithful (by decide) fun _ =>
    restores_start (fun id kind block inputs outputs config position =>
        (⟨⟨kind, block, inputs, outputs, config, position⟩, id⟩ : Node))
      |>.required string_faithful Node.id
      |>.required NodeKind.codec_faithful (·.kind)
      |>.required BlockRef.codec_faithful (·.block)
      |>.defaulted Port.codec_faithful.list [] (·.inputs)
      |>.defaulted Port.codec_faithful.list [] (·.outputs)
      |>.defaulted object_faithful .empty (·.config)
      |>.defaulted Position.codec_faithful .origin (·.position)

theorem Node.codec_shallow : Node.codec.Shallow 4 :=
  Record.codec_shallow fun _ =>
    Ensures.start (fun id kind block inputs outputs config position =>
        (⟨⟨kind, block, inputs, outputs, config, position⟩, id⟩ : Node)) (by grind)
      |>.required string_shallow
      |>.required NodeKind.codec_shallow
      |>.required BlockRef.codec_shallow
      |>.defaulted Port.codec_shallow.list (by decide)
      |>.defaulted Port.codec_shallow.list (by decide)
      |>.defaulted object_shallow (by decide)
      |>.defaulted Position.codec_shallow (by decide)

/-! ## Edges and the graph -/

theorem PortRef.codec_faithful : PortRef.codec.Faithful :=
  Record.codec_faithful (by decide) fun _ =>
    restores_start PortRef.mk
      |>.required string_faithful PortRef.node
      |>.required string_faithful PortRef.port

theorem PortRef.codec_shallow : PortRef.codec.Shallow 1 :=
  Record.codec_shallow fun _ =>
    Ensures.start PortRef.mk (by grind)
      |>.required string_shallow
      |>.required string_shallow

theorem SpecEdge.codec_faithful : SpecEdge.codec.Faithful :=
  Record.codec_faithful (by decide) fun _ =>
    restores_start SpecEdge.mk
      |>.required string_faithful SpecEdge.id
      |>.required PortRef.codec_faithful SpecEdge.source
      |>.required PortRef.codec_faithful SpecEdge.target

theorem SpecEdge.codec_shallow : SpecEdge.codec.Shallow 2 :=
  Record.codec_shallow fun _ =>
    Ensures.start SpecEdge.mk (by grind)
      |>.required string_shallow
      |>.required PortRef.codec_shallow
      |>.required PortRef.codec_shallow

theorem SpecGraph.codec_faithful : SpecGraph.codec.Faithful :=
  Record.codec_faithful (by decide) fun _ =>
    restores_start SpecGraph.mk
      |>.required Node.codec_faithful.list SpecGraph.nodes
      |>.defaulted SpecEdge.codec_faithful.list [] SpecGraph.edges

theorem SpecGraph.codec_shallow : SpecGraph.codec.Shallow 6 :=
  Record.codec_shallow fun _ =>
    Ensures.start SpecGraph.mk (by grind)
      |>.required Node.codec_shallow.list
      |>.defaulted SpecEdge.codec_shallow.list (by decide)

/-! ## Locked blocks -/

theorem BlockVersion.codec_faithful : BlockVersion.codec.Faithful :=
  Record.codec_faithful (by decide) fun _ =>
    restores_start BlockVersion.mk
      |>.required string_faithful BlockVersion.blockId
      |>.required string_faithful BlockVersion.version
      |>.required string_faithful BlockVersion.digest
      |>.defaulted object_faithful .empty BlockVersion.inputSchema
      |>.defaulted object_faithful .empty BlockVersion.outputSchema
      |>.optional string_faithful nofun BlockVersion.changelog
      |>.optional bool_faithful nofun BlockVersion.deprecated

theorem BlockVersion.codec_shallow : BlockVersion.codec.Shallow 2 :=
  Record.codec_shallow fun _ =>
    Ensures.start BlockVersion.mk (by grind)
      |>.required string_shallow
      |>.required string_shallow
      |>.required string_shallow
      |>.defaulted object_shallow (by decide)
      |>.defaulted object_shallow (by decide)
      |>.optional string_shallow
      |>.optional bool_shallow

/-! ## The pipeline and its run -/

/-- A stamp is read back because its text is. -/
theorem Instant.codec_faithful : Instant.codec.Faithful := fun t => by
  have back := Instant.ofText?_text t
  simp only [decodeValue, Instant.codec, Json.normal, FreeJson.string, Document.ofJson, back]

theorem Instant.codec_shallow : Instant.codec.Shallow 0 := fun _ _ _ _ => Nat.zero_le _

theorem PipelineMeta.codec_faithful : PipelineMeta.codec.Faithful :=
  Record.codec_faithful (by decide) fun _ =>
    restores_start PipelineMeta.mk
      |>.required string_faithful PipelineMeta.id
      |>.required string_faithful PipelineMeta.name
      |>.optional string_faithful nofun PipelineMeta.description
      |>.required Instant.codec_faithful PipelineMeta.createdAt

theorem PipelineMeta.codec_shallow : PipelineMeta.codec.Shallow 1 :=
  Record.codec_shallow fun _ =>
    Ensures.start PipelineMeta.mk (by grind)
      |>.required string_shallow
      |>.required string_shallow
      |>.optional string_shallow
      |>.required Instant.codec_shallow

theorem RunMode.codec_faithful : RunMode.codec.Faithful :=
  variant_faithful fun mode => by cases mode <;> rfl

theorem RunMode.codec_shallow : RunMode.codec.Shallow 0 := variant_shallow _ _

theorem RunResources.codec_faithful : RunResources.codec.Faithful :=
  Record.codec_faithful (by decide) fun _ =>
    restores_start RunResources.mk
      |>.optional double_faithful double_visible RunResources.cpuLimit
      |>.optional word_faithful nofun RunResources.memoryMB
      |>.optional word_faithful nofun RunResources.timeoutSec

theorem RunResources.codec_shallow : RunResources.codec.Shallow 1 :=
  Record.codec_shallow fun _ =>
    Ensures.start RunResources.mk (by grind)
      |>.optional double_shallow
      |>.optional word_shallow
      |>.optional word_shallow

theorem RunConfig.codec_faithful : RunConfig.codec.Faithful :=
  Record.codec_faithful (by decide) fun _ =>
    restores_start RunConfig.mk
      |>.defaulted word_faithful 0 RunConfig.seed
      |>.defaulted RunMode.codec_faithful .sync RunConfig.mode
      |>.optional RunResources.codec_faithful codec_visible RunConfig.resources

theorem RunConfig.codec_shallow : RunConfig.codec.Shallow 2 :=
  Record.codec_shallow fun _ =>
    Ensures.start RunConfig.mk (by grind)
      |>.defaulted word_shallow (by decide)
      |>.defaulted RunMode.codec_shallow (by decide)
      |>.optional RunResources.codec_shallow

/-! ## The whole -/

theorem Spec.codec_faithful : Spec.codec.Faithful :=
  Record.codec_faithful (by decide) fun _ =>
    restores_start Spec.mk
      |>.defaulted string_faithful BlockPipeline.specVersion Spec.specVersion
      |>.required PipelineMeta.codec_faithful Spec.pipeline
      |>.required SpecGraph.codec_faithful Spec.graph
      |>.defaulted BlockVersion.codec_faithful.list [] Spec.lockedBlocks
      |>.defaulted RunConfig.codec_faithful {} Spec.runConfig

theorem Spec.codec_shallow : Spec.codec.Shallow 7 :=
  Record.codec_shallow fun _ =>
    Ensures.start Spec.mk (by grind)
      |>.defaulted string_shallow (by decide)
      |>.required PipelineMeta.codec_shallow
      |>.required SpecGraph.codec_shallow
      |>.defaulted BlockVersion.codec_shallow.list (by decide)
      |>.defaulted RunConfig.codec_shallow (by decide)

end BlockPipeline
