import BlockPipeline.Draft
import BlockPipeline.Proofs.Spec.Wire
import BlockPipeline.Service.Basic

/-!
# The wire forms of drafts and services

Besides specifications, drafts are written and read, and so is what the services answer. Every one of
these types is read back from what is written for it (`codec_faithful`), by the description of its
fields. A field without a value is left out in some of them and written as `null` in others, and both
are read as no value, because no value of these fields is itself written as `null`.

What is decoded may have been written otherwise: with members in another order or unknown ones among
them, without the fields that have a value of their own, or as an array of the fields by position.
Written anew, it is in the one form that stays as it is (`WireForm.reads_what_it_writes`).
-/

set_option autoImplicit false

namespace BlockPipeline

open Codec Record

/-! ## Drafts -/

theorem DraftNodeData.codec_faithful : DraftNodeData.codec.Faithful :=
  Record.codec_faithful (by decide) fun _ =>
    restores_start DraftNodeData.mk
      |>.optional string_faithful nofun DraftNodeData.label
      |>.required NodeKind.codec_faithful DraftNodeData.kind
      |>.required string_faithful DraftNodeData.blockId
      |>.required string_faithful DraftNodeData.version
      |>.defaulted Port.codec_faithful.list [] DraftNodeData.inputs
      |>.defaulted Port.codec_faithful.list [] DraftNodeData.outputs
      |>.defaulted object_faithful .empty DraftNodeData.config

theorem DraftNode.codec_faithful : DraftNode.codec.Faithful :=
  Record.codec_faithful (by decide) fun _ =>
    restores_start DraftNode.mk
      |>.required string_faithful DraftNode.id
      |>.defaulted Position.codec_faithful .origin DraftNode.position
      |>.required DraftNodeData.codec_faithful DraftNode.data

theorem Candidate.codec_faithful : Candidate.codec.Faithful :=
  Record.codec_faithful (by decide) fun _ =>
    restores_start Candidate.mk
      |>.required string_faithful Candidate.source
      |>.required string_faithful Candidate.sourceHandle
      |>.required string_faithful Candidate.target
      |>.required string_faithful Candidate.targetHandle

theorem Draft.codec_faithful : Draft.codec.Faithful :=
  Record.codec_faithful (by decide) fun _ =>
    restores_start Draft.mk
      |>.required DraftNode.codec_faithful.list Draft.nodes
      |>.defaulted Candidate.codec_faithful.list [] Draft.edges

/-! ## Listings of the registry -/

theorem PublishedVersion.codec_faithful : PublishedVersion.codec.Faithful :=
  Record.codec_faithful (by decide) fun _ =>
    restores_start PublishedVersion.mk
      |>.required string_faithful PublishedVersion.version
      |>.required string_faithful PublishedVersion.digest
      |>.nullable object_faithful nofun PublishedVersion.inputSchema
      |>.nullable object_faithful nofun PublishedVersion.outputSchema
      |>.nullable string_faithful nofun PublishedVersion.changelog
      |>.nullable bool_faithful nofun PublishedVersion.deprecated

theorem BlockRecord.codec_faithful : BlockRecord.codec.Faithful :=
  Record.codec_faithful (by decide) fun _ =>
    restores_start BlockRecord.mk
      |>.required string_faithful BlockRecord.blockId
      |>.nullable string_faithful nofun BlockRecord.category
      |>.nullable string_faithful nofun BlockRecord.displayName
      |>.nullable string_faithful nofun BlockRecord.description
      |>.nullable PublishedVersion.codec_faithful codec_visible BlockRecord.latestPublished

/-! ## Runs -/

theorem RunCreated.codec_faithful : RunCreated.codec.Faithful :=
  Record.codec_faithful (by decide) fun _ =>
    restores_start RunCreated.mk
      |>.required string_faithful RunCreated.runId
      |>.required string_faithful RunCreated.status
      |>.nullable object_faithful nofun RunCreated.metrics

theorem RunListItem.codec_faithful : RunListItem.codec.Faithful :=
  Record.codec_faithful (by decide) fun _ =>
    restores_start RunListItem.mk
      |>.required string_faithful RunListItem.runId
      |>.required string_faithful RunListItem.status
      |>.required string_faithful RunListItem.createdAt
      |>.nullable string_faithful nofun RunListItem.finishedAt
      |>.defaulted object_faithful .empty RunListItem.metrics

/-! ## Traces -/

theorem TracePort.codec_faithful : TracePort.codec.Faithful :=
  Record.codec_faithful (by decide) fun _ =>
    restores_start TracePort.mk
      |>.required string_faithful TracePort.name
      |>.required string_faithful TracePort.portType
      |>.nullable word_faithful.list nofun TracePort.shape
      |>.nullable double_faithful.list nofun TracePort.preview
      |>.nullable string_faithful nofun TracePort.note

theorem TraceStep.codec_faithful : TraceStep.codec.Faithful :=
  Record.codec_faithful (by decide) fun _ =>
    restores_start TraceStep.mk
      |>.required string_faithful TraceStep.nodeId
      |>.required string_faithful TraceStep.nodeType
      |>.required string_faithful TraceStep.blockId
      |>.required string_faithful TraceStep.version
      |>.required string_faithful TraceStep.title
      |>.defaulted object_faithful .empty TraceStep.config
      |>.defaulted TracePort.codec_faithful.list [] TraceStep.inputs
      |>.defaulted TracePort.codec_faithful.list [] TraceStep.outputs
      |>.nullable string_faithful nofun TraceStep.formula
      |>.nullable string_faithful nofun TraceStep.whyItWorks
      |>.defaulted string_faithful.list [] TraceStep.implementation

theorem Trace.codec_faithful : Trace.codec.Faithful :=
  Record.codec_faithful (by decide) fun _ =>
    restores_start Trace.mk
      |>.defaulted string_faithful defaultTraceVersion Trace.traceVersion
      |>.nullable object_faithful nofun Trace.metrics
      |>.required TraceStep.codec_faithful.list Trace.steps

/-! ## All of them -/

/-- The types that an editor and the services write for one another. -/
inductive WireForm where
  | draft
  | node
  | candidate
  | port
  | blockRecord
  | blockVersion
  | runConfig
  | runCreated
  | runListItem
  | trace

namespace WireForm

/-- What is written in a form. -/
abbrev Value : WireForm → Type
  | .draft => Draft
  | .node => Node
  | .candidate => Candidate
  | .port => Port
  | .blockRecord => BlockRecord
  | .blockVersion => BlockVersion
  | .runConfig => RunConfig
  | .runCreated => RunCreated
  | .runListItem => RunListItem
  | .trace => Trace

/-- How it is read and written. -/
def codec : (form : WireForm) → Codec form.Value
  | .draft => Draft.codec
  | .node => Node.codec
  | .candidate => Candidate.codec
  | .port => Port.codec
  | .blockRecord => BlockRecord.codec
  | .blockVersion => BlockVersion.codec
  | .runConfig => RunConfig.codec
  | .runCreated => RunCreated.codec
  | .runListItem => RunListItem.codec
  | .trace => Trace.codec

theorem codec_faithful : (form : WireForm) → form.codec.Faithful
  | .draft => Draft.codec_faithful
  | .node => Node.codec_faithful
  | .candidate => Candidate.codec_faithful
  | .port => Port.codec_faithful
  | .blockRecord => BlockRecord.codec_faithful
  | .blockVersion => BlockVersion.codec_faithful
  | .runConfig => RunConfig.codec_faithful
  | .runCreated => RunCreated.codec_faithful
  | .runListItem => RunListItem.codec_faithful
  | .trace => Trace.codec_faithful

/-- **In every form, what is written is read back**, whatever the value. So what is decoded from any
JSON value may be written anew: the same is decoded from the result, which is a normal form, because
it is written anew as itself. -/
theorem reads_what_it_writes (form : WireForm) :
    (∀ x, form.codec.decodeValue (form.codec.encode x).normal = .ok x) ∧
    ∀ value x, form.codec.decodeValue value = .ok x →
      ∃ written, form.codec.rewritten value = .ok written ∧
        form.codec.decodeValue written = .ok x ∧ form.codec.rewritten written = .ok written :=
  ⟨form.codec_faithful, fun _ _ decoded => form.codec_faithful.rewritten decoded⟩

/-- A port that is given as an array of its fields is read, and is an object when it is written
anew. -/
theorem reads_what_it_writes_array :
    let value := FreeJson.array [.string "q", .string "text", .null]
    let q : Port := { name := "q", portType := "text" }
    port.codec.decodeValue value = .ok q ∧
      ∃ written, port.codec.rewritten value = .ok written ∧ written ≠ value ∧
        port.codec.decodeValue written = .ok q ∧ port.codec.rewritten written = .ok written := by
  intro value q
  have decoded : port.codec.decodeValue value = .ok q := rfl
  obtain ⟨written, once, same, twice⟩ := (reads_what_it_writes port).2 value q decoded
  refine ⟨decoded, written, once, fun unchanged => ?_, same, twice⟩
  obtain rfl : (port.codec.encode q).normal = written := Except.ok.inj once
  have kinds : Json.object _ = Json.array _ := congrArg FreeJson.json unchanged
  cases kinds

end WireForm

end BlockPipeline
