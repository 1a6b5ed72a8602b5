import BlockPipeline.Json.Write
import BlockPipeline.Node
import BlockPipeline.Registry
import BlockPipeline.Time.Instant

/-!
# Pipeline specifications

A specification is what the services receive: a pipeline's name and stamp, its nodes and
edges, the published versions of the blocks it uses, and how it is to be run. It is plain
data; whether it keeps the rules of a specification is another matter
(`BlockPipeline.Spec.Validate`).
-/

namespace BlockPipeline

/-- A time stamp is written and read as a string. -/
def Instant.codec : Codec Instant :=
  { decode := fun _ doc =>
      match doc with
      | .string s =>
        match Instant.ofText? s with
        | some t => .ok t
        | none => .error .unreadableTime
      | doc => mismatch "an RFC 3339 formatted date and time string" doc
    encode := fun t => .string t.text }

/-- The pipeline's identity. -/
structure PipelineMeta where
  id : String
  name : String
  description : Option String := none
  createdAt : Instant

def PipelineMeta.codec : Codec PipelineMeta :=
  Record.codec
    (Record.start PipelineMeta.mk
      |>.required "id" .string PipelineMeta.id
      |>.required "name" .string PipelineMeta.name
      |>.optional "description" .string PipelineMeta.description
      |>.required "createdAt" Instant.codec PipelineMeta.createdAt)
    "PipelineMeta"

/-- A port of a node, by bare names. -/
structure PortRef where
  node : String
  port : String
deriving DecidableEq

def PortRef.codec : Codec PortRef :=
  Record.codec
    (Record.start PortRef.mk
      |>.required "nodeId" .string PortRef.node
      |>.required "port" .string PortRef.port)
    "PortRef"

/-- An edge of a specification. -/
structure SpecEdge where
  id : String
  source : PortRef
  target : PortRef
deriving DecidableEq

def SpecEdge.codec : Codec SpecEdge :=
  Record.codec
    (Record.start SpecEdge.mk
      |>.required "id" .string SpecEdge.id
      |>.required "from" PortRef.codec SpecEdge.source
      |>.required "to" PortRef.codec SpecEdge.target)
    "SpecEdge"

/-- The nodes and edges of a specification. -/
structure SpecGraph where
  nodes : List Node
  edges : List SpecEdge := []

def SpecGraph.codec : Codec SpecGraph :=
  Record.codec
    (Record.start SpecGraph.mk
      |>.required "nodes" Node.codec.list SpecGraph.nodes
      |>.defaulted "edges" SpecEdge.codec.list [] SpecGraph.edges)
    "SpecGraph"

/-- Whether the service answers when a run is finished or when it is accepted. -/
inductive RunMode where
  | sync
  | async
deriving DecidableEq

namespace RunMode

def text : RunMode → String
  | .sync => "sync"
  | .async => "async"

def codec : Codec RunMode := .variant ([.sync, .async].map fun mode => (text mode, mode)) text

end RunMode

/-- Limits of a run, passed on to the service. -/
structure RunResources where
  cpuLimit : Option Double := none
  memoryMB : Option UInt64 := none
  timeoutSec : Option UInt64 := none

def RunResources.codec : Codec RunResources :=
  Record.codec
    (Record.start RunResources.mk
      |>.optional "cpuLimit" .double RunResources.cpuLimit
      |>.optional "memoryMB" .word RunResources.memoryMB
      |>.optional "timeoutSec" .word RunResources.timeoutSec)
    "RunResources"

/-- How a pipeline is to be run. -/
structure RunConfig where
  seed : UInt64 := 0
  mode : RunMode := .sync
  resources : Option RunResources := none

def RunConfig.codec : Codec RunConfig :=
  Record.codec
    (Record.start RunConfig.mk
      |>.defaulted "seed" .word 0 RunConfig.seed
      |>.defaulted "mode" RunMode.codec .sync RunConfig.mode
      |>.optional "resources" RunResources.codec RunConfig.resources)
    "RunConfig"

/-- The generation of the wire form; there is only one. -/
def specVersion : String := "0.1.0"

/-- A pipeline specification. -/
structure Spec where
  specVersion : String := BlockPipeline.specVersion
  pipeline : PipelineMeta
  graph : SpecGraph
  lockedBlocks : List BlockVersion := []
  runConfig : RunConfig := {}

namespace Spec

def codec : Codec Spec :=
  Record.codec
    (Record.start Spec.mk
      |>.defaulted "specVersion" .string BlockPipeline.specVersion Spec.specVersion
      |>.required "pipeline" PipelineMeta.codec Spec.pipeline
      |>.required "graph" SpecGraph.codec Spec.graph
      |>.defaulted "lockedBlocks" BlockVersion.codec.list [] Spec.lockedBlocks
      |>.defaulted "runConfig" RunConfig.codec {} Spec.runConfig)
    "PipelineSpec"

/-- The indented text of a specification. -/
def text (s : Spec) : String := (codec.encode s).pretty

end Spec

end BlockPipeline
