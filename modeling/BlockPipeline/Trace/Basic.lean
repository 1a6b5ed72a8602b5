import BlockPipeline.Config.Basic

/-!
# Explain traces

The explain service answers with a trace: one step per executed node, in the order of the
service, which need not be that of the graph. A step says which node it belongs to, what went
in and what came out, and why.

`Trace.focus?` picks the step that an editor shows for the current selection: the first step
of the selected node, or else the first step of all, so a trace that is not empty always has
a focus.
-/

namespace BlockPipeline

/-- A value seen at a port. -/
structure TracePort where
  name : String
  portType : String
  shape : Option (List UInt64) := none
  preview : Option (List Double) := none
  note : Option String := none

def TracePort.codec : Codec TracePort :=
  Record.codec
    (Record.start TracePort.mk
      |>.required "name" .string TracePort.name
      |>.required "portType" .string TracePort.portType
      |>.nullable "shape" (.list .word) TracePort.shape
      |>.nullable "preview" (.list .double) TracePort.preview
      |>.nullable "note" .string TracePort.note)
    "ExplainPortIO"

/-- The execution of one node. -/
structure TraceStep where
  nodeId : String
  nodeType : String
  blockId : String
  version : String
  title : String
  config : Config := .empty
  inputs : List TracePort := []
  outputs : List TracePort := []
  formula : Option String := none
  whyItWorks : Option String := none
  implementation : List String := []

def TraceStep.codec : Codec TraceStep :=
  Record.codec
    (Record.start TraceStep.mk
      |>.required "nodeId" .string TraceStep.nodeId
      |>.required "nodeType" .string TraceStep.nodeType
      |>.required "blockId" .string TraceStep.blockId
      |>.required "version" .string TraceStep.version
      |>.required "title" .string TraceStep.title
      |>.defaulted "config" .object .empty TraceStep.config
      |>.defaulted "inputs" TracePort.codec.list [] TraceStep.inputs
      |>.defaulted "outputs" TracePort.codec.list [] TraceStep.outputs
      |>.nullable "formula" .string TraceStep.formula
      |>.nullable "whyItWorks" .string TraceStep.whyItWorks
      |>.defaulted "impl" (.list .string) [] TraceStep.implementation)
    "ExplainStep"

/-- The version of a trace that does not give one. -/
def defaultTraceVersion : String := "0.1.0"

/-- A trace. -/
structure Trace where
  traceVersion : String := defaultTraceVersion
  metrics : Option FreeObject := none
  steps : List TraceStep

namespace Trace

def codec : Codec Trace :=
  Record.codec
    (Record.start Trace.mk
      |>.defaulted "traceVersion" .string defaultTraceVersion Trace.traceVersion
      |>.nullable "metrics" .object Trace.metrics
      |>.required "steps" TraceStep.codec.list Trace.steps)
    "ExplainResponse"

/-- The trace of the given steps, without metrics. -/
def ofSteps (steps : List TraceStep) : Trace := { steps := steps }

/-- The place of the first step of a node. -/
def indexOf? (t : Trace) (node : String) : Option Nat := t.steps.findIdx? (·.nodeId == node)

/-- The place of the step in focus: that of the first step of the selected node, else the
first place of all. -/
def focusIndex? (t : Trace) (selected : Option String) : Option Nat :=
  if t.steps.isEmpty then none
  else some ((selected.bind t.indexOf?).getD 0)

/-- The step in focus. -/
def focus? (t : Trace) (selected : Option String) : Option TraceStep :=
  (t.focusIndex? selected).bind (t.steps[·]?)

end Trace

end BlockPipeline
