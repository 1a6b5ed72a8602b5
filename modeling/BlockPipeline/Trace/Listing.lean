import BlockPipeline.Number.Text
import BlockPipeline.Trace.Basic

/-!
# Listings of a trace

A trace is shown in two forms: the flow, with one line for each step and a mark in front of
the active one, and a single step with all that is known about it. Whole numbers of moderate
size are written without a fraction.
-/

namespace BlockPipeline

/-- Integers joined by a comma and a blank. -/
def commaSeparated (texts : List String) : String := ", ".intercalate texts

/-- Whether the magnitude of a number is below `10 ^ 15`. -/
def Double.isModerate (x : Double) : Bool := x.numerator < 1000000000000000 * x.denominator

/-- A number in a listing. -/
def Double.listed (x : Double) : String :=
  if x.isWhole && x.isModerate then toString x.truncate else Layout.listing.write x

namespace TracePort

/-- One line for a value at a port. -/
def line (p : TracePort) : String :=
  let shape := match p.shape with
    | some shape => " shape=[" ++ commaSeparated (shape.map fun n => toString n.toNat) ++ "]"
    | none => ""
  let preview := match p.preview with
    | some preview => " preview=[" ++ commaSeparated (preview.map Double.listed) ++ "]"
    | none => ""
  let note := match p.note with
    | some note => " // " ++ note
    | none => ""
  "\n    - " ++ p.name ++ " (" ++ p.portType ++ ")" ++ shape ++ preview ++ note

/-- The lines of the values on one side, under a heading; nothing for none. -/
def block (heading : String) (ports : List TracePort) : String :=
  if ports.isEmpty then "" else "\n  " ++ heading ++ ":" ++ String.join (ports.map line)

end TracePort

namespace TraceStep

/-- The line of a step in the flow, marked if its node is the active one. -/
def flowLine (active : Option String) (s : TraceStep) : String :=
  let mark := if active = some s.nodeId then ">" else " "
  mark ++ " " ++ s.nodeType ++ ": " ++ s.title ++ " (" ++ s.blockId ++ "@" ++ s.version ++
    ") in:" ++ toString s.inputs.length ++ " out:" ++ toString s.outputs.length

/-- A line with a label, if there is something to say. -/
def labelled (label : String) (value : Option String) : String :=
  match value with
  | some value => "\n  " ++ label ++ ": " ++ value
  | none => ""

/-- All that is known about a step. -/
def detail (s : TraceStep) : String :=
  let sources := if s.implementation.isEmpty then none else some (commaSeparated s.implementation)
  s.title ++ "\n  " ++ s.blockId ++ "@" ++ s.version ++ " (" ++ s.nodeType ++ ")" ++
    labelled "formula" s.formula ++ labelled "why" s.whyItWorks ++
    TracePort.block "inputs" s.inputs ++ TracePort.block "outputs" s.outputs ++
    labelled "impl" sources

end TraceStep

/-- The flow of a trace, a line for each step. -/
def Trace.flow (steps : List TraceStep) (active : Option String) : String :=
  "\n".intercalate (steps.map (TraceStep.flowLine active))

end BlockPipeline
