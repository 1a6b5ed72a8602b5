import BlockPipeline.Cli.Command
import BlockPipeline.Session
import BlockPipeline.Service.Http
import BlockPipeline.Trace.Listing

/-!
# The program

A program is given what it may need from outside as a `World`: the contents of files, what
comes of writing one, the delivery of requests, and the stamp of a compilation. What it does
with it is a function: it gathers a report of what is printed, what is written and how the
program ends. The first failure ends it, with a message and the code one.
-/

namespace BlockPipeline.Cli

/-- What surrounds the program. -/
structure World where
  /-- The content of a file, or why it cannot be read. -/
  read : String → Except String String
  /-- Why a file cannot be written, if it cannot. -/
  writeFault : String → Option String
  deliver : Delivery
  stamp : Stamp
  /-- How long the compilation took. -/
  elapsed : String

/-- What the program did. -/
structure Report where
  code : Nat := 0
  output : String := ""
  errors : String := ""
  /-- The files that were written, with their contents. -/
  written : List (String × String) := []

/-- A program that may end early. -/
abbrev Script (α : Type) := ExceptT Unit (StateM Report) α

namespace Script

def say (line : String) : Script Unit :=
  modify fun r => { r with output := r.output ++ line ++ "\n" }

def complain (line : String) : Script Unit :=
  modify fun r => { r with errors := r.errors ++ line ++ "\n" }

/-- Ends the program with a message. -/
def fail {α : Type} (message : String) : Script α := do
  complain ("\nError: " ++ message)
  modify fun r => { r with code := 1 }
  throw ()

/-- The value, or the end of the program. -/
def orFail {ε α : Type} (result : Except ε α) (message : ε → String) : Script α :=
  match result with
  | .ok a => pure a
  | .error e => fail (message e)

/-- Reads a file. -/
def readFile (w : World) (what path : String) : Script String :=
  orFail (w.read path) fun reason =>
    "Failed to read " ++ what ++ " file '" ++ path ++ "': " ++ reason

/-- Writes a file. -/
def writeFile (w : World) (path content : String) : Script Unit :=
  match w.writeFault path with
  | some reason => fail ("Failed to write spec to '" ++ path ++ "': " ++ reason)
  | none => modify fun r => { r with written := r.written ++ [(path, content)] }

/-- The remark on an edge that a draft has and its graph has not. -/
def skippedEdge (c : Candidate) (reason : Refusal) : String :=
  "Skipped edge " ++ c.source ++ ":" ++ c.sourceHandle ++ " -> " ++ c.target ++ ":" ++
    c.targetHandle ++ ": " ++ reason.message

/-- Loads a draft and remarks on the edges that are refused. -/
def loadDraft (w : World) (path : String) : Script Graph := do
  let text ← readFile w "draft" path
  let draft ← orFail (Draft.ofText text) fun e => "Failed to load draft: " ++ e.message
  let loaded ← orFail draft.load fun e => "Failed to load draft: " ++ e.message
  loaded.refused.forM fun (c, reason) => complain (skippedEdge c reason)
  return loaded.graph

/-- The services that the program talks to. -/
def services (i : Invocation) (w : World) : HttpService :=
  let config := match i.api with
    | some base => ServiceConfig.ofBase base
    | none => .standard
  ⟨config.base, w.deliver⟩

/-- Loads the snapshot of the registry. -/
def loadRegistry (i : Invocation) (w : World) (listing : ListingSource) : Script Registry := do
  match listing with
  | .nowhere => return .empty
  | .file path =>
    let text ← readFile w "registry" path
    let records ← orFail (BlockRecord.codec.list.decodeText text) fun e =>
      "Failed to parse registry JSON: " ++ e.message
    return .ofRecords records
  | .remote =>
    let records ← orFail (services i w).listBlocks fun e =>
      (SessionError.registryUnavailable e).message
    return .ofRecords records

/-- Loads a specification. -/
def loadSpec (w : World) (path : String) : Script Spec := do
  let text ← readFile w "spec" path
  orFail (Spec.ofText text) SpecError.message

def template (i : Invocation) (w : World) (listing : ListingSource) : Script Unit := do
  let registry ← loadRegistry i w listing
  say (Draft.codec.encode (.ofGraph (quickStart registry))).pretty

/-- The line about a compilation whose result went to a file. -/
def compiledLine (w : World) (s : Spec) (path : String) : String :=
  "Compiled '" ++ s.pipeline.id ++ "' (" ++ toString s.graph.nodes.length ++ " nodes, " ++
    toString s.graph.edges.length ++ " edges, " ++ toString s.lockedBlocks.length ++
    " locked blocks) in " ++ w.elapsed ++ " -> " ++ path

def compile (i : Invocation) (w : World) (draft : String) (listing : ListingSource)
    (options : CompileOptions) : Script Unit := do
  let graph ← loadDraft w draft
  let registry ← loadRegistry i w listing
  let standard : Compiler := {}
  let compiler : Compiler :=
    { name := options.name.getD standard.name
      runConfig := { seed := options.seed, mode := options.mode } }
  let spec := compiler.compile graph registry w.stamp
  match options.out with
  | some path => do
    writeFile w path spec.text
    say (compiledLine w spec path)
  | none => say spec.text

def check (i : Invocation) (w : World) (draft : String) (listing : ListingSource) :
    Script Unit := do
  let graph ← loadDraft w draft
  let registry ← loadRegistry i w listing
  match diagnose graph registry with
  | [] => say "No findings."
  | found => do
    found.forM fun f => say ("  - " ++ f.message)
    say ("\n" ++ toString found.length ++ " finding(s).")

def run (i : Invocation) (w : World) (path : String) : Script Unit := do
  let spec ← loadSpec w path
  let created ← orFail ((services i w).createRun spec) fun e => "Run failed: " ++ e.message
  say ("Run " ++ created.runId ++ " [" ++ created.status ++ "]")
  match created.metrics with
  | none => return
  | some metrics =>
    metrics.members.forM fun (key, value) => say ("  " ++ key ++ ": " ++ value.compact)

def explain (i : Invocation) (w : World) (path : String) (focus : Option String) :
    Script Unit := do
  let spec ← loadSpec w path
  let trace ← orFail ((services i w).explain spec) fun e => "Explain failed: " ++ e.message
  say (Trace.flow trace.steps focus)
  match trace.focus? focus with
  | some step => say ("\n" ++ step.detail)
  | none => say "\nThe trace has no steps."

/-- A text filled up with blanks to a width. -/
def column (width : Nat) (text : String) : String :=
  text ++ String.ofList (List.replicate (width - text.length) ' ')

def runLine (r : RunListItem) : String :=
  " ".intercalate
    [column 16 r.runId, column 10 r.status, column 28 r.createdAt, r.finishedAt.getD "-"]

def runs (i : Invocation) (w : World) : Script Unit := do
  let runs ← orFail (services i w).listRuns fun e => "Listing runs failed: " ++ e.message
  if runs.isEmpty then say "No runs recorded."
  runs.forM fun r => say (runLine r)

end Script

/-- What a command does. -/
def Invocation.script (i : Invocation) (w : World) : Script Unit :=
  match i.command with
  | .template listing => Script.template i w listing
  | .compile draft listing options => Script.compile i w draft listing options
  | .check draft listing => Script.check i w draft listing
  | .run spec => Script.run i w spec
  | .explain spec focus => Script.explain i w spec focus
  | .runs => Script.runs i w

/-- The files that a command reads, in order. -/
def Invocation.inputs (i : Invocation) : List String :=
  let listed : ListingSource → List String
    | .file path => [path]
    | _ => []
  match i.command with
  | .template listing => listed listing
  | .compile draft listing _ | .check draft listing => draft :: listed listing
  | .run spec | .explain spec _ => [spec]
  | .runs => []

/-- Carries out a command. -/
def Invocation.perform (i : Invocation) (w : World) : Report :=
  (StateT.run (ExceptT.run (i.script w)) {}).2

/-- How the program is used, in one line. -/
def usageLine : String :=
  "usage: [--api URL] [--timeout SECONDS] [-v] " ++
    "template | compile DRAFT | check DRAFT | run SPEC | explain SPEC | runs"

/-- The report of a command line that names no command to carry out. -/
def Stop.report : Stop → Report
  | .usage => { code := 2, errors := usageLine ++ "\n" }
  | .help => { output := usageLine ++ "\n" }
  | .version => { output := "blockflow 0.1.0\n" }

end BlockPipeline.Cli
