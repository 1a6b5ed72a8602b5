import BlockPipeline.Journal

/-!
# Editing sessions

A session holds one graph, one snapshot of the registry, and the latest results of the calls
made on its behalf. Everything that a user does is an `Action`; an action that calls a
service carries the reply, and the moment and id of a compilation are arguments too, so
`Session.step` is a function.

A result replaces the one before it. A failure is noted in `lastError` and changes nothing
else, except that a compilation made on the way keeps its text. Clearing forgets the
compiled text, the last run and the error, and keeps the trace and the registry.
-/

namespace BlockPipeline

/-- Why an action of a session failed. -/
inductive SessionError where
  | registryUnavailable (error : ServiceError)
  | service (error : ServiceError)
  | spec (error : SpecError)

def SessionError.message : SessionError → String
  | .registryUnavailable error => "Block registry unavailable: " ++ error.message
  | .service error => error.message
  | .spec error => error.message

/-- The state of an editor. -/
structure Session where
  compiler : Compiler := {}
  palette : Palette := .builtin
  graph : Graph := .empty
  registry : Registry := .empty
  /-- The indented text of the latest compilation. -/
  specText : Option String := none
  lastRun : Option RunCreated := none
  trace : Option Trace := none
  selectedNode : Option String := none
  /-- The key of the selected template. -/
  paletteKey : String := (palette.select "").key
  lastError : Option String := none

/-- What a user does. -/
inductive Action where
  /-- Compiles with other settings from now on. -/
  | useCompiler (compiler : Compiler)
  /-- Offers the templates of another palette from now on. -/
  | usePalette (palette : Palette)
  | refresh (reply : Reply (List BlockRecord))
  | selectTemplate (key : String)
  | place (key : String) (draws : List String) (position : Position)
  | connect (candidate : Candidate)
  | remove (id : String)
  | select (node : Option String)
  | loadQuickStart
  | clear
  /-- Compiles the graph. -/
  | compile (stamp : Stamp)
  | diagnose
  /-- Compiles the graph and submits the result. -/
  | run (stamp : Stamp) (reply : Reply RunCreated)
  /-- Submits a specification written by hand. -/
  | submit (text : String) (reply : Reply RunCreated)
  /-- Compiles the graph and asks for a trace. -/
  | explain (stamp : Stamp) (reply : Reply Trace)
  | listRuns (reply : Reply (List RunListItem))

/-- What an action answers. -/
inductive Answer where
  | done
  | refreshed (result : Except SessionError Nat)
  | selected (template : Template)
  | placed (id : Option String)
  | connected (result : Except Refusal String)
  | removed (done : Bool)
  | exported (spec : Spec)
  | findings (found : List Finding)
  | ran (result : Except SessionError RunCreated)
  | explained (result : Except SessionError Trace)
  | runs (result : Except SessionError (List RunListItem))

/-- What comes of an action: the state behind it, the answer, the calls that were made, and
the events. -/
structure Outcome where
  session : Session
  answer : Answer
  calls : List Call := []
  events : List Event := []

namespace Session

/-- A session with the given settings and palette. -/
def start (compiler : Compiler := {}) (palette : Palette := .builtin) : Session :=
  { compiler := compiler, palette := palette }

/-- The selected template. -/
def selectedTemplate (s : Session) : Template := s.palette.select s.paletteKey

/-- The step of the trace that belongs to the selection. -/
def focusedStep? (s : Session) : Option TraceStep := s.trace.bind (·.focus? s.selectedNode)

/-- Notes a failure. -/
def fail (s : Session) (error : SessionError) : Session :=
  { s with lastError := some error.message }

/-- The palette takes the place of the one before, and its own first choice is selected. -/
def usePalette (s : Session) (palette : Palette) : Session :=
  { s with palette := palette, paletteKey := (palette.select "").key }

def refresh (s : Session) (reply : Reply (List BlockRecord)) : Outcome :=
  match reply with
  | .ok records =>
    let registry := Registry.ofRecords records
    { session := { s with registry := registry }
      answer := .refreshed (.ok registry.size)
      calls := [.listBlocks]
      events := [.registryRefreshed records.length registry] }
  | .error e =>
    { session := s.fail (.registryUnavailable e)
      answer := .refreshed (.error (.registryUnavailable e))
      calls := [.listBlocks]
      events := [.refreshFailed e s.registry] }

/-- The template with a key, or the first one, becomes the selected one. -/
def selectTemplate (s : Session) (key : String) : Outcome :=
  let template := s.palette.select key
  { session := { s with paletteKey := template.key }, answer := .selected template }

/-- Places a template and selects it; an unknown key changes nothing. -/
def place (s : Session) (key : String) (draws : List String) (position : Position) : Outcome :=
  let edit := Edit.place s.palette key s.registry draws position
  let events := Event.ofEdit s.graph edit
  match s.palette.place? key s.graph s.registry draws position with
  | some (node, graph) =>
    { session := { s with graph := graph, paletteKey := key }
      answer := .placed (some node.id)
      events := events }
  | none => { session := s, answer := .placed none, events := events }

def connect (s : Session) (c : Candidate) : Outcome :=
  let events := Event.ofEdit s.graph (.connect c)
  match s.graph.connect c with
  | .ok (edge, graph) =>
    { session := { s with graph := graph }, answer := .connected (.ok edge.id), events := events }
  | .error reason => { session := s, answer := .connected (.error reason), events := events }

/-- Removes a node; a selection of it is dropped. -/
def remove (s : Session) (id : String) : Outcome :=
  let events := Event.ofEdit s.graph (.remove id)
  match s.graph.remove? id with
  | some (_, graph) =>
    let selected := if s.selectedNode = some id then none else s.selectedNode
    { session := { s with graph := graph, selectedNode := selected }
      answer := .removed true
      events := events }
  | none => { session := s, answer := .removed false, events := events }

/-- The quick-start pipeline takes the place of the graph, and its first node is selected. -/
def loadQuickStart (s : Session) : Outcome :=
  let graph := quickStart s.registry
  { session := { s with graph := graph, selectedNode := graph.nodes.head?.map (·.id) }
    answer := .done
    events := Event.ofBuiltGraph graph }

/-- Empties the canvas and forgets the compiled text, the last run and the error. -/
def clear (s : Session) : Session :=
  { s with
    graph := s.graph.clear
    selectedNode := none
    specText := none
    lastRun := none
    lastError := none }

/-- Compiles the graph and keeps the text of the result. -/
def compile (s : Session) (stamp : Stamp) : Spec × Session :=
  let spec := s.compiler.compile s.graph s.registry stamp
  (spec, { s with specText := some spec.text })

/-- Keeps an accepted run, or notes the failure. -/
def submit (s : Session) (spec : Spec) (reply : Reply RunCreated) (events : List Event) :
    Outcome :=
  match reply with
  | .ok run =>
    { session := { s with lastRun := some run }
      answer := .ran (.ok run)
      calls := [.createRun spec]
      events := events ++ [.runRecorded run spec] }
  | .error e =>
    { session := s.fail (.service e)
      answer := .ran (.error (.service e))
      calls := [.createRun spec]
      events := events }

/-- Forgets the error. -/
def forgetError (s : Session) : Session := { s with lastError := none }

def run (s : Session) (stamp : Stamp) (reply : Reply RunCreated) : Outcome :=
  let (spec, s) := s.forgetError.compile stamp
  s.submit spec reply [.compiled spec]

/-- Nothing is submitted unless the whole text is a usable specification. -/
def submitText (s : Session) (text : String) (reply : Reply RunCreated) : Outcome :=
  let s := s.forgetError
  match Spec.ofText text with
  | .ok spec => s.submit spec reply []
  | .error e => { session := s.fail (.spec e), answer := .ran (.error (.spec e)) }

def explain (s : Session) (stamp : Stamp) (reply : Reply Trace) : Outcome :=
  let (spec, s) := s.forgetError.compile stamp
  match reply with
  | .ok trace =>
    { session := { s with trace := some trace }
      answer := .explained (.ok trace)
      calls := [.explain spec]
      events := [.compiled spec] }
  | .error e =>
    { session := s.fail (.service e)
      answer := .explained (.error (.service e))
      calls := [.explain spec]
      events := [.compiled spec] }

def listRuns (s : Session) (reply : Reply (List RunListItem)) : Outcome :=
  match reply with
  | .ok runs => { session := s, answer := .runs (.ok runs), calls := [.listRuns] }
  | .error e =>
    { session := s.fail (.service e)
      answer := .runs (.error (.service e))
      calls := [.listRuns] }

/-- Carries out an action. -/
def step (s : Session) : Action → Outcome
  | .useCompiler compiler => { session := { s with compiler := compiler }, answer := .done }
  | .usePalette palette => { session := s.usePalette palette, answer := .done }
  | .refresh reply => s.refresh reply
  | .selectTemplate key => s.selectTemplate key
  | .place key draws position => s.place key draws position
  | .connect candidate => s.connect candidate
  | .remove id => s.remove id
  | .select node => { session := { s with selectedNode := node }, answer := .done }
  | .loadQuickStart => s.loadQuickStart
  | .clear => { session := s.clear, answer := .done }
  | .compile stamp =>
    let (spec, s) := s.compile stamp
    { session := s, answer := .exported spec, events := [.compiled spec] }
  | .diagnose =>
    let found := BlockPipeline.diagnose s.graph s.registry
    { session := s, answer := .findings found, events := found.map .found }
  | .run stamp reply => s.run stamp reply
  | .submit text reply => s.submitText text reply
  | .explain stamp reply => s.explain stamp reply
  | .listRuns reply => s.listRuns reply

end Session

end BlockPipeline
