import BlockPipeline.Session

/-!
# The log of a session

A history of a session is a list of actions. Each action carries the reply that a service gives to
it, so the list is a script of replies as well, with successes and failures in any order.

What a history leaves behind in the stored results depends on little of it: on the replies to the
calls that were made, on what was compiled, on texts that were refused, on clearing, and on where an
attempt begins, because an attempt forgets the error of the one before. The log (`Session.log`)
lists this in order. A reply that was not waited for is not in it.

| Statement | In words | From |
| --- | --- | --- |
| `step_occurrences` | what happens in an action accounts for its results and its calls | one case for each action |
| `results_after` | the stored results are the fold of the log | `step_occurrences` |
| `calls_eq_log` | the calls of a history are those of the log | `step_occurrences` |
-/

set_option autoImplicit false

namespace BlockPipeline

/-- Something that a stored result of a session depends on. -/
inductive Occurrence where
  /-- An attempt at a run or at a trace begins. -/
  | begun
  | cleared
  | compiled (spec : Spec)
  | textRefused (error : SpecError)
  | listed (reply : Reply (List BlockRecord))
  | submitted (spec : Spec) (reply : Reply RunCreated)
  | explained (spec : Spec) (reply : Reply Trace)
  | runsListed (reply : Reply (List RunListItem))

namespace Occurrence

/-- The call that was made, if the occurrence is one. -/
def call? : Occurrence → Option Call
  | .listed _ => some .listBlocks
  | .submitted spec _ => some (.createRun spec)
  | .explained spec _ => some (.explain spec)
  | .runsListed _ => some .listRuns
  | _ => none

/-! ## What an occurrence gives, and what it takes back -/

def listing? : Occurrence → Option (List BlockRecord)
  | .listed reply => reply.toOption
  | _ => none

def spec? : Occurrence → Option Spec
  | .compiled spec => some spec
  | _ => none

def run? : Occurrence → Option RunCreated
  | .submitted _ reply => reply.toOption
  | _ => none

def trace? : Occurrence → Option Trace
  | .explained _ reply => reply.toOption
  | _ => none

/-- The failure of a call, or of a text. -/
def failure? : Occurrence → Option SessionError
  | .textRefused e => some (.spec e)
  | .listed (.error e) => some (.registryUnavailable e)
  | .submitted _ (.error e) => some (.service e)
  | .explained _ (.error e) => some (.service e)
  | .runsListed (.error e) => some (.service e)
  | _ => none

/-- For results that nothing takes back. -/
def never : Occurrence → Bool := fun _ => false

def clears : Occurrence → Bool
  | .cleared => true
  | _ => false

/-- An error is forgotten when an attempt begins, too. -/
def resets : Occurrence → Bool
  | .cleared => true
  | .begun => true
  | _ => false

end Occurrence

/-! ## Stored results -/

/-- The stored results of a session. -/
structure Results where
  registry : Registry := .empty
  specText : Option String := none
  lastRun : Option RunCreated := none
  trace : Option Trace := none
  lastError : Option String := none

/-- The kinds of stored results: which occurrences give one, which take it back, and the form in
which it is stored. -/
structure ResultKind (α β : Type) where
  given? : Occurrence → Option α
  takenBack : Occurrence → Bool
  stored : Option α → β

namespace ResultKind

def registry : ResultKind (List BlockRecord) Registry :=
  ⟨Occurrence.listing?, Occurrence.never, fun listing => (listing.map .ofRecords).getD .empty⟩

def specText : ResultKind Spec (Option String) :=
  ⟨Occurrence.spec?, Occurrence.clears, Option.map Spec.text⟩

def lastRun : ResultKind RunCreated (Option RunCreated) := ⟨Occurrence.run?, Occurrence.clears, id⟩

def trace : ResultKind Trace (Option Trace) := ⟨Occurrence.trace?, Occurrence.never, id⟩

def lastError : ResultKind SessionError (Option String) :=
  ⟨Occurrence.failure?, Occurrence.resets, Option.map SessionError.message⟩

/-- What is stored behind an occurrence. -/
def note {α β : Type} (k : ResultKind α β) (old : β) (o : Occurrence) : β :=
  if k.takenBack o then k.stored none
  else match k.given? o with
    | some a => k.stored (some a)
    | none => old

end ResultKind

/-- What an occurrence does to the stored results. -/
def Results.note (r : Results) (o : Occurrence) : Results where
  registry := ResultKind.registry.note r.registry o
  specText := ResultKind.specText.note r.specText o
  lastRun := ResultKind.lastRun.note r.lastRun o
  trace := ResultKind.trace.note r.trace o
  lastError := ResultKind.lastError.note r.lastError o

namespace Session

/-! ## Histories -/

/-- The state behind a history. -/
def after (s : Session) (actions : List Action) : Session :=
  actions.foldl (fun s a => (s.step a).session) s

/-- The calls of a history, in order. -/
def calls (s : Session) : List Action → List Call
  | [] => []
  | a :: actions => (s.step a).calls ++ (s.step a).session.calls actions

/-- What a compilation gives in this state. -/
def compilation (s : Session) (stamp : Stamp) : Spec := s.compiler.compile s.graph s.registry stamp

/-- What happens in the course of an action. -/
def occurrences (s : Session) : Action → List Occurrence
  | .refresh reply => [.listed reply]
  | .clear => [.cleared]
  | .compile stamp => [.compiled (s.compilation stamp)]
  | .run stamp reply =>
    [.begun, .compiled (s.compilation stamp), .submitted (s.compilation stamp) reply]
  | .submit text reply =>
    .begun :: match Spec.ofText text with
      | .ok spec => [.submitted spec reply]
      | .error e => [.textRefused e]
  | .explain stamp reply =>
    [.begun, .compiled (s.compilation stamp), .explained (s.compilation stamp) reply]
  | .listRuns reply => [.runsListed reply]
  | .useCompiler _ | .usePalette _ | .selectTemplate _ | .place .. | .connect _ | .remove _
  | .select _ | .loadQuickStart | .diagnose => []

/-- The log of a history. -/
def log (s : Session) : List Action → List Occurrence
  | [] => []
  | a :: actions => s.occurrences a ++ (s.step a).session.log actions

/-- The stored results. -/
def results (s : Session) : Results := ⟨s.registry, s.specText, s.lastRun, s.trace, s.lastError⟩

/-! ## One action -/

/-- **What happens in the course of an action** accounts for what it changes in the stored results
and for the calls that it makes. -/
theorem step_occurrences (s : Session) (a : Action) :
    (s.step a).session.results = (s.occurrences a).foldl Results.note s.results ∧
      (s.step a).calls = (s.occurrences a).filterMap Occurrence.call? := by
  cases a with
  | useCompiler compiler => exact ⟨rfl, rfl⟩
  | usePalette palette => exact ⟨rfl, rfl⟩
  | refresh reply => cases reply <;> exact ⟨rfl, rfl⟩
  | selectTemplate key => exact ⟨rfl, rfl⟩
  | place key draws position =>
    simp only [step, place]
    split <;> exact ⟨rfl, rfl⟩
  | connect c =>
    simp only [step, connect]
    split <;> exact ⟨rfl, rfl⟩
  | remove id =>
    simp only [step, remove]
    split <;> exact ⟨rfl, rfl⟩
  | select node => exact ⟨rfl, rfl⟩
  | loadQuickStart =>
    simp only [step, loadQuickStart]
    -- the template itself does not matter, and takes long to build
    generalize quickStart s.registry = graph
    exact ⟨rfl, rfl⟩
  | clear => exact ⟨rfl, rfl⟩
  | compile stamp => exact ⟨rfl, rfl⟩
  | diagnose => exact ⟨rfl, rfl⟩
  | run stamp reply => cases reply <;> exact ⟨rfl, rfl⟩
  | submit text reply =>
    simp only [step, submitText, occurrences]
    cases Spec.ofText text with
    | error e => exact ⟨rfl, rfl⟩
    | ok spec => cases reply <;> exact ⟨rfl, rfl⟩
  | explain stamp reply => cases reply <;> exact ⟨rfl, rfl⟩
  | listRuns reply => cases reply <;> exact ⟨rfl, rfl⟩

/-! ## A whole history -/

/-- **The stored results are the fold of the log**, on those at the start. -/
theorem results_after (s : Session) (actions : List Action) :
    (s.after actions).results = (s.log actions).foldl Results.note s.results := by
  induction actions generalizing s with
  | nil => rfl
  | cons a actions ih =>
    rw [log, List.foldl_append, ← (step_occurrences s a).1]
    exact ih (s.step a).session

/-- The calls of a history are those of its log. -/
theorem calls_eq_log (s : Session) (actions : List Action) :
    s.calls actions = (s.log actions).filterMap Occurrence.call? := by
  induction actions generalizing s with
  | nil => rfl
  | cons a actions ih => rw [calls, log, List.filterMap_append, (step_occurrences s a).2, ih]

end Session

end BlockPipeline
