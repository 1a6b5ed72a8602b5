import BlockPipeline.Session

/-!
# What a failure leaves behind

An action that calls a service, or reads a text that is meant for one, can fail. With which error it
does (`Action.failure?`) is settled by the reply and by the text, whatever the state of the session.
Behind a failure the session holds the message of the error that was answered. Nothing else has
changed, except that an attempt which compiles the graph keeps the text it compiled, because the
text is stored in front of the call.

Edits do not fail: three of them may be declined (`Session.Declines`), and then nothing has changed
at all, the last error included.
-/

set_option autoImplicit false

namespace BlockPipeline

/-- The error that an answer reports, if it reports one. -/
def Answer.error? : Answer → Option SessionError
  | .refreshed (.error e) => some e
  | .ran (.error e) => some e
  | .explained (.error e) => some e
  | .runs (.error e) => some e
  | _ => none

/-- An answer that declines an edit. -/
def Answer.declines : Answer → Bool
  | .connected (.error _) => true
  | .placed none => true
  | .removed false => true
  | _ => false

/-- The failure that a service replies with. -/
def Reply.error? {α : Type} : Reply α → Option ServiceError
  | .ok _ => none
  | .error e => some e

namespace Action

/-- The error with which an action fails, if it fails. The reply to a submission does not count where
the text is refused, because it is not waited for. -/
def failure? : Action → Option SessionError
  | .refresh reply => (Reply.error? reply).map .registryUnavailable
  | .run _ reply => (Reply.error? reply).map .service
  | .submit text reply =>
    match Spec.ofText text with
    | .error e => some (.spec e)
    | .ok _ => (Reply.error? reply).map .service
  | .explain _ reply => (Reply.error? reply).map .service
  | .listRuns reply => (Reply.error? reply).map .service
  | _ => none

/-- The attempts that compile the graph in front of their call. -/
def compilesFirst : Action → Bool
  | .run .. => true
  | .explain .. => true
  | _ => false

end Action

namespace Session

/-- **The edits that are declined** in a state. -/
inductive Declines (s : Session) : Action → Prop where
  | connect {c : Candidate} {reason : Refusal} (refused : s.graph.connect c = .error reason) :
      Declines s (.connect c)
  | place {key : String} (unknown : s.palette.find? key = none) (draws : List String)
      (position : Position) : Declines s (.place key draws position)
  | remove {id : String} (absent : s.graph.node? id = none) : Declines s (.remove id)

/-- An action reports the error with which it fails, and no other. -/
theorem error?_step (s : Session) (a : Action) : (s.step a).answer.error? = a.failure? := by
  cases a with
  | refresh reply => cases reply <;> rfl
  | run stamp reply => cases reply <;> rfl
  | submit text reply =>
    simp only [step, submitText, Action.failure?]
    cases Spec.ofText text <;> cases reply <;> rfl
  | explain stamp reply => cases reply <;> rfl
  | listRuns reply => cases reply <;> rfl
  | place key draws position =>
    simp only [step, place]
    split <;> rfl
  | connect c =>
    simp only [step, connect]
    split <;> rfl
  | remove id =>
    simp only [step, remove]
    split <;> rfl
  | _ => rfl

/-- **A failure changes the last error**, and besides it the compiled text at most. -/
theorem session_of_failure {a : Action} {e : SessionError} (failed : a.failure? = some e)
    (s : Session) : ∃ text, (s.step a).session =
      { s with
        lastError := some e.message
        specText := if a.compilesFirst then some text else s.specText } := by
  cases a with
  | refresh reply =>
    cases reply <;> cases failed
    exact ⟨"", rfl⟩
  | run stamp reply =>
    cases reply <;> cases failed
    exact ⟨_, rfl⟩
  | explain stamp reply =>
    cases reply <;> cases failed
    exact ⟨_, rfl⟩
  | listRuns reply =>
    cases reply <;> cases failed
    exact ⟨"", rfl⟩
  | submit text reply =>
    simp only [Action.failure?] at failed
    simp only [step, submitText]
    cases read : Spec.ofText text with
    | error e' =>
      rw [read] at failed
      cases failed
      exact ⟨"", rfl⟩
    | ok spec =>
      rw [read] at failed
      cases reply <;> cases failed
      exact ⟨"", rfl⟩
  | _ => cases failed

/-- An edit that cannot be made is declined. -/
theorem declines_step {s : Session} {a : Action} (declined : s.Declines a) :
    (s.step a).answer.declines = true := by
  cases declined with
  | connect refused =>
    simp only [step, connect, refused]
    rfl
  | @place key unknown draws position =>
    have nothing : s.palette.place? key s.graph s.registry draws position = none := by
      simp only [Palette.place?, unknown]
      rfl
    simp only [step, place, nothing]
    rfl
  | remove absent =>
    simp only [step, remove, Graph.remove?, absent]
    rfl

/-- **What is declined changes nothing.** -/
theorem session_of_declines {s : Session} {a : Action}
    (declined : (s.step a).answer.declines = true) : (s.step a).session = s := by
  cases a with
  | place key draws position =>
    simp only [step, place] at declined ⊢
    split at declined
    · cases declined
    · rfl
  | connect c =>
    simp only [step, connect] at declined ⊢
    split at declined
    · cases declined
    · rfl
  | remove id =>
    simp only [step, remove] at declined ⊢
    split at declined
    · cases declined
    · rfl
  | submit text reply =>
    simp only [step, submitText] at declined
    cases read : Spec.ofText text <;> rw [read] at declined
    · cases declined
    · cases reply <;> cases declined
  | refresh reply => cases reply <;> cases declined
  | run stamp reply => cases reply <;> cases declined
  | explain stamp reply => cases reply <;> cases declined
  | listRuns reply => cases reply <;> cases declined
  | _ => cases declined

/-- **All or nothing, but for the message.** Whatever the state: an action fails exactly where the
service or the text fails it, with this error; behind the failure of a listing, of a list of runs or
of a specification written by hand the session differs from the one before in the message of the last
error alone; behind the failure of a run or of a trace also in the compiled text; and behind a
connection that is refused, a template that is unknown or a node that is absent, in nothing. -/
theorem step_of_failure (s : Session) (a : Action) :
    (s.step a).answer.error? = a.failure? ∧
    (∀ e, a.failure? = some e →
      (a.compilesFirst = false → (s.step a).session = { s with lastError := some e.message }) ∧
      (a.compilesFirst = true → ∃ text,
        (s.step a).session = { s with lastError := some e.message, specText := some text })) ∧
    (s.Declines a → (s.step a).answer.declines = true) ∧
    ((s.step a).answer.declines = true → (s.step a).session = s) := by
  refine ⟨error?_step s a, fun e failed => ?_, declines_step, session_of_declines⟩
  obtain ⟨text, changed⟩ := session_of_failure failed s
  constructor
  · intro first
    rw [first] at changed
    exact changed
  · intro first
    rw [first] at changed
    exact ⟨text, changed⟩

/-- A text that breaks off, a run that does not get through and a node that is not there: the first
leaves the message, the second also what it compiled, the third nothing. -/
theorem step_of_failure_broken_off :
    let s : Session := start
    (s.step (.submit "\x7b" (.ok ⟨"r-1", "queued", none⟩))).session =
        { s with lastError := some "Failed to parse pipeline spec JSON: \x7beof\x7d" } ∧
      (∃ text, (s.step (.run ⟨"p-1", default⟩ (.error (.transport "no route")))).session =
        { s with lastError := some "Request failed: no route", specText := some text }) ∧
      (s.step (.remove "a")).session = s := by
  intro s
  have brokenOff : (Action.submit "\x7b" (.ok ⟨"r-1", "queued", none⟩)).failure? =
      some (.spec (.undecodable (.text .endOfText))) := rfl
  obtain ⟨-, submitted, -⟩ := step_of_failure s (.submit "\x7b" (.ok ⟨"r-1", "queued", none⟩))
  obtain ⟨-, ran, -⟩ :=
    step_of_failure s (.run ⟨"p-1", default⟩ (.error (.transport "no route")))
  obtain ⟨-, -, declined, unchanged⟩ := step_of_failure s (.remove "a")
  exact ⟨(submitted _ brokenOff).1 rfl, (ran _ rfl).2 rfl, unchanged (declined (.remove rfl))⟩

end Session

end BlockPipeline
