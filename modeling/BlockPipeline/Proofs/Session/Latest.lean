import BlockPipeline.Proofs.Session.Log
import Mathlib.Data.List.DropRight

/-!
# A session stores the latest results

What a session stores is, of each kind, the latest result that its log gives, if no later occurrence
takes results of this kind back (`after_stores_latest`):

| Result | Given by | Taken back by |
| --- | --- | --- |
| registry | a listing | nothing |
| text of a specification | a compilation | clearing |
| last run | an accepted submission, compiled or written by hand | clearing |
| trace | an explanation | nothing |
| last error | a failed call, a refused text | clearing, the beginning of an attempt |

So a snapshot and a trace outlive clearing, and the error of a listing or of a list of runs stands
until the next attempt, whatever succeeds in between.
-/

set_option autoImplicit false

namespace BlockPipeline

/-- The latest result in the part of a log that lies behind the last occurrence which takes results
of its kind back. -/
def latest? {α : Type} (given? : Occurrence → Option α) (takenBack : Occurrence → Bool)
    (log : List Occurrence) : Option α :=
  ((log.rtakeWhile fun o => !takenBack o).filterMap given?).getLast?

section Latest

variable {α β : Type}

/-- One more occurrence takes the result back, or gives the next one, or leaves it. -/
theorem latest?_concat (given? : Occurrence → Option α) (takenBack : Occurrence → Bool)
    (log : List Occurrence) (o : Occurrence) :
    latest? given? takenBack (log ++ [o]) =
      if takenBack o then none else (given? o).or (latest? given? takenBack log) := by
  unfold latest?
  rw [List.rtakeWhile_concat]
  cases takenBack o with
  | true => rfl
  | false =>
    simp only [Bool.not_false, if_true, List.filterMap_append, List.getLast?_append]
    cases given : given? o <;> simp [given]

/-- **What is stored behind a log is the latest result in it.** -/
theorem ResultKind.foldl_note (k : ResultKind α β) (log : List Occurrence) :
    log.foldl k.note (k.stored none) = k.stored (latest? k.given? k.takenBack log) := by
  -- the latest occurrence stands last, so the induction is from the end
  induction log using List.reverseRecOn with
  | nil => rfl
  | append_singleton log o ih =>
    rw [List.foldl_append, List.foldl_cons, List.foldl_nil, ih, latest?_concat, note]
    cases k.takenBack o with
    | true => rfl
    | false => cases k.given? o <;> rfl

end Latest

/-- The results of the five kinds do not depend on one another. -/
theorem Results.foldl_note (r : Results) (log : List Occurrence) :
    log.foldl Results.note r =
      { registry := log.foldl ResultKind.registry.note r.registry
        specText := log.foldl ResultKind.specText.note r.specText
        lastRun := log.foldl ResultKind.lastRun.note r.lastRun
        trace := log.foldl ResultKind.trace.note r.trace
        lastError := log.foldl ResultKind.lastError.note r.lastError } := by
  induction log generalizing r with
  | nil => rfl
  | cons o log ih => exact ih (r.note o)

namespace Session

/-- **What a session stores behind a history**, whatever was done in it and whatever the services
replied: the snapshot of the latest listing, or the empty one; the run that was accepted last since
the last clearing, whether it was compiled or written by hand; the latest trace; the text of what was
compiled last since the last clearing; and the message of the last failure since the last clearing
and since an attempt began last. The replies in the log are those to the calls that were made. -/
theorem after_stores_latest (compiler : Compiler) (palette : Palette) (actions : List Action) :
    let s := (start compiler palette).after actions
    let log := (start compiler palette).log actions
    (start compiler palette).calls actions = log.filterMap Occurrence.call? ∧
      s.registry =
        ((latest? Occurrence.listing? Occurrence.never log).map Registry.ofRecords).getD .empty ∧
      s.lastRun = latest? Occurrence.run? Occurrence.clears log ∧
      s.trace = latest? Occurrence.trace? Occurrence.never log ∧
      s.specText = (latest? Occurrence.spec? Occurrence.clears log).map Spec.text ∧
      s.lastError =
        (latest? Occurrence.failure? Occurrence.resets log).map SessionError.message := by
  intro s log
  have stored : s.results = log.foldl Results.note {} :=
    results_after (start compiler palette) actions
  rw [Results.foldl_note] at stored
  have registry : s.registry = log.foldl ResultKind.registry.note .empty :=
    congrArg Results.registry stored
  have lastRun : s.lastRun = log.foldl ResultKind.lastRun.note none :=
    congrArg Results.lastRun stored
  have trace : s.trace = log.foldl ResultKind.trace.note none := congrArg Results.trace stored
  have specText : s.specText = log.foldl ResultKind.specText.note none :=
    congrArg Results.specText stored
  have lastError : s.lastError = log.foldl ResultKind.lastError.note none :=
    congrArg Results.lastError stored
  exact ⟨calls_eq_log _ actions,
    registry.trans (ResultKind.registry.foldl_note log),
    lastRun.trans (ResultKind.lastRun.foldl_note log),
    trace.trans (ResultKind.trace.foldl_note log),
    specText.trans (ResultKind.specText.foldl_note log),
    lastError.trans (ResultKind.lastError.foldl_note log)⟩

/-- A list of runs that succeeds does not make a failed listing forgotten, and an attempt does. -/
example :
    let failed := [Action.refresh (.error (.transport "down")), .listRuns (.ok [])]
    let attempt := Action.explain ⟨"p-1", default⟩ (.ok { steps := [] })
    ((start).after failed).lastError =
        some "Block registry unavailable: Request failed: down" ∧
      ((start).after (failed ++ [attempt])).lastError = none :=
  ⟨rfl, rfl⟩

end Session

end BlockPipeline
