import BlockPipeline.Proofs.Session.Log
import BlockPipeline.Proofs.Spec.ReadBack

/-!
# What is asked of the services

Every call of a history can be told from its actions: one call for each action that is for one, in
the order of the actions, whether the calls before it succeeded or failed (`kinds_calls`). So
nothing is asked twice. A text calls the run service exactly if it is accepted, with the specification
that was read (`calls_submit`). A run and a trace compile once, under one stamp: what was sent is what
the session shows afterwards, however the service replied (`calls_run`, `calls_explain`).
-/

set_option autoImplicit false

namespace BlockPipeline

/-- The calls by what they are for. -/
inductive CallKind where
  | listBlocks
  | createRun
  | explain
  | listRuns
deriving DecidableEq

def Call.kind : Call → CallKind
  | .listBlocks => .listBlocks
  | .createRun _ => .createRun
  | .explain _ => .explain
  | .listRuns => .listRuns

/-- The call that an action is for, if it is for one. -/
def Action.callKind? : Action → Option CallKind
  | .refresh _ => some .listBlocks
  | .listRuns _ => some .listRuns
  | .run .. => some .createRun
  | .explain .. => some .explain
  | .submit text _ =>
    match Spec.ofText text with
    | .ok _ => some .createRun
    | .error _ => none
  | _ => none

namespace Session

/-! ## One action -/

theorem kinds_step (s : Session) (a : Action) :
    (s.step a).calls.map Call.kind = a.callKind?.toList := by
  rw [(step_occurrences s a).2]
  cases a with
  | submit text reply =>
    simp only [occurrences, Action.callKind?]
    cases Spec.ofText text <;> rfl
  | _ => rfl

/-- A text is submitted as what it is read as, or not at all. -/
theorem calls_submit (s : Session) (text : String) (reply : Reply RunCreated) :
    (∃ spec, Spec.ofText text = .ok spec ∧ spec.validate = .ok () ∧
      (s.step (.submit text reply)).calls = [.createRun spec]) ∨
    ∃ e, Spec.ofText text = .error e ∧ (s.step (.submit text reply)).calls = [] := by
  rw [(step_occurrences s _).2, occurrences]
  cases read : Spec.ofText text with
  | ok spec => exact .inl ⟨spec, rfl, (Spec.valid_of_ofText read).1, rfl⟩
  | error e => exact .inr ⟨e, rfl, rfl⟩

/-- A run submits what was compiled, and its text is kept. -/
theorem calls_run (s : Session) (stamp : Stamp) (reply : Reply RunCreated) :
    (s.step (.run stamp reply)).calls = [.createRun (s.compilation stamp)] ∧
      (s.step (.run stamp reply)).session.specText = some (s.compilation stamp).text := by
  cases reply <;> exact ⟨rfl, rfl⟩

/-- So does a trace. -/
theorem calls_explain (s : Session) (stamp : Stamp) (reply : Reply Trace) :
    (s.step (.explain stamp reply)).calls = [.explain (s.compilation stamp)] ∧
      (s.step (.explain stamp reply)).session.specText = some (s.compilation stamp).text := by
  cases reply <;> exact ⟨rfl, rfl⟩

/-! ## A whole history -/

/-- **One call for each action that is for one**, and no other. -/
theorem kinds_calls (s : Session) (actions : List Action) :
    (s.calls actions).map Call.kind = actions.filterMap Action.callKind? := by
  induction actions generalizing s with
  | nil => rfl
  | cons a actions ih =>
    rw [calls, List.map_append, kinds_step, ih, List.filterMap_cons]
    cases a.callKind? <;> rfl

theorem calls_append (s : Session) (before later : List Action) :
    s.calls (before ++ later) = s.calls before ++ (s.after before).calls later := by
  induction before generalizing s with
  | nil => rfl
  | cons a before ih =>
    rw [List.cons_append, calls, ih, calls, List.append_assoc]
    rfl

/-- **What is asked of the services**, in every history and whatever they reply. The calls are those
that the actions are for, each once and in order: a listing, a list of runs, a submission for a run
and for each text that is accepted, an explanation for a trace. The calls of each action stand between
those in front of it and those behind. A text that is accepted is submitted as the specification that
was read from it, which keeps the rules; a run submits, and a trace has explained, a specification
with the id and the time of the action's stamp, and its text is what the session then holds. -/
theorem calls_of_history (s : Session) :
    (∀ actions, (s.calls actions).map Call.kind = actions.filterMap Action.callKind?) ∧
    (∀ before a later, s.calls (before ++ a :: later) =
      s.calls before ++ ((s.after before).step a).calls ++ (s.after (before ++ [a])).calls later) ∧
    (∀ before text reply,
      (∃ spec, Spec.ofText text = .ok spec ∧ spec.validate = .ok () ∧
        ((s.after before).step (.submit text reply)).calls = [.createRun spec]) ∨
      ∃ e, Spec.ofText text = .error e ∧
        ((s.after before).step (.submit text reply)).calls = []) ∧
    (∀ before stamp reply, ∃ spec : Spec,
      spec.pipeline.id = stamp.id ∧ spec.pipeline.createdAt = stamp.createdAt ∧
        ((s.after before).step (.run stamp reply)).calls = [.createRun spec] ∧
        (s.after (before ++ [.run stamp reply])).specText = some spec.text) ∧
    ∀ before stamp reply, ∃ spec : Spec,
      spec.pipeline.id = stamp.id ∧ spec.pipeline.createdAt = stamp.createdAt ∧
        ((s.after before).step (.explain stamp reply)).calls = [.explain spec] ∧
        (s.after (before ++ [.explain stamp reply])).specText = some spec.text := by
  have next : ∀ before a, s.after (before ++ [a]) = ((s.after before).step a).session :=
    fun before a => List.foldl_append
  refine ⟨s.kinds_calls, fun before a later => ?_, fun before => (s.after before).calls_submit,
    fun before stamp reply => ?_, fun before stamp reply => ?_⟩
  · rw [calls_append, calls, next, List.append_assoc]
  · obtain ⟨sent, kept⟩ := (s.after before).calls_run stamp reply
    exact ⟨(s.after before).compilation stamp, rfl, rfl, sent, next before _ ▸ kept⟩
  · obtain ⟨sent, kept⟩ := (s.after before).calls_explain stamp reply
    exact ⟨(s.after before).compilation stamp, rfl, rfl, sent, next before _ ▸ kept⟩

end Session

end BlockPipeline
