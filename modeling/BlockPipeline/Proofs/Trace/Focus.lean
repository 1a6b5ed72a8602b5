import BlockPipeline.Proofs.Trace.Correlation

/-!
# The step in focus is the step of the node

The step of a node is found in two ways: by its entry in the correlation, which there is only for a
node of the graph, and by a search of the trace, which falls back on the first step of all. Both give
the first step of the node (`stepFor?_build`, `focus?_selected`), so they differ only where there is no
entry: the search then finds an orphan, or nothing and falls back.
-/

set_option autoImplicit false

namespace BlockPipeline

namespace Trace

variable {t : Trace} {id : String}

/-- The step at the place of a node's first step. -/
theorem bind_indexOf? (t : Trace) (id : String) :
    (t.indexOf? id).bind (t.steps[·]?) = t.steps.find? (·.nodeId == id) :=
  List.find?_eq_bind_findIdx?_getElem?.symm

theorem find?_nodeId_eq_none_iff :
    t.steps.find? (·.nodeId == id) = none ↔ ∀ step ∈ t.steps, step.nodeId ≠ id := by
  simp only [List.find?_eq_none, beq_iff_eq, ne_eq]

/-- The place in focus is that of the selected node's first step, if it has one. -/
theorem focusIndex?_of_indexOf? {i : Nat} (first : t.indexOf? id = some i) :
    t.focusIndex? (some id) = some i := by
  have there : t.steps ≠ [] := by
    intro empty
    rw [indexOf?, empty] at first
    cases first
  rw [focusIndex?, if_neg (mt List.isEmpty_iff.mp there), Option.bind_some, first]
  rfl

/-- **The step in focus** is the first one of the selected node, or else the first one of all. -/
theorem focus?_selected (t : Trace) (id : String) :
    t.focus? (some id) = (t.steps.find? (·.nodeId == id)).or t.steps.head? := by
  cases first : t.indexOf? id with
  | some i =>
    rw [focus?, focusIndex?_of_indexOf? first, ← bind_indexOf?, first, Option.bind_some]
    obtain ⟨step, here, -⟩ := Option.map_eq_some_iff.mp (indexOf?_eq_some_iff.mp first).1
    rw [here]
    rfl
  | none =>
    rw [← bind_indexOf?, first, focus?, focusIndex?, Option.bind_some, first]
    cases t.steps with
    | nil => rfl
    | cons step steps => rfl

/-- There is a step in focus as soon as there is a step. -/
theorem focus?_eq_none_iff : t.focus? (some id) = none ↔ t.steps = [] := by
  rw [focus?_selected, Option.or_eq_none_iff, List.head?_eq_none_iff, and_iff_right_iff_imp]
  intro empty
  rw [empty]
  rfl

/-- The first step of a node stands behind steps of other nodes. -/
theorem indexOf?_of_split {before after : List TraceStep} {step : TraceStep}
    (split : t.steps = before ++ step :: after) (own : step.nodeId = id)
    (others : ∀ other ∈ before, other.nodeId ≠ id) : t.indexOf? id = some before.length := by
  have unfound : before.findIdx? (·.nodeId == id) = none := by
    simp only [List.findIdx?_eq_none_iff, beq_eq_false_iff_ne]
    exact others
  rw [indexOf?, split, List.findIdx?_append, unfound, List.findIdx?_cons, own, beq_self_eq_true]
  exact congrArg some (Nat.zero_add _)

end Trace

namespace Correlation

/-- **The step of a node** of the graph is its first one in the trace. -/
theorem stepFor?_build (t : Trace) (g : Graph) (id : String) :
    (build t g).stepFor? t id =
      if id ∈ g.nodeIds then t.steps.find? (·.nodeId == id) else none := by
  rw [stepFor?, stepIndex?_build]
  split
  next => exact t.bind_indexOf? id
  next => rfl

theorem stepFor?_eq_none_iff {t : Trace} {g : Graph} {id : String} :
    (build t g).stepFor? t id = none ↔ id ∉ g.nodeIds ∨ ∀ step ∈ t.steps, step.nodeId ≠ id := by
  rw [stepFor?_build, ite_eq_right_iff, Trace.find?_nodeId_eq_none_iff, ← imp_iff_not_or]

/-- **The correlation and the focus agree**, for every trace, graph and node. A step that the
correlation gives for a node is in focus when the node is selected, at the same place. It gives none
exactly if the node is not in the graph or has no step. In focus is then the first step of the node,
which is an orphan, if it has one, and else the first step of all; there is none only in an empty
trace. -/
theorem focus_agrees (t : Trace) (g : Graph) (id : String) :
    let c := build t g
    (∀ step, c.stepFor? t id = some step →
      t.focus? (some id) = some step ∧ t.focusIndex? (some id) = c.stepIndex? id) ∧
    (c.stepFor? t id = none ↔ id ∉ g.nodeIds ∨ ∀ step ∈ t.steps, step.nodeId ≠ id) ∧
    (c.stepFor? t id = none →
      (∀ before step after, t.steps = before ++ step :: after → step.nodeId = id →
        (∀ other ∈ before, other.nodeId ≠ id) →
          t.focus? (some id) = some step ∧ t.focusIndex? (some id) = some before.length ∧
            before.length ∈ c.orphanSteps) ∧
      ((∀ step ∈ t.steps, step.nodeId ≠ id) → t.focus? (some id) = t.steps.head?) ∧
      (t.focus? (some id) = none ↔ t.steps = [])) := by
  intro c
  refine ⟨fun step found => ?_, stepFor?_eq_none_iff, fun unfound => ⟨?_, fun absent => ?_,
    Trace.focus?_eq_none_iff⟩⟩
  · rw [stepFor?_build, Option.ite_none_right_eq_some] at found
    obtain ⟨there, found⟩ := found
    refine ⟨by rw [Trace.focus?_selected, found, Option.some_or], ?_⟩
    rw [← Trace.bind_indexOf?, Option.bind_eq_some_iff] at found
    obtain ⟨i, first, -⟩ := found
    rw [Trace.focusIndex?_of_indexOf? first, stepIndex?_build, if_pos there, first]
  · intro before step after split own others
    have first := Trace.indexOf?_of_split split own others
    have here : t.steps[before.length]? = some step := by simp [split]
    have focused : t.focusIndex? (some id) = some before.length :=
      Trace.focusIndex?_of_indexOf? first
    refine ⟨by rw [Trace.focus?, focused, Option.bind_some, here], focused, ?_⟩
    -- the node has a step, so it is not for want of one that there is no entry
    have gone : id ∉ g.nodeIds := by
      refine (stepFor?_eq_none_iff.mp unfound).resolve_right fun absent => ?_
      exact absent step (List.mem_of_getElem? here) own
    exact mem_orphanSteps.mpr ⟨id, by rw [Trace.nodeAt?, here, Option.map_some, own], gone⟩
  · rw [Trace.focus?_selected, Trace.find?_nodeId_eq_none_iff.mpr absent, Option.none_or]

/-- Of two steps of a node the first is in focus, which is not the first of all. That one belongs to a
node that was removed, and is in focus when this node is selected, and when one without a step is. -/
theorem focus_agrees_scattered :
    let g := Graph.empty.run tracedHistory
    let t : Trace := { steps := ["c", "b", "a", "b"].map tracedStep }
    let c := build t g
    (t.focus? (some "b") = some (tracedStep "b") ∧ t.focusIndex? (some "b") = c.stepIndex? "b") ∧
      (c.stepFor? t "c" = none ∧ t.focus? (some "c") = some (tracedStep "c") ∧
        0 ∈ c.orphanSteps) ∧
      c.stepFor? t "d" = none ∧ t.focus? (some "d") = some (tracedStep "c") := by
  intro g t c
  have gone : c.stepFor? t "c" = none := (focus_agrees t g "c").2.1.mpr (.inl (by decide))
  have absent : ∀ step ∈ t.steps, step.nodeId ≠ "d" := by decide
  have stepless : c.stepFor? t "d" = none := (focus_agrees t g "d").2.1.mpr (.inr absent)
  refine ⟨(focus_agrees t g "b").1 (tracedStep "b") rfl, ⟨gone, ?_⟩, stepless, ?_⟩
  · obtain ⟨focused, -, orphan⟩ := ((focus_agrees t g "c").2.2 gone).1 [] (tracedStep "c")
      (["b", "a", "b"].map tracedStep) rfl rfl (List.forall_mem_nil _)
    exact ⟨focused, orphan⟩
  · exact ((focus_agrees t g "d").2.2 stepless).2.1 absent

end Correlation

end BlockPipeline
