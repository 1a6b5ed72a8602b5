import BlockPipeline.Proofs.Graph.WellFormed
import BlockPipeline.Proofs.Json.Members
import BlockPipeline.Trace.Correlation

/-!
# A correlation parts a trace and its graph

A correlation goes through the trace once and through the graph once. The first pass gives each step
to a node of the graph or to the orphans, and the second gives each node to the entries or to the
missing ones. What is said here holds of every order in which a service returns its steps.

| Statement | In words | From |
| --- | --- | --- |
| `stepIndex?_build` | a node's entry is the place of its first step | `lookup_sortSteps` |
| `mem_orphanSteps`, `orphanSteps_ascending` | the orphans, in order | `orphans_sortSteps` |
| `nodes_perm` | each node has an entry or is missing | `keys_nodup`, `mem_keys_iff` |
| `isComplete_iff` | nothing is left over if both sides have the same nodes | `mem_orphanSteps` |
| `build_parts` | all of this for a reachable graph | |
-/

set_option autoImplicit false

namespace BlockPipeline

namespace Trace

/-- The node of the step at a place. -/
def nodeAt? (t : Trace) (i : Nat) : Option String := t.steps[i]?.map (·.nodeId)

/-- The nodes of the steps are those that stand at some place. -/
theorem exists_nodeAt?_iff {t : Trace} {id : String} :
    (∃ i, t.nodeAt? i = some id) ↔ id ∈ t.steps.map (·.nodeId) := by
  simp only [List.mem_iff_getElem?, List.getElem?_map, nodeAt?]

/-- The place of a node's first step is the smallest among those of its steps. -/
theorem indexOf?_eq_some_iff {t : Trace} {id : String} {i : Nat} :
    t.indexOf? id = some i ↔ t.nodeAt? i = some id ∧ ∀ j, t.nodeAt? j = some id → i ≤ j := by
  simp only [indexOf?, List.findIdx?_eq_some_iff_getElem, beq_iff_eq, nodeAt?,
    Option.map_eq_some_iff, List.getElem?_eq_some_iff]
  constructor
  · rintro ⟨inside, own, before⟩
    refine ⟨⟨_, ⟨inside, rfl⟩, own⟩, ?_⟩
    rintro j ⟨_, ⟨there, rfl⟩, same⟩
    by_contra less
    exact before j (Nat.lt_of_not_le less) same
  · rintro ⟨⟨_, ⟨inside, rfl⟩, own⟩, least⟩
    refine ⟨inside, own, fun j less same => ?_⟩
    exact absurd (least j ⟨_, ⟨Nat.lt_trans less inside, rfl⟩, same⟩) (Nat.not_le_of_lt less)

/-- A node has a first step if it has one at all. -/
theorem indexOf?_eq_none_iff {t : Trace} {id : String} :
    t.indexOf? id = none ↔ id ∉ t.steps.map (·.nodeId) := by
  simp only [indexOf?, List.findIdx?_eq_none_iff, beq_eq_false_iff_ne, List.mem_map, not_exists,
    not_and]

end Trace

namespace Correlation

/-! ## The pass over the trace -/

/-- **A node of the graph is entered at the place of its first step.** -/
theorem lookup_sortSteps (ids : List String) (i : Nat) (steps : List TraceStep) (id : String) :
    (sortSteps ids i steps).1.lookup id =
      if id ∈ ids then (steps.findIdx? (·.nodeId == id)).map (i + ·) else none := by
  induction steps generalizing i with
  | nil => simp [sortSteps]
  | cons step steps ih =>
    by_cases own : step.nodeId = id
    · subst own
      by_cases there : step.nodeId ∈ ids <;> simp [sortSteps, List.findIdx?_cons, there, ih]
    · have differ : id ≠ step.nodeId := fun same => own same.symm
      have others : (sortSteps ids i (step :: steps)).1.lookup id =
          (sortSteps ids (i + 1) steps).1.lookup id := by
        by_cases there : step.nodeId ∈ ids <;>
          simp [sortSteps, there, lookup_cons_eq, differ, lookup_filter_key (· != step.nodeId)]
      have later : (step :: steps).findIdx? (·.nodeId == id) =
          (steps.findIdx? (·.nodeId == id)).map (· + 1) := by
        simp [List.findIdx?_cons, own]
      have counted : (i + ·) ∘ (· + 1) = (i + 1 + ·) := by
        funext j
        exact (Nat.add_right_comm i 1 j).symm
      rw [others, ih, later, Option.map_map, counted]

/-- No node is entered twice. -/
theorem keys_sortSteps_nodup (ids : List String) (i : Nat) (steps : List TraceStep) :
    ((sortSteps ids i steps).1.map Prod.fst).Nodup := by
  induction steps generalizing i with
  | nil => exact List.nodup_nil
  | cons step steps ih =>
    simp only [sortSteps]
    split
    · refine List.nodup_cons.mpr ⟨fun mem => ?_, (List.filter_sublist.map _).nodup (ih (i + 1))⟩
      obtain ⟨entry, kept, same⟩ := List.mem_map.mp mem
      simpa [same] using (List.mem_filter.mp kept).2
    · exact ih (i + 1)

/-- The orphans are the places of the steps without a node, in the order of the steps. -/
theorem orphans_sortSteps (ids : List String) (i : Nat) (steps : List TraceStep) :
    (sortSteps ids i steps).2 =
      ((steps.zipIdx i).filter fun p => !ids.contains p.1.nodeId).map Prod.snd := by
  induction steps generalizing i with
  | nil => rfl
  | cons step steps ih =>
    simp only [sortSteps, List.zipIdx_cons]
    by_cases there : step.nodeId ∈ ids <;> simp [there, ih]

/-! ## The correlation -/

section Build

variable {t : Trace} {g : Graph} {id : String} {i : Nat}

theorem stepIndex?_build (t : Trace) (g : Graph) (id : String) :
    (build t g).stepIndex? id = if id ∈ g.nodeIds then t.indexOf? id else none := by
  have entered : (build t g).stepIndex? id = (sortSteps g.nodeIds 0 t.steps).1.lookup id := rfl
  rw [entered, lookup_sortSteps]
  simp [Trace.indexOf?]

/-- **A node has an entry** if it is a node of the graph with a step, and the entry is the smallest of
the places of its steps. -/
theorem stepIndex?_eq_some_iff :
    (build t g).stepIndex? id = some i ↔
      id ∈ g.nodeIds ∧ t.nodeAt? i = some id ∧ ∀ j, t.nodeAt? j = some id → i ≤ j := by
  rw [stepIndex?_build, Option.ite_none_right_eq_some, Trace.indexOf?_eq_some_iff]

theorem stepIndex?_eq_none_iff :
    (build t g).stepIndex? id = none ↔ id ∈ g.nodeIds → id ∉ t.steps.map (·.nodeId) := by
  rw [stepIndex?_build, ite_eq_right_iff, Trace.indexOf?_eq_none_iff]

theorem keys_nodup (t : Trace) (g : Graph) : ((build t g).byNode.map Prod.fst).Nodup :=
  keys_sortSteps_nodup g.nodeIds 0 t.steps

theorem mem_byNode_iff : (id, i) ∈ (build t g).byNode ↔ (build t g).stepIndex? id = some i :=
  (lookup_eq_some_iff_mem (keys_nodup t g)).symm

theorem mem_keys_iff :
    id ∈ (build t g).byNode.map Prod.fst ↔ ∃ i, (build t g).stepIndex? id = some i := by
  simp only [List.mem_map, Prod.exists, exists_and_right, exists_eq_right, mem_byNode_iff]

theorem orphanSteps_build (t : Trace) (g : Graph) :
    (build t g).orphanSteps =
      (t.steps.zipIdx.filter fun p => !g.nodeIds.contains p.1.nodeId).map Prod.snd :=
  orphans_sortSteps g.nodeIds 0 t.steps

/-- **A step is an orphan** if its node is not in the graph. -/
theorem mem_orphanSteps :
    i ∈ (build t g).orphanSteps ↔ ∃ id, t.nodeAt? i = some id ∧ id ∉ g.nodeIds := by
  rw [orphanSteps_build]
  simp [Trace.nodeAt?, List.mk_mem_zipIdx_iff_getElem?]

theorem orphanSteps_ascending (t : Trace) (g : Graph) :
    (build t g).orphanSteps.Pairwise (· < ·) := by
  rw [orphanSteps_build]
  refine List.Pairwise.sublist (List.filter_sublist.map Prod.snd) ?_
  rw [List.zipIdx_map_snd]
  exact List.pairwise_lt_range'

/-- The missing nodes are those without an entry, in the order of the graph. -/
theorem missingNodes_build (t : Trace) (g : Graph) :
    (build t g).missingNodes = g.nodeIds.filter fun id => ((build t g).stepIndex? id).isNone := rfl

/-- **Each node of the graph has an entry or is missing**, and nothing else has or is. -/
theorem nodes_perm (distinct : g.nodeIds.Nodup) :
    ((build t g).byNode.map Prod.fst ++ (build t g).missingNodes).Perm g.nodeIds := by
  have apart : ∀ a ∈ (build t g).byNode.map Prod.fst, ∀ b ∈ (build t g).missingNodes, a ≠ b := by
    rintro a entered _ missing rfl
    obtain ⟨i, found⟩ := mem_keys_iff.mp entered
    rw [missingNodes_build, List.mem_filter, found] at missing
    cases missing.2
  have parts : ((build t g).byNode.map Prod.fst ++ (build t g).missingNodes).Nodup :=
    List.nodup_append.mpr ⟨keys_nodup t g, List.filter_sublist.nodup distinct, apart⟩
  refine (List.perm_ext_iff_of_nodup parts distinct).mpr fun id => ?_
  rw [List.mem_append, mem_keys_iff, missingNodes_build, List.mem_filter]
  constructor
  · rintro (⟨i, found⟩ | ⟨mem, -⟩)
    · exact (stepIndex?_eq_some_iff.mp found).1
    · exact mem
  · intro mem
    cases found : (build t g).stepIndex? id with
    | none => exact .inr ⟨mem, rfl⟩
    | some i => exact .inl ⟨i, rfl⟩

/-- **Each step is an orphan or belongs to an entry**, which is for a place no later than its own. -/
theorem step_cases (here : t.nodeAt? i = some id) :
    (i ∈ (build t g).orphanSteps ∧ (build t g).stepIndex? id = none) ∨
      (i ∉ (build t g).orphanSteps ∧ ∃ j ≤ i, (build t g).stepIndex? id = some j) := by
  by_cases there : id ∈ g.nodeIds
  · refine .inr ⟨fun orphan => ?_, ?_⟩
    · obtain ⟨other, same, gone⟩ := mem_orphanSteps.mp orphan
      obtain rfl : id = other := Option.some.inj (here.symm.trans same)
      exact gone there
    · cases found : (build t g).stepIndex? id with
      | none =>
        exact absurd (Trace.exists_nodeAt?_iff.mp ⟨i, here⟩) (stepIndex?_eq_none_iff.mp found there)
      | some j => exact ⟨j, (stepIndex?_eq_some_iff.mp found).2.2 i here, rfl⟩
  · exact .inl ⟨mem_orphanSteps.mpr ⟨id, here, there⟩,
      stepIndex?_eq_none_iff.mpr fun mem => absurd mem there⟩

theorem orphanSteps_eq_nil_iff :
    (build t g).orphanSteps = [] ↔ ∀ id ∈ t.steps.map (·.nodeId), id ∈ g.nodeIds := by
  simp only [List.eq_nil_iff_forall_not_mem, mem_orphanSteps, not_exists, not_and, not_not,
    ← Trace.exists_nodeAt?_iff, forall_exists_index]
  exact forall_comm

theorem missingNodes_eq_nil_iff :
    (build t g).missingNodes = [] ↔ ∀ id ∈ g.nodeIds, id ∈ t.steps.map (·.nodeId) := by
  simp only [missingNodes_build, List.filter_eq_nil_iff, Option.isNone_iff_eq_none,
    stepIndex?_eq_none_iff]
  refine forall₂_congr fun id there => ?_
  rw [Classical.not_imp, not_not, and_iff_right there]

/-- **Nothing is left over** if the steps and the graph have the same nodes. -/
theorem isComplete_iff :
    (build t g).isComplete = true ↔ ∀ id, id ∈ t.steps.map (·.nodeId) ↔ id ∈ g.nodeIds := by
  rw [isComplete, Bool.and_eq_true, List.isEmpty_iff, List.isEmpty_iff, orphanSteps_eq_nil_iff,
    missingNodes_eq_nil_iff, ← forall_and]
  exact forall_congr' fun id => iff_def.symm

end Build

/-- **A correlation parts the trace and the graph exactly.** The entries are of the nodes of the graph
that have a step, each for the smallest of the places of its steps. The orphans are the places of the
steps whose node is not in the graph, in ascending order, and the missing nodes are those without an
entry, in the order of the graph. So each node has an entry or is missing, and each step is an orphan
or its node has an entry for a place no later than its own. Nothing is left over on either side
exactly if the steps and the graph have the same nodes. -/
theorem build_parts {g : Graph} (reached : g.Reachable) (t : Trace) :
    let c := build t g
    (∀ id i, ((id, i) ∈ c.byNode ↔ c.stepIndex? id = some i) ∧
      (c.stepIndex? id = some i ↔
        id ∈ g.nodeIds ∧ t.nodeAt? i = some id ∧ ∀ j, t.nodeAt? j = some id → i ≤ j)) ∧
    c.orphanSteps.Pairwise (· < ·) ∧
    (∀ i, i ∈ c.orphanSteps ↔ ∃ id, t.nodeAt? i = some id ∧ id ∉ g.nodeIds) ∧
    c.missingNodes = g.nodeIds.filter (fun id => (c.stepIndex? id).isNone) ∧
    (c.byNode.map Prod.fst ++ c.missingNodes).Perm g.nodeIds ∧
    c.byNode.length + c.missingNodes.length = g.nodes.length ∧
    (∀ i id, t.nodeAt? i = some id →
      (i ∈ c.orphanSteps ∧ c.stepIndex? id = none) ∨
        (i ∉ c.orphanSteps ∧ ∃ j ≤ i, c.stepIndex? id = some j)) ∧
    (c.isComplete = true ↔ ∀ id, id ∈ t.steps.map (·.nodeId) ↔ id ∈ g.nodeIds) := by
  intro c
  have nodes : (c.byNode.map Prod.fst ++ c.missingNodes).Perm g.nodeIds :=
    nodes_perm reached.wellFormed.nodeIds
  have count : c.byNode.length + c.missingNodes.length = g.nodes.length := by
    have lengths := nodes.length_eq
    rwa [List.length_append, List.length_map, Graph.nodeIds, List.length_map] at lengths
  exact ⟨fun id i => ⟨mem_byNode_iff, stepIndex?_eq_some_iff⟩, orphanSteps_ascending t g,
    fun i => mem_orphanSteps, missingNodes_build t g, nodes, count, fun i id => step_cases,
    isComplete_iff⟩

/-- Four nodes are placed and one of them is removed. -/
def tracedHistory : List Edit :=
  ["a", "b", "c", "d"].map (.insert · { kind := .fusion, block := ⟨"texts.join", "1.0.0"⟩ }) ++
    [.remove "c"]

/-- The step of a node. -/
def tracedStep (node : String) : TraceStep :=
  { nodeId := node, nodeType := "fusion", blockId := "texts.join", version := "1.0.0", title := node }

/-- Out of order, with two steps of one node, one of a node that was removed and none of another. -/
theorem build_parts_scattered :
    let g := Graph.empty.run tracedHistory
    let t : Trace := { steps := ["b", "c", "b", "a"].map tracedStep }
    let c := build t g
    c.stepIndex? "b" = some 0 ∧ 1 ∈ c.orphanSteps ∧ c.byNode.length + c.missingNodes.length = 3 ∧
      (2 ∉ c.orphanSteps ∧ ∃ j ≤ 2, c.stepIndex? "b" = some j) ∧ c.isComplete ≠ true := by
  intro g t c
  obtain ⟨entries, -, orphans, -, -, count, steps, complete⟩ := build_parts ⟨tracedHistory, rfl⟩ t
  have there : "b" ∈ g.nodeIds := by decide
  have gone : "c" ∉ g.nodeIds := by decide
  have first : c.stepIndex? "b" = some 0 :=
    (entries "b" 0).2.mpr ⟨there, rfl, fun j _ => Nat.zero_le j⟩
  refine ⟨first, (orphans 1).mpr ⟨"c", rfl, gone⟩, count, ?_, fun whole => ?_⟩
  · refine (steps 2 "b" rfl).resolve_left fun unentered => ?_
    exact Option.some_ne_none 0 (first.symm.trans unentered.2)
  · exact gone ((complete.mp whole "c").mp (by decide))

end Correlation

end BlockPipeline
