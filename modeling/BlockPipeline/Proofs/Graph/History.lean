import BlockPipeline.Proofs.Graph.Change

/-!
# What a history hands out

The nodes that a history of edits hands out, under whatever suffixes were drawn, are written down
in a log that lies outside the graph (`handedOut`). The ids that a graph counts as given are the
ids of this log and no others, so they only grow, and no id is handed out twice. Every node that
is present has the placement under which its id was handed out: an edit that changes a node changes
its configuration or its position. So what a graph says about an id never changes, even where the
node was removed or the graph was cleared in between.

| Statement | In words | From |
| --- | --- | --- |
| `run_issued` | the given ids are those of the log | `Change.issued` |
| `run_placements` | every placement that is present is in the log | `Change.placements` |
| `handedOut_ids_nodup` | the log names no id twice | `Change.fresh`, `run_issued` |
| `run_hands_out_once` | all three about the states of one history | the above |
-/

set_option autoImplicit false

namespace BlockPipeline

namespace Graph

/-- The nodes that a history hands out, in order. -/
def handedOut (g : Graph) : List Edit → List Node
  | [] => []
  | edit :: edits =>
    (g.apply edit).1.handedOut?.toList ++ (g.apply edit).2.handedOut edits

theorem handedOut_append (g : Graph) (before after : List Edit) :
    g.handedOut (before ++ after) = g.handedOut before ++ (g.run before).handedOut after := by
  induction before generalizing g with
  | nil => rfl
  | cons edit before ih =>
    simp only [List.cons_append, handedOut, ih, List.append_assoc]
    rfl

/-! ## The ids that were given -/

/-- The ids that are given behind an edit: that of the node it handed out, and those before. -/
theorem Change.issued {g h : Graph} {handed : Option Node} (c : Change g handed h) :
    h.issued = handed.toList.map (·.id) ++ g.issued := by
  cases c <;> rfl

/-- What is handed out has an id that was never given. -/
theorem Change.fresh {g h : Graph} {n : Node} (c : Change g (some n) h) : n.id ∉ g.issued := by
  cases c with
  | placed _ fresh => exact fresh

/-- **The given ids are those of the log**, the latest first, and those given before. -/
theorem run_issued (g : Graph) (edits : List Edit) :
    (g.run edits).issued = ((g.handedOut edits).map (·.id)).reverse ++ g.issued := by
  induction edits generalizing g with
  | nil => rfl
  | cons edit edits ih =>
    have step := (apply_change g edit).issued
    have rest := ih (g.apply edit).2
    rw [step] at rest
    have order : ((g.apply edit).1.handedOut?.toList.map (·.id)).reverse =
        (g.apply edit).1.handedOut?.toList.map (·.id) := by
      cases (g.apply edit).1.handedOut? <;> rfl
    rw [handedOut, List.map_append, List.reverse_append, order, List.append_assoc]
    exact rest

/-- The given ids stay distinct. -/
theorem run_issued_nodup {g : Graph} (distinct : g.issued.Nodup) (edits : List Edit) :
    (g.run edits).issued.Nodup := by
  refine run_keeps (P := fun g => g.issued.Nodup) (fun g edit distinct => ?_) distinct edits
  have c := apply_change g edit
  rw [c.issued]
  cases handed : (g.apply edit).1.handedOut? with
  | none => exact distinct
  | some n =>
    rw [handed] at c
    exact List.nodup_cons.mpr ⟨c.fresh, distinct⟩

/-- **No id is handed out twice.** -/
theorem handedOut_ids_nodup (edits : List Edit) :
    ((empty.handedOut edits).map (·.id)).Nodup := by
  have distinct := run_issued_nodup (g := empty) List.nodup_nil edits
  rw [run_issued, List.nodup_append] at distinct
  exact List.nodup_reverse.mp distinct.1

/-- An id was given exactly if it was handed out. -/
theorem mem_issued_run_iff {edits : List Edit} {id : String} :
    id ∈ (empty.run edits).issued ↔ id ∈ (empty.handedOut edits).map (·.id) := by
  rw [run_issued, List.mem_append, List.mem_reverse]
  exact or_iff_left List.not_mem_nil

/-! ## The placements that are present -/

/-- A placement that is present behind an edit was present before or was handed out. -/
theorem Change.placements {g h : Graph} {handed : Option Node} (c : Change g handed h) :
    h.nodes.map Node.placement ⊆
      g.nodes.map Node.placement ++ handed.toList.map Node.placement := by
  cases c with
  | kept => exact List.subset_append_left _ _
  | placed n fresh =>
    rw [push, List.map_append]
    exact List.Subset.refl _
  | removed id =>
    exact fun _ mem => List.mem_append_left _ ((List.eraseP_sublist.map _).subset mem)
  | connected e joinable new named => exact List.subset_append_left _ _
  | disconnected id => exact List.subset_append_left _ _
  | cleared => exact List.nil_subset _
  | modified id f keeps =>
    rw [map_placement_modifyNode keeps]
    exact List.subset_append_left _ _

/-- **Every placement that is present is in the log**, or was present at the start. -/
theorem run_placements (g : Graph) (edits : List Edit) :
    (g.run edits).nodes.map Node.placement ⊆
      g.nodes.map Node.placement ++ (g.handedOut edits).map Node.placement := by
  induction edits generalizing g with
  | nil => exact List.subset_append_left _ _
  | cons edit edits ih =>
    intro p mem
    rw [handedOut, List.map_append, ← List.append_assoc]
    rcases List.mem_append.mp (ih (g.apply edit).2 mem) with mem | mem
    · exact List.mem_append_left _ ((apply_change g edit).placements mem)
    · exact List.mem_append_right _ mem

/-- A node that is present in some state of a history has a placement from the log of all of it. -/
theorem placement_mem_handedOut {edits : List Edit} {i : Nat} {n : Node}
    (hn : n ∈ (empty.run (edits.take i)).nodes) :
    ∃ m ∈ empty.handedOut edits, m.placement = n.placement := by
  have logged := run_placements empty (edits.take i) (List.mem_map_of_mem hn)
  obtain ⟨m, hm, same⟩ := List.mem_map.mp logged
  have all : empty.handedOut edits =
      empty.handedOut (edits.take i) ++ (empty.run (edits.take i)).handedOut (edits.drop i) := by
    rw [← handedOut_append, List.take_append_drop]
  exact ⟨m, all ▸ List.mem_append_left _ hm, same⟩

/-! ## Histories as a whole -/

/-- **Each id is handed out once, and stands for one node for good.** Over every history of edits,
with any drawn suffixes: no id is handed out twice; inserting under an id that was handed out, at
any time before, is refused and changes nothing, while any other id is taken; and of two states in
which a node with one id is present, both have it with the same kind, block, inputs and outputs. -/
theorem run_hands_out_once (edits : List Edit) :
    ((empty.handedOut edits).map (·.id)).Nodup ∧
    (∀ id ∈ (empty.handedOut edits).map (·.id), ∀ body,
      (empty.run edits).apply (.insert id body) = (.inserted none, empty.run edits)) ∧
    (∀ id ∉ (empty.handedOut edits).map (·.id), ∀ body,
      (empty.run edits).apply (.insert id body) =
        (.inserted (some ⟨body, id⟩), (empty.run edits).push ⟨body, id⟩)) ∧
    ∀ i j, ∀ n ∈ (empty.run (edits.take i)).nodes, ∀ m ∈ (empty.run (edits.take j)).nodes,
      n.id = m.id →
        n.kind = m.kind ∧ n.block = m.block ∧ n.inputs = m.inputs ∧ n.outputs = m.outputs := by
  refine ⟨handedOut_ids_nodup edits, ?_, ?_, ?_⟩
  · intro id handed body
    have given := List.contains_iff_mem.mpr (mem_issued_run_iff.mpr handed)
    simp only [apply, insert?, given, ↓reduceIte]
    rfl
  · intro id unhanded body
    have inserted : (empty.run edits).insert? id body = some _ :=
      insert?_eq_some_iff.mpr ⟨mt mem_issued_run_iff.mp unhanded, rfl⟩
    simp only [apply, inserted]
    rfl
  · -- both nodes have the placement of the one logged node with their id
    intro i j n hn m hm same
    obtain ⟨n', hn', hnp⟩ := placement_mem_handedOut hn
    obtain ⟨m', hm', hmp⟩ := placement_mem_handedOut hm
    have ids : n'.id = m'.id :=
      (Node.placement_eq_iff.mp hnp).1.trans (same.trans (Node.placement_eq_iff.mp hmp).1.symm)
    obtain rfl : n' = m' := List.inj_on_of_nodup_map (handedOut_ids_nodup edits) hn' hm' ids
    exact (Node.placement_eq_iff.mp (hnp.symm.trans hmp)).2

/-- A node that takes part in the history below. -/
def retiredBody : NodeBody := { kind := .fusion, block := ⟨"fusions.concat", "1.0.0"⟩ }

/-- A chosen id is retired, then drawn twice; the node that is placed instead is changed. -/
def retiringHistory : List Edit :=
  [.insert "fusion_0a" retiredBody, .remove "fusion_0a",
   .add "fusion" ["0a", "0a", "0b"] retiredBody, .configure "fusion_0b" (.set "n" .null), .clear]

/-- The retired id is refused, and the node that was placed instead is one node in both states. -/
theorem run_hands_out_once_retiring :
    "fusion_0a" ∈ (empty.handedOut retiringHistory).map (·.id) ∧
    (empty.run retiringHistory).apply (.insert "fusion_0a" retiredBody) =
      (.inserted none, empty.run retiringHistory) ∧
    ∃ n ∈ (empty.run (retiringHistory.take 3)).nodes,
      ∃ m ∈ (empty.run (retiringHistory.take 4)).nodes, n.id = m.id ∧ n.block = m.block := by
  obtain ⟨-, refused, -, settled⟩ := run_hands_out_once retiringHistory
  have handed : "fusion_0a" ∈ (empty.handedOut retiringHistory).map (·.id) := by decide
  refine ⟨handed, refused _ handed retiredBody, _, List.mem_singleton_self _, _,
    List.mem_singleton_self _, rfl, ?_⟩
  exact (settled 3 4 _ (List.mem_singleton_self _) _ (List.mem_singleton_self _) rfl).2.1

end Graph

end BlockPipeline
