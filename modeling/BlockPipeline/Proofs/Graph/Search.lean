import BlockPipeline.Proofs.Graph.Cycle

/-!
# What the search for a cycle depends on

The search reads a graph through the ids of the nodes, the arcs that leave each of them, and a number
that bounds its depth. A visit that ends keeps the stack and every mark, and the ids without a mark get
fewer with each that is entered (`visit_extends`). So the bound is never met, and a larger one makes no
difference: not to the cycle that is found, nor to the state behind a node (`visit_of_le`).

So a node that no edge touches may be put behind the others. It is searched last, when all that comes
to nothing has done so, and the cycle that is found is the same one, node by node
(`WellFormed.findCycle?_push`).
-/

set_option autoImplicit false

namespace BlockPipeline

namespace Graph

/-- Where the same arcs leave each node, the search below a node goes the same way. -/
theorem visit_congr {g h : Graph} (same : ∀ id, g.successors id = h.successors id) (depth : Nat) :
    g.visit depth = h.visit depth := by
  induction depth with
  | zero => rfl
  | succ depth ih =>
    funext w id
    simp only [visit, same, ih]

/-- **The same cycle is found** where the ids of the nodes are the same and the same arcs leave each of
them. The edges are counted for the bound on the depth. -/
theorem findCycle?_congr {g h : Graph} (ids : g.nodeIds = h.nodeIds)
    (arcs : ∀ id, g.successors id = h.successors id) (edges : g.edges.length = h.edges.length) :
    g.findCycle? = h.findCycle? := by
  have nodes : g.nodes.length = h.nodes.length := by
    simpa only [nodeIds, List.length_map] using congrArg List.length ids
  have read : ∀ g : Graph, g.search = g.nodeIds.foldlM (fun w id => if (w.mark? id).isSome then .ok w
      else g.visit (g.nodes.length + g.edges.length) w id) {} := fun g => by
    rw [nodeIds, List.foldlM_map]
    rfl
  have search : g.search = h.search := by
    rw [read, read, ids, nodes, edges, visit_congr arcs]
  rw [findCycle?, search, findCycle?]

variable {g : Graph}

/-! ## More depth than needed -/

/-- The ids that nodes have, and those at which edges end: all that the search may come to. -/
def mentioned (g : Graph) : List String := g.nodeIds ++ g.edges.map (·.target.node)

theorem successors_subset (g : Graph) (id : String) : g.successors id ⊆ g.mentioned := by
  intro next mem
  obtain ⟨e, he, rfl⟩ := List.mem_map.mp mem
  exact List.mem_append_right _ (List.mem_map_of_mem (List.mem_filter.mp he).1)

theorem nodeIds_subset_mentioned (g : Graph) : g.nodeIds ⊆ g.mentioned :=
  List.subset_append_left _ _

/-- How many of these ids have no mark. -/
def Walk.bare (g : Graph) (w : Walk) : Nat := g.mentioned.countP fun id => (w.mark? id).isNone

theorem Walk.bare_le (g : Graph) (w : Walk) : w.bare g ≤ g.nodes.length + g.edges.length := by
  refine List.countP_le_length.trans (Nat.le_of_eq ?_)
  rw [mentioned, List.length_append, nodeIds, List.length_map, List.length_map]

/-- Leaving a node takes no mark back. -/
theorem Walk.bare_leave_le (g : Graph) (w : Walk) (id : String) :
    (w.leave id).bare g ≤ w.bare g := by
  refine List.countP_mono_left fun other _ bare => ?_
  rw [mark?_leave] at bare
  split at bare
  · cases bare
  · exact bare

/-- A run of steps each of which keeps the stack and every mark. -/
theorem foldlM_extends {α : Type} {step : Walk → α → Except (List String) Walk}
    (each : ∀ w a later, step w a = .ok later → w.Extends later) {items : List α} {w later : Walk}
    (behind : items.foldlM step w = .ok later) : w.Extends later := by
  induction items generalizing w with
  | nil =>
    cases behind
    exact .refl _
  | cons a items ih =>
    rw [List.foldlM_cons] at behind
    obtain ⟨v, first, others⟩ := bind_eq_ok.mp behind
    exact (each w a v first).trans (ih others)

/-- **A visit that ends without a cycle keeps the stack and every mark.** -/
theorem visit_extends (depth : Nat) {w later : Walk} {id : String} (bare : w.mark? id = none)
    (behind : g.visit depth w id = .ok later) : w.Extends later := by
  induction depth generalizing w later id with
  | zero =>
    cases behind
    exact .refl _
  | succ depth ih =>
    rw [visit_succ] at behind
    obtain ⟨v, loop, rfl⟩ : ∃ v, (g.successors id).foldlM (g.follow depth) (w.enter id) = .ok v ∧
        v.leave id = later := by
      obtain ⟨v, loop, left⟩ := bind_eq_ok.mp behind
      exact ⟨v, loop, Except.ok.inj left⟩
    have kept : (w.enter id).Extends v := by
      refine foldlM_extends (fun u next after step => ?_) loop
      unfold follow at step
      split at step
      next => cases step
      next =>
        cases step
        exact .refl _
      next unmarked => exact ih unmarked step
    refine ⟨by rw [Walk.stack_leave, kept.stack, Walk.stack_enter, List.tail_cons], ?_⟩
    intro other m marked
    have differs : other ≠ id := fun same => by
      rw [same, bare] at marked
      cases marked
    simpa [differs] using kept.marks other m (by simpa [differs] using marked)

/-- Along an arc the stack and every mark are kept. -/
theorem follow_extends {depth : Nat} {w later : Walk} {next : String}
    (behind : g.follow depth w next = .ok later) : w.Extends later := by
  unfold follow at behind
  split at behind
  next => cases behind
  next =>
    cases behind
    exact .refl _
  next bare => exact visit_extends depth bare behind

/-- **Two runs of steps agree** if the steps agree in every state that may come between them. -/
theorem foldlM_agree {α : Type} {step other : Walk → α → Except (List String) Walk}
    (holds : Walk → Prop) {items : List α}
    (each : ∀ a ∈ items, ∀ w, holds w →
      other w a = step w a ∧ ∀ later, step w a = .ok later → holds later)
    {w : Walk} (start : holds w) : items.foldlM other w = items.foldlM step w := by
  induction items generalizing w with
  | nil => rfl
  | cons a items ih =>
    obtain ⟨same, next⟩ := each a List.mem_cons_self w start
    rw [List.foldlM_cons, List.foldlM_cons, same]
    cases behind : step w a with
    | error path => rfl
    | ok later => exact ih (fun b h => each b (List.mem_cons_of_mem _ h)) (next later behind)

/-- **More depth makes no difference** to the search below a node, once it is enough for the ids
that have no mark. -/
theorem visit_of_le {depth more : Nat} (le : depth ≤ more) {w : Walk} {id : String}
    (bare : w.mark? id = none) (mem : id ∈ g.mentioned) (deep : w.bare g ≤ depth) :
    g.visit more w id = g.visit depth w id := by
  have entered : (w.enter id).bare g < w.bare g := Walk.countP_bare_enter_lt bare mem
  induction depth generalizing more w id with
  | zero => omega
  | succ depth ih =>
    obtain ⟨more, rfl⟩ : ∃ k, more = k + 1 := ⟨more - 1, by omega⟩
    have loop : (g.successors id).foldlM (g.follow more) (w.enter id) =
        (g.successors id).foldlM (g.follow depth) (w.enter id) := by
      refine foldlM_agree (fun v => v.bare g ≤ depth) (fun next h v deepThere => ?_)
        (Nat.le_of_lt_succ (entered.trans_le deep))
      refine ⟨?_, fun later behind =>
        ((follow_extends behind).countP_bare_le g.mentioned).trans deepThere⟩
      unfold follow
      split
      next => rfl
      next => rfl
      next unmarked =>
        have there : next ∈ g.mentioned := g.successors_subset id h
        exact ih (Nat.le_of_succ_le_succ le) unmarked there deepThere
          (Walk.countP_bare_enter_lt unmarked there)
    rw [visit_succ, visit_succ, loop]

/-! ## A further node -/

/-- From each node the search does the same when a further node is there. -/
theorem begin_push (g : Graph) (n : Node) (w : Walk) {m : Node} (hm : m ∈ g.nodes) :
    (g.push n).begin w m = g.begin w m := by
  have arcs : ∀ depth, (g.push n).visit depth = g.visit depth := visit_congr fun _ => rfl
  unfold begin
  rw [arcs]
  cases bare : w.mark? m.id with
  | some mark => rfl
  | none =>
    have longer : g.nodes.length ≤ (g.push n).nodes.length :=
      (List.sublist_append_left g.nodes [n]).length_le
    exact visit_of_le (Nat.add_le_add_right longer _) bare
      (g.nodeIds_subset_mentioned (List.mem_map_of_mem hm)) (w.bare_le g)

/-- Below a node that no arc leaves there is nothing to find. -/
theorem begin_of_no_successors {n : Node} (none : g.successors n.id = []) (w : Walk) :
    ∃ later, g.begin w n = .ok later := by
  unfold begin
  split
  · exact ⟨w, rfl⟩
  · cases g.nodes.length + g.edges.length with
    | zero => exact ⟨w, rfl⟩
    | succ depth =>
      rw [visit_succ, none]
      exact ⟨_, rfl⟩

/-- **A further node has no part in the cycle that is found**, nor in there being none. -/
theorem WellFormed.findCycle?_push (wf : g.WellFormed) {n : Node} (fresh : n.id ∉ g.issued) :
    (g.push n).findCycle? = g.findCycle? := by
  have front : g.nodes.foldlM (g.push n).begin {} = g.search :=
    foldlM_agree (fun _ => True)
      (fun m hm w _ => ⟨g.begin_push n w hm, fun _ _ => trivial⟩) trivial
  have apart : (g.push n).successors n.id = [] :=
    List.eq_nil_iff_forall_not_mem.mpr fun next mem =>
      fresh (wf.issued (wf.arc_nodes (mem_successors.mp mem)).1)
  have whole : (g.push n).search = g.search >>= fun w => (g.push n).begin w n := by
    rw [search_eq, ← front]
    show (g.nodes ++ [n]).foldlM _ _ = _
    rw [List.foldlM_append]
    refine congrArg _ (funext fun w => ?_)
    exact (List.foldlM_cons ..).trans (bind_pure _)
  unfold findCycle?
  rw [whole]
  cases g.search with
  | error path => rfl
  | ok w =>
    obtain ⟨later, behind⟩ := begin_of_no_successors apart w
    simp only [bind, Except.bind, behind]

end Graph

end BlockPipeline
