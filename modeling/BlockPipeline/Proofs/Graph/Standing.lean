import BlockPipeline.Proofs.Graph.History
import BlockPipeline.Proofs.Graph.Verdict
import BlockPipeline.Proofs.Graph.WellFormed

/-!
# What stands over a history

An id that was given stands for one node. As the history goes on, the graph has this node under it
until an edit drops it, and nothing under it ever after (`placement?_run`). So what a graph says of a
candidate, which depends on the placements of two nodes, can change in one way only: a node may be
missing. A refusal for what is settled about the nodes is therefore final, and a candidate whose
ends are joinable stays so while its nodes are there, and then only a present edge between the same
ends stands against it.

| Statement | In words | From |
| --- | --- | --- |
| `placement?_run` | a given id keeps its placement until it is dropped, and then has none | one step, `Change.issued` |
| `resolve_run` | a resolved candidate stays so until one of its nodes is dropped | `resolve_congr` |
| `check_run` | which refusals are final, and which candidates stay open | `resolve_error_cases`, `resolve_run` |
-/

set_option autoImplicit false

namespace BlockPipeline

/-- The edit takes the node with an id away, if it is there. -/
def Edit.drops (edit : Edit) (id : String) : Bool :=
  match edit with
  | .remove other => other == id
  | .clear => true
  | _ => false

namespace Graph

variable {g : Graph} {id : String}

/-! ## One edit -/

/-- An edit leaves under an id what is there, if it does so where it succeeds. -/
theorem placement?_orElse {α : Type} {answer : Option α → EditAnswer} {result : Option (α × Graph)}
    (found : ∀ a h, result = some (a, h) → h.placement? id = g.placement? id) :
    (g.orElse answer result).2.placement? id = g.placement? id := by
  cases result with
  | none => rfl
  | some pair => exact found pair.1 pair.2 rfl

/-- A node that is placed changes nothing under another id. -/
theorem placement?_push_of_ne {n : Node} (differs : n.id ≠ id) :
    (g.push n).placement? id = g.placement? id := by
  simp only [placement?, node?, push, List.find?_append, List.find?_cons, beq_false_of_ne differs,
    List.find?_nil, Option.or_none]

/-- A node that is taken away is gone, because no other has its id. -/
theorem find?_eraseP_self {nodes : List Node} (distinct : (nodes.map (·.id)).Nodup) :
    (nodes.eraseP (·.id == id)).find? (·.id == id) = none := by
  rw [eraseP_key_eq_filter distinct, List.find?_eq_none]
  intro n mem
  simpa using (List.mem_filter.mp mem).2

/-- **An edit that drops an id** leaves nothing under it. -/
theorem placement?_apply_of_drops (wf : g.WellFormed) {edit : Edit} (drops : edit.drops id = true) :
    (g.apply edit).2.placement? id = none := by
  cases edit with
  | remove other =>
    obtain rfl : other = id := beq_iff_eq.mp drops
    simp only [apply, orElse]
    cases removed : g.remove? other with
    | none => simp only [placement?, Option.map_eq_none_iff.mp removed, Option.map_none]
    | some found =>
      obtain ⟨n, h⟩ := found
      obtain ⟨-, rfl⟩ := remove?_eq_some_iff.mp removed
      simp only [placement?, node?, find?_eraseP_self wf.nodeIds, Option.map_none]
  | clear => rfl
  | _ => cases drops

/-- **Every other edit** leaves under a given id what is there. -/
theorem placement?_apply_of_keeps (given : id ∈ g.issued) {edit : Edit}
    (keeps : edit.drops id = false) : (g.apply edit).2.placement? id = g.placement? id := by
  have placed : ∀ {n : Node} {h : Graph}, n.id ∉ g.issued ∧ h = g.push n →
      h.placement? id = g.placement? id := by
    rintro n _ ⟨fresh, rfl⟩
    apply placement?_push_of_ne
    intro same
    exact fresh (same ▸ given)
  have modified : ∀ {f : Node → Node} (other : String), (∀ n, (f n).placement = n.placement) →
      placement? { g with nodes := modifyNode other f g.nodes } id = g.placement? id := by
    intro f other settled
    exact placement?_congr (map_placement_modifyNode settled other g.nodes) id
  cases edit with
  | add stem draws body =>
    apply placement?_orElse
    intro n h added
    exact placed (add?_eq_some added)
  | insert other body =>
    apply placement?_orElse
    intro _ h found
    obtain ⟨h, inserted, ⟨⟩⟩ := Option.map_eq_some_iff.mp found
    exact placed (n := ⟨body, other⟩) (insert?_eq_some_iff.mp inserted)
  | place palette key registry draws position =>
    apply placement?_orElse
    intro n h found
    exact placed (place?_eq_some found)
  | remove other =>
    have differs : id ≠ other := (beq_eq_false_iff_ne.mp keeps).symm
    apply placement?_orElse
    intro n h found
    obtain ⟨-, rfl⟩ := remove?_eq_some_iff.mp found
    simp only [placement?, node?, find?_eraseP_of_ne differs]
  | connect candidate =>
    simp only [apply]
    split
    next connected =>
      obtain ⟨-, -, rfl⟩ := connect_eq_ok_iff.mp connected
      rfl
    next => rfl
  | disconnect other =>
    apply placement?_orElse
    intro e h found
    obtain ⟨-, rfl⟩ := disconnect?_eq_some_iff.mp found
    rfl
  | clear => cases keeps
  | configure other edit => exact modified other fun _ => rfl
  | move other position => exact modified other fun _ => rfl

/-- A node that is not dropped stays. -/
theorem mem_nodeIds_apply (wf : g.WellFormed) (there : id ∈ g.nodeIds) {edit : Edit}
    (keeps : edit.drops id = false) : id ∈ (g.apply edit).2.nodeIds := by
  rw [mem_nodeIds_iff, placement?_apply_of_keeps (wf.issued there) keeps]
  exact mem_nodeIds_iff.mp there

/-! ## Histories -/

/-- **A given id keeps its placement until it is dropped, and then has none**, however the history
goes on: the id is not given a second time. -/
theorem placement?_run (wf : g.WellFormed) (given : id ∈ g.issued) (edits : List Edit) :
    (g.run edits).placement? id = if edits.any (·.drops id) then none else g.placement? id := by
  induction edits generalizing g with
  | nil => rfl
  | cons edit edits ih =>
    have later := ih (wf.change (apply_change g edit))
      ((apply_change g edit).issued ▸ List.mem_append_right _ given)
    refine later.trans ?_
    cases drops : edit.drops id with
    | true =>
      rw [placement?_apply_of_drops wf drops, List.any_cons, drops, Bool.true_or, if_pos rfl,
        ite_self]
    | false =>
      rw [placement?_apply_of_keeps given drops, List.any_cons, drops, Bool.false_or]

/-- An id under which there is a node was given. -/
theorem WellFormed.given (wf : g.WellFormed) {p : Placement} (there : g.placement? id = some p) :
    id ∈ g.issued := by
  obtain ⟨n, found, -⟩ := placement?_eq_some.mp there
  obtain ⟨mem, rfl⟩ := node?_eq_some found
  exact wf.issued (List.mem_map_of_mem mem)

/-- A node that no edit drops is settled as it was. -/
theorem placement?_run_of_keeps (wf : g.WellFormed) {p : Placement}
    (there : g.placement? id = some p) {edits : List Edit}
    (keeps : ∀ edit ∈ edits, edit.drops id = false) :
    (g.run edits).placement? id = g.placement? id := by
  rw [placement?_run wf (wf.given there), if_neg]
  rintro dropped
  obtain ⟨edit, mem, drops⟩ := List.any_eq_true.mp dropped
  exact Bool.eq_false_iff.mp (keeps edit mem) drops

/-- So is a node that is there later too. -/
theorem placement?_run_of_there (wf : g.WellFormed) {p : Placement}
    (there : g.placement? id = some p) {edits : List Edit}
    (still : ((g.run edits).node? id).isSome = true) :
    (g.run edits).placement? id = g.placement? id := by
  have law := placement?_run wf (wf.given there) edits
  split at law
  next =>
    rw [Option.map_eq_none_iff.mp law] at still
    cases still
  next => exact law

/-! ## Verdicts -/

/-- An accepted candidate has its two nodes. -/
theorem nodes_of_check_eq_ok {c : Candidate} {ends : Endpoint × Endpoint}
    (accepted : g.check c = .ok ends) :
    (g.node? c.source).isSome = true ∧ (g.node? c.target).isSome = true := by
  obtain ⟨-, -, source, target, joinable, -⟩ := check_eq_ok_iff.mp accepted
  obtain ⟨p, q, -, -, hp, hq, -⟩ := joinable.typed
  obtain ⟨n, hn, -⟩ := placement?_eq_some.mp hp
  obtain ⟨m, hm, -⟩ := placement?_eq_some.mp hq
  rw [source, target, hn, hm]
  exact ⟨rfl, rfl⟩

/-- What the nodes say of a candidate is said again while both of them are there. -/
theorem resolve_run_of_there (wf : g.WellFormed) {c : Candidate} {p q : Placement}
    (hp : g.placement? c.source = some p) (hq : g.placement? c.target = some q) {edits : List Edit}
    (source : ((g.run edits).node? c.source).isSome = true)
    (target : ((g.run edits).node? c.target).isSome = true) :
    (g.run edits).resolve c = g.resolve c :=
  resolve_congr (placement?_run_of_there wf hp source) (placement?_run_of_there wf hq target)

/-- **A candidate that is resolved stays so** until one of its nodes is dropped. -/
theorem resolve_run (wf : g.WellFormed) {c : Candidate} {ends : Endpoint × Endpoint}
    (resolved : g.resolve c = .ok ends) {edits : List Edit}
    (keeps : ∀ edit ∈ edits, edit.drops c.source = false ∧ edit.drops c.target = false) :
    (g.run edits).resolve c = .ok ends := by
  obtain ⟨named, joinable⟩ := resolve_eq_ok_iff.mp resolved
  obtain ⟨p, q, -, -, hp, hq, -⟩ := joinable.typed
  obtain ⟨-, -, source, target⟩ := Candidate.ends?_eq_some_iff.mp named
  rw [← source] at hp
  rw [← target] at hq
  rw [← resolved]
  exact resolve_congr (placement?_run_of_keeps wf hp fun edit mem => (keeps edit mem).1)
    (placement?_run_of_keeps wf hq fun edit mem => (keeps edit mem).2)

/-- **A refusal that lasts is final**: there is one ever after, and it is the same while both nodes
are there. -/
theorem check_run_of_lasts (wf : g.WellFormed) {c : Candidate} {reason : Refusal}
    (refused : g.check c = .error reason) (lasts : reason.lasts = true) (edits : List Edit) :
    ∃ later, (g.run edits).check c = .error later ∧
      (((g.run edits).node? c.source).isSome = true →
        ((g.run edits).node? c.target).isSome = true → later = reason) := by
  have declined := resolve_eq_error_iff.mpr ⟨refused, Refusal.isDuplicate_of_lasts lasts⟩
  rcases resolve_error_cases declined with ⟨-, unread⟩ | (rfl | rfl) | ⟨-, p, q, hp, hq⟩
  · have same := (resolve_congr_of_unread (g := g.run edits) unread).trans declined
    exact ⟨reason, check_of_resolve_error same, fun _ _ => rfl⟩
  · cases lasts
  · cases lasts
  · -- both nodes are there; later they say the same, or one of them is missing
    have same (source : ((g.run edits).node? c.source).isSome = true)
        (target : ((g.run edits).node? c.target).isSome = true) :
        (g.run edits).check c = .error reason :=
      check_of_resolve_error ((resolve_run_of_there wf hp hq source target).trans declined)
    cases verdict : (g.run edits).check c with
    | ok ends =>
      obtain ⟨source, target⟩ := nodes_of_check_eq_ok verdict
      cases verdict.symm.trans (same source target)
    | error later =>
      exact ⟨later, rfl, fun source target =>
        Except.error.inj (verdict.symm.trans (same source target))⟩

/-- **A resolved candidate is open**: it is accepted or a duplicate, the latter exactly if an edge
joins its ends. -/
theorem open_of_resolve {c : Candidate} {ends : Endpoint × Endpoint}
    (resolved : g.resolve c = .ok ends) :
    (g.check c = .ok ends ∨ ∃ id, g.check c = .error (.duplicate id)) ∧
      ((∃ id, g.check c = .error (.duplicate id)) ↔ ∃ e ∈ g.edges, e.ends = ends) := by
  rcases check_of_resolve resolved with ⟨new, accepted⟩ | ⟨e, mem, same, duplicate⟩
  · refine ⟨.inl accepted, ?_, ?_⟩
    · rintro ⟨id, duplicate⟩
      cases accepted.symm.trans duplicate
    · rintro ⟨e, mem, same⟩
      exact absurd (List.mem_map.mpr ⟨e, mem, same⟩) new
  · exact ⟨.inr ⟨e.id, duplicate⟩, fun _ => ⟨e, mem, same⟩, fun _ => ⟨e.id, duplicate⟩⟩

/-- **Which refusals are final, and which candidates stay open.** A candidate that is refused for a
handle, for one node at both ends, for a port or for the types of its ports is refused ever after,
and for the same reason while both nodes are there. One that is accepted or is a duplicate names two
ends, and until one of its nodes is dropped it is accepted or a duplicate, the latter exactly while
an edge joins these ends. -/
theorem check_run (reached : g.Reachable) (c : Candidate) :
    (∀ reason, g.check c = .error reason → reason.lasts = true → ∀ edits,
      ∃ later, (g.run edits).check c = .error later ∧
        (((g.run edits).node? c.source).isSome = true →
          ((g.run edits).node? c.target).isSome = true → later = reason)) ∧
    ((∃ ends, g.check c = .ok ends) ∨ (∃ id, g.check c = .error (.duplicate id)) →
      ∃ ends, c.ends? = some ends ∧ ∀ edits,
        (∀ edit ∈ edits, edit.drops c.source = false ∧ edit.drops c.target = false) →
          ((g.run edits).check c = .ok ends ∨
            ∃ id, (g.run edits).check c = .error (.duplicate id)) ∧
          ((∃ id, (g.run edits).check c = .error (.duplicate id)) ↔
            ∃ e ∈ (g.run edits).edges, e.ends = ends)) := by
  have wf := reached.wellFormed
  constructor
  · intro reason refused lasts edits
    exact check_run_of_lasts wf refused lasts edits
  · intro verdict
    obtain ⟨ends, resolved⟩ := exists_resolve_iff.mpr verdict
    refine ⟨ends, (resolve_eq_ok_iff.mp resolved).1, ?_⟩
    intro edits keeps
    exact open_of_resolve (resolve_run wf resolved keeps)

/-- A node with ports of two types. -/
def standingBody : NodeBody :=
  { kind := .fusion
    block := ⟨"fusions.concat", "1.0.0"⟩
    inputs := [{ name := "q", portType := "text" }, { name := "r", portType := "image" }]
    outputs := [{ name := "p", portType := "text" }] }

/-- Two such nodes and a connection. -/
def standingHistory : List Edit :=
  [.insert "a" standingBody, .insert "b" standingBody, .connect (.between "a" "p" "b" "q")]

/-- The edge goes and a node is moved; no node is dropped. -/
def reopening : List Edit := [.disconnect "e_a_out:p_b_in:q", .move "b" (.ofInts 10 20)]

/-- Both nodes are dropped, and one of their ids is tried again. -/
def dropping : List Edit := [.remove "a", .insert "a" standingBody, .clear]

/-- The connection that is there is open again once its edge is gone, also where it is written with
bare names. One between ports of two types stays refused, and does so when the nodes are dropped. -/
theorem check_run_standing :
    ((empty.run standingHistory).check ⟨"a", "p", "b", "q"⟩ =
        .error (.duplicate "e_a_out:p_b_in:q") ∧
      ∃ ends, ((empty.run standingHistory).run reopening).check ⟨"a", "p", "b", "q"⟩ = .ok ends) ∧
    (empty.run standingHistory).check (.between "a" "p" "b" "r") =
        .error (.portTypeMismatch "text" "image") ∧
      ((empty.run standingHistory).run reopening).check (.between "a" "p" "b" "r") =
        .error (.portTypeMismatch "text" "image") ∧
      ∃ later,
        ((empty.run standingHistory).run dropping).check (.between "a" "p" "b" "r") =
          .error later := by
  have duplicate : (empty.run standingHistory).check ⟨"a", "p", "b", "q"⟩ =
      .error (.duplicate "e_a_out:p_b_in:q") := by decide
  have mismatch : (empty.run standingHistory).check (.between "a" "p" "b" "r") =
      .error (.portTypeMismatch "text" "image") := by decide
  refine ⟨⟨duplicate, ?_⟩, mismatch, ?_⟩
  · obtain ⟨ends, -, later⟩ := (check_run ⟨standingHistory, rfl⟩ _).2 (.inr ⟨_, duplicate⟩)
    obtain ⟨verdict, joined⟩ := later reopening (by decide)
    refine ⟨ends, verdict.resolve_right fun refused => ?_⟩
    obtain ⟨e, mem, -⟩ := joined.mp refused
    have bare : ((empty.run standingHistory).run reopening).edges = [] := by decide
    rw [bare] at mem
    cases mem
  · have final := (check_run ⟨standingHistory, rfl⟩ _).1 _ mismatch rfl
    constructor
    · obtain ⟨later, refused, same⟩ := final reopening
      rw [refused, same (by decide) (by decide)]
    · obtain ⟨later, refused, -⟩ := final dropping
      exact ⟨later, refused⟩

end Graph

end BlockPipeline
