import BlockPipeline.Proofs.Graph.Verdict
import BlockPipeline.Proofs.Graph.WellFormed

/-!
# Why a candidate is refused

Nine things are asked of a candidate, in a fixed order. `Graph.Fails` says of each of them when a
candidate does not meet it and which reason that is, without regard to the others: what is asked about
ports is asked of the nodes that are there and of the ports that the handles name. A candidate is
refused for the first thing that it does not meet, and accepted if it meets all of them.

The reason is determined by what is not met. For a connection that is made already this rests on the
graph being well-formed: the edge that makes it, and so the id that the reason gives, is the only one.

| Statement | In words | From |
| --- | --- | --- |
| `Fails.unique` | a condition is not met for one reason | `WellFormed.ends`, `Handle.Names.unique` |
| `firstFailing_of_check` | a refused candidate is refused for the first condition that it does not meet | one step for each condition |
| `check_eq_ok_iff_admissible` | an accepted one meets what is asked | `check_eq_ok_iff` |
| `connect_verdict` | what connecting does and answers | all of these |
-/

set_option autoImplicit false

namespace BlockPipeline

/-- What is asked of a candidate, in the order in which it is asked. -/
inductive Condition where
  | sourceHandle
  | targetHandle
  | sourceNode
  | targetNode
  | twoNodes
  | sourcePort
  | targetPort
  | oneType
  | newConnection
deriving DecidableEq

/-- The place in this order. -/
def Condition.rank : Condition → Nat
  | .sourceHandle => 0
  | .targetHandle => 1
  | .sourceNode => 2
  | .targetNode => 3
  | .twoNodes => 4
  | .sourcePort => 5
  | .targetPort => 6
  | .oneType => 7
  | .newConnection => 8

theorem Condition.rank_injective {a b : Condition} (same : a.rank = b.rank) : a = b := by
  cases a <;> cases b <;> first | rfl | cases same

namespace Graph

open Handle (Names)

variable {g : Graph} {c : Candidate}

/-- **A condition that a candidate does not meet**, and the reason that this is. -/
inductive Fails (g : Graph) (c : Candidate) : Condition → Refusal → Prop
  | sourceHandle (unread : ∀ p, ¬ Names .output c.sourceHandle p) :
    g.Fails c .sourceHandle (.malformedHandle c.sourceHandle)
  | targetHandle (unread : ∀ q, ¬ Names .input c.targetHandle q) :
    g.Fails c .targetHandle (.malformedHandle c.targetHandle)
  | sourceNode (missing : g.node? c.source = none) :
    g.Fails c .sourceNode (.sourceNodeMissing c.source)
  | targetNode (missing : g.node? c.target = none) :
    g.Fails c .targetNode (.targetNodeMissing c.target)
  | twoNodes (same : c.source = c.target) : g.Fails c .twoNodes (.selfLoop c.source)
  | sourcePort {p : String} {n : Node} (source : Names .output c.sourceHandle p)
    (sourceNode : g.node? c.source = some n) (missing : n.output? p = none) :
    g.Fails c .sourcePort (.sourcePortMissing c.source p)
  | targetPort {q : String} {m : Node} (target : Names .input c.targetHandle q)
    (targetNode : g.node? c.target = some m) (missing : m.input? q = none) :
    g.Fails c .targetPort (.targetPortMissing c.target q)
  | oneType {p q : String} {n m : Node} {a b : Port} (source : Names .output c.sourceHandle p)
    (target : Names .input c.targetHandle q) (sourceNode : g.node? c.source = some n)
    (targetNode : g.node? c.target = some m) (output : n.output? p = some a)
    (input : m.input? q = some b) (differ : a.portType ≠ b.portType) :
    g.Fails c .oneType (.portTypeMismatch a.portType b.portType)
  | newConnection {p q : String} {e : Edge} (source : Names .output c.sourceHandle p)
    (target : Names .input c.targetHandle q) (there : e ∈ g.edges)
    (joins : e.ends = (⟨c.source, .output p⟩, ⟨c.target, .input q⟩)) :
    g.Fails c .newConnection (.duplicate e.id)

/-- Whatever a candidate does not meet is asked from a place in the order on. -/
def MetBefore (g : Graph) (c : Candidate) (rank : Nat) : Prop :=
  ∀ condition reason, g.Fails c condition reason → rank ≤ condition.rank

/-- **The reason of the first condition that a candidate does not meet.** -/
def FirstFailing (g : Graph) (c : Candidate) (reason : Refusal) : Prop :=
  ∃ condition, g.Fails c condition reason ∧ g.MetBefore c condition.rank

/-- **What an accepted candidate proposes**: its handles name ports of two nodes that are there, an
output of the one and an input of the other, the first ports of these names are there and of one type,
and no edge joins them yet. -/
structure Admissible (g : Graph) (c : Candidate) (p q : String) : Prop where
  source : Names .output c.sourceHandle p
  target : Names .input c.targetHandle q
  apart : c.source ≠ c.target
  typed : ∃ n m a b, g.node? c.source = some n ∧ g.node? c.target = some m ∧
    n.output? p = some a ∧ m.input? q = some b ∧ a.portType = b.portType
  new : ∀ e ∈ g.edges, e.ends ≠ (⟨c.source, .output p⟩, ⟨c.target, .input q⟩)

/-! ## One condition -/

/-- In a well-formed graph one edge at most joins two ends. -/
theorem WellFormed.edge_unique (wf : g.WellFormed) {e f : Edge} (he : e ∈ g.edges) (hf : f ∈ g.edges)
    (same : e.ends = f.ends) : e = f :=
  List.inj_on_of_nodup_map wf.ends he hf same

/-- **A condition is not met for one reason.** -/
theorem Fails.unique (wf : g.WellFormed) {condition : Condition} {reason other : Refusal}
    (fails : g.Fails c condition reason) (also : g.Fails c condition other) : reason = other := by
  cases fails with
  | sourcePort source =>
    cases also with
    | sourcePort source' => rw [source.unique source']
  | targetPort target =>
    cases also with
    | targetPort target' => rw [target.unique target']
  | oneType source target sourceNode targetNode output input =>
    cases also with
    | oneType source' target' sourceNode' targetNode' output' input' =>
      cases source.unique source'
      cases target.unique target'
      cases sourceNode.symm.trans sourceNode'
      cases targetNode.symm.trans targetNode'
      cases output.symm.trans output'
      cases input.symm.trans input'
      rfl
  | newConnection source target there joins =>
    cases also with
    | newConnection source' target' there' joins' =>
      cases source.unique source'
      cases target.unique target'
      rw [wf.edge_unique there there' (joins.trans joins'.symm)]
  | _ =>
    -- the other reasons are given by the candidate alone
    cases also
    rfl

/-! Where the ports are those that the handles name, a condition about ports is about them. -/

section Ports

variable {p q : String} {n m : Node} {a b : Port}

theorem not_fails_sourcePort (source : Names .output c.sourceHandle p)
    (sourceNode : g.node? c.source = some n) (output : n.output? p = some a) (reason : Refusal) :
    ¬ g.Fails c .sourcePort reason := by
  intro fails
  cases fails with
  | sourcePort source' sourceNode' missing =>
    cases source.unique source'
    cases sourceNode.symm.trans sourceNode'
    cases output.symm.trans missing

theorem not_fails_targetPort (target : Names .input c.targetHandle q)
    (targetNode : g.node? c.target = some m) (input : m.input? q = some b) (reason : Refusal) :
    ¬ g.Fails c .targetPort reason := by
  intro fails
  cases fails with
  | targetPort target' targetNode' missing =>
    cases target.unique target'
    cases targetNode.symm.trans targetNode'
    cases input.symm.trans missing

theorem not_fails_oneType (source : Names .output c.sourceHandle p)
    (target : Names .input c.targetHandle q) (sourceNode : g.node? c.source = some n)
    (targetNode : g.node? c.target = some m) (output : n.output? p = some a)
    (input : m.input? q = some b) (types : a.portType = b.portType) (reason : Refusal) :
    ¬ g.Fails c .oneType reason := by
  intro fails
  cases fails with
  | oneType source' target' sourceNode' targetNode' output' input' differ =>
    cases source.unique source'
    cases target.unique target'
    cases sourceNode.symm.trans sourceNode'
    cases targetNode.symm.trans targetNode'
    cases output.symm.trans output'
    cases input.symm.trans input'
    exact differ types

end Ports

/-- **A candidate that proposes a new connection meets every condition.** -/
theorem Admissible.not_fails {p q : String} (admissible : g.Admissible c p q) (condition : Condition)
    (reason : Refusal) : ¬ g.Fails c condition reason := by
  obtain ⟨source, target, apart, ⟨n, m, a, b, sourceNode, targetNode, output, input, types⟩, new⟩ :=
    admissible
  intro fails
  cases condition with
  | sourcePort => exact not_fails_sourcePort source sourceNode output reason fails
  | targetPort => exact not_fails_targetPort target targetNode input reason fails
  | oneType =>
    exact not_fails_oneType source target sourceNode targetNode output input types reason fails
  | newConnection =>
    cases fails with
    | newConnection source' target' there joins =>
      cases source.unique source'
      cases target.unique target'
      exact new _ there joins
  | sourceHandle =>
    cases fails with
    | sourceHandle unread => exact unread p source
  | targetHandle =>
    cases fails with
    | targetHandle unread => exact unread q target
  | sourceNode =>
    cases fails with
    | sourceNode missing => cases sourceNode.symm.trans missing
  | targetNode =>
    cases fails with
    | targetNode missing => cases targetNode.symm.trans missing
  | twoNodes =>
    cases fails with
    | twoNodes same => exact apart same

/-! ## Conditions in order -/

/-- The next condition is reached where this one is met, and those in front of it are. -/
theorem MetBefore.next {condition : Condition} (met : g.MetBefore c condition.rank)
    (here : ∀ reason, ¬ g.Fails c condition reason) : g.MetBefore c (condition.rank + 1) := by
  intro other reason fails
  refine Nat.lt_of_le_of_ne (met other reason fails) fun same => ?_
  cases Condition.rank_injective same
  exact here reason fails

/-- There is one first reason. -/
theorem FirstFailing.unique (wf : g.WellFormed) {reason other : Refusal}
    (first : g.FirstFailing c reason) (also : g.FirstFailing c other) : reason = other := by
  obtain ⟨a, fails, before⟩ := first
  obtain ⟨b, fails', before'⟩ := also
  cases Condition.rank_injective
    (Nat.le_antisymm (before b other fails') (before' a reason fails))
  exact fails.unique wf fails'

/-! ## The check -/

/-- **What an accepted candidate proposes is a new connection**, and the answer are its ends. -/
theorem check_eq_ok_iff_admissible {ends : Endpoint × Endpoint} :
    g.check c = .ok ends ↔
      ∃ p q, g.Admissible c p q ∧ ends = (⟨c.source, .output p⟩, ⟨c.target, .input q⟩) := by
  obtain ⟨⟨s, sh⟩, ⟨t, th⟩⟩ := ends
  rw [check_eq_ok_iff]
  constructor
  · rintro ⟨hsh, hth, rfl, rfl, joinable, new⟩
    obtain ⟨p, source, rfl⟩ := Handle.onSide?_eq_some_iff_names.mp hsh
    obtain ⟨q, target, rfl⟩ := Handle.onSide?_eq_some_iff_names.mp hth
    obtain ⟨_, _, a, b, hn, hm, output, input, types⟩ := joinable.typed
    obtain ⟨n, sourceNode, rfl⟩ := placement?_eq_some.mp hn
    obtain ⟨m, targetNode, rfl⟩ := placement?_eq_some.mp hm
    exact ⟨p, q,
      { source, target, apart := joinable.apart
        typed := ⟨n, m, a, b, sourceNode, targetNode, output, input, types⟩
        new := fun e there joins => new (List.mem_map.mpr ⟨e, there, joins⟩) }, rfl⟩
  · rintro ⟨p, q, ⟨source, target, apart, typed, new⟩, heq⟩
    cases heq
    obtain ⟨n, m, a, b, sourceNode, targetNode, output, input, types⟩ := typed
    obtain ⟨-, sourceNamed⟩ := Handle.onSide?_some (Handle.onSide?_iff_names.mpr source)
    obtain ⟨-, targetNamed⟩ := Handle.onSide?_some (Handle.onSide?_iff_names.mpr target)
    refine ⟨Handle.onSide?_iff_names.mpr source, Handle.onSide?_iff_names.mpr target, rfl, rfl,
      ?_, ?_⟩
    · exact
        { sourceSide := rfl, targetSide := rfl, sourceNamed, targetNamed, apart
          typed := ⟨n.placement, m.placement, a, b, placement?_eq_some.mpr ⟨n, sourceNode, rfl⟩,
            placement?_eq_some.mpr ⟨m, targetNode, rfl⟩, output, input, types⟩ }
    · intro joined
      obtain ⟨e, there, joins⟩ := List.mem_map.mp joined
      exact new e there joins

/-- **A refused candidate is refused for the first condition that it does not meet.** -/
theorem firstFailing_of_check {reason : Refusal} (refused : g.check c = .error reason) :
    g.FirstFailing c reason := by
  unfold check at refused
  simp only [bind_eq_error, throwIf_eq_error, handleOn_eq_error, orRefuse_eq_error, handleOn_eq_ok,
    orRefuse_eq_ok] at refused
  -- condition by condition: it is not met, or the next one is asked for
  have met : g.MetBefore c Condition.sourceHandle.rank := fun _ _ _ => Nat.zero_le _
  rcases refused with ⟨unread, rfl⟩ | ⟨_, read, refused⟩
  · exact ⟨_, .sourceHandle (Handle.onSide?_eq_none_iff_names.mp unread), met⟩
  obtain ⟨p, source, rfl⟩ := Handle.onSide?_eq_some_iff_names.mp read
  replace met : g.MetBefore c Condition.targetHandle.rank :=
    met.next fun | _, .sourceHandle unread => unread p source
  rcases refused with ⟨unread, rfl⟩ | ⟨_, read, refused⟩
  · exact ⟨_, .targetHandle (Handle.onSide?_eq_none_iff_names.mp unread), met⟩
  obtain ⟨q, target, rfl⟩ := Handle.onSide?_eq_some_iff_names.mp read
  replace met : g.MetBefore c Condition.sourceNode.rank :=
    met.next fun | _, .targetHandle unread => unread q target
  rcases refused with ⟨missing, rfl⟩ | ⟨n, sourceNode, refused⟩
  · exact ⟨_, .sourceNode missing, met⟩
  replace met : g.MetBefore c Condition.targetNode.rank :=
    met.next fun | _, .sourceNode missing => nomatch missing.symm.trans sourceNode
  rcases refused with ⟨missing, rfl⟩ | ⟨m, targetNode, refused⟩
  · exact ⟨_, .targetNode missing, met⟩
  replace met : g.MetBefore c Condition.twoNodes.rank :=
    met.next fun | _, .targetNode missing => nomatch missing.symm.trans targetNode
  rw [(node?_eq_some sourceNode).2, (node?_eq_some targetNode).2] at refused
  rcases refused with ⟨same, rfl⟩ | ⟨apart, refused⟩
  · exact ⟨_, .twoNodes same, met⟩
  replace met : g.MetBefore c Condition.sourcePort.rank :=
    met.next fun | _, .twoNodes same => apart same
  rcases refused with ⟨missing, rfl⟩ | ⟨a, output, refused⟩
  · exact ⟨_, .sourcePort source sourceNode missing, met⟩
  replace met : g.MetBefore c Condition.targetPort.rank :=
    met.next (not_fails_sourcePort source sourceNode output)
  rcases refused with ⟨missing, rfl⟩ | ⟨b, input, refused⟩
  · exact ⟨_, .targetPort target targetNode missing, met⟩
  replace met : g.MetBefore c Condition.oneType.rank :=
    met.next (not_fails_targetPort target targetNode input)
  rcases refused with ⟨mismatch, rfl⟩ | ⟨compatible, refused⟩
  · refine ⟨_, .oneType source target sourceNode targetNode output input ?_, met⟩
    simpa [Port.compatible] using mismatch
  have types : a.portType = b.portType := by simpa [Port.compatible] using compatible
  replace met : g.MetBefore c Condition.newConnection.rank :=
    met.next (not_fails_oneType source target sourceNode targetNode output input types)
  split at refused
  next e joined =>
    cases refused
    obtain ⟨there, joins⟩ := find?_joins_eq_some joined
    exact ⟨_, .newConnection source target there joins, met⟩
  next => cases refused

/-- **The reason of a refusal** is that of the first condition that is not met. -/
theorem check_eq_error_iff (wf : g.WellFormed) {reason : Refusal} :
    g.check c = .error reason ↔ g.FirstFailing c reason := by
  refine ⟨firstFailing_of_check, fun first => ?_⟩
  cases verdict : g.check c with
  | error other => rw [first.unique wf (firstFailing_of_check verdict)]
  | ok ends =>
    obtain ⟨p, q, admissible, -⟩ := check_eq_ok_iff_admissible.mp verdict
    obtain ⟨condition, fails, -⟩ := first
    exact absurd fails (admissible.not_fails condition reason)

/-! ## Connecting -/

/-- The check answers as connecting does, with the ends of the edge that connecting adds. -/
theorem check_eq_map_connect (g : Graph) (c : Candidate) :
    g.check c = (g.connect c).map fun connected => connected.1.ends := by
  unfold connect
  cases g.check c with
  | error reason => rfl
  | ok ends => rfl

/-- Connecting succeeds exactly if the check does. -/
theorem exists_connect_iff :
    (∃ e h, g.connect c = .ok (e, h)) ↔ ∃ ends, g.check c = .ok ends := by
  rw [check_eq_map_connect]
  constructor
  · rintro ⟨e, h, connected⟩
    exact ⟨e.ends, by rw [connected]; rfl⟩
  · rintro ⟨ends, accepted⟩
    obtain ⟨⟨e, h⟩, connected, -⟩ := map_eq_ok.mp accepted
    exact ⟨e, h, connected⟩

/-- It is refused for the reason for which the check fails. -/
theorem connect_eq_error_iff {reason : Refusal} :
    g.connect c = .error reason ↔ g.check c = .error reason := by
  rw [check_eq_map_connect]
  cases g.connect c with
  | error other => simp only [Except.map, Except.error.injEq]
  | ok connected => simp only [Except.map, reduceCtorEq]

/-- **What connecting does, and what it answers.** It succeeds exactly if the candidate proposes a
new connection. Then the edge that it answers joins the proposed ends and is put behind the others,
and all else stays as it is. Otherwise the graph stays as it is, and the reason is that of the first
condition, in the order in which they are asked, that the candidate does not meet. The check gives
the same verdict and the same ends, and a candidate counts as valid exactly if connecting it
succeeds. -/
theorem connect_verdict (reached : g.Reachable) (c : Candidate) :
    ((∃ e h, g.connect c = .ok (e, h)) ↔ ∃ p q, g.Admissible c p q) ∧
    (∀ e h, g.connect c = .ok (e, h) →
      (∃ p q, g.Admissible c p q ∧ e.source = ⟨c.source, .output p⟩ ∧
        e.target = ⟨c.target, .input q⟩) ∧
      h.edges = g.edges ++ [e] ∧ h.nodes = g.nodes ∧ h.issued = g.issued ∧
      g.apply (.connect c) = (.connected (.ok e), h)) ∧
    (∀ reason, g.connect c = .error reason ↔
      ∃ condition, g.Fails c condition reason ∧
        ∀ other r, g.Fails c other r → condition.rank ≤ other.rank) ∧
    (∀ reason, g.connect c = .error reason →
      g.apply (.connect c) = (.connected (.error reason), g)) ∧
    (g.check c = (g.connect c).map fun connected => connected.1.ends) ∧
    (g.accepts c = true ↔ ∃ e h, g.connect c = .ok (e, h)) := by
  refine ⟨?_, ?_, ?_, ?_, check_eq_map_connect g c, ?_⟩
  · rw [exists_connect_iff]
    simp only [check_eq_ok_iff_admissible]
    exact ⟨fun ⟨_, p, q, admissible, _⟩ => ⟨p, q, admissible⟩,
      fun ⟨p, q, admissible⟩ => ⟨_, p, q, admissible, rfl⟩⟩
  · intro e h connected
    obtain ⟨accepted, -, rfl⟩ := connect_eq_ok_iff.mp connected
    obtain ⟨p, q, admissible, same⟩ := check_eq_ok_iff_admissible.mp accepted
    obtain ⟨source, target⟩ := Prod.mk.inj same
    refine ⟨⟨p, q, admissible, source, target⟩, rfl, rfl, rfl, ?_⟩
    simp only [apply, connected]
  · intro reason
    rw [connect_eq_error_iff, check_eq_error_iff reached.wellFormed]
    rfl
  · intro reason refused
    simp only [apply, refused]
  · rw [exists_connect_iff, accepts, Option.isSome_iff_exists]
    cases g.check c with
    | error reason => simp only [Except.toOption, reduceCtorEq, exists_false]
    | ok ends => simp only [Except.toOption, Option.some.injEq, Except.ok.injEq]

/-- A node with two inputs, one of them with a colon in its name, and an output. -/
def colonBody : NodeBody :=
  { kind := .fusion
    block := ⟨"texts.join", "1.0.0"⟩
    inputs := [{ name := "q", portType := "text" }, { name := "in:r", portType := "text" }]
    outputs := [{ name := "p", portType := "text" }] }

/-- Two such nodes and a connection. -/
def colonHistory : List Edit :=
  [.insert "a" colonBody, .insert "b" colonBody, .connect (.between "a" "p" "b" "q")]

/-- A connection that is made already is refused however it is written, under the id of its edge, and
the graph stays as it is. One to the port with a colon is new, if the handle has a word of its own.
Where both handles and the target node are wrong, the source handle is the reason. -/
theorem connect_verdict_colon :
    (empty.run colonHistory).connect ⟨"a", "any:p", "b", "q"⟩ =
        .error (.duplicate "e_a_out:p_b_in:q") ∧
      (empty.run colonHistory).apply (.connect ⟨"a", "any:p", "b", "q"⟩) =
        (.connected (.error (.duplicate "e_a_out:p_b_in:q")), empty.run colonHistory) ∧
      (∃ p q, (empty.run colonHistory).Admissible ⟨"a", "p", "b", "in:in:r"⟩ p q) ∧
      (empty.run colonHistory).connect ⟨"a", "in:p", "c", ""⟩ =
        .error (.malformedHandle "in:p") := by
  have reached : (empty.run colonHistory).Reachable := ⟨_, rfl⟩
  have duplicate : (empty.run colonHistory).connect ⟨"a", "any:p", "b", "q"⟩ =
      .error (.duplicate "e_a_out:p_b_in:q") := rfl
  refine ⟨duplicate, ?_, ?_, ?_⟩
  · exact (connect_verdict reached _).2.2.2.1 _ duplicate
  · exact (connect_verdict reached _).1.mp ⟨_, _, rfl⟩
  · have unread : ∀ p, ¬ Names .output "in:p" p := Handle.onSide?_eq_none_iff_names.mp rfl
    exact ((connect_verdict reached _).2.2.1 _).mpr
      ⟨.sourceHandle, .sourceHandle unread, fun _ _ _ => Nat.zero_le _⟩

end Graph

end BlockPipeline
