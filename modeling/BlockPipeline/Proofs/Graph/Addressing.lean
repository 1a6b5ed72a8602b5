import BlockPipeline.Proofs.Graph.Refusal

/-!
# What handles and candidates address

A handle that is accepted on a side has a text of its own, and this text addresses the same port on
the same side wherever it is read, and nothing on the other side. It need not be the text that was
accepted: a bare name gets the word of its side, and a word that names no side is dropped. Only the
first colon of a text counts, so a name that begins with a word and a colon, or holds further ones,
comes back as it was.

So a candidate that is made of the names of two ports addresses these two and no others. What the
verdict on it says, whether it is accepted or refused, and for whatever reason, is said of them
(`Refusal.SpeaksOf`).

| Statement | In words | From |
| --- | --- | --- |
| `ends?_between` | the candidate between two ports names them | `Handle.onSide?_text` |
| `speaksOf_of_check` | a refusal speaks of the ends that a candidate names | `firstFailing_of_check` |
| `check_eq_ok_iff_of_ends?` | and it is accepted as the connection of these ends | `check_eq_ok_iff` |
| `handles_address_their_ports` | handles and candidates address the ports from which they are made | the above, `Handle.onSide?_opposite_text` |
-/

set_option autoImplicit false

namespace BlockPipeline

/-- **A refusal speaks of two ends** in a graph: of their nodes, of the ports of their names, or of an
edge that joins them. That a handle could not be read says nothing about any port. -/
def Refusal.SpeaksOf (g : Graph) (source target : Endpoint) : Refusal → Prop
  | .malformedHandle _ => False
  | .sourceNodeMissing node => node = source.node
  | .targetNodeMissing node => node = target.node
  | .selfLoop node => node = source.node ∧ node = target.node
  | .sourcePortMissing node port => node = source.node ∧ port = source.handle.port
  | .targetPortMissing node port => node = target.node ∧ port = target.handle.port
  | .portTypeMismatch sourceType targetType =>
    (∃ n a, g.node? source.node = some n ∧ n.output? source.handle.port = some a ∧
      a.portType = sourceType) ∧
    ∃ m b, g.node? target.node = some m ∧ m.input? target.handle.port = some b ∧
      b.portType = targetType
  | .duplicate id => ∃ e ∈ g.edges, e.id = id ∧ e.ends = (source, target)

/-- The candidate between two ports names them. -/
theorem Candidate.ends?_between (source target : String) {p q : String} (hp : p ≠ "") (hq : q ≠ "") :
    (Candidate.between source p target q).ends? =
      some (⟨source, .output p⟩, ⟨target, .input q⟩) :=
  Candidate.ends?_eq_some_iff.mpr
    ⟨Handle.onSide?_text rfl hp, Handle.onSide?_text rfl hq, rfl, rfl⟩

namespace Graph

variable {g : Graph} {c : Candidate} {source target : Endpoint}

/-- **A refusal speaks of the ends that a candidate names.** -/
theorem speaksOf_of_check (named : c.ends? = some (source, target)) {reason : Refusal}
    (refused : g.check c = .error reason) : reason.SpeaksOf g source target := by
  obtain ⟨sourceNode, sourceHandle⟩ := source
  obtain ⟨targetNode, targetHandle⟩ := target
  obtain ⟨readSource, readTarget, rfl, rfl⟩ := Candidate.ends?_eq_some_iff.mp named
  obtain ⟨p, namesSource, rfl⟩ := Handle.onSide?_eq_some_iff_names.mp readSource
  obtain ⟨q, namesTarget, rfl⟩ := Handle.onSide?_eq_some_iff_names.mp readTarget
  obtain ⟨condition, fails, -⟩ := firstFailing_of_check refused
  cases fails with
  | sourceHandle unread => exact unread p namesSource
  | targetHandle unread => exact unread q namesTarget
  | sourceNode missing => rfl
  | targetNode missing => rfl
  | twoNodes same => exact ⟨rfl, same⟩
  | sourcePort source found missing => exact ⟨rfl, source.unique namesSource⟩
  | targetPort target found missing => exact ⟨rfl, target.unique namesTarget⟩
  | oneType source target foundSource foundTarget output input differ =>
    cases source.unique namesSource
    cases target.unique namesTarget
    exact ⟨⟨_, _, foundSource, output, rfl⟩, ⟨_, _, foundTarget, input, rfl⟩⟩
  | newConnection source target there joins =>
    cases source.unique namesSource
    cases target.unique namesTarget
    exact ⟨_, there, rfl, joins⟩

/-- **A candidate is accepted as the connection of the ends that it names**, where these are joinable
and no edge joins them. -/
theorem check_eq_ok_iff_of_ends? (named : c.ends? = some (source, target))
    {ends : Endpoint × Endpoint} :
    g.check c = .ok ends ↔
      ends = (source, target) ∧ g.Joinable source target ∧
        ∀ e ∈ g.edges, e.ends ≠ (source, target) := by
  have joined : (source, target) ∉ g.edges.map Edge.ends ↔
      ∀ e ∈ g.edges, e.ends ≠ (source, target) := by
    simp only [List.mem_map, not_exists, not_and, ne_eq]
  rw [← joined]
  constructor
  · intro accepted
    obtain ⟨readSource, readTarget, fromSource, toTarget, joinable, new⟩ :=
      check_eq_ok_iff.mp accepted
    have same : c.ends? = some ends :=
      Candidate.ends?_eq_some_iff.mpr ⟨readSource, readTarget, fromSource, toTarget⟩
    obtain rfl : ends = (source, target) := Option.some.inj (same.symm.trans named)
    exact ⟨rfl, joinable, new⟩
  · rintro ⟨rfl, joinable, new⟩
    obtain ⟨readSource, readTarget, fromSource, toTarget⟩ :=
      Candidate.ends?_eq_some_iff.mp named
    exact check_eq_ok_iff.mpr ⟨readSource, readTarget, fromSource, toTarget, joinable, new⟩

/-- **Handles address their ports.** A handle that is accepted on a side has this side and names a
port; its text is accepted there as this handle, and refused on the other side. A handle that is made
of a side and the name of a port, whatever the name holds, is read back from its text. And a candidate
between two ports addresses these: in every graph it is accepted exactly as the connection of the one,
as an output, to the other, as an input, and becomes an edge that joins them; and if it is refused,
then the reason speaks of these two ends. -/
theorem handles_address_their_ports :
    (∀ side text h, handleOn side text = .ok h →
      h.side = some side ∧ h.port ≠ "" ∧ handleOn side h.text = .ok h ∧
        handleOn side.opposite h.text = .error (.malformedHandle h.text)) ∧
    (∀ port, port ≠ "" →
      Handle.ofText? (Handle.input port).text = some (.input port) ∧
        Handle.ofText? (Handle.output port).text = some (.output port)) ∧
    ∀ source p target q, p ≠ "" → q ≠ "" → ∀ g : Graph,
      let c := Candidate.between source p target q
      let output : Endpoint := ⟨source, .output p⟩
      let input : Endpoint := ⟨target, .input q⟩
      (∀ ends, g.check c = .ok ends ↔ ends = (output, input) ∧ g.Joinable output input ∧
        ∀ e ∈ g.edges, e.ends ≠ (output, input)) ∧
      (∀ e h, g.connect c = .ok (e, h) → e.source = output ∧ e.target = input) ∧
      ∀ reason, g.check c = .error reason → reason.SpeaksOf g output input := by
  refine ⟨fun side text h accepted => ?_, fun port named => ?_, ?_⟩
  · obtain ⟨hside, named⟩ := Handle.onSide?_some (handleOn_eq_ok.mp accepted)
    exact ⟨hside, named, handleOn_eq_ok.mpr (Handle.onSide?_text hside named),
      handleOn_eq_error.mpr ⟨Handle.onSide?_opposite_text hside named, rfl⟩⟩
  · exact ⟨Handle.ofText?_text_on .input named, Handle.ofText?_text_on .output named⟩
  · intro source p target q hp hq g
    have named := Candidate.ends?_between source target hp hq
    refine ⟨fun ends => check_eq_ok_iff_of_ends? named, fun e h connected => ?_,
      fun reason => speaksOf_of_check named⟩
    obtain ⟨accepted, -, -⟩ := connect_eq_ok_iff.mp connected
    have same : e.ends = _ := ((check_eq_ok_iff_of_ends? named).mp accepted).1
    exact Prod.mk.inj same

/-- A node whose ports have names that look like handles, or begin with a colon. -/
def disguisedBody : NodeBody :=
  { kind := .fusion
    block := ⟨"texts.disguised", "1.0.0"⟩
    inputs := [{ name := "out:p", portType := "text" }, { name := ":", portType := "text" }]
    outputs := [{ name := "in:q", portType := "text" }] }

/-- Two such nodes. -/
def disguisedHistory : List Edit := [.insert "a" disguisedBody, .insert "b" disguisedBody]

/-- A word that names no side is dropped, and what is left is the name of an output, though it looks
like an input. The candidates between these ports become edges, or speak of them. -/
theorem handles_address_their_ports_disguised :
    handleOn .output "any:in:q" = .ok (.output "in:q") ∧
    handleOn .output "out:in:q" = .ok (.output "in:q") ∧
    handleOn .input "out:in:q" = .error (.malformedHandle "out:in:q") ∧
    Handle.ofText? "in::" = some (.input ":") ∧
    (∃ e h, (empty.run disguisedHistory).connect (.between "a" "in:q" "b" ":") = .ok (e, h) ∧
      e.source = ⟨"a", .output "in:q"⟩ ∧ e.target = ⟨"b", .input ":"⟩) ∧
    ∃ reason, (empty.run disguisedHistory).check (.between "a" "q" "b" "out:p") = .error reason ∧
      reason.SpeaksOf (empty.run disguisedHistory) ⟨"a", .output "q"⟩ ⟨"b", .input "out:p"⟩ := by
  obtain ⟨accepted, readBack, candidates⟩ := handles_address_their_ports
  have dropped : handleOn .output "any:in:q" = .ok (.output "in:q") := by decide
  obtain ⟨-, -, again, turned⟩ := accepted .output "any:in:q" _ dropped
  have connected : (empty.run disguisedHistory).connect (.between "a" "in:q" "b" ":") =
      .ok (⟨"e_a_out:in:q_b_in::", ⟨"a", .output "in:q"⟩, ⟨"b", .input ":"⟩⟩, _) :=
    connect_eq_ok_iff.mpr ⟨by decide, by decide, rfl⟩
  have refused : (empty.run disguisedHistory).check (.between "a" "q" "b" "out:p") =
      .error (.sourcePortMissing "a" "q") := by decide
  refine ⟨dropped, again, turned, (readBack ":" (by decide)).1, ⟨_, _, connected, ?_⟩,
    ⟨_, refused, ?_⟩⟩
  · exact (candidates "a" "in:q" "b" ":" (by decide) (by decide) _).2.1 _ _ connected
  · exact (candidates "a" "q" "b" "out:p" (by decide) (by decide) _).2.2 _ refused

end Graph

end BlockPipeline
