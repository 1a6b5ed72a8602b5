import BlockPipeline.Proofs.Graph.Connection

/-!
# What a verdict depends on

The check of a candidate asks two things. What the nodes say of it (`resolve`) depends on the
placements of its two nodes alone, and is either the two ends that the candidate names or a reason
against them. What the edges say is only whether one of them joins these ends already. So the
verdict is read off a resolution and the ends that are joined, whatever else the graph holds.

| Statement | In words |
| --- | --- |
| `check_eq` | the check is the resolution, and the test for a duplicate behind it |
| `resolve_congr` | graphs with the same placements of the two nodes resolve a candidate alike |
| `resolve_eq_ok_iff` | a candidate is resolved to the ends that it names, if they are joinable |
| `resolve_error_cases` | a candidate is not resolved for its text, a missing node, or two nodes that are there |
| `check_of_resolve` | a resolved candidate is accepted, or is the duplicate of an edge |
-/

set_option autoImplicit false

namespace BlockPipeline

namespace Refusal

/-- The connection is made already. -/
def isDuplicate : Refusal → Bool
  | .duplicate _ => true
  | _ => false

/-- The reason lies in the text of the candidate or in what is settled about its nodes, and not in
what may come or go. -/
def lasts : Refusal → Bool
  | .malformedHandle _ | .selfLoop _ | .sourcePortMissing _ _ | .targetPortMissing _ _
  | .portTypeMismatch _ _ => true
  | .sourceNodeMissing _ | .targetNodeMissing _ | .duplicate _ => false

theorem isDuplicate_of_lasts {reason : Refusal} (lasts : reason.lasts = true) :
    reason.isDuplicate = false := by
  cases reason with
  | duplicate _ => cases lasts
  | _ => rfl

end Refusal

/-- The ends that a candidate names; none if one of its handles cannot be read on its side. -/
def Candidate.ends? (c : Candidate) : Option (Endpoint × Endpoint) :=
  (Handle.onSide? .output c.sourceHandle).bind fun source =>
    (Handle.onSide? .input c.targetHandle).map fun target =>
      (⟨c.source, source⟩, ⟨c.target, target⟩)

theorem Candidate.ends?_eq_some_iff {c : Candidate} {ends : Endpoint × Endpoint} :
    c.ends? = some ends ↔
      Handle.onSide? .output c.sourceHandle = some ends.1.handle ∧
      Handle.onSide? .input c.targetHandle = some ends.2.handle ∧
      c.source = ends.1.node ∧ c.target = ends.2.node := by
  obtain ⟨⟨source, sourceHandle⟩, ⟨target, targetHandle⟩⟩ := ends
  simp only [ends?, Option.bind_eq_some_iff, Option.map_eq_some_iff, Prod.mk.injEq,
    Endpoint.mk.injEq]
  constructor
  · rintro ⟨_, hs, _, ht, ⟨rfl, rfl⟩, rfl, rfl⟩
    exact ⟨hs, ht, rfl, rfl⟩
  · rintro ⟨hs, ht, rfl, rfl⟩
    exact ⟨_, hs, _, ht, ⟨rfl, rfl⟩, rfl, rfl⟩

namespace Graph

variable {g h : Graph} {c : Candidate}

/-! ## Two questions -/

/-- **What the nodes say of a candidate**: the check as it would be if there were no edges. -/
def resolve (g : Graph) (c : Candidate) : Except Refusal (Endpoint × Endpoint) :=
  check { g with edges := [] } c

/-- What the edges say of two ends. -/
def unlessJoined (g : Graph) (ends : Endpoint × Endpoint) : Except Refusal (Endpoint × Endpoint) :=
  match g.edges.find? (·.joins ends.1 ends.2) with
  | some e => .error (.duplicate e.id)
  | none => .ok ends

/-- **The check asks the nodes first, and then the edges.** -/
theorem check_eq (g : Graph) (c : Candidate) : g.check c = g.resolve c >>= g.unlessJoined := by
  simp only [resolve, check, bind_assoc, throwIf_bind, List.find?_nil, pure_bind]
  rfl

/-- A candidate that the nodes refuse is refused for their reason. -/
theorem check_of_resolve_error {reason : Refusal} (declined : g.resolve c = .error reason) :
    g.check c = .error reason := by
  rw [check_eq, declined]
  rfl

/-! ## What the edges say -/

theorem find?_joins_eq_some {edges : List Edge} {source target : Endpoint} {e : Edge}
    (found : edges.find? (·.joins source target) = some e) :
    e ∈ edges ∧ e.ends = (source, target) := by
  have joins := List.find?_some found
  simp only [Edge.joins, Bool.and_eq_true, beq_iff_eq] at joins
  exact ⟨List.mem_of_find?_eq_some found, Prod.ext joins.1 joins.2⟩

/-- Ends that no edge joins stay as they are. -/
theorem unlessJoined_of_new {ends : Endpoint × Endpoint} (new : ends ∉ g.edges.map Edge.ends) :
    g.unlessJoined ends = .ok ends := by
  unfold unlessJoined
  rw [find?_joins_eq_none_iff.mpr new]

/-- Ends that an edge joins are refused under the id of such an edge. -/
theorem unlessJoined_of_joined {ends : Endpoint × Endpoint}
    (joined : ends ∈ g.edges.map Edge.ends) :
    ∃ e ∈ g.edges, e.ends = ends ∧ g.unlessJoined ends = .error (.duplicate e.id) := by
  cases found : g.edges.find? (·.joins ends.1 ends.2) with
  | none => exact absurd joined (find?_joins_eq_none_iff.mp found)
  | some e =>
    obtain ⟨mem, same⟩ := find?_joins_eq_some found
    refine ⟨e, mem, same, ?_⟩
    unfold unlessJoined
    rw [found]

/-- **The verdict on a resolved candidate**: it is accepted if no edge joins its ends, and is else
the duplicate of an edge that does. -/
theorem check_of_resolve {ends : Endpoint × Endpoint} (resolved : g.resolve c = .ok ends) :
    (ends ∉ g.edges.map Edge.ends ∧ g.check c = .ok ends) ∨
      ∃ e ∈ g.edges, e.ends = ends ∧ g.check c = .error (.duplicate e.id) := by
  have verdict : g.check c = g.unlessJoined ends := by
    rw [check_eq, resolved]
    rfl
  rw [verdict]
  by_cases joined : ends ∈ g.edges.map Edge.ends
  · exact .inr (unlessJoined_of_joined joined)
  · exact .inl ⟨joined, unlessJoined_of_new joined⟩

/-! ## What the nodes say -/

/-- **A candidate is resolved** exactly to the ends that it names, if they are joinable. -/
theorem resolve_eq_ok_iff {ends : Endpoint × Endpoint} :
    g.resolve c = .ok ends ↔ c.ends? = some ends ∧ g.Joinable ends.1 ends.2 := by
  have nodes : Joinable { g with edges := [] } ends.1 ends.2 ↔ g.Joinable ends.1 ends.2 :=
    ⟨fun joinable => joinable.congr rfl, fun joinable => joinable.congr rfl⟩
  rw [resolve, check_eq_ok_iff, nodes, Candidate.ends?_eq_some_iff]
  simp only [List.map_nil, List.not_mem_nil, not_false_eq_true, and_true, and_assoc]

/-- Under one placement a graph has no node, or a node that is settled as in the other graph. -/
theorem node?_cases {id : String} (same : g.placement? id = h.placement? id) :
    (g.node? id = none ∧ h.node? id = none) ∨
      ∃ n m, g.node? id = some n ∧ h.node? id = some m ∧ n.placement = m.placement := by
  unfold placement? at same
  cases there : g.node? id with
  | none =>
    rw [there, Option.map_none, eq_comm, Option.map_eq_none_iff] at same
    exact .inl ⟨rfl, same⟩
  | some n =>
    rw [there, Option.map_some, eq_comm, Option.map_eq_some_iff] at same
    obtain ⟨m, found, settled⟩ := same
    exact .inr ⟨n, m, rfl, found, settled.symm⟩

/-- **Resolution depends on the placements of the two nodes alone.** -/
theorem resolve_congr (source : g.placement? c.source = h.placement? c.source)
    (target : g.placement? c.target = h.placement? c.target) : g.resolve c = h.resolve c := by
  have bare : ∀ (g : Graph) id, node? { g with edges := [] } id = g.node? id := fun _ _ => rfl
  simp only [resolve, check, bare]
  rcases node?_cases source with ⟨hg, hh⟩ | ⟨n, n', hg, hh, hn⟩
  · rw [hg, hh]
    rfl
  · rw [hg, hh]
    rcases node?_cases target with ⟨hg, hh⟩ | ⟨m, m', hg, hh, hm⟩
    · rw [hg, hh]
      rfl
    · rw [hg, hh]
      obtain ⟨sourceId, -, -, -, outputs⟩ := Node.placement_eq_iff.mp hn
      obtain ⟨targetId, -, -, inputs, -⟩ := Node.placement_eq_iff.mp hm
      simp only [orRefuse, ok_bind, sourceId, targetId, Node.output?, Node.input?, outputs, inputs,
        List.find?_nil]

/-- A candidate that names no ends is treated alike by all graphs. -/
theorem resolve_congr_of_unread (unread : c.ends? = none) : g.resolve c = h.resolve c := by
  simp only [resolve, check, handleOn]
  cases source : Handle.onSide? .output c.sourceHandle with
  | none => rfl
  | some _ =>
    cases target : Handle.onSide? .input c.targetHandle with
    | none => rfl
    | some _ => simp [Candidate.ends?, source, target] at unread

/-- **What the nodes refuse a candidate for**: a handle that cannot be read, a node that is missing,
or what is settled about two nodes that are there. -/
theorem resolve_error_cases {reason : Refusal} (declined : g.resolve c = .error reason) :
    (reason.lasts = true ∧ c.ends? = none) ∨
    (reason = .sourceNodeMissing c.source ∨ reason = .targetNodeMissing c.target) ∨
    (reason.lasts = true ∧ ∃ p q, g.placement? c.source = some p ∧
      g.placement? c.target = some q) := by
  have there : ∀ {id n}, node? { g with edges := [] } id = some n →
      g.placement? id = some n.placement := fun found =>
    placement?_eq_some.mpr ⟨_, found, rfl⟩
  simp only [resolve, check, List.find?_nil, bind_eq_error, throwIf_eq_error, handleOn_eq_error,
    orRefuse_eq_error, handleOn_eq_ok, orRefuse_eq_ok] at declined
  -- one case for each reason, in the order of the check
  rcases declined with ⟨unread, rfl⟩ | ⟨sh, read, ⟨unread, rfl⟩ | ⟨th, -, ⟨-, rfl⟩ |
    ⟨n, source, ⟨-, rfl⟩ | ⟨m, target, ⟨-, rfl⟩ | ⟨-, ⟨-, rfl⟩ | ⟨a, -, ⟨-, rfl⟩ |
    ⟨b, -, ⟨-, rfl⟩ | ⟨-, accepted⟩⟩⟩⟩⟩⟩⟩⟩
  · exact .inl ⟨rfl, by simp only [Candidate.ends?, unread, Option.bind_none]⟩
  · exact .inl ⟨rfl, by simp only [Candidate.ends?, read, unread, Option.bind_some,
      Option.map_none]⟩
  · exact .inr (.inl (.inl rfl))
  · exact .inr (.inl (.inr rfl))
  · exact .inr (.inr ⟨rfl, _, _, there source, there target⟩)
  · exact .inr (.inr ⟨rfl, _, _, there source, there target⟩)
  · exact .inr (.inr ⟨rfl, _, _, there source, there target⟩)
  · exact .inr (.inr ⟨rfl, _, _, there source, there target⟩)
  · cases accepted

/-- The nodes never refuse a candidate as a duplicate. -/
theorem isDuplicate_of_resolve {reason : Refusal} (declined : g.resolve c = .error reason) :
    reason.isDuplicate = false := by
  rcases resolve_error_cases declined with ⟨lasts, -⟩ | (rfl | rfl) | ⟨lasts, -⟩
  · exact Refusal.isDuplicate_of_lasts lasts
  · rfl
  · rfl
  · exact Refusal.isDuplicate_of_lasts lasts

/-! ## From a verdict back -/

/-- The nodes refuse a candidate exactly if it is refused, and not as a duplicate. -/
theorem resolve_eq_error_iff {reason : Refusal} :
    g.resolve c = .error reason ↔ g.check c = .error reason ∧ reason.isDuplicate = false := by
  constructor
  · intro declined
    exact ⟨check_of_resolve_error declined, isDuplicate_of_resolve declined⟩
  · rintro ⟨refused, other⟩
    cases resolution : g.resolve c with
    | error _ => rw [← check_of_resolve_error resolution, refused]
    | ok ends =>
      rcases check_of_resolve resolution with ⟨-, accepted⟩ | ⟨e, -, -, duplicate⟩
      · rw [accepted] at refused
        cases refused
      · rw [duplicate] at refused
        cases refused
        cases other

/-- The nodes resolve a candidate exactly if it is accepted or a duplicate. -/
theorem exists_resolve_iff :
    (∃ ends, g.resolve c = .ok ends) ↔
      (∃ ends, g.check c = .ok ends) ∨ ∃ id, g.check c = .error (.duplicate id) := by
  constructor
  · rintro ⟨ends, resolved⟩
    rcases check_of_resolve resolved with ⟨-, accepted⟩ | ⟨e, -, -, duplicate⟩
    · exact .inl ⟨ends, accepted⟩
    · exact .inr ⟨e.id, duplicate⟩
  · intro verdict
    cases resolution : g.resolve c with
    | ok ends => exact ⟨ends, rfl⟩
    | error reason =>
      obtain ⟨refused, other⟩ := resolve_eq_error_iff.mp resolution
      rw [refused] at verdict
      rcases verdict with ⟨_, ⟨⟩⟩ | ⟨_, ⟨⟩⟩
      cases other

end Graph

end BlockPipeline
