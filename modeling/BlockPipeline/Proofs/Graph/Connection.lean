import BlockPipeline.Proofs.Fallible
import BlockPipeline.Proofs.Graph.Lookup
import BlockPipeline.Proofs.Handle
import Mathlib.Data.List.Perm.Subperm

/-!
# What becomes an edge

An edge is sound where it joins a named output of one placed node to a named input of another,
both of one type (`Joinable`). This depends on the placements of its two nodes alone, so it
outlives every change that keeps these.

| Statement | In words |
| --- | --- |
| `Graph.check_eq_ok_iff` | the check accepts a candidate exactly if its handles and nodes give the two ends, they are joinable, and no edge joins them yet |
| `Graph.check_ofEdge` | an edge that is proposed anew is accepted where no edge joins its ends |
| `Graph.freeEdgeId_not_mem` | a new edge gets an id that no edge has |
| `Graph.connect_eq_ok_iff` | connecting appends the edge between the checked ends |

That some id is free is a count: the ids that are tried differ from one another, since their
numbers do, and there is one more of them than there are edges.
-/

set_option autoImplicit false

namespace BlockPipeline

/-- The two ends of an edge. -/
def Edge.ends (e : Edge) : Endpoint × Endpoint := (e.source, e.target)

namespace Graph

/-- **Two ends that an edge may join**: an output of one node and an input of another, under
their names and of one type. -/
structure Joinable (g : Graph) (source target : Endpoint) : Prop where
  sourceSide : source.handle.side = some .output
  targetSide : target.handle.side = some .input
  sourceNamed : source.handle.port ≠ ""
  targetNamed : target.handle.port ≠ ""
  apart : source.node ≠ target.node
  /-- The first output and the first input of these names are there, and their types agree. -/
  typed : ∃ p q a b, g.placement? source.node = some p ∧ g.placement? target.node = some q ∧
    Port.find? p.outputs source.handle.port = some a ∧
    Port.find? q.inputs target.handle.port = some b ∧ a.portType = b.portType

/-- Joinable ends stay joinable where their nodes keep their placements. -/
theorem Joinable.mono {g h : Graph} {source target : Endpoint} (joinable : g.Joinable source target)
    (hs : ∀ p, g.placement? source.node = some p → h.placement? source.node = some p)
    (ht : ∀ p, g.placement? target.node = some p → h.placement? target.node = some p) :
    h.Joinable source target := by
  obtain ⟨p, q, a, b, hp, hq, ha, hb, htype⟩ := joinable.typed
  exact { joinable with typed := ⟨p, q, a, b, hs p hp, ht q hq, ha, hb, htype⟩ }

/-- Joinable ends are joinable in every graph with the same placements. -/
theorem Joinable.congr {g h : Graph} {source target : Endpoint}
    (joinable : g.Joinable source target)
    (same : h.nodes.map Node.placement = g.nodes.map Node.placement) : h.Joinable source target :=
  joinable.mono (fun _ hp => (placement?_congr same _).trans hp) fun _ hp =>
    (placement?_congr same _).trans hp

/-! ## The check -/

theorem handleOn_eq_ok {side : Side} {text : String} {h : Handle} :
    handleOn side text = .ok h ↔ Handle.onSide? side text = some h := by
  unfold handleOn
  cases Handle.onSide? side text with
  | none => simp only [reduceCtorEq]
  | some _ => simp only [Except.ok.injEq, Option.some.injEq]

theorem orRefuse_eq_ok {α : Type} {value : Option α} {reason : Refusal} {a : α} :
    orRefuse value reason = .ok a ↔ value = some a := by
  cases value with
  | none => simp only [orRefuse, reduceCtorEq]
  | some _ => simp only [orRefuse, Except.ok.injEq, Option.some.injEq]

theorem handleOn_eq_error {side : Side} {text : String} {reason : Refusal} :
    handleOn side text = .error reason ↔
      Handle.onSide? side text = none ∧ .malformedHandle text = reason := by
  unfold handleOn
  cases Handle.onSide? side text with
  | none => simp only [Except.error.injEq, true_and]
  | some _ => simp only [reduceCtorEq, false_and]

theorem orRefuse_eq_error {α : Type} {value : Option α} {reason given : Refusal} :
    orRefuse value given = .error reason ↔ value = none ∧ given = reason := by
  cases value with
  | none => simp only [orRefuse, Except.error.injEq, true_and]
  | some _ => simp only [orRefuse, reduceCtorEq, false_and]

/-- No edge joins two ends exactly if they are the ends of no edge. -/
theorem find?_joins_eq_none_iff {edges : List Edge} {source target : Endpoint} :
    edges.find? (·.joins source target) = none ↔ (source, target) ∉ edges.map Edge.ends := by
  simp only [List.find?_eq_none, Edge.joins, Bool.and_eq_true, beq_iff_eq, List.mem_map,
    Edge.ends, Prod.mk.injEq, not_exists, not_and]

/-- **What the check accepts**: a candidate whose handles are read as the handles of the two ends
and whose nodes are theirs, where the ends are joinable and no edge joins them yet. -/
theorem check_eq_ok_iff {g : Graph} {c : Candidate} {source target : Endpoint} :
    g.check c = .ok (source, target) ↔
      Handle.onSide? .output c.sourceHandle = some source.handle ∧
      Handle.onSide? .input c.targetHandle = some target.handle ∧
      c.source = source.node ∧ c.target = target.node ∧
      g.Joinable source target ∧ (source, target) ∉ g.edges.map Edge.ends := by
  unfold check
  simp only [bind_eq_ok, handleOn_eq_ok, orRefuse_eq_ok, throwIf_eq_ok]
  constructor
  · rintro ⟨sh, hsh, th, hth, n, hn, m, hm, hne, a, ha, b, hb, htype, heq⟩
    split at heq
    · cases heq
    · next hnew =>
      cases heq
      have hnew := find?_joins_eq_none_iff.mp hnew
      obtain ⟨-, hnid⟩ := node?_eq_some hn
      obtain ⟨-, hmid⟩ := node?_eq_some hm
      obtain ⟨hsside, hsname⟩ := Handle.onSide?_some hsh
      obtain ⟨htside, htname⟩ := Handle.onSide?_some hth
      have types : a.portType = b.portType := by simpa [Port.compatible] using htype
      refine ⟨hsh, hth, hnid.symm, hmid.symm, ?_, hnew⟩
      refine ⟨hsside, htside, hsname, htname, hne, n.placement, m.placement, a, b, ?_, ?_, ha, hb,
        types⟩
      · exact placement?_eq_some.mpr ⟨n, hnid ▸ hn, rfl⟩
      · exact placement?_eq_some.mpr ⟨m, hmid ▸ hm, rfl⟩
  · rintro ⟨hsh, hth, hs, ht, joinable, hnew⟩
    obtain ⟨p, q, a, b, hp, hq, ha, hb, types⟩ := joinable.typed
    obtain ⟨n, hn, rfl⟩ := placement?_eq_some.mp hp
    obtain ⟨m, hm, rfl⟩ := placement?_eq_some.mp hq
    obtain ⟨-, hnid⟩ := node?_eq_some hn
    obtain ⟨-, hmid⟩ := node?_eq_some hm
    refine ⟨_, hsh, _, hth, n, hs ▸ hn, m, ht ▸ hm, ?_, a, ha, b, hb, ?_, ?_⟩
    · rw [hnid, hmid]
      exact joinable.apart
    · simp [Port.compatible, types]
    · rw [hnid, hmid, find?_joins_eq_none_iff.mpr hnew]
      rfl

/-- **An edge that is proposed anew is accepted**, where its ends are joinable and no edge joins them:
both handles are read back as they were. -/
theorem check_ofEdge {g : Graph} {e : Edge} (joinable : g.Joinable e.source e.target)
    (new : e.ends ∉ g.edges.map Edge.ends) : g.check (.ofEdge e) = .ok e.ends :=
  check_eq_ok_iff.mpr
    ⟨Handle.onSide?_text joinable.sourceSide joinable.sourceNamed,
      Handle.onSide?_text joinable.targetSide joinable.targetNamed, rfl, rfl, joinable, new⟩

/-! ## The id of a new edge -/

/-- The ids that are tried differ from one another. -/
theorem edgeIdCandidates_nodup (base : String) (count : Nat) :
    (edgeIdCandidates base count).Nodup := by
  refine List.nodup_cons.mpr ⟨?_, (List.nodup_range' 1).map fun k l same => ?_⟩
  · -- an id with a number is longer than the base
    intro mem
    obtain ⟨k, -, hk⟩ := List.mem_map.mp mem
    have length := congrArg String.length hk
    simp only [String.length_append] at length
    have : "_".length = 1 := rfl
    omega
  · have digits : k.repr.toList = l.repr.toList :=
      congrArg String.toList ((String.append_right_inj _).mp same)
    rw [Nat.toList_repr, Nat.toList_repr] at digits
    simpa only [Nat.ofDigitChars_ten_toDigits] using congrArg (Nat.ofDigitChars 10 · 0) digits

/-- A text is free exactly if it is the id of no edge. -/
theorem isNone_edge?_iff {g : Graph} {id : String} : (g.edge? id).isNone = true ↔ id ∉ g.edgeIds := by
  simp only [edge?, Option.isNone_iff_eq_none, List.find?_eq_none, beq_iff_eq, edgeIds,
    List.mem_map, not_exists, not_and]

/-- **The id of a new edge is the first candidate that is free.** One of them is, because they are
more than the edges; so the base that stands in for none is never taken. -/
theorem find?_edgeIdCandidates (g : Graph) (base : String) :
    (edgeIdCandidates base g.edges.length).find? (fun id => (g.edge? id).isNone) =
      some (g.freeEdgeId base) := by
  unfold freeEdgeId
  cases found : (edgeIdCandidates base g.edges.length).find? fun id => (g.edge? id).isNone with
  | some id => rfl
  | none =>
    -- the candidates would all be ids of edges, and they are too many for that
    have taken : edgeIdCandidates base g.edges.length ⊆ g.edgeIds := fun id mem =>
      Decidable.byContradiction fun free =>
        List.find?_eq_none.mp found id mem (isNone_edge?_iff.mpr free)
    have bound := ((edgeIdCandidates_nodup base g.edges.length).subperm taken).length_le
    simp only [edgeIdCandidates, List.length_cons, List.length_map, List.length_range', edgeIds]
      at bound
    omega

/-- **The id of a new edge is free.** -/
theorem freeEdgeId_not_mem (g : Graph) (base : String) : g.freeEdgeId base ∉ g.edgeIds :=
  isNone_edge?_iff.mp (List.find?_some (p := fun id => (g.edge? id).isNone)
    (find?_edgeIdCandidates g base))

/-- **Connecting appends the edge between the checked ends**, under a free id. -/
theorem connect_eq_ok_iff {g h : Graph} {c : Candidate} {e : Edge} :
    g.connect c = .ok (e, h) ↔
      g.check c = .ok e.ends ∧ e.id = g.freeEdgeId (baseEdgeId e.source e.target) ∧
        h = { g with edges := g.edges ++ [e] } := by
  unfold connect
  simp only [bind_eq_ok]
  constructor
  · rintro ⟨⟨source, target⟩, hcheck, heq⟩
    cases heq
    exact ⟨hcheck, rfl, rfl⟩
  · rintro ⟨hcheck, hid, rfl⟩
    refine ⟨_, hcheck, ?_⟩
    simp only [Edge.ends, ← hid]
    rfl

end Graph

end BlockPipeline
