import BlockPipeline.Proofs.Diagnose.Locks
import BlockPipeline.Proofs.Graph.Search

/-!
# What placing a template comes to

A template that is placed becomes one further node, and a diagnosis against the same snapshot shows
that node and nothing else anew. Each finding about a node names it (`Finding.node?`), and the new id
was never given, so what was found about the other nodes cannot be taken for a finding about the new
one. What is found about them is read off their own records and the edges, and the cycle off the
edges; both are as they were. Only the block of the new node may be deprecated, and is then named with
the deprecated ones.

| Statement | In words | From |
| --- | --- | --- |
| `Palette.find?_eq_some_of_first` | of several templates with one key the first one stands | |
| `apply_place` | it becomes a node under an id that is drawn | `exists_freshId?` |
| `diagnose_push` | what a further node adds to each pass | `WellFormed.findCycle?_push` |
| `filter_diagnose_push` | what is neither about the node nor about deprecated blocks is found as before | `diagnose_push`, `pass_of_mem_lockFindings` |
| `place_effect` | all of it, for every palette and every reachable graph | these |
-/

set_option autoImplicit false

namespace BlockPipeline

/-! ## The node that a finding names -/

/-- The node that a finding is about; none where it is about a block or a cycle. -/
def Finding.node? : Finding → Option String
  | .unlocked node _ => some node
  | .versionDrift node _ _ => some node
  | .unknownConfigKey node _ => some node
  | .configTypeMismatch node _ _ => some node
  | .fanIn node _ _ => some node
  | .unconnectedInput node _ => some node
  | .deprecated .. => none
  | .cycle _ => none

/-- A finding names no node exactly if it is about a block or a cycle. -/
theorem Finding.node?_eq_none_iff {f : Finding} :
    f.node? = none ↔ f.pass = .deprecation ∨ f.pass = .cycle := by
  cases f <;> simp [Finding.node?, Finding.pass]

theorem node?_of_mem_lockFindings {r : Registry} {n : Node} {f : Finding}
    (mem : f ∈ lockFindings r n) : f.node? = some n.id := by
  rcases mem_lockFindings.mp mem with ⟨-, rfl⟩ | ⟨b, -, ⟨-, rfl⟩ | mem⟩
  · rfl
  · rfl
  · rcases of_mem_configFindings mem with ⟨key, rfl⟩ | ⟨key, expected, rfl⟩ <;> rfl

theorem node?_of_mem_wiringFindings {g : Graph} {n : Node} {f : Finding}
    (mem : f ∈ wiringFindings g n) : f.node? = some n.id := by
  rcases of_mem_wiringFindings mem with ⟨port, rfl⟩ | ⟨port, sources, rfl⟩ <;> rfl

/-! ## The findings with a further node -/

section Push

variable {g : Graph} {n : Node}

/-- **What a further node adds**: what is found about it, pass by pass, behind what is found about
the others, and it may add to the deprecated blocks. -/
theorem diagnose_push (wf : g.WellFormed) (fresh : n.id ∉ g.issued) (r : Registry) :
    diagnose (g.push n) r =
      Pass.registry.findings g r ++ lockFindings r n ++
        Pass.deprecation.findings (g.push n) r ++
        (Pass.wiring.findings g r ++ wiringFindings g n) ++ Pass.cycle.findings g r := by
  have registry : Pass.registry.findings (g.push n) r =
      Pass.registry.findings g r ++ lockFindings r n := by
    show (g.nodes ++ [n]).flatMap _ = _
    rw [List.flatMap_append, List.flatMap_singleton]
    rfl
  have wiring : Pass.wiring.findings (g.push n) r =
      Pass.wiring.findings g r ++ wiringFindings g n := by
    show (g.nodes ++ [n]).flatMap (wiringFindings g) = _
    rw [List.flatMap_append, List.flatMap_singleton]
    rfl
  have cycle : Pass.cycle.findings (g.push n) r = Pass.cycle.findings g r := by
    simp only [Pass.findings, cycleFindings, wf.findCycle?_push fresh]
  rw [diagnose_eq, registry, wiring, cycle]

/-- **What is found about anything else** than the new node and the deprecated blocks is what was
found before, in the same order. -/
theorem filter_diagnose_push (wf : g.WellFormed) (fresh : n.id ∉ g.issued) (r : Registry)
    {q : Finding → Bool} (other : ∀ f, q f = true → f.node? ≠ some n.id)
    (kept : ∀ f, q f = true → f.pass ≠ .deprecation) :
    (diagnose (g.push n) r).filter q = (diagnose g r).filter q := by
  have own : ∀ found : List Finding, (∀ f ∈ found, f.node? = some n.id) → found.filter q = [] :=
    fun found named => List.filter_eq_nil_iff.mpr fun f mem asked => other f asked (named f mem)
  have deprecated : ∀ h : Graph, (Pass.deprecation.findings h r).filter q = [] := fun h =>
    List.filter_eq_nil_iff.mpr fun f mem asked => kept f asked (Pass.pass_of_mem_findings mem)
  rw [diagnose_push wf fresh, diagnose_eq g]
  simp only [List.filter_append, deprecated, own _ fun _ => node?_of_mem_lockFindings,
    own _ fun _ => node?_of_mem_wiringFindings, List.append_nil]

/-- What is found about the new node against the snapshot is what is found about its record. -/
theorem mem_diagnose_push (wf : g.WellFormed) (fresh : n.id ∉ g.issued) {r : Registry} {f : Finding}
    (pass : f.pass = .registry) (named : f.node? = some n.id) :
    f ∈ diagnose (g.push n) r ↔ f ∈ lockFindings r n := by
  refine mem_diagnose_of_node (wf.push fresh) ?_ pass fun m mem => ?_
  · exact List.mem_append_right g.nodes List.mem_cons_self
  · exact Option.some.inj ((node?_of_mem_lockFindings mem).symm.trans named)

end Push

/-! ## Placing a template -/

/-- Of several templates with one key the first one is found. -/
theorem Palette.find?_eq_some_of_first {p : Palette} {t : Template} {before after : List Template}
    (split : p.toList = before ++ t :: after) (first : ∀ s ∈ before, s.key ≠ t.key) :
    p.find? t.key = some t :=
  List.find?_eq_some_iff_append.mpr
    ⟨beq_self_eq_true t.key, before, after, split, fun s mem => by simpa using first s mem⟩

/-- A template that is found is placed behind the other nodes, under an id that is drawn. -/
theorem apply_place {p : Palette} {key : String} {t : Template} (found : p.find? key = some t)
    {g : Graph} (r : Registry) {draws : List String}
    (free : ∃ suffix ∈ draws, Graph.idOf t.key suffix ∉ g.issued) (position : Position) :
    ∃ suffix ∈ draws,
      let n : Node :=
        ⟨t.body ((r.version? t.blockId).getD unpublishedVersion) position, Graph.idOf t.key suffix⟩
      n.id ∉ g.issued ∧ g.apply (.place p key r draws position) = (.placed (some n), g.push n) := by
  obtain ⟨suffix, there, rest, drawn⟩ := Graph.exists_freshId? free
  refine ⟨suffix, there, Graph.freshId?_not_mem drawn, ?_⟩
  simp only [Graph.apply, Palette.place?, found, Option.bind_eq_bind, Option.bind_some, Graph.add?,
    drawn, Option.map_some, Graph.orElse]

/-- **Placing a template.** A key that no template has places nothing. Of several templates with a
key it is the first that is placed, as one further node under an id that was never given, at the
version that the snapshot publishes for its block, or at 1.0.0 where it publishes none. Against this
snapshot the new node is never found to have drifted from the published version, and it is found to be
unlocked exactly if nothing is published for its block. About all other nodes, and about cycles, the
findings are what they were. -/
theorem place_effect (p : Palette) (key : String) {g : Graph} (reached : g.Reachable) (r : Registry)
    (draws : List String) (position : Position) :
    ((∀ t ∈ p.toList, t.key ≠ key) →
      g.apply (.place p key r draws position) = (.placed none, g)) ∧
    ∀ before t after, p.toList = before ++ t :: after → (∀ s ∈ before, s.key ≠ key) →
      t.key = key → (∃ suffix ∈ draws, Graph.idOf key suffix ∉ g.issued) →
      ∃ n h, g.apply (.place p key r draws position) = (.placed (some n), h) ∧
        h = { g with nodes := g.nodes ++ [n], issued := n.id :: g.issued } ∧
        n.id ∉ g.issued ∧ (∃ suffix ∈ draws, n.id = Graph.idOf key suffix) ∧
        n.toNodeBody =
          { kind := t.kind
            block := ⟨t.blockId, (r.version? t.blockId).getD "1.0.0"⟩
            inputs := t.inputs
            outputs := t.outputs
            config := t.config
            position := position } ∧
        (∀ placed locked, .versionDrift n.id placed locked ∉ diagnose h r) ∧
        (∀ block, .unlocked n.id block ∈ diagnose h r ↔
          block = t.blockId ∧ r.lookup t.blockId = none) ∧
        (diagnose h r).filter (fun f => f.node? ≠ none ∧ f.node? ≠ some n.id) =
          (diagnose g r).filter (fun f => f.node? ≠ none ∧ f.node? ≠ some n.id) ∧
        (diagnose h r).filter (·.pass = .cycle) = (diagnose g r).filter (·.pass = .cycle) := by
  constructor
  · intro unknown
    have nothing : p.find? key = none := List.find?_eq_none.mpr fun t mem => by
      simpa using unknown t mem
    simp only [Graph.apply, Palette.place?, nothing, Option.bind_eq_bind, Option.bind_none,
      Graph.orElse]
  · rintro before t after split first rfl free
    have found := Palette.find?_eq_some_of_first split first
    obtain ⟨suffix, there, fresh, applied⟩ := apply_place found r free position
    have wf := reached.wellFormed
    refine ⟨_, _, applied, rfl, fresh, ⟨suffix, there, rfl⟩, rfl, ?_, ?_, ?_, ?_⟩
    · -- the version that was chosen is the one that is compared
      intro placed locked mem
      exact versionDrift_not_mem_lockFindings rfl _ _ _ ((mem_diagnose_push wf fresh rfl rfl).mp mem)
    · intro block
      rw [mem_diagnose_push wf fresh rfl rfl, unlocked_mem_lockFindings]
      exact and_iff_right rfl
    · refine filter_diagnose_push wf fresh r (fun f asked => ?_) fun f asked => ?_
      · exact (of_decide_eq_true asked).2
      · exact fun deprecated =>
          (of_decide_eq_true asked).1 (Finding.node?_eq_none_iff.mpr (.inl deprecated))
    · refine filter_diagnose_push wf fresh r (fun f asked => ?_) fun f asked => ?_
      · rw [Finding.node?_eq_none_iff.mpr (.inr (of_decide_eq_true asked))]
        exact (Option.some_ne_none _).symm
      · rw [of_decide_eq_true asked]
        decide

/-- A palette with one key twice. -/
def doubledPalette : Palette :=
  { first := { key := "draft", label := "Draft", kind := .fusion, blockId := "texts.draft" }
    rest :=
      [{ key := "join", label := "Join", kind := .fusion, blockId := "texts.join" },
       { key := "join", label := "Draft once more", kind := .fusion, blockId := "texts.draft" }] }

/-- Two nodes that are joined both ways round, and one under an id that the first suffix makes. -/
def loopedHistory : List Edit :=
  [.insert "x" Graph.junctionBody, .insert "y" Graph.junctionBody,
   .insert "join_0" (agedBody "texts.join"),
   .connect (.between "x" "p" "y" "q"), .connect (.between "y" "o" "x" "r")]

/-- The first of the two templates is placed, under the second suffix and at the published version.
The cycle that is found is the same, and so is what is found about the other nodes. -/
theorem place_effect_doubled :
    let g := Graph.empty.run loopedHistory
    g.apply (.place doubledPalette "split" agedRegistry ["0", "1"] .origin) = (.placed none, g) ∧
    ∃ n h,
      g.apply (.place doubledPalette "join" agedRegistry ["0", "1"] .origin) = (.placed (some n), h) ∧
      n.id = "join_1" ∧ n.block = ⟨"texts.join", "2.0.0"⟩ ∧
      .unlocked "join_1" "texts.join" ∉ diagnose h agedRegistry ∧
      (∀ placed locked, .versionDrift "join_1" placed locked ∉ diagnose h agedRegistry) ∧
      (diagnose h agedRegistry).filter (fun f => f.node? ≠ none ∧ f.node? ≠ some "join_1") =
        [.unlocked "x" "texts.junction", .unlocked "y" "texts.junction",
         .versionDrift "join_0" "1.0.0" "2.0.0",
         .unconnectedInput "x" "q", .unconnectedInput "y" "r"] ∧
      (diagnose h agedRegistry).filter (·.pass = .cycle) = [.cycle ["x", "y", "x"]] := by
  intro g
  have reached : g.Reachable := ⟨loopedHistory, rfl⟩
  refine ⟨(place_effect doubledPalette "split" reached agedRegistry ["0", "1"] .origin).1
    (by decide), ?_⟩
  obtain ⟨n, h, applied, -, fresh, drawn, body, drift, unlocked, others, cycles⟩ :=
    (place_effect doubledPalette "join" reached agedRegistry ["0", "1"] .origin).2 [_] _ [_] rfl
      (by decide) rfl (by decide)
  have named : n.id = "join_1" := by
    obtain ⟨suffix, mem, same⟩ := drawn
    have suffixes : suffix = "0" ∨ suffix = "1" := by simpa using mem
    rcases suffixes with rfl | rfl
    · exact absurd (by rw [same]; decide) fresh
    · exact same
  rw [named] at drift unlocked others
  refine ⟨n, h, applied, named, congrArg NodeBody.block body, ?_, drift, others.trans ?_,
    cycles.trans ?_⟩
  · exact mt (unlocked _).mp (by decide)
  · decide
  · decide

end BlockPipeline
