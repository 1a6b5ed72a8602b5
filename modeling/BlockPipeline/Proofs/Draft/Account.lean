import BlockPipeline.Proofs.Draft.Load
import BlockPipeline.Proofs.Graph.Refusal
import Mathlib.Data.List.Forall2

/-!
# What becomes of a draft

A draft cannot be loaded for the first of its nodes that has no id, or the id of a node in front of
it. Every other draft is loaded, and then nothing of it is lost: its nodes are placed in their order,
and each of its edges, in order, becomes the next edge of the graph or the next one that is refused.
Either is the verdict on the edge against all nodes and the edges that were accepted in front of it.

| Statement | In words | From |
| --- | --- | --- |
| `load_eq_error_iff` | a draft fails for its first node that cannot be placed | `loadNode_eq_error_iff`, `foldlM_eq_error_iff` |
| `exists_load_iff` | it is loaded exactly if each node has an id of its own | `loadNodes_eq_ok_iff` |
| `interleaves_outcomes` | the accepted and the refused edges are together the edges that were proposed | |
| `graph_proposeEdges` | the accepted edges are those that are added | `proposeEdge_snd` |
| `verdict_of_outcomes` | each outcome is the verdict at its place | `proposeEdge_fst` |
| `load_accounts` | all of this about whole drafts | the above |
-/

set_option autoImplicit false

namespace BlockPipeline

/-- **Why a node of a draft cannot be placed** behind nodes with the given ids: it has no id, or one
of theirs. -/
inductive DraftNode.Unusable (given : List String) (n : DraftNode) : DraftError → Prop where
  | unnamed (empty : n.id = "") : Unusable given n .emptyNodeId
  | repeated (named : n.id ≠ "") (taken : n.id ∈ given) : Unusable given n (.duplicateNodeId n.id)

/-- It depends on which ids are given, and not on how they are listed. -/
theorem DraftNode.Unusable.congr {given given' : List String} {n : DraftNode} {error : DraftError}
    (unusable : n.Unusable given error) (same : ∀ id, id ∈ given ↔ id ∈ given') :
    n.Unusable given' error := by
  cases unusable with
  | unnamed empty => exact .unnamed empty
  | repeated named taken => exact .repeated named ((same _).mp taken)

/-- **A node of a draft describes a node of a graph**: they agree in the id and in all data. -/
structure DraftNode.Describes (n : DraftNode) (m : Node) : Prop where
  id : m.id = n.id
  kind : m.kind = n.data.kind
  blockId : m.block.blockId = n.data.blockId
  version : m.block.version = n.data.version
  inputs : m.inputs = n.data.inputs
  outputs : m.outputs = n.data.outputs
  config : m.config = n.data.config
  position : m.position = n.position

/-- The node that is placed is the one that is described. -/
theorem DraftNode.describes_node (n : DraftNode) : n.Describes n.node :=
  { id := rfl, kind := rfl, blockId := rfl, version := rfl, inputs := rfl, outputs := rfl
    config := rfl, position := rfl }

/-- **An edge has the ends that a candidate names**: its two nodes, and the ports that its handles
stand for. -/
def Candidate.Names (c : Candidate) (e : Edge) : Prop :=
  ∃ p q, Handle.Names .output c.sourceHandle p ∧ Handle.Names .input c.targetHandle q ∧
    e.source = ⟨c.source, .output p⟩ ∧ e.target = ⟨c.target, .input q⟩

/-- **A list is two others in turns**: each of its members is the next one of the first or of the
second, and nothing is left of either. -/
inductive Interleaves {α : Type} : List α → List α → List α → Prop where
  | nil : Interleaves [] [] []
  | first {a : α} {whole left right : List α} (rest : Interleaves whole left right) :
    Interleaves (a :: whole) (a :: left) right
  | second {a : α} {whole left right : List α} (rest : Interleaves whole left right) :
    Interleaves (a :: whole) left (a :: right)

namespace Draft

open BlockPipeline.Graph

/-! ## Nodes -/

/-- A node is turned away exactly for its id. -/
theorem loadNode_eq_error_iff {g : Graph} {n : DraftNode} {error : DraftError} :
    loadNode g n = .error error ↔ n.Unusable g.issued error := by
  unfold loadNode
  by_cases unnamed : n.id = ""
  · rw [if_pos unnamed]
    constructor
    · rintro ⟨⟩
      exact .unnamed unnamed
    · rintro (_ | ⟨named, -⟩)
      · rfl
      · exact absurd unnamed named
  · rw [if_neg unnamed]
    by_cases taken : n.id ∈ g.issued
    · have refused : g.insert? n.id n.body = none := by
        simp only [insert?, List.contains_iff_mem.mpr taken, ↓reduceIte]
      rw [refused]
      constructor
      · rintro ⟨⟩
        exact .repeated unnamed taken
      · rintro (empty | -)
        · exact absurd empty unnamed
        · rfl
    · have placed : g.insert? n.id n.body = some (g.push n.node) :=
        insert?_eq_some_iff.mpr ⟨taken, rfl⟩
      rw [placed]
      constructor
      · rintro ⟨⟩
      · rintro (empty | ⟨-, given⟩)
        · exact absurd empty unnamed
        · exact absurd given taken

/-- The ids that are given behind nodes are theirs, and those before. -/
theorem mem_issued_foldl_push {g : Graph} {nodes : List Node} {id : String} :
    id ∈ (nodes.foldl push g).issued ↔ id ∈ nodes.map (·.id) ∨ id ∈ g.issued := by
  induction nodes generalizing g with
  | nil => simp only [List.foldl_nil, List.map_nil, List.not_mem_nil, false_or]
  | cons n nodes ih =>
    rw [List.foldl_cons, ih, push, List.mem_cons, List.map_cons, List.mem_cons, or_left_comm,
      or_assoc]

/-- **A draft fails for the first of its nodes that cannot be placed**, behind nodes that can. -/
theorem load_eq_error_iff {d : Draft} {error : DraftError} :
    d.load = .error error ↔
      ∃ before n after, d.nodes = before ++ n :: after ∧ Usable before ∧
        n.Unusable (before.map (·.id)) error := by
  have nodes : d.load = .error error ↔ d.nodes.foldlM loadNode .empty = .error error := by
    rw [load, bind_eq_error]
    exact or_iff_left fun ⟨_, _, loaded⟩ => nomatch loaded
  rw [nodes, foldlM_eq_error_iff]
  refine exists_congr fun before => exists_congr fun n => exists_congr fun after => ?_
  -- what was given by then are the ids of the nodes in front
  have given : ∀ id, id ∈ ((before.map DraftNode.node).foldl push .empty).issued ↔
      id ∈ before.map (·.id) := by
    intro id
    rw [mem_issued_foldl_push, List.map_map]
    exact or_iff_left List.not_mem_nil
  constructor
  · rintro ⟨g, split, placed, failed⟩
    obtain ⟨usable, -, rfl⟩ := loadNodes_eq_ok_iff.mp placed
    exact ⟨split, usable, (loadNode_eq_error_iff.mp failed).congr given⟩
  · rintro ⟨split, usable, unusable⟩
    refine ⟨_, split, loadNodes_eq_ok_iff.mpr ⟨usable, fun _ _ => List.not_mem_nil, rfl⟩, ?_⟩
    exact loadNode_eq_error_iff.mpr (unusable.congr fun id => (given id).symm)

/-- **A draft is loaded** exactly if each of its nodes has an id of its own. -/
theorem exists_load_iff {d : Draft} : (∃ loaded, d.load = .ok loaded) ↔ Usable d.nodes := by
  constructor
  · rintro ⟨loaded, load⟩
    obtain ⟨g, placed, -⟩ := bind_eq_ok.mp load
    exact (loadNodes_eq_ok_iff.mp placed).1
  · intro usable
    have placed := (loadNodes_eq_ok_iff (g := .empty)).mpr ⟨usable, fun _ _ => List.not_mem_nil, rfl⟩
    exact ⟨_, bind_eq_ok.mpr ⟨_, placed, rfl⟩⟩

/-- Nodes are not usable exactly if one has no id or two have the same. -/
theorem not_usable_iff {nodes : List DraftNode} :
    ¬ Usable nodes ↔ (∃ n ∈ nodes, n.id = "") ∨ ¬ (nodes.map (·.id)).Nodup := by
  constructor
  · intro unusable
    by_contra! usable
    exact unusable ⟨usable.1, usable.2⟩
  · rintro (⟨n, hn, unnamed⟩ | repeated) usable
    · exact usable.named n hn unnamed
    · exact repeated usable.distinct

theorem exists_load_error_iff {d : Draft} : (∃ error, d.load = .error error) ↔ ¬ Usable d.nodes := by
  rw [← exists_load_iff]
  cases d.load with
  | error error =>
    simp only [Except.error.injEq, exists_eq', reduceCtorEq, exists_false, not_false_eq_true]
  | ok loaded => simp only [reduceCtorEq, exists_false, Except.ok.injEq, exists_eq', not_true]

/-! ## Edges -/

/-- The candidates that were accepted, each with the edge that it became. -/
def accepted (outcomes : List (Candidate × Except Refusal Edge)) : List (Candidate × Edge) :=
  outcomes.filterMap fun (c, outcome) =>
    match outcome with
    | .ok e => some (c, e)
    | .error _ => none

/-- The edges that candidates became. -/
def acceptedEdges (outcomes : List (Candidate × Except Refusal Edge)) : List Edge :=
  (accepted outcomes).map Prod.snd

theorem acceptedEdges_cons (outcome : Candidate × Except Refusal Edge)
    (outcomes : List (Candidate × Except Refusal Edge)) :
    acceptedEdges (outcome :: outcomes) = acceptedEdges [outcome] ++ acceptedEdges outcomes := by
  obtain ⟨c, outcome⟩ := outcome
  cases outcome <;> rfl

theorem mem_accepted {outcomes : List (Candidate × Except Refusal Edge)} {c : Candidate} {e : Edge} :
    (c, e) ∈ accepted outcomes ↔ (c, .ok e) ∈ outcomes := by
  unfold accepted
  rw [List.mem_filterMap]
  constructor
  · rintro ⟨⟨_, _ | _⟩, mem, ⟨⟩⟩
    exact mem
  · intro mem
    exact ⟨_, mem, rfl⟩

/-- **The accepted and the refused candidates in turns** are those that were proposed. -/
theorem interleaves_outcomes (l : LoadedDraft) :
    Interleaves (l.outcomes.map Prod.fst) ((accepted l.outcomes).map Prod.fst)
      (l.refused.map Prod.fst) := by
  obtain ⟨g, outcomes⟩ := l
  induction outcomes with
  | nil => exact .nil
  | cons outcome outcomes ih =>
    obtain ⟨c, _ | _⟩ := outcome
    · exact .second ih
    · exact .first ih

/-- What becomes of an edge is the verdict on it. -/
theorem proposeEdge_fst (g : Graph) (c : Candidate) :
    g.check c = (proposeEdge g c).1.map Edge.ends := by
  rw [check_eq_map_connect]
  unfold proposeEdge
  cases g.connect c <;> rfl

/-- An accepted edge is put behind the others, and a refused one changes nothing. -/
theorem proposeEdge_snd (g : Graph) (c : Candidate) :
    (proposeEdge g c).2 =
      { g with edges := g.edges ++ acceptedEdges [(c, (proposeEdge g c).1)] } := by
  cases verdict : g.check c with
  | error reason =>
    rw [proposeEdge_of_check_error verdict]
    exact congrArg (fun edges => { g with edges }) (List.append_nil g.edges).symm
  | ok ends =>
    rw [proposeEdge_of_check_ok verdict]
    rfl

/-- Each of the edges that are proposed has an outcome. -/
theorem candidates_of_outcomes (g : Graph) (candidates : List Candidate) :
    (proposeEdges g candidates).outcomes.map Prod.fst = candidates := by
  induction candidates generalizing g with
  | nil => rfl
  | cons c rest ih => rw [proposeEdges_cons, List.map_cons, ih]

/-- **The accepted edges are those that are added**, in their order. -/
theorem graph_proposeEdges (g : Graph) (candidates : List Candidate) :
    (proposeEdges g candidates).graph =
      { g with edges := g.edges ++ acceptedEdges (proposeEdges g candidates).outcomes } := by
  induction candidates generalizing g with
  | nil => exact congrArg (fun edges => { g with edges }) (List.append_nil g.edges).symm
  | cons c rest ih =>
    rw [proposeEdges_cons, acceptedEdges_cons, ← List.append_assoc]
    refine (ih _).trans ?_
    rw [proposeEdge_snd]

/-- **Each outcome is the verdict** against the nodes, and the edges that are there with those that
were accepted in front. -/
theorem verdict_of_outcomes {g : Graph} {candidates : List Candidate}
    {before after : List (Candidate × Except Refusal Edge)} {c : Candidate}
    {outcome : Except Refusal Edge}
    (split : (proposeEdges g candidates).outcomes = before ++ (c, outcome) :: after) :
    check { g with edges := g.edges ++ acceptedEdges before } c = outcome.map Edge.ends := by
  induction candidates generalizing g before with
  | nil => cases before <;> cases split
  | cons first rest ih =>
    rw [proposeEdges_cons] at split
    cases before with
    | nil =>
      cases split
      rw [← proposeEdge_fst]
      exact congrArg (fun edges => check { g with edges } c) (List.append_nil g.edges)
    | cons head before =>
      obtain ⟨rfl, others⟩ := List.cons.inj split
      have later := ih others
      rw [proposeEdge_snd] at later
      rw [acceptedEdges_cons, ← List.append_assoc]
      exact later

/-- **An account of the edges of a draft**: each of them is the next edge of the graph or the next one
that is refused, by the verdict at its place. -/
structure Accounts (l : LoadedDraft) (edges : List Candidate) : Prop where
  /-- Each edge has one outcome, in order. -/
  outcomes : l.outcomes.map Prod.fst = edges
  /-- Nothing is lost, repeated or moved. -/
  turns : Interleaves edges ((accepted l.outcomes).map Prod.fst) (l.refused.map Prod.fst)
  /-- The accepted ones are the edges of the graph, in order. -/
  made : (accepted l.outcomes).map Prod.snd = l.graph.edges
  named : ∀ c e, (c, e) ∈ accepted l.outcomes → c.Names e
  /-- An outcome is the verdict against all nodes, and the edges that were accepted in front. -/
  verdicts : ∀ before c outcome after, l.outcomes = before ++ (c, outcome) :: after →
    check { l.graph with edges := acceptedEdges before } c = outcome.map Edge.ends

/-- An accepted candidate names the ends of its edge. -/
theorem names_of_check {g : Graph} {c : Candidate} {e : Edge} (accepted : g.check c = .ok e.ends) :
    c.Names e := by
  obtain ⟨p, q, admissible, ends⟩ := check_eq_ok_iff_admissible.mp accepted
  obtain ⟨source, target⟩ := Prod.mk.inj ends
  exact ⟨p, q, admissible.source, admissible.target, source, target⟩

/-- **The edges of a loaded draft are accounted for.** -/
theorem accounts_of_load {d : Draft} {loaded : LoadedDraft} (load : d.load = .ok loaded) :
    Accounts loaded d.edges := by
  obtain ⟨-, rfl⟩ := load_eq_ok load
  generalize bare : (d.nodes.map DraftNode.node).foldl push .empty = g
  have none' : g.edges = [] := by
    rw [← bare]
    exact edges_foldl_push .empty _
  have candidates := candidates_of_outcomes g d.edges
  have graph := graph_proposeEdges g d.edges
  rw [none', List.nil_append] at graph
  have verdicts : ∀ before c outcome after,
      (proposeEdges g d.edges).outcomes = before ++ (c, outcome) :: after →
        check { (proposeEdges g d.edges).graph with edges := acceptedEdges before } c =
          outcome.map Edge.ends := by
    intro before c outcome after split
    have verdict := verdict_of_outcomes split
    rw [none', List.nil_append] at verdict
    rw [graph]
    exact verdict
  refine ⟨candidates, ?_, (congrArg Graph.edges graph).symm, fun c e mem => ?_, verdicts⟩
  · have turns := interleaves_outcomes (proposeEdges g d.edges)
    rwa [candidates] at turns
  · obtain ⟨before, after, split⟩ := List.append_of_mem (mem_accepted.mp mem)
    exact names_of_check (verdicts before c (.ok e) after split)

/-! ## Whole drafts -/

/-- **What becomes of a draft.** It fails exactly if one of its nodes has no id or two have the same,
and it does so for the first node that has no id, or the id of a node in front of it. Otherwise it is
loaded: its nodes are the nodes of the graph, in their order and with all data, and each of its edges
is accounted for once. -/
theorem load_accounts (d : Draft) :
    ((∃ error, d.load = .error error) ↔
      (∃ n ∈ d.nodes, n.id = "") ∨ ¬ (d.nodes.map (·.id)).Nodup) ∧
    (∀ error, d.load = .error error ↔
      ∃ before n after, d.nodes = before ++ n :: after ∧ Usable before ∧
        n.Unusable (before.map (·.id)) error) ∧
    ∀ loaded, d.load = .ok loaded →
      List.Forall₂ DraftNode.Describes d.nodes loaded.graph.nodes ∧ Accounts loaded d.edges := by
  refine ⟨exists_load_error_iff.trans not_usable_iff, fun error => load_eq_error_iff,
    fun loaded load => ⟨?_, accounts_of_load load⟩⟩
  rw [nodes_load load, List.forall₂_map_right_iff, List.forall₂_same]
  exact fun n _ => n.describes_node

/-- A node of a draft with an input and an output. -/
def relayNode (id : String) : DraftNode :=
  { id
    data :=
      { kind := .fusion
        blockId := "texts.join"
        version := "1.0.0"
        inputs := [{ name := "q", portType := "text" }]
        outputs := [{ name := "p", portType := "text" }] } }

/-- Two nodes, connected in both directions, with edges in between that are refused for a handle, for
a missing node, and as a duplicate. -/
def relayDraft : Draft :=
  { nodes := [relayNode "a", relayNode "b"]
    edges :=
      [⟨"a", "in:p", "b", "q"⟩, .between "a" "p" "b" "q", .between "a" "p" "c" "q",
       ⟨"a", "p", "b", "any:q"⟩, .between "b" "p" "a" "q"] }

/-- The draft is loaded with two edges and three refusals, of which the last is the verdict against
the one edge that was accepted in front of it. Where its first node stands in it twice, and a node
without an id behind, it fails for the node that is there twice. -/
theorem load_accounts_relays :
    (∃ loaded, relayDraft.load = .ok loaded ∧ Accounts loaded relayDraft.edges ∧
      loaded.graph.edgeIds = ["e_a_out:p_b_in:q", "e_b_out:p_a_in:q"] ∧
      loaded.refused.map Prod.snd =
        [.malformedHandle "in:p", .targetNodeMissing "c", .duplicate "e_a_out:p_b_in:q"]) ∧
    load { relayDraft with nodes := relayDraft.nodes ++ [relayNode "a", relayNode ""] } =
      .error (.duplicateNodeId "a") := by
  constructor
  · have result : relayDraft.load.toOption.map
        (fun l => (l.graph.edgeIds, l.refused.map Prod.snd)) =
          some (["e_a_out:p_b_in:q", "e_b_out:p_a_in:q"],
            [.malformedHandle "in:p", .targetNodeMissing "c",
              .duplicate "e_a_out:p_b_in:q"]) := by decide
    obtain ⟨loaded, load⟩ : ∃ loaded, relayDraft.load = .ok loaded := ⟨_, rfl⟩
    rw [load] at result
    obtain ⟨ids, reasons⟩ := Prod.mk.inj (Option.some.inj result)
    exact ⟨loaded, load, ((load_accounts _).2.2 loaded load).2, ids, reasons⟩
  · refine ((load_accounts _).2.1 _).mpr ⟨relayDraft.nodes, relayNode "a", [relayNode ""], rfl, ?_, ?_⟩
    · exact ⟨by decide, by decide⟩
    · exact .repeated (by decide) (by decide)

end Draft

end BlockPipeline
