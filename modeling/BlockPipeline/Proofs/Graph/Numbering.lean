import BlockPipeline.Proofs.Graph.WellFormed

/-!
# The order in which ids of edges are found

The id of an edge depends on the edges that were there when it was added, so two graphs with the
same connections may have different ids for them. Edges are numbered in order if each of them has
the id that it would get behind the edges in front of it (`NumberedInOrder`): the ids are then those
that are found when the connections are made anew, one after the other (`joinInOrder_eq_iff`).

A history keeps this as long as edges come and go at the end of the list. It is lost when an edge
goes that an edge behind it gave way to, because that one keeps its number.

| Statement | In words |
| --- | --- |
| `joinInOrder_eq_iff` | making the connections of some edges anew gives these edges exactly if they are numbered in order |
| `numbered_joinInOrder` | whatever is made anew is numbered in order |
| `numbered_run` | so is what a history leads to in which edges come and go at the end |
| `numbered_of_base` | and edges none of which has a number |
-/

set_option autoImplicit false

namespace BlockPipeline

/-- The edge between two ends that comes behind given edges, under the first id that none of them
has. -/
def Edge.behind (edges : List Edge) (ends : Endpoint × Endpoint) : Edge :=
  ⟨Graph.freeEdgeId { edges := edges } (Graph.baseEdgeId ends.1 ends.2), ends.1, ends.2⟩

namespace Graph

/-- The edges that come of making connections behind given edges, one after the other. -/
def joinInOrder (edges : List Edge) (connections : List (Endpoint × Endpoint)) : List Edge :=
  connections.foldl (fun edges ends => edges ++ [.behind edges ends]) edges

/-- **Numbered in order**: each edge has the id that it gets behind the edges in front of it. -/
def NumberedInOrder (edges : List Edge) : Prop :=
  ∀ before e after, edges = before ++ e :: after →
    e.id = freeEdgeId { edges := before } (baseEdgeId e.source e.target)

variable {edges : List Edge}

/-! ## Making connections anew -/

/-- An edge that is added is the one that comes behind the edges that are there. -/
theorem eq_behind_iff {e : Edge} :
    e = .behind edges e.ends ↔
      e.id = freeEdgeId { edges := edges } (baseEdgeId e.source e.target) := by
  obtain ⟨id, source, target⟩ := e
  simp only [Edge.behind, Edge.ends, Edge.mk.injEq, and_self, and_true]

/-- The connections are the given ones, in their order. -/
theorem ends_joinInOrder (edges : List Edge) (connections : List (Endpoint × Endpoint)) :
    (joinInOrder edges connections).map Edge.ends = edges.map Edge.ends ++ connections := by
  induction connections generalizing edges with
  | nil => exact (List.append_nil _).symm
  | cons ends connections ih =>
    refine (ih _).trans ?_
    rw [List.map_append, List.append_assoc]
    rfl

/-- Edges that are numbered in order are found again behind those in front of them. -/
theorem joinInOrder_of_numbered {before after : List Edge}
    (numbered : NumberedInOrder (before ++ after)) :
    joinInOrder before (after.map Edge.ends) = before ++ after := by
  induction after generalizing before with
  | nil => exact (List.append_nil _).symm
  | cons e after ih =>
    have first : e = .behind before e.ends := eq_behind_iff.mpr (numbered before e after rfl)
    have regroup : before ++ e :: after = (before ++ [e]) ++ after := (List.append_cons ..)
    rw [regroup] at numbered ⊢
    refine Eq.trans ?_ (ih numbered)
    rw [List.map_cons, joinInOrder, List.foldl_cons, ← first]
    rfl

namespace NumberedInOrder

theorem nil : NumberedInOrder [] := by
  intro before e after split
  cases List.append_eq_nil_iff.mp split.symm |>.2

/-- What stands in front was numbered before what stands behind. -/
theorem of_prefix {front : List Edge} (numbered : NumberedInOrder edges) (first : front <+: edges) :
    NumberedInOrder front := by
  obtain ⟨rest, rfl⟩ := first
  rintro before e after rfl
  exact numbered before e (after ++ rest) (by simp)

/-- An edge that comes behind numbered edges is numbered too. -/
theorem snoc (numbered : NumberedInOrder edges) (ends : Endpoint × Endpoint) :
    NumberedInOrder (edges ++ [.behind edges ends]) := by
  intro before e after split
  rcases List.eq_nil_or_concat after with rfl | ⟨after, last, rfl⟩
  · obtain ⟨rfl, last⟩ := List.append_inj' split rfl
    cases last
    rfl
  · have regroup : before ++ e :: after.concat last = (before ++ e :: after) ++ [last] := by simp
    rw [regroup] at split
    exact numbered before e after (List.append_inj_left' split rfl)

end NumberedInOrder

/-- **Connections that are made one after the other are numbered in order.** -/
theorem numbered_joinInOrder (numbered : NumberedInOrder edges)
    (connections : List (Endpoint × Endpoint)) :
    NumberedInOrder (joinInOrder edges connections) := by
  induction connections generalizing edges with
  | nil => exact numbered
  | cons ends connections ih => exact ih (numbered.snoc ends)

/-- **Edges are found again exactly if they are numbered in order.** -/
theorem joinInOrder_eq_iff : joinInOrder [] (edges.map Edge.ends) = edges ↔ NumberedInOrder edges := by
  constructor
  · intro again
    rw [← again]
    exact numbered_joinInOrder .nil _
  · intro numbered
    have whole : NumberedInOrder ([] ++ edges) := numbered
    exact joinInOrder_of_numbered whole

instance : Decidable (NumberedInOrder edges) := decidable_of_iff _ joinInOrder_eq_iff

/-! ## Where no edge has a number -/

/-- The base is taken if no edge has it. -/
theorem freeEdgeId_of_not_mem {g : Graph} {base : String} (free : base ∉ g.edgeIds) :
    g.freeEdgeId base = base := by
  have none' : (g.edge? base).isNone = true := isNone_edge?_iff.mpr free
  simp only [freeEdgeId, edgeIdCandidates, List.find?_cons, none', Option.getD_some]

/-- **Edges with different ids none of which has a number are numbered in order.** -/
theorem numbered_of_base (distinct : (edges.map (·.id)).Nodup)
    (base : ∀ e ∈ edges, e.id = baseEdgeId e.source e.target) : NumberedInOrder edges := by
  rintro before e after rfl
  have mem : e ∈ before ++ e :: after := List.mem_append_right _ List.mem_cons_self
  rw [← base e mem, freeEdgeId_of_not_mem]
  intro taken
  rw [List.map_append, List.map_cons, List.nodup_middle] at distinct
  exact (List.nodup_cons.mp distinct).1 (List.mem_append_left _ taken)

/-! ## Histories -/

/-- One list of edges goes on where the other ends. -/
def Continues (edges edges' : List Edge) : Prop := edges <+: edges' ∨ edges' <+: edges

instance (edges edges' : List Edge) : Decidable (Continues edges edges') :=
  inferInstanceAs (Decidable (_ ∨ _))

/-- A change by which edges come or go at the end keeps them numbered in order. -/
theorem Change.numbered {g h : Graph} {handed : Option Node} (c : Change g handed h)
    (continues : Continues g.edges h.edges) (numbered : NumberedInOrder g.edges) :
    NumberedInOrder h.edges := by
  rcases continues with more | fewer
  · -- edges that are taken out of a list and still begin with it are all of it
    have kept : ∀ {rest : List Edge}, rest.Sublist g.edges → g.edges <+: rest →
        NumberedInOrder rest := by
      intro rest sublist more
      rwa [← more.eq_of_length_le sublist.length_le]
    cases c with
    | kept => exact numbered
    | placed n fresh => exact numbered
    | removed id => exact kept List.filter_sublist more
    | connected e joinable new named =>
      rw [show e = .behind g.edges e.ends from eq_behind_iff.mpr named]
      exact numbered.snoc e.ends
    | disconnected id => exact kept List.eraseP_sublist more
    | cleared => exact .nil
    | modified id f keeps => exact numbered
  · exact numbered.of_prefix fewer

/-- **A history in which edges come and go at the end alone**: what each edit leaves continues what
was there, or is continued by it. -/
def StacksEdges (g : Graph) : List Edit → Prop
  | [] => True
  | edit :: edits =>
    Continues g.edges (g.apply edit).2.edges ∧ (g.apply edit).2.StacksEdges edits

instance decidableStacksEdges : (g : Graph) → (edits : List Edit) → Decidable (g.StacksEdges edits)
  | _, [] => inferInstanceAs (Decidable True)
  | g, edit :: edits =>
    have := decidableStacksEdges (g.apply edit).2 edits
    inferInstanceAs (Decidable (_ ∧ _))

/-- **What such a history leads to is numbered in order.** -/
theorem numbered_run {g : Graph} (numbered : NumberedInOrder g.edges) {edits : List Edit}
    (stacking : g.StacksEdges edits) : NumberedInOrder (g.run edits).edges := by
  induction edits generalizing g with
  | nil => exact numbered
  | cons edit edits ih =>
    obtain ⟨continues, stacking⟩ := stacking
    exact ih ((apply_change g edit).numbered continues numbered) stacking

end Graph

end BlockPipeline
