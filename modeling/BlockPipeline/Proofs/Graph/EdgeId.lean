import BlockPipeline.Proofs.Graph.Change

/-!
# Ids of edges

The id of an edge is found when the edge is added: its base text, or that and a number. Either
begins in the same way, so no history of edits gives an edge an empty id.

The id is searched for, one text after the other, until one is found that no edge has. Said like
this the search has no bound (`IdSearch.Finds`); that it ends is a count. The texts differ from one
another, whatever the nodes and ports are called, so as many texts as there are edges and one more
cannot all be taken, though each may be the base or the numbered text of quite another connection.

| Statement | In words | From |
| --- | --- | --- |
| `Reachable.edgeIds_ne` | no id of an edge is empty | `freeEdgeId_mem` |
| `IdSearch.finds_freeEdgeId` | the search ends, with the id that a new edge gets | `find?_edgeIdCandidates` |
| `IdSearch.Finds.least` | what is found is the base, or has the least number that is free | one text after the other |
| `connect_takes_first_free` | both for every candidate that is accepted | the above, `check_eq_ok_iff` |
-/

set_option autoImplicit false

namespace BlockPipeline.Graph

/-- An id that is found is one of the candidates. -/
theorem freeEdgeId_mem (g : Graph) (base : String) :
    g.freeEdgeId base ∈ edgeIdCandidates base g.edges.length :=
  List.mem_of_find?_eq_some (find?_edgeIdCandidates g base)

/-- A candidate is not empty, because its base is not. -/
theorem ne_of_mem_edgeIdCandidates {source target : Endpoint} {count : Nat} {id : String}
    (mem : id ∈ edgeIdCandidates (baseEdgeId source target) count) : id ≠ "" := by
  have begins : ∀ rest : String, "e_" ++ rest ≠ "" := fun rest empty => by
    have length := congrArg String.length empty
    rw [String.length_append] at length
    exact absurd (Nat.eq_zero_of_add_eq_zero length).1 (by decide)
  have base : ∀ rest : String, baseEdgeId source target ++ rest ≠ "" := fun rest => by
    simp only [baseEdgeId, String.append_assoc]
    exact begins _
  rcases List.mem_cons.mp mem with rfl | mem
  · simpa only [String.append_empty] using base ""
  · obtain ⟨k, -, rfl⟩ := List.mem_map.mp mem
    rw [String.append_assoc]
    exact base _

/-- No change leaves an edge with an empty id. -/
theorem Change.edgeIds_ne {g h : Graph} {handed : Option Node} (c : Change g handed h)
    (named : ∀ e ∈ g.edges, e.id ≠ "") : ∀ e ∈ h.edges, e.id ≠ "" := by
  cases c with
  | kept => exact named
  | placed n fresh => exact named
  | removed id => exact fun e he => named e (List.mem_filter.mp he).1
  | connected e joinable new found =>
    intro f hf
    rcases List.mem_append.mp hf with hf | hf
    · exact named f hf
    · obtain rfl := List.mem_singleton.mp hf
      rw [found]
      exact ne_of_mem_edgeIdCandidates (freeEdgeId_mem g _)
  | disconnected id => exact fun e he => named e (List.mem_of_mem_eraseP he)
  | cleared => exact nofun
  | modified id f keeps => exact named

/-- **Every edge of a reachable graph has an id that is not empty.** -/
theorem Reachable.edgeIds_ne {g : Graph} (reached : g.Reachable) : ∀ e ∈ g.edges, e.id ≠ "" := by
  obtain ⟨edits, rfl⟩ := reached
  have start : ∀ e ∈ empty.edges, e.id ≠ "" := nofun
  exact run_keeps (fun g edit named => (apply_change g edit).edgeIds_ne named) start edits

/-! ## The search for an id, one text after the other -/

/-- Where the search stands: the text that is tried, and the number of the one that comes next. -/
structure IdSearch where
  text : String
  next : Nat

namespace IdSearch

/-- The base is tried first, and the first number is two. -/
def start (base : String) : IdSearch := ⟨base, 2⟩

/-- The base with the next number is tried next. -/
def step (base : String) (s : IdSearch) : IdSearch :=
  ⟨base ++ "_" ++ toString s.next, s.next + 1⟩

/-- **The search**: it goes on as long as the text that is tried is the id of an edge, and finds the
first one that is not. The number counts the texts that were tried. -/
inductive Finds (g : Graph) (base : String) : IdSearch → Nat → String → Prop
  | free {s : IdSearch} (free : s.text ∉ g.edgeIds) : Finds g base s 1 s.text
  | taken {s : IdSearch} {count : Nat} {id : String} (taken : s.text ∈ g.edgeIds)
    (later : Finds g base (s.step base) count id) : Finds g base s (count + 1) id

variable {g : Graph} {base id : String} {s : IdSearch} {count : Nat}

/-- The search can end in one way only. -/
theorem Finds.unique (finds : Finds g base s count id) {count' : Nat} {id' : String}
    (also : Finds g base s count' id') : count' = count ∧ id' = id := by
  induction finds generalizing count' with
  | free free =>
    cases also with
    | free => exact ⟨rfl, rfl⟩
    | taken taken => exact absurd taken free
  | taken taken _ ih =>
    cases also with
    | free free => exact absurd taken free
    | taken _ later =>
      obtain ⟨rfl, rfl⟩ := ih later
      exact ⟨rfl, rfl⟩

/-- Where one of the next texts is free, the search finds the first such text among them. -/
theorem finds_of_find? {n : Nat}
    (found : (s.text :: (List.range' s.next n).map fun k => base ++ "_" ++ toString k).find?
      (fun id => (g.edge? id).isNone) = some id) :
    ∃ count ≤ n + 1, Finds g base s count id := by
  induction n generalizing s with
  | zero =>
    obtain ⟨free, same⟩ := Option.ite_none_right_eq_some.mp (List.find?_singleton.symm.trans found)
    obtain rfl := Option.some.inj same
    exact ⟨1, Nat.le_refl 1, .free (isNone_edge?_iff.mp free)⟩
  | succ n ih =>
    by_cases free : s.text ∈ g.edgeIds
    · have passed : ¬ (g.edge? s.text).isNone = true := fun none' => isNone_edge?_iff.mp none' free
      rw [List.find?_cons_of_neg (p := fun id => (g.edge? id).isNone) passed] at found
      obtain ⟨count, few, finds⟩ := ih (s := s.step base) found
      exact ⟨count + 1, Nat.succ_le_succ few, .taken free finds⟩
    · have here : (g.edge? s.text).isNone = true := isNone_edge?_iff.mpr free
      rw [List.find?_cons_of_pos (p := fun id => (g.edge? id).isNone) here] at found
      obtain rfl := Option.some.inj found
      exact ⟨1, Nat.le_add_left 1 _, .free free⟩

/-- **The search ends**, after one text more than there are edges at the latest, and finds the id that
a new edge gets. -/
theorem finds_freeEdgeId (g : Graph) (base : String) :
    ∃ count ≤ g.edges.length + 1, Finds g base (start base) count (g.freeEdgeId base) :=
  finds_of_find? (s := start base) (find?_edgeIdCandidates g base)

/-- **What is found** is the text at which the search stands, if it is free, and else the base with the
least number that is free from there on. -/
theorem Finds.least (finds : Finds g base s count id) :
    s.text ∉ g.edgeIds ∧ id = s.text ∨
      s.text ∈ g.edgeIds ∧ ∃ k, s.next ≤ k ∧ id = base ++ "_" ++ toString k ∧ id ∉ g.edgeIds ∧
        ∀ j, s.next ≤ j → j < k → base ++ "_" ++ toString j ∈ g.edgeIds := by
  induction finds with
  | free free => exact .inl ⟨free, rfl⟩
  | @taken s count id taken later ih =>
    refine .inr ⟨taken, ?_⟩
    rcases ih with ⟨free, rfl⟩ | ⟨next, k, behind, named, free, least⟩
    · exact ⟨s.next, Nat.le_refl _, rfl, free, fun j low high => absurd high (Nat.not_lt.mpr low)⟩
    · refine ⟨k, Nat.le_of_succ_le behind, named, free, fun j low high => ?_⟩
      rcases Nat.eq_or_lt_of_le low with rfl | low
      · exact next
      · exact least j low high

end IdSearch

/-- **The id of a new edge.** A candidate that would be accepted becomes an edge. The search for the
id of this edge ends after one text more than there are edges at the latest, and could not end in
another way. The id is the base text if no edge has it, and else the base with the least number from
two on that no edge has; there is a number only where the base is the id of an edge that joins other
ends. -/
theorem connect_takes_first_free {g : Graph} {c : Candidate} (accepted : g.accepts c = true) :
    ∃ e h, g.connect c = .ok (e, h) ∧ e.source.node = c.source ∧ e.target.node = c.target ∧
      let base := "e_" ++ c.source ++ "_" ++ e.source.handle.text ++ "_" ++ c.target ++ "_" ++
        e.target.handle.text
      (∃ count ≤ g.edges.length + 1, IdSearch.Finds g base (.start base) count e.id ∧
        ∀ count' id, IdSearch.Finds g base (.start base) count' id → count' = count ∧ id = e.id) ∧
      (base ∉ g.edgeIds → e.id = base) ∧
      (base ∈ g.edgeIds → ∃ k, 2 ≤ k ∧ e.id = base ++ "_" ++ toString k ∧ e.id ∉ g.edgeIds ∧
        ∀ j, 2 ≤ j → j < k → base ++ "_" ++ toString j ∈ g.edgeIds) ∧
      (e.id ≠ base → ∃ f ∈ g.edges, f.id = base ∧ f.ends ≠ e.ends) := by
  obtain ⟨⟨source, target⟩, checked⟩ : ∃ ends, g.check c = .ok ends := by
    unfold accepts at accepted
    cases checked : g.check c with
    | error reason =>
      rw [checked] at accepted
      cases accepted
    | ok ends => exact ⟨ends, rfl⟩
  let e : Edge := ⟨g.freeEdgeId (baseEdgeId source target), source, target⟩
  have connected : g.connect c = .ok (e, { g with edges := g.edges ++ [e] }) :=
    connect_eq_ok_iff.mpr ⟨checked, rfl, rfl⟩
  obtain ⟨-, -, fromSource, toTarget, -, new⟩ := check_eq_ok_iff.mp checked
  refine ⟨e, _, connected, fromSource.symm, toTarget.symm, ?_⟩
  intro base
  have named : base = baseEdgeId source target := by
    simp only [base, fromSource, toTarget]
    rfl
  obtain ⟨count, few, finds⟩ : ∃ count ≤ g.edges.length + 1,
      IdSearch.Finds g base (.start base) count e.id := by
    rw [named]
    exact IdSearch.finds_freeEdgeId g _
  have least := finds.least
  refine ⟨⟨count, few, finds, fun count' id also => finds.unique also⟩, ?_, ?_, ?_⟩
  · intro free
    exact (least.resolve_right fun taken => free taken.1).2
  · intro taken
    exact (least.resolve_left fun free => free.1 taken).2
  · intro numbered
    have taken : base ∈ g.edgeIds := (least.resolve_left fun free => numbered free.2).1
    obtain ⟨f, hf, same⟩ := List.mem_map.mp taken
    exact ⟨f, hf, same, fun joined => new (List.mem_map.mpr ⟨f, hf, joined⟩)⟩

/-- A node whose ports are named so that connections to different nodes are written alike. -/
def echoBody : NodeBody :=
  { kind := .fusion
    block := ⟨"fusions.concat", "1.0.0"⟩
    inputs := ["q", "q_c_in:q", "q_c_in:q_2"].map fun name => { name := name, portType := "text" }
    outputs := [{ name := "p", portType := "text" }] }

/-- Two connections, of which one has the base of the edge below, and the other has as its own base
what would be the base of that edge with a number. -/
def echoHistory : List Edit :=
  ["a", "c", "c_in:q_c"].map (.insert · echoBody) ++
    [.connect (.between "a" "p" "c" "q_c_in:q"), .connect (.between "a" "p" "c" "q_c_in:q_2")]

/-- The third connection is written like the first, and with two like the second, so it gets three. -/
theorem connect_takes_first_free_echo :
    (empty.run echoHistory).accepts (.between "a" "p" "c_in:q_c" "q") = true ∧
    (empty.run echoHistory).edgeIds = ["e_a_out:p_c_in:q_c_in:q", "e_a_out:p_c_in:q_c_in:q_2"] ∧
    ∃ e h, (empty.run echoHistory).connect (.between "a" "p" "c_in:q_c" "q") = .ok (e, h) ∧
      e.id = "e_a_out:p_c_in:q_c_in:q_3" ∧
      ∃ count ≤ 3, IdSearch.Finds (empty.run echoHistory) "e_a_out:p_c_in:q_c_in:q"
        (.start "e_a_out:p_c_in:q_c_in:q") count e.id := by
  have accepted : (empty.run echoHistory).accepts (.between "a" "p" "c_in:q_c" "q") = true := by decide
  have ids : (empty.run echoHistory).edgeIds =
      ["e_a_out:p_c_in:q_c_in:q", "e_a_out:p_c_in:q_c_in:q_2"] := by decide
  have third : (empty.run echoHistory).connect (.between "a" "p" "c_in:q_c" "q") =
      .ok (⟨"e_a_out:p_c_in:q_c_in:q_3", ⟨"a", .output "p"⟩, ⟨"c_in:q_c", .input "q"⟩⟩, _) :=
    connect_eq_ok_iff.mpr ⟨by decide, by decide, rfl⟩
  obtain ⟨e, h, connected, -, -, ⟨count, few, finds, -⟩, -⟩ := connect_takes_first_free accepted
  cases third.symm.trans connected
  exact ⟨accepted, ids, _, _, connected, rfl, count, few, finds⟩

end BlockPipeline.Graph
