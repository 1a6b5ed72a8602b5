import BlockPipeline.Proofs.Graph.Connection

/-!
# What an edit can do

Nine edits change a graph in six ways, or not at all (`Change`). Each way carries what was checked
on the way to it: a node is placed under an id that was never given, and an edge is added between
joinable ends that no edge joins, under a free id. Every invariant is proved once for each way
(`apply_change`), and a history keeps what each of its edits keeps (`run_keeps`).
-/

set_option autoImplicit false

namespace BlockPipeline

/-- The node that an answer hands out, if it hands one out. -/
def EditAnswer.handedOut? : EditAnswer → Option Node
  | .placed node => node
  | .inserted node => node
  | _ => none

namespace Graph

/-- **What an edit can do** to a graph, with the node that it hands out. -/
inductive Change (g : Graph) : Option Node → Graph → Prop where
  | kept : Change g none g
  | placed (n : Node) (fresh : n.id ∉ g.issued) : Change g (some n) (g.push n)
  | removed (id : String) :
    Change g none
      { g with
        nodes := g.nodes.eraseP (·.id == id)
        edges := g.edges.filter fun e => !e.touches id }
  | connected (e : Edge) (joinable : g.Joinable e.source e.target)
      (new : e.ends ∉ g.edges.map Edge.ends)
      (named : e.id = g.freeEdgeId (baseEdgeId e.source e.target)) :
    Change g none { g with edges := g.edges ++ [e] }
  | disconnected (id : String) : Change g none { g with edges := g.edges.eraseP (·.id == id) }
  | cleared : Change g none g.clear
  | modified (id : String) (f : Node → Node) (keeps : ∀ n, (f n).placement = n.placement) :
    Change g none { g with nodes := modifyNode id f g.nodes }

/-! ## Placing a node -/

/-- The id that is drawn was never given. -/
theorem freshId?_not_mem {g : Graph} {stem id : String} {draws rest : List String}
    (h : g.freshId? stem draws = some (id, rest)) : id ∉ g.issued := by
  induction draws with
  | nil => cases h
  | cons suffix draws ih =>
    simp only [freshId?] at h
    split at h
    · exact ih h
    · next given =>
      cases h
      simpa only [List.contains_iff_mem] using given

/-- An id is drawn where one of the suffixes makes one that was never given. -/
theorem exists_freshId? {g : Graph} {stem : String} {draws : List String}
    (free : ∃ suffix ∈ draws, idOf stem suffix ∉ g.issued) :
    ∃ suffix ∈ draws, ∃ rest, g.freshId? stem draws = some (idOf stem suffix, rest) := by
  induction draws with
  | nil =>
    obtain ⟨suffix, mem, -⟩ := free
    cases mem
  | cons first draws ih =>
    by_cases given : idOf stem first ∈ g.issued
    · obtain ⟨suffix, mem, new⟩ := free
      have later : suffix ∈ draws := (List.mem_cons.mp mem).resolve_left fun same =>
        new (same ▸ given)
      obtain ⟨drawn, there, rest, found⟩ := ih ⟨suffix, later, new⟩
      refine ⟨drawn, List.mem_cons_of_mem _ there, rest, ?_⟩
      rw [freshId?, if_pos (List.contains_iff_mem.mpr given), found]
    · refine ⟨first, List.mem_cons_self, draws, ?_⟩
      rw [freshId?, if_neg (mt List.contains_iff_mem.mp given)]

/-- A node that is added has an id that was never given, and stands behind the others. -/
theorem add?_eq_some {g h : Graph} {stem : String} {draws : List String} {body : NodeBody} {n : Node}
    (added : g.add? stem draws body = some (n, h)) : n.id ∉ g.issued ∧ h = g.push n := by
  obtain ⟨⟨id, rest⟩, drawn, heq⟩ := Option.map_eq_some_iff.mp added
  cases heq
  exact ⟨freshId?_not_mem drawn, rfl⟩

/-- So does a template that is placed. -/
theorem place?_eq_some {p : Palette} {key : String} {g h : Graph} {r : Registry}
    {draws : List String} {position : Position} {n : Node}
    (placed : p.place? key g r draws position = some (n, h)) : n.id ∉ g.issued ∧ h = g.push n := by
  obtain ⟨template, -, added⟩ := Option.bind_eq_some_iff.mp placed
  exact add?_eq_some added

/-- A node is inserted exactly if its id was never given. -/
theorem insert?_eq_some_iff {g h : Graph} {id : String} {body : NodeBody} :
    g.insert? id body = some h ↔ id ∉ g.issued ∧ h = g.push ⟨body, id⟩ := by
  simp only [insert?, Option.ite_none_left_eq_some, List.contains_iff_mem, Option.some.injEq]
  exact and_congr_right fun _ => eq_comm

/-- Behind the first of several nodes with different ids, none of which was given, the ids of the
others are not given either. -/
theorem fresh_push {g : Graph} {n : Node} {nodes : List Node}
    (distinct : ((n :: nodes).map (·.id)).Nodup) (fresh : ∀ m ∈ n :: nodes, m.id ∉ g.issued) :
    ∀ m ∈ nodes, m.id ∉ (g.push n).issued := by
  intro m hm given
  rcases List.mem_cons.mp given with same | given
  · exact (List.nodup_cons.mp distinct).1 (List.mem_map.mpr ⟨m, hm, same⟩)
  · exact fresh m (List.mem_cons_of_mem _ hm) given

/-! ## Taking something away -/

/-- A node is removed exactly if it is there, and its edges go with it. -/
theorem remove?_eq_some_iff {g h : Graph} {id : String} {n : Node} :
    g.remove? id = some (n, h) ↔ g.node? id = some n ∧
      h = { g with
        nodes := g.nodes.eraseP (·.id == id)
        edges := g.edges.filter fun e => !e.touches id } := by
  unfold remove?
  rw [Option.map_eq_some_iff]
  constructor
  · rintro ⟨_, found, ⟨⟩⟩
    exact ⟨found, rfl⟩
  · rintro ⟨found, rfl⟩
    exact ⟨n, found, rfl⟩

/-- An edge is taken away exactly if it is there. -/
theorem disconnect?_eq_some_iff {g h : Graph} {id : String} {e : Edge} :
    g.disconnect? id = some (e, h) ↔
      g.edge? id = some e ∧ h = { g with edges := g.edges.eraseP (·.id == id) } := by
  unfold disconnect?
  rw [Option.map_eq_some_iff]
  constructor
  · rintro ⟨_, found, ⟨⟩⟩
    exact ⟨found, rfl⟩
  · rintro ⟨found, rfl⟩
    exact ⟨e, found, rfl⟩

/-! ## One edit -/

/-- An edit that answers with a value does what its result says, and none that finds nothing. -/
theorem orElse_change {α : Type} {g : Graph} {answer : Option α → EditAnswer}
    {result : Option (α × Graph)} (nothing : (answer none).handedOut? = none)
    (something : ∀ a h, result = some (a, h) → Change g (answer (some a)).handedOut? h) :
    Change g (g.orElse answer result).1.handedOut? (g.orElse answer result).2 := by
  cases result with
  | none =>
    simp only [orElse, nothing]
    exact .kept
  | some found => exact something found.1 found.2 rfl

/-- **Every edit is a change**: whatever is asked for, the graph behind it is the graph in front of
it or comes of one of the six ways. -/
theorem apply_change (g : Graph) (edit : Edit) :
    Change g (g.apply edit).1.handedOut? (g.apply edit).2 := by
  cases edit with
  | add stem draws body =>
    refine orElse_change rfl fun n h added => ?_
    obtain ⟨fresh, rfl⟩ := add?_eq_some added
    exact .placed n fresh
  | insert id body =>
    refine orElse_change rfl fun n h inserted => ?_
    obtain ⟨h', hins, heq⟩ := Option.map_eq_some_iff.mp inserted
    cases heq
    obtain ⟨fresh, rfl⟩ := insert?_eq_some_iff.mp hins
    exact .placed _ fresh
  | place palette key registry draws position =>
    refine orElse_change rfl fun n h placed => ?_
    obtain ⟨fresh, rfl⟩ := place?_eq_some placed
    exact .placed n fresh
  | remove id =>
    refine orElse_change rfl fun n h removed => ?_
    obtain ⟨-, rfl⟩ := remove?_eq_some_iff.mp removed
    exact .removed id
  | connect candidate =>
    simp only [apply]
    cases connected : g.connect candidate with
    | error reason => exact .kept
    | ok result =>
      obtain ⟨e, h⟩ := result
      obtain ⟨checked, hid, rfl⟩ := connect_eq_ok_iff.mp connected
      obtain ⟨-, -, -, -, joinable, new⟩ := check_eq_ok_iff.mp checked
      exact .connected e joinable new hid
  | disconnect id =>
    refine orElse_change rfl fun e h disconnected => ?_
    obtain ⟨-, rfl⟩ := disconnect?_eq_some_iff.mp disconnected
    exact .disconnected id
  | clear => exact .cleared
  | configure id edit => exact .modified id _ fun _ => rfl
  | move id position => exact .modified id _ fun _ => rfl

/-! ## Histories -/

/-- A history in two parts is carried out one part behind the other. -/
theorem run_append (g : Graph) (edits later : List Edit) :
    g.run (edits ++ later) = (g.run edits).run later := List.foldl_append

/-- One more edit leads on from a reachable graph. -/
theorem Reachable.apply {g : Graph} (reached : g.Reachable) (edit : Edit) :
    (g.apply edit).2.Reachable := by
  obtain ⟨edits, rfl⟩ := reached
  exact ⟨edits ++ [edit], run_append empty edits [edit]⟩

/-- **A history keeps what each edit keeps.** -/
theorem run_keeps {P : Graph → Prop} (step : ∀ g edit, P g → P (g.apply edit).2) {g : Graph}
    (start : P g) (edits : List Edit) : P (g.run edits) := by
  induction edits generalizing g with
  | nil => exact start
  | cons edit edits ih => exact ih (step g edit start)

end Graph

end BlockPipeline
