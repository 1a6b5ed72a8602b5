import BlockPipeline.Proofs.Graph.Search

/-!
# The search, step by step

The search for a cycle calls itself, and a bound on the depth keeps it total. Here it is taken apart
into steps that have no bound (`Step`): the visits that have begun and not ended stand in a list,
each with the successors that it has still to look at, and a step concerns the innermost of them. It
looks at one more successor, or the visit ends.

On every graph there is an end to this. A node is entered only while it has no mark, and marks are
never taken back; so each is entered once, and what is left to do gets less with every step
(`Moment.work`).

And on every graph the steps are those of the search. What a visit comes to is known from the state
in which it began: `visit` says it. So each moment says what is still to come (`Resumes`): going on
from the state that is reached, the innermost visit comes to what `visit` makes of the state in
which it began, and going on from there so does the one around it, and in the end the search comes
to what `search` says. A step changes nothing in this. So what a visit leaves behind when it ends is
what `visit` leaves behind, and in a well-formed graph it is known what that is (`visit_ends`).

| Statement | In words | From |
| --- | --- | --- |
| `Comes.tracked` | no node is entered twice | `Moment.Tracked.step` |
| `Comes.le_limit`, `Comes.exists_answer` | the steps are few, and lead to an answer | `work_step` |
| `Comes.resumes` | what is still to come stays what it was | `Resumes.step`, `visit_unfold` |
| `Comes.returned`, `Comes.answer_eq` | a visit ends as `visit` says, and all of it as `findCycle?` says | `Comes.resumes` |
| `Comes.sound` | the stack is a path, and holds the open visits | `Moment.Sound.step`, `Moment.Sound.visited` |
| `search_in_steps` | all of it | these, `Walk.cycleThrough_of_mem` |
-/

set_option autoImplicit false

namespace BlockPipeline

namespace Graph

open Relation (ReflTransGen)

/-! ## Steps -/

/-- A visit that has begun and not ended. -/
structure OpenVisit where
  id : String
  /-- The successors that are still to be looked at. -/
  ahead : List String
  /-- The state in which the visit began. -/
  before : Walk

/-- The search between two steps. -/
structure Moment where
  walk : Walk
  /-- The visits that have begun and not ended, innermost first. -/
  visits : List OpenVisit
  /-- The nodes from which the search is still to begin. -/
  waiting : List Node
  /-- The nodes that were entered so far, the latest first. -/
  entered : List String

namespace Moment

/-- Before the first step. -/
def start (g : Graph) : Moment := ⟨{}, [], g.nodes, []⟩

/-- The moment at which the visit of a node has begun. -/
def enter (m : Moment) (g : Graph) (id : String) : Moment :=
  { m with
    walk := m.walk.enter id
    visits := ⟨id, g.successors id, m.walk⟩ :: m.visits
    entered := id :: m.entered }

end Moment

/-- **One step of the search.** Where no visit is open the next node is taken; else the innermost
visit looks at its next successor, or ends. -/
inductive Step (g : Graph) : Moment → Moment → Prop
  /-- A node that has a mark is passed over. -/
  | skips {w : Walk} {n : Node} {waiting : List Node} {entered : List String}
      (marked : (w.mark? n.id).isSome = true) :
      Step g ⟨w, [], n :: waiting, entered⟩ ⟨w, [], waiting, entered⟩
  | begins {w : Walk} {n : Node} {waiting : List Node} {entered : List String}
      (bare : w.mark? n.id = none) :
      Step g ⟨w, [], n :: waiting, entered⟩ (Moment.enter ⟨w, [], waiting, entered⟩ g n.id)
  /-- A successor with which the search is done is passed over. -/
  | passes {w before : Walk} {id next : String} {ahead : List String} {outer : List OpenVisit}
      {waiting : List Node} {entered : List String} (done : w.mark? next = some .done) :
      Step g ⟨w, ⟨id, next :: ahead, before⟩ :: outer, waiting, entered⟩
        ⟨w, ⟨id, ahead, before⟩ :: outer, waiting, entered⟩
  | descends {w before : Walk} {id next : String} {ahead : List String} {outer : List OpenVisit}
      {waiting : List Node} {entered : List String} (bare : w.mark? next = none) :
      Step g ⟨w, ⟨id, next :: ahead, before⟩ :: outer, waiting, entered⟩
        (Moment.enter ⟨w, ⟨id, ahead, before⟩ :: outer, waiting, entered⟩ g next)
  /-- A visit that has looked at all successors ends. -/
  | returns {w before : Walk} {id : String} {outer : List OpenVisit} {waiting : List Node}
      {entered : List String} :
      Step g ⟨w, ⟨id, [], before⟩ :: outer, waiting, entered⟩ ⟨w.leave id, outer, waiting, entered⟩

/-- **How the search ends**: with nothing, when there is no node left, or with a cycle, when the
innermost visit looks at a successor that is being visited. No visit ends before that. -/
inductive Moment.Answers : Moment → Option (List String) → Prop
  | exhausted {w : Walk} {entered : List String} : Answers ⟨w, [], [], entered⟩ none
  | closes {w before : Walk} {id next : String} {ahead : List String} {outer : List OpenVisit}
      {waiting : List Node} {entered : List String} (visiting : w.mark? next = some .visiting) :
      Answers ⟨w, ⟨id, next :: ahead, before⟩ :: outer, waiting, entered⟩
        (some (w.cycleThrough next))

/-- The moments of the search, each with the number of steps that lead to it. -/
inductive Comes (g : Graph) : Nat → Moment → Prop
  | start : Comes g 0 (.start g)
  | step {k : Nat} {m later : Moment} (comes : Comes g k m) (step : g.Step m later) :
    Comes g (k + 1) later

/-- The search goes on from every moment, or ends there. -/
theorem step_or_answers (g : Graph) (m : Moment) :
    (∃ later, g.Step m later) ∨ ∃ answer, m.Answers answer := by
  obtain ⟨w, visits, waiting, entered⟩ := m
  rcases visits with _ | ⟨⟨id, _ | ⟨next, ahead⟩, before⟩, outer⟩
  · cases waiting with
    | nil => exact .inr ⟨_, .exhausted⟩
    | cons n waiting =>
      cases marked : w.mark? n.id with
      | none => exact .inl ⟨_, .begins marked⟩
      | some mark => exact .inl ⟨_, .skips (by rw [marked]; rfl)⟩
  · exact .inl ⟨_, .returns⟩
  · cases marked : w.mark? next with
    | none => exact .inl ⟨_, .descends marked⟩
    | some mark =>
      cases mark with
      | visiting => exact .inr ⟨_, .closes marked⟩
      | done => exact .inl ⟨_, .passes marked⟩

/-! ## On every graph the search ends -/

variable {g : Graph} {m later : Moment}

/-- **What was entered has a mark**, and was entered once; what may be entered is mentioned. -/
structure Moment.Tracked (g : Graph) (m : Moment) : Prop where
  once : m.entered.Nodup
  marked : ∀ id ∈ m.entered, (m.walk.mark? id).isSome = true
  ahead : ∀ v ∈ m.visits, v.ahead ⊆ g.mentioned
  waiting : ∀ n ∈ m.waiting, n.id ∈ g.mentioned

namespace Moment.Tracked

theorem start (g : Graph) : (Moment.start g).Tracked g where
  once := List.nodup_nil
  marked := nofun
  ahead := nofun
  waiting _ hn := g.nodeIds_subset_mentioned (List.mem_map_of_mem hn)

theorem enter (tracked : m.Tracked g) {id : String} (bare : m.walk.mark? id = none) :
    (m.enter g id).Tracked g where
  once := List.nodup_cons.mpr ⟨fun mem => by simpa [bare] using tracked.marked id mem, tracked.once⟩
  marked other mem := by
    show ((m.walk.enter id).mark? other).isSome = true
    rw [Walk.mark?_enter]
    split
    · rfl
    · next differs => exact tracked.marked other ((List.mem_cons.mp mem).resolve_left differs)
  ahead v hv := by
    rcases List.mem_cons.mp hv with rfl | hv
    · exact g.successors_subset id
    · exact tracked.ahead v hv
  waiting := tracked.waiting

/-- Taking the next node off the list. -/
theorem take {w : Walk} {visits : List OpenVisit} {n : Node} {waiting : List Node}
    {entered : List String} (tracked : Moment.Tracked g ⟨w, visits, n :: waiting, entered⟩) :
    Moment.Tracked g ⟨w, visits, waiting, entered⟩ :=
  { tracked with waiting := fun n hn => tracked.waiting n (List.mem_cons_of_mem _ hn) }

/-- Taking the next successor off the list. -/
theorem look {w before : Walk} {id next : String} {ahead : List String} {outer : List OpenVisit}
    {waiting : List Node} {entered : List String}
    (tracked : Moment.Tracked g ⟨w, ⟨id, next :: ahead, before⟩ :: outer, waiting, entered⟩) :
    Moment.Tracked g ⟨w, ⟨id, ahead, before⟩ :: outer, waiting, entered⟩ := by
  obtain ⟨here, others⟩ := List.forall_mem_cons.mp tracked.ahead
  have rest : ahead ⊆ g.mentioned := (List.cons_subset.mp here).2
  exact { tracked with ahead := List.forall_mem_cons.mpr ⟨rest, others⟩ }

/-- A step enters no node once more. -/
theorem step (tracked : m.Tracked g) (step : g.Step m later) : later.Tracked g := by
  cases step with
  | skips => exact tracked.take
  | begins bare => exact tracked.take.enter bare
  | passes => exact tracked.look
  | descends bare => exact tracked.look.enter bare
  | returns =>
    refine ⟨tracked.once, fun other mem => ?_, (List.forall_mem_cons.mp tracked.ahead).2,
      tracked.waiting⟩
    rw [Walk.mark?_leave]
    split
    · rfl
    · exact tracked.marked other mem

end Moment.Tracked

/-- **No node is entered twice.** -/
theorem Comes.tracked {k : Nat} (comes : g.Comes k m) : m.Tracked g := by
  induction comes with
  | start => exact .start g
  | step _ step ih => exact ih.step step

/-- **What is left to do**: the nodes from which the search has not begun, what is ahead of each
open visit and its end, and for each id without a mark a visit with no more successors than there
are edges. -/
def Moment.work (g : Graph) (m : Moment) : Nat :=
  m.waiting.length + m.visits.foldr (fun v rest => v.ahead.length + 1 + rest) 0 +
    (g.edges.length + 2) * m.walk.bare g

/-- More steps than this the search does not take. -/
def stepLimit (g : Graph) : Nat :=
  g.nodes.length + (g.edges.length + 2) * (g.nodes.length + g.edges.length)

theorem work_start_le (g : Graph) : (Moment.start g).work g ≤ g.stepLimit :=
  Nat.add_le_add_left (Nat.mul_le_mul_left _ (Walk.bare_le g {})) _

/-- Entering a node takes more off what is left to do than the visit adds to it. -/
theorem work_enter (g : Graph) (m : Moment) {id : String} (bare : m.walk.mark? id = none)
    (mem : id ∈ g.mentioned) : (m.enter g id).work g + 1 ≤ m.work g := by
  have successors : (g.successors id).length ≤ g.edges.length := by
    rw [successors, List.length_map]
    exact List.length_filter_le _ _
  have entered : (m.walk.enter id).bare g < m.walk.bare g := Walk.countP_bare_enter_lt bare mem
  have fewer := Nat.mul_le_mul_left (g.edges.length + 2) (Nat.succ_le_of_lt entered)
  rw [Nat.mul_succ] at fewer
  simp only [Moment.work, Moment.enter, List.foldr_cons]
  omega

/-- **Behind each step there is less to do.** -/
theorem work_step (tracked : m.Tracked g) (step : g.Step m later) :
    later.work g + 1 ≤ m.work g := by
  cases step with
  | skips =>
    simp only [Moment.work, List.length_cons]
    omega
  | @begins w n waiting entered bare =>
    have entering := work_enter g ⟨w, [], waiting, entered⟩ bare
      (tracked.waiting n List.mem_cons_self)
    simp only [Moment.work, List.length_cons] at entering ⊢
    omega
  | passes =>
    simp only [Moment.work, List.foldr_cons, List.length_cons]
    omega
  | @descends w before id next ahead outer waiting entered bare =>
    have entering := work_enter g ⟨w, ⟨id, ahead, before⟩ :: outer, waiting, entered⟩ bare
      (tracked.ahead _ List.mem_cons_self List.mem_cons_self)
    simp only [Moment.work, List.foldr_cons, List.length_cons] at entering ⊢
    omega
  | @returns w before id outer waiting entered =>
    have fewer := Nat.mul_le_mul_left (g.edges.length + 2) (w.bare_leave_le g id)
    simp only [Moment.work, List.foldr_cons, List.length_nil]
    omega

/-- **The steps are no more than the limit.** -/
theorem Comes.le_limit {k : Nat} (comes : g.Comes k m) : k ≤ g.stepLimit := by
  have spent : k + m.work g ≤ g.stepLimit := by
    induction comes with
    | start => exact (Nat.zero_add _).trans_le g.work_start_le
    | step comes step ih =>
      have less := work_step comes.tracked step
      omega
  exact (Nat.le_add_right _ _).trans spent

/-- From each moment the search comes to its end. -/
theorem Comes.exists_answer {k : Nat} (comes : g.Comes k m) :
    ∃ k last answer, g.Comes k last ∧ last.Answers answer := by
  induction left : m.work g using Nat.strong_induction_on generalizing k m with
  | _ work ih =>
    rcases step_or_answers g m with ⟨later, step⟩ | ⟨answer, ended⟩
    · have less := work_step comes.tracked step
      exact ih (later.work g) (by omega) (comes.step step) rfl
    · exact ⟨k, m, answer, comes, ended⟩

/-! ## The steps are those of the search -/

/-- The depth that the search gives to the visits it begins. -/
abbrev searchDepth (g : Graph) : Nat := g.nodes.length + g.edges.length

/-- A visit without its bound: that of the visits below it may be the same. -/
theorem visit_unfold {w : Walk} {id : String} (bare : w.mark? id = none) (mem : id ∈ g.mentioned) :
    g.visit g.searchDepth w id = ((g.successors id).foldlM (g.follow g.searchDepth) (w.enter id) >>=
      fun w => pure (w.leave id)) := by
  rw [← visit_of_le (Nat.le_succ _) bare mem (w.bare_le g), visit_succ]

/-- **What is still to come**: going on from the result, each open visit comes to what `visit` makes
of the state in which it began, and the search to what `search` says. -/
inductive Resumes (g : Graph) (waiting : List Node) :
    Except (List String) Walk → List OpenVisit → Prop
  | whole {result : Except (List String) Walk}
      (rest : (result >>= fun w => waiting.foldlM g.begin w) = g.search) :
      Resumes g waiting result []
  | within {result : Except (List String) Walk} {v : OpenVisit} {outer : List OpenVisit}
      (own : (result >>= fun w => v.ahead.foldlM (g.follow g.searchDepth) w >>=
        fun w => pure (w.leave v.id)) = g.visit g.searchDepth v.before v.id)
      (others : Resumes g waiting (g.visit g.searchDepth v.before v.id) outer) :
      Resumes g waiting result (v :: outer)

/-- A step changes nothing in what is still to come. -/
theorem Resumes.step (tracked : m.Tracked g) (resumes : g.Resumes m.waiting (.ok m.walk) m.visits)
    (step : g.Step m later) : g.Resumes later.waiting (.ok later.walk) later.visits := by
  cases step with
  | @skips w n _ _ marked =>
    obtain ⟨rest⟩ := resumes
    refine .whole (Eq.trans ?_ rest)
    have passed : g.begin w n = .ok w := if_pos marked
    simp only [ok_bind, List.foldlM_cons, passed]
  | @begins w n _ _ bare =>
    obtain ⟨rest⟩ := resumes
    have first : g.begin w n = g.visit g.searchDepth w n.id := if_neg (by rw [bare]; exact nofun)
    rw [ok_bind, List.foldlM_cons, first] at rest
    exact .within (visit_unfold bare (tracked.waiting n List.mem_cons_self)).symm (.whole rest)
  | @passes w before id next ahead outer _ _ done =>
    obtain _ | ⟨own, others⟩ := resumes
    refine .within (Eq.trans ?_ own) others
    have passed : g.follow g.searchDepth w next = .ok w := by rw [follow, done]
    simp only [ok_bind, List.foldlM_cons, passed]
  | @descends w before id next ahead outer _ _ bare =>
    obtain _ | ⟨own, others⟩ := resumes
    have first : g.follow g.searchDepth w next = g.visit g.searchDepth w next := by
      rw [follow, bare]
    rw [ok_bind, List.foldlM_cons, first, bind_assoc] at own
    have mem : next ∈ g.mentioned := tracked.ahead _ List.mem_cons_self List.mem_cons_self
    exact .within (visit_unfold bare mem).symm (.within own others)
  | returns =>
    obtain _ | ⟨own, others⟩ := resumes
    rw [← own] at others
    exact others

theorem Comes.resumes {k : Nat} (comes : g.Comes k m) :
    g.Resumes m.waiting (.ok m.walk) m.visits := by
  induction comes with
  | start => exact .whole rfl
  | step comes step ih => exact ih.step comes.tracked step

/-- **A visit that has looked at all successors ends as `visit` says.** -/
theorem Comes.returned {k : Nat} (comes : g.Comes k m) {id : String} {before : Walk}
    {outer : List OpenVisit} (top : m.visits = ⟨id, [], before⟩ :: outer) :
    g.visit g.searchDepth before id = .ok (m.walk.leave id) := by
  have resumes := comes.resumes
  rw [top] at resumes
  obtain _ | ⟨own, -⟩ := resumes
  exact own.symm

/-- A cycle ends the search, whatever visits are open. -/
theorem Resumes.search_of_error {waiting : List Node} {path : List String}
    {visits : List OpenVisit} (resumes : g.Resumes waiting (.error path) visits) :
    g.search = .error path := by
  induction visits with
  | nil =>
    obtain ⟨rest⟩ := resumes
    exact rest.symm
  | cons v outer ih =>
    obtain _ | ⟨own, others⟩ := resumes
    rw [← own] at others
    exact ih others

/-- **The answer of the steps is that of the search.** -/
theorem Comes.answer_eq {k : Nat} (comes : g.Comes k m) {answer : Option (List String)}
    (answers : m.Answers answer) : answer = g.findCycle? := by
  have resumes := comes.resumes
  cases answers with
  | @exhausted w _ =>
    obtain ⟨rest⟩ := resumes
    have searched : g.search = .ok w := rest.symm
    rw [findCycle?, searched]
  | @closes w before id next ahead outer _ _ visiting =>
    obtain _ | ⟨own, others⟩ := resumes
    have found : g.follow g.searchDepth w next = .error (w.cycleThrough next) := by
      rw [follow, visiting]
    rw [ok_bind, List.foldlM_cons, found] at own
    rw [← own] at others
    rw [findCycle?, Resumes.search_of_error others]

/-! ## In a well-formed graph -/

/-- What `visit` asks of the state in which it begins, and what is ahead of the visit. -/
structure OpenVisit.Begun (g : Graph) (v : OpenVisit) : Prop where
  sound : v.before.Sound g
  bare : v.before.mark? v.id = none
  node : v.id ∈ g.nodeIds
  arc : ∀ outer ∈ v.before.stack.head?, g.Arc outer v.id
  ahead : ∀ next ∈ v.ahead, g.Arc v.id next

/-- **What holds at every moment of the search**: the stack is a path, and holds the open visits. -/
structure Moment.Sound (g : Graph) (m : Moment) : Prop where
  walk : m.walk.Sound g
  stack : m.visits.map (·.id) = m.walk.stack
  begun : ∀ v ∈ m.visits, v.Begun g
  waiting : ∀ n ∈ m.waiting, n ∈ g.nodes

namespace Moment.Sound

theorem start (g : Graph) : (Moment.start g).Sound g := ⟨.start g, rfl, nofun, fun _ hn => hn⟩

theorem enter (sound : m.Sound g) {id : String} (bare : m.walk.mark? id = none)
    (node : id ∈ g.nodeIds) (arc : ∀ outer ∈ m.walk.stack.head?, g.Arc outer id) :
    (m.enter g id).Sound g where
  walk := sound.walk.enter bare node arc
  stack := congrArg (id :: ·) sound.stack
  begun := List.forall_mem_cons.mpr
    ⟨⟨sound.walk, bare, node, arc, fun _ => mem_successors.mp⟩, sound.begun⟩
  waiting := sound.waiting

theorem take {w : Walk} {visits : List OpenVisit} {n : Node} {waiting : List Node}
    {entered : List String} (sound : Moment.Sound g ⟨w, visits, n :: waiting, entered⟩) :
    Moment.Sound g ⟨w, visits, waiting, entered⟩ :=
  { sound with waiting := fun n hn => sound.waiting n (List.mem_cons_of_mem _ hn) }

theorem look {w before : Walk} {id next : String} {ahead : List String} {outer : List OpenVisit}
    {waiting : List Node} {entered : List String}
    (sound : Moment.Sound g ⟨w, ⟨id, next :: ahead, before⟩ :: outer, waiting, entered⟩) :
    Moment.Sound g ⟨w, ⟨id, ahead, before⟩ :: outer, waiting, entered⟩ := by
  obtain ⟨here, others⟩ := List.forall_mem_cons.mp sound.begun
  have rest : OpenVisit.Begun g ⟨id, ahead, before⟩ :=
    { here with ahead := fun a h => here.ahead a (List.mem_cons_of_mem _ h) }
  exact { sound with begun := List.forall_mem_cons.mpr ⟨rest, others⟩ }

/-- **Behind a visit that has looked at all successors** the stack is what it was before it and
marks are kept, and the search is done with the node. -/
theorem visited (wf : g.WellFormed) {k : Nat} (comes : g.Comes k m) (sound : m.Sound g)
    {id : String} {before : Walk} {outer : List OpenVisit}
    (top : m.visits = ⟨id, [], before⟩ :: outer) :
    Visited g before id (m.walk.leave id) := by
  obtain ⟨soundBefore, bare, node, arc, -⟩ := sound.begun _ (top ▸ List.mem_cons_self)
  have ends := visit_ends wf g.searchDepth before id soundBefore bare node arc
    (before.unmarked_le_add _)
  rw [comes.returned top] at ends
  exact ends

/-- **A step keeps all this.** -/
theorem step (wf : g.WellFormed) {k : Nat} (comes : g.Comes k m) (sound : m.Sound g)
    (step : g.Step m later) : later.Sound g := by
  cases step with
  | skips => exact sound.take
  | @begins w n _ _ bare =>
    have node : n.id ∈ g.nodeIds := List.mem_map_of_mem (sound.waiting n List.mem_cons_self)
    have empty : w.stack = [] := sound.stack.symm
    exact sound.take.enter bare node fun outer head => by simp [empty] at head
  | passes => exact sound.look
  | @descends w before id next ahead outer _ _ bare =>
    have arc : g.Arc id next :=
      (sound.begun _ List.mem_cons_self).ahead next List.mem_cons_self
    refine sound.look.enter bare (wf.arc_nodes arc).2.1 fun inner head => ?_
    -- the innermost node on the stack is that of the innermost visit
    have top : w.stack = id :: outer.map (·.id) := sound.stack.symm
    obtain rfl : id = inner := by simpa [top] using head
    exact arc
  | @returns w before id outer _ _ =>
    have top : id :: outer.map (·.id) = w.stack := sound.stack
    exact {
      walk := (visited wf comes sound rfl).sound
      stack := congrArg List.tail top
      begun := (List.forall_mem_cons.mp sound.begun).2
      waiting := sound.waiting }

end Moment.Sound

theorem Comes.sound (wf : g.WellFormed) {k : Nat} (comes : g.Comes k m) : m.Sound g := by
  induction comes with
  | start => exact .start g
  | step comes step ih => exact Moment.Sound.step wf comes ih step

/-- The search is done with all that can be reached from a node that it has visited. -/
theorem Visited.reached {w later : Walk} {id other : String} (visited : Visited g w id later)
    (reached : ReflTransGen g.Arc id other) : later.mark? other = some .done := by
  rcases Relation.reflTransGen_iff_eq_or_transGen.mp reached with rfl | reached
  · exact visited.done
  · exact visited.sound.reached visited.done reached

/-- **The search, step by step.** On every graph no node is entered twice, and the search ends
within a number of steps and with the answer of `findCycle?`. Behind every history of edits, at each
step: the stack has no repetitions and holds the open visits, which are the nodes being visited, and
edges lead along it from the outermost to the innermost; a successor that is being visited is found
on it, where the cycle begins; and when a visit ends, as `visit` says, the stack is what it was
before the visit, the marks from before are kept, and the search is done with all that edges lead to
from the node. -/
theorem search_in_steps :
    (∀ g : Graph,
      (∀ k m, g.Comes k m → m.entered.Nodup ∧ k ≤ g.stepLimit) ∧
      (∃ k last answer, g.Comes k last ∧ last.Answers answer) ∧
      ∀ k last answer, g.Comes k last → last.Answers answer → answer = g.findCycle?) ∧
    ∀ g : Graph, g.Reachable → ∀ k m, g.Comes k m →
      (m.walk.stack.Nodup ∧ m.walk.stack = m.visits.map (·.id) ∧
        (∀ id, id ∈ m.walk.stack ↔ m.walk.mark? id = some .visiting) ∧
        m.walk.stack.reverse.IsChain fun a b =>
          ∃ e ∈ g.edges, e.source.node = a ∧ e.target.node = b) ∧
      (∀ id next ahead before outer, m.visits = ⟨id, next :: ahead, before⟩ :: outer →
        m.walk.mark? next = some .visiting →
          ∃ front rest, m.walk.stack.reverse = front ++ next :: rest ∧
            m.walk.stack.reverse.idxOf? next = some front.length ∧
            m.walk.cycleThrough next = (next :: rest) ++ [next]) ∧
      ∀ id before outer, m.visits = ⟨id, [], before⟩ :: outer →
        g.visit g.searchDepth before id = .ok (m.walk.leave id) ∧
        (m.walk.leave id).stack = before.stack ∧
        (∀ other mark, before.mark? other = some mark →
          (m.walk.leave id).mark? other = some mark) ∧
        ∀ other,
          ReflTransGen (fun a b => ∃ e ∈ g.edges, e.source.node = a ∧ e.target.node = b) id other →
            (m.walk.leave id).mark? other = some .done := by
  refine ⟨fun g => ⟨fun k m comes => ⟨comes.tracked.once, comes.le_limit⟩,
    Comes.start.exists_answer, fun k last answer comes => comes.answer_eq⟩, ?_⟩
  intro g reached k m comes
  have wf := reached.wellFormed
  have sound := comes.sound wf
  refine ⟨⟨sound.walk.distinct, sound.stack.symm, fun id => (sound.walk.visiting id).symm,
    List.isChain_reverse.mpr sound.walk.path⟩, ?_, ?_⟩
  · intro id next ahead before outer _ visiting
    exact Walk.cycleThrough_of_mem ((sound.walk.visiting next).mp visiting)
  · intro id before outer top
    have visited := Moment.Sound.visited wf comes sound top
    exact ⟨comes.returned top, visited.kept.stack, visited.kept.marks, fun _ => visited.reached⟩

/-- From `a` one edge leads to where there is nothing more, and one to `b` and back. -/
def detourHistory : List Edit :=
  [.insert "a" junctionBody, .insert "b" junctionBody, .insert "c" junctionBody,
   .connect (.between "a" "p" "c" "q"), .connect (.between "a" "p" "b" "q"),
   .connect (.between "b" "p" "a" "q")]

/-- The visit of `c` ends and leaves `a` on the stack. Behind it the search enters `b`, and finds
`a` there. -/
theorem search_in_steps_detour :
    ∃ m closing, (empty.run detourHistory).Comes 2 m ∧ m.walk.stack = ["c", "a"] ∧
      (empty.run detourHistory).visit (empty.run detourHistory).searchDepth (({} : Walk).enter "a")
        "c" = .ok (m.walk.leave "c") ∧
      (m.walk.leave "c").stack = ["a"] ∧ (m.walk.leave "c").mark? "c" = some .done ∧
      (empty.run detourHistory).Comes 4 closing ∧ closing.walk.stack = ["b", "a"] ∧
      (∃ front rest, closing.walk.stack.reverse = front ++ "a" :: rest ∧
        closing.walk.cycleThrough "a" = ("a" :: rest) ++ ["a"]) ∧
      (empty.run detourHistory).findCycle? = some (closing.walk.cycleThrough "a") := by
  have reached : (empty.run detourHistory).Reachable := ⟨detourHistory, rfl⟩
  have entered : (empty.run detourHistory).Comes 2 _ :=
    (Comes.start.step (.begins rfl)).step (.descends rfl)
  have closing : (empty.run detourHistory).Comes 4 _ :=
    (entered.step .returns).step (.descends rfl)
  obtain ⟨visit, stack, -, done⟩ :=
    (search_in_steps.2 _ reached 2 _ entered).2.2 _ _ _ rfl
  obtain ⟨front, rest, split, -, cycle⟩ :=
    (search_in_steps.2 _ reached 4 _ closing).2.1 _ "a" _ _ _ rfl rfl
  have answer := (search_in_steps.1 _).2.2 4 _ _ closing (.closes rfl)
  exact ⟨_, _, entered, rfl, visit, stack, done "c" .refl, closing, rfl,
    ⟨front, rest, split, cycle⟩, answer.symm⟩

end Graph

end BlockPipeline
