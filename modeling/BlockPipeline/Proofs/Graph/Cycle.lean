import BlockPipeline.Graph.Cycle
import BlockPipeline.Proofs.Graph.WellFormed
import Mathlib.Data.List.Chain
import Mathlib.Logic.Relation

/-!
# The search finds a cycle exactly if there is one

An arc leads from one node to another where an edge does. The search is described by what holds of
its state between two steps (`Walk.Sound`): the stack is a path of arcs without repetitions and
holds exactly the nodes being visited, and no arc leads from a node that is done to one that is
not. So an arc to a node being visited closes a cycle, and a node is done only when no arcs lead
from it back to itself.

A node is entered only while it has no mark, and marks are never taken back, so the number of nodes
without a mark bounds the depth of the search (`Walk.unmarked`): the bound that is given to it is
never met.

| Statement | In words | From |
| --- | --- | --- |
| `cycleThrough_isCycle` | an arc to a node on the stack closes a cycle | `Walk.Sound.path` |
| `visit_ends` | below a node the search finds a cycle, or is done with the node and keeps all else | `follow_ends`, by induction on the depth |
| `findCycle?_isCycle` | what is found is a cycle | `search_ends` |
| `findCycle?_eq_none_iff` | nothing is found exactly if no arcs lead from a node back to it | `search_ends` |
| `findCycle?_exact` | both for every graph that a history of edits leads to | `Reachable.wellFormed` |
-/

set_option autoImplicit false

namespace BlockPipeline

namespace Graph

open Relation (TransGen)

/-! ## Arcs and cycles -/

/-- An edge leads from the one node to the other. -/
def Arc (g : Graph) (a b : String) : Prop := ∃ e ∈ g.edges, e.source.node = a ∧ e.target.node = b

/-- No arcs lead from a node back to it. -/
def Acyclic (g : Graph) : Prop := ∀ id, ¬ TransGen g.Arc id id

/-- **A cycle as it is reported**: along arcs through distinct nodes, of which the first one stands
at the end once more. -/
structure IsCycle (g : Graph) (path : List String) : Prop where
  length : 3 ≤ path.length
  closed : path.head? = path.getLast?
  distinct : path.dropLast.Nodup
  nodes : ∀ id ∈ path, id ∈ g.nodeIds
  arcs : path.IsChain g.Arc

theorem mem_successors {g : Graph} {a b : String} : b ∈ g.successors a ↔ g.Arc a b := by
  simp only [successors, outgoing, List.mem_map, List.mem_filter, beq_iff_eq, Arc, and_assoc]

/-- In a well-formed graph an arc joins two nodes that are there. -/
theorem WellFormed.arc_nodes {g : Graph} (wf : g.WellFormed) {a b : String} (arc : g.Arc a b) :
    a ∈ g.nodeIds ∧ b ∈ g.nodeIds ∧ a ≠ b := by
  obtain ⟨e, he, rfl, rfl⟩ := arc
  obtain ⟨n, hn, m, hm, hnid, hmid, differ, -⟩ := wf.edge_nodes he
  rw [← hnid, ← hmid]
  exact ⟨List.mem_map_of_mem hn, List.mem_map_of_mem hm, differ⟩

/-- Arcs along a list lead from its first node to its last one. -/
theorem transGen_of_isChain {g : Graph} {first last : String} {between : List String}
    (arcs : (first :: (between ++ [last])).IsChain g.Arc) : TransGen g.Arc first last := by
  induction between generalizing first with
  | nil => exact .single (List.isChain_cons_cons.mp arcs).1
  | cons next between ih =>
    obtain ⟨arc, arcs⟩ := List.isChain_cons_cons.mp arcs
    exact .head arc (ih arcs)

/-- A cycle leads from a node back to it. -/
theorem IsCycle.not_acyclic {g : Graph} {path : List String} (cycle : g.IsCycle path) :
    ¬ g.Acyclic := by
  obtain ⟨long, closed, -, -, arcs⟩ := cycle
  cases path with
  | nil => cases long
  | cons first rest =>
    rcases List.eq_nil_or_concat' rest with rfl | ⟨between, last, rfl⟩
    · simp only [List.length_singleton] at long
      omega
    · -- the last node is the first one
      have same : first = last := by simpa [List.getLast?_cons] using closed
      subst same
      exact fun acyclic => acyclic first (transGen_of_isChain arcs)

/-- Where every arc leads upwards there is no way back. -/
theorem acyclic_of_rank {g : Graph} (rank : String → Nat)
    (upwards : ∀ a b, g.Arc a b → rank a < rank b) : g.Acyclic := by
  intro id back
  have higher : ∀ other, TransGen g.Arc id other → rank id < rank other := by
    intro other way
    induction way with
    | single arc => exact upwards _ _ arc
    | tail _ arc ih => exact ih.trans (upwards _ _ arc)
  exact Nat.lt_irrefl _ (higher id back)

/-! ## The state of the search -/

/-- **What holds between two steps of the search.** -/
structure Walk.Sound (g : Graph) (w : Walk) : Prop where
  distinct : w.stack.Nodup
  /-- The stack holds the nodes being visited. -/
  visiting : ∀ id, w.mark? id = some .visiting ↔ id ∈ w.stack
  path : w.stack.IsChain fun inner outer => g.Arc outer inner
  nodes : ∀ id ∈ w.stack, id ∈ g.nodeIds
  /-- Whatever can be reached from a node that is done is done. -/
  closed : ∀ a b, w.mark? a = some .done → g.Arc a b → w.mark? b = some .done
  /-- No node that is done lies on a cycle. -/
  acyclic : ∀ id, w.mark? id = some .done → ¬ TransGen g.Arc id id

/-- A later state with the same stack, in which every mark is kept. -/
structure Walk.Extends (w later : Walk) : Prop where
  stack : later.stack = w.stack
  marks : ∀ id m, w.mark? id = some m → later.mark? id = some m

/-- The number of nodes without a mark. -/
def Walk.unmarked (g : Graph) (w : Walk) : Nat := g.nodeIds.countP fun id => (w.mark? id).isNone

namespace Walk

theorem Extends.refl (w : Walk) : w.Extends w := ⟨rfl, fun _ _ h => h⟩

theorem Extends.trans {w v u : Walk} (first : w.Extends v) (second : v.Extends u) : w.Extends u :=
  ⟨second.stack.trans first.stack, fun id m h => second.marks id m (first.marks id m h)⟩

@[simp] theorem stack_enter (w : Walk) (id : String) : (w.enter id).stack = id :: w.stack := rfl

@[simp] theorem stack_leave (w : Walk) (id : String) : (w.leave id).stack = w.stack.tail := rfl

@[simp] theorem mark?_enter (w : Walk) (id other : String) :
    (w.enter id).mark? other = if other = id then some .visiting else w.mark? other := by
  by_cases h : other = id
  · simp [enter, mark?, h]
  · simp [enter, mark?, List.lookup_cons, beq_false_of_ne h, h]

@[simp] theorem mark?_leave (w : Walk) (id other : String) :
    (w.leave id).mark? other = if other = id then some .done else w.mark? other := by
  by_cases h : other = id
  · simp [leave, mark?, h]
  · simp [leave, mark?, List.lookup_cons, beq_false_of_ne h, h]

/-- Marks are not taken back, so of any ids those without one get fewer. -/
theorem Extends.countP_bare_le {w later : Walk} (ext : w.Extends later) (ids : List String) :
    (ids.countP fun id => (later.mark? id).isNone) ≤ ids.countP fun id => (w.mark? id).isNone := by
  refine List.countP_mono_left fun id _ bare => ?_
  cases marked : w.mark? id with
  | none => rfl
  | some m => simp [ext.marks id m marked] at bare

theorem Extends.unmarked_le {w later : Walk} (ext : w.Extends later) (g : Graph) :
    later.unmarked g ≤ w.unmarked g :=
  ext.countP_bare_le g.nodeIds

/-- There are no more nodes without a mark than there are nodes. -/
theorem unmarked_le_add {g : Graph} (w : Walk) (k : Nat) : w.unmarked g ≤ g.nodes.length + k := by
  have count : w.unmarked g ≤ g.nodeIds.length := List.countP_le_length
  rw [nodeIds, List.length_map] at count
  exact Nat.le_add_right_of_le count

/-- Of any ids those without a mark get fewer when one of them is entered. -/
theorem countP_bare_enter_lt {w : Walk} {id : String} (bare : w.mark? id = none) {ids : List String}
    (mem : id ∈ ids) : (ids.countP fun other => ((w.enter id).mark? other).isNone) <
      ids.countP fun other => (w.mark? other).isNone := by
  obtain ⟨before, behind, rfl⟩ := List.append_of_mem mem
  have fewer : ∀ ids : List String,
      (ids.countP fun other => ((w.enter id).mark? other).isNone) ≤
        ids.countP fun other => (w.mark? other).isNone := fun ids =>
    List.countP_mono_left fun other _ h => by
      by_cases same : other = id <;> simp_all
  have front := fewer before
  have back := fewer behind
  simp only [List.countP_append, List.countP_cons, mark?_enter, bare] at front back ⊢
  simp only [↓reduceIte, Option.isNone_none, Option.isNone_some, Bool.false_eq_true]
  omega

/-- Entering a node marks it. -/
theorem unmarked_enter_lt {g : Graph} {w : Walk} {id : String} (bare : w.mark? id = none)
    (mem : id ∈ g.nodeIds) : (w.enter id).unmarked g < w.unmarked g :=
  countP_bare_enter_lt bare mem

/-- Before the search there are no marks, and nothing is on the stack. -/
theorem Sound.start (g : Graph) : Walk.Sound g {} := by
  have bare : ∀ id, ({} : Walk).mark? id = none := fun _ => rfl
  exact {
    distinct := List.nodup_nil
    visiting := fun id => by simp [bare]
    path := .nil
    nodes := nofun
    closed := fun _ _ done => by simp [bare] at done
    acyclic := fun _ done => by simp [bare] at done }

/-- The search may enter a node that has no mark, and to which an arc leads from the innermost node
on the stack. -/
theorem Sound.enter {g : Graph} {w : Walk} (sound : w.Sound g) {id : String}
    (bare : w.mark? id = none) (mem : id ∈ g.nodeIds)
    (arc : ∀ outer ∈ w.stack.head?, g.Arc outer id) : (w.enter id).Sound g where
  distinct := by
    refine List.nodup_cons.mpr ⟨fun onStack => ?_, sound.distinct⟩
    rw [(sound.visiting id).mpr onStack] at bare
    cases bare
  visiting other := by
    by_cases h : other = id
    · simp [h]
    · simpa [h] using sound.visiting other
  path := sound.path.cons arc
  nodes other onStack := by
    rcases List.mem_cons.mp onStack with rfl | onStack
    · exact mem
    · exact sound.nodes other onStack
  closed a b done arc := by
    have differs : a ≠ id := fun same => by simp [same] at done
    have kept := sound.closed a b (by simpa [differs] using done) arc
    have apart : b ≠ id := fun same => by
      rw [same, bare] at kept
      cases kept
    simpa [apart] using kept
  acyclic a done := by
    have differs : a ≠ id := fun same => by simp [same] at done
    exact sound.acyclic a (by simpa [differs] using done)

/-- What can be reached from a node that is done is done. -/
theorem Sound.reached {g : Graph} {w : Walk} (sound : w.Sound g) {a b : String}
    (done : w.mark? a = some .done) (reached : TransGen g.Arc a b) : w.mark? b = some .done := by
  induction reached with
  | single arc => exact sound.closed _ _ done arc
  | tail _ arc ih => exact sound.closed _ _ ih arc

/-- The search is done with the innermost node once it is done with all to which an arc leads from
there: if the node could be reached from one of these, it would be done already. -/
theorem Sound.leave {g : Graph} {w : Walk} (sound : w.Sound g) {id : String} {rest : List String}
    (top : w.stack = id :: rest) (below : ∀ next, g.Arc id next → w.mark? next = some .done) :
    (w.leave id).Sound g := by
  have visiting : w.mark? id = some .visiting :=
    (sound.visiting id).mpr (top ▸ List.mem_cons_self)
  have distinct : id ∉ rest ∧ rest.Nodup := List.nodup_cons.mp (top ▸ sound.distinct)
  exact {
    distinct := by simpa [top] using distinct.2
    visiting := fun other => by
      by_cases h : other = id
      · simp [h, top, distinct.1]
      · simpa [h, top] using sound.visiting other
    path := sound.path.tail
    nodes := fun other onStack => sound.nodes other (List.mem_of_mem_tail onStack)
    closed := fun a b done arc => by
      by_cases same : b = id
      · simp [same]
      · by_cases h : a = id
        · simpa [same] using below b (h ▸ arc)
        · simpa [same] using sound.closed a b (by simpa [h] using done) arc
    acyclic := fun a done => by
      by_cases h : a = id
      · intro cycle
        rw [h] at cycle
        obtain ⟨next, arc, back⟩ := TransGen.head'_iff.mp cycle
        have reached : w.mark? id = some .done := by
          rcases Relation.reflTransGen_iff_eq_or_transGen.mp back with rfl | back
          · exact below _ arc
          · exact sound.reached (below next arc) back
        rw [visiting] at reached
        cases reached
      · exact sound.acyclic a (by simpa [h] using done) }

/-- **A node on the stack is found there**, so the place that stands in for one that is not found is
never taken: the cycle is the part of the stack from that node on. -/
theorem cycleThrough_of_mem {w : Walk} {next : String} (onStack : next ∈ w.stack) :
    ∃ before behind, w.stack.reverse = before ++ next :: behind ∧
      w.stack.reverse.idxOf? next = some before.length ∧
      w.cycleThrough next = (next :: behind) ++ [next] := by
  obtain ⟨before, behind, split, new⟩ :=
    List.eq_append_cons_of_mem (List.mem_reverse.mpr onStack)
  have place : w.stack.reverse.idxOf? next = some before.length := by
    rw [split]
    refine List.idxOf?_eq_some_iff.mpr ⟨by simp, by simp, fun j hj same => new ?_⟩
    rw [List.getElem_append_left hj] at same
    exact same ▸ List.getElem_mem hj
  refine ⟨before, behind, split, place, ?_⟩
  simp only [cycleThrough, place, Option.getD_some]
  rw [split, List.drop_left]

/-- **An arc to a node on the stack closes a cycle**: the stack from that node on leads to the
innermost node, and the arc back. -/
theorem cycleThrough_isCycle {g : Graph} (wf : g.WellFormed) {w : Walk} (sound : w.Sound g)
    {id next : String} {rest : List String} (top : w.stack = id :: rest) (arc : g.Arc id next)
    (onStack : next ∈ w.stack) : g.IsCycle (w.cycleThrough next) := by
  obtain ⟨before, behind, split, -, cycle⟩ := cycleThrough_of_mem onStack
  -- the part of the stack from the node on leads to the innermost node
  have path : (next :: behind).IsChain g.Arc := by
    have whole : w.stack.reverse.IsChain g.Arc := List.isChain_reverse.mpr sound.path
    rw [split] at whole
    exact whole.right_of_append
  have last : (next :: behind).getLast? = some id := by
    have whole : w.stack.reverse.getLast? = some id := by rw [List.getLast?_reverse, top]; rfl
    rw [split] at whole
    rwa [List.getLast?_append_of_ne_nil _ (List.cons_ne_nil _ _)] at whole
  have nodes : ∀ other ∈ next :: behind, other ∈ g.nodeIds := fun other h =>
    sound.nodes other (List.mem_reverse.mp (split ▸ List.mem_append_right before h))
  rw [cycle]
  refine ⟨?_, by rw [List.getLast?_concat]; rfl, ?_, ?_, ?_⟩
  · cases behind with
    | nil =>
      obtain rfl : next = id := by simpa using last
      exact absurd rfl (wf.arc_nodes arc).2.2
    | cons => simp
  · rw [List.dropLast_concat]
    have whole : w.stack.reverse.Nodup := List.nodup_reverse.mpr sound.distinct
    rw [split] at whole
    exact (List.nodup_append.mp whole).2.1
  · intro other h
    rcases List.mem_append.mp h with h | h
    · exact nodes other h
    · exact nodes other (List.mem_singleton.mp h ▸ List.mem_cons_self)
  · refine path.append (List.isChain_singleton _) fun a ha b hb => ?_
    obtain rfl : id = a := Option.some.inj (last.symm.trans ha)
    obtain rfl : next = b := by simpa using hb
    exact arc

end Walk

/-! ## The search -/

/-- **What a part of the search comes to**: a cycle, which ends all of it, or a state behind it. -/
def Ends (g : Graph) (behind : Walk → Prop) : Except (List String) Walk → Prop
  | .ok w => behind w
  | .error path => g.IsCycle path

/-- Two parts of the search one behind the other. -/
theorem Ends.bind {g : Graph} {middle behind : Walk → Prop} {first : Except (List String) Walk}
    {second : Walk → Except (List String) Walk} (ends : Ends g middle first)
    (next : ∀ w, middle w → Ends g behind (second w)) : Ends g behind (first >>= second) := by
  cases first with
  | error path => exact ends
  | ok w => exact next w ends

theorem Ends.mono {g : Graph} {behind weaker : Walk → Prop} {result : Except (List String) Walk}
    (ends : Ends g behind result) (imp : ∀ w, behind w → weaker w) : Ends g weaker result := by
  cases result with
  | error path => exact ends
  | ok w => exact imp w ends

/-- The step along one arc. -/
def follow (g : Graph) (depth : Nat) (w : Walk) (next : String) : Except (List String) Walk :=
  match w.mark? next with
  | some .visiting => .error (w.cycleThrough next)
  | some .done => .ok w
  | none => g.visit depth w next

theorem visit_succ (g : Graph) (depth : Nat) (w : Walk) (id : String) :
    g.visit (depth + 1) w id =
      ((g.successors id).foldlM (g.follow depth) (w.enter id) >>= fun w => pure (w.leave id)) := rfl

/-- What the search has come to behind a node: all is as before, and it is done with the node. -/
structure Visited (g : Graph) (w : Walk) (id : String) (later : Walk) : Prop where
  sound : later.Sound g
  kept : w.Extends later
  done : later.mark? id = some .done

/-- That the search below a node comes to an end, for each node that it may enter. -/
def VisitEnds (g : Graph) (depth : Nat) : Prop :=
  ∀ (w : Walk) (id : String), w.Sound g → w.mark? id = none → id ∈ g.nodeIds →
    (∀ outer ∈ w.stack.head?, g.Arc outer id) → w.unmarked g ≤ depth →
      Ends g (Visited g w id) (g.visit depth w id)

/-- Along each arc from the innermost node the search finds a cycle or is done with the target. -/
theorem follow_ends {g : Graph} (wf : g.WellFormed) {depth : Nat} (below : VisitEnds g depth)
    {w : Walk} (sound : w.Sound g) {id next : String} {rest : List String}
    (top : w.stack = id :: rest) (arc : g.Arc id next) (deep : w.unmarked g ≤ depth) :
    Ends g (Visited g w next) (g.follow depth w next) := by
  unfold follow
  split
  next visiting => exact Walk.cycleThrough_isCycle wf sound top arc ((sound.visiting next).mp visiting)
  next done => exact ⟨sound, .refl w, done⟩
  next bare =>
    refine below w next sound bare (wf.arc_nodes arc).2.1 (fun outer head => ?_) deep
    obtain rfl : id = outer := by simpa [top] using head
    exact arc

/-- **A run of steps, each of which visits a node**, finds a cycle or is done with all of these nodes.
What a step needs is the stack, and a bound on the nodes without a mark. -/
theorem foldlM_ends {g : Graph} {α : Type} {step : Walk → α → Except (List String) Walk}
    (id : α → String) {stack : List String} {bound : Nat} {items : List α}
    (each : ∀ a ∈ items, ∀ w : Walk, w.Sound g → w.stack = stack → w.unmarked g ≤ bound →
      Ends g (Visited g w (id a)) (step w a))
    {w : Walk} (sound : w.Sound g) (top : w.stack = stack) (deep : w.unmarked g ≤ bound) :
    Ends g (fun later => later.Sound g ∧ w.Extends later ∧
      ∀ a ∈ items, later.mark? (id a) = some .done) (items.foldlM step w) := by
  induction items generalizing w with
  | nil => exact ⟨sound, .refl w, nofun⟩
  | cons a items ih =>
    rw [List.foldlM_cons]
    refine (each a List.mem_cons_self w sound top deep).bind fun v visited => ?_
    have others := ih (fun b h => each b (List.mem_cons_of_mem _ h)) visited.sound
      (visited.kept.stack.trans top) ((visited.kept.unmarked_le g).trans deep)
    refine others.mono fun later ⟨soundLater, kept, done⟩ => ?_
    refine ⟨soundLater, visited.kept.trans kept, fun b h => ?_⟩
    rcases List.mem_cons.mp h with rfl | h
    · exact kept.marks _ _ visited.done
    · exact done b h

/-- **The search below a node** finds a cycle, or is done with the node and has kept the stack and
every mark. The nodes without a mark get fewer with each node that is entered, so the depth is
enough. -/
theorem visit_ends {g : Graph} (wf : g.WellFormed) (depth : Nat) : VisitEnds g depth := by
  induction depth with
  | zero =>
    intro w id _ bare mem _ deep
    have entered := Walk.unmarked_enter_lt bare mem
    omega
  | succ depth ih =>
    intro w id sound bare mem arc deep
    have entered := Walk.unmarked_enter_lt bare mem
    have each : ∀ next ∈ g.successors id, ∀ v : Walk, v.Sound g → v.stack = id :: w.stack →
        v.unmarked g ≤ depth → Ends g (Visited g v next) (g.follow depth v next) :=
      fun next h v soundThere top deep =>
        follow_ends wf ih soundThere top (mem_successors.mp h) deep
    have loop := foldlM_ends (fun next => next) each (sound.enter bare mem arc) rfl
      (Nat.le_of_lt_succ (entered.trans_le deep))
    rw [visit_succ]
    refine loop.bind fun later ⟨soundLater, extended, done⟩ => ?_
    have top : later.stack = id :: w.stack := extended.stack
    refine ⟨soundLater.leave top fun next arc => done next (mem_successors.mpr arc), ⟨?_, ?_⟩, ?_⟩
    · rw [Walk.stack_leave, top]
      rfl
    · intro other m marked
      have differs : other ≠ id := fun same => by
        rw [same, bare] at marked
        cases marked
      simpa [differs] using extended.marks other m (by simpa [differs] using marked)
    · simp

/-- One of the searches from a node that has no mark yet. -/
def begin (g : Graph) (w : Walk) (n : Node) : Except (List String) Walk :=
  if (w.mark? n.id).isSome then .ok w else g.visit (g.nodes.length + g.edges.length) w n.id

theorem search_eq (g : Graph) : g.search = g.nodes.foldlM g.begin {} := rfl

/-- From every node it finds a cycle, or it is done with the node. -/
theorem begin_ends {g : Graph} (wf : g.WellFormed) {w : Walk} (sound : w.Sound g)
    (top : w.stack = []) {n : Node} (hn : n ∈ g.nodes) :
    Ends g (Visited g w n.id) (g.begin w n) := by
  unfold begin
  cases marked : w.mark? n.id with
  | none =>
    exact visit_ends wf _ w n.id sound marked (List.mem_map_of_mem hn)
      (fun outer head => by simp [top] at head) (w.unmarked_le_add _)
  | some m =>
    cases m with
    | visiting =>
      -- between two of these searches nothing is being visited
      have onStack := (sound.visiting n.id).mp marked
      simp [top] at onStack
    | done => exact ⟨sound, .refl w, marked⟩

/-- **The whole search** finds a cycle, or is done with every node. -/
theorem search_ends {g : Graph} (wf : g.WellFormed) :
    Ends g (fun later => later.Sound g ∧ ∀ n ∈ g.nodes, later.mark? n.id = some .done)
      g.search := by
  have each : ∀ n ∈ g.nodes, ∀ w : Walk, w.Sound g → w.stack = [] →
      w.unmarked g ≤ Walk.unmarked g {} → Ends g (Visited g w n.id) (g.begin w n) :=
    fun n hn w sound top _ => begin_ends wf sound top hn
  have all := foldlM_ends Node.id each (.start g) rfl le_rfl
  rw [search_eq]
  exact all.mono fun later ⟨sound, _, done⟩ => ⟨sound, done⟩

/-- **What is found is a cycle.** -/
theorem findCycle?_isCycle {g : Graph} (wf : g.WellFormed) {path : List String}
    (found : g.findCycle? = some path) : g.IsCycle path := by
  have ends := search_ends wf
  unfold findCycle? at found
  cases result : g.search with
  | ok later => simp [result] at found
  | error cycle =>
    rw [result] at ends found
    cases found
    exact ends

/-- **Nothing is found exactly if there is no cycle.** -/
theorem findCycle?_eq_none_iff {g : Graph} (wf : g.WellFormed) :
    g.findCycle? = none ↔ g.Acyclic := by
  have ends := search_ends wf
  unfold findCycle?
  cases result : g.search with
  | error path =>
    rw [result] at ends
    simp only [reduceCtorEq, false_iff]
    exact ends.not_acyclic
  | ok later =>
    rw [result] at ends
    obtain ⟨sound, done⟩ := ends
    simp only [true_iff]
    intro id cycle
    -- a node on a cycle is there, so the search is done with it
    obtain ⟨next, arc, -⟩ := TransGen.head'_iff.mp cycle
    obtain ⟨n, hn, rfl⟩ := List.mem_map.mp (wf.arc_nodes arc).1
    exact sound.acyclic n.id (done n hn) cycle

/-- **The search is exact.** Behind every history of edits it finds nothing exactly if no edges lead
from a node back to it. What it finds are nodes of the graph, three of them or more, each of which has
an edge to the next; the last is the first once more, and there is no other repetition. -/
theorem findCycle?_exact {g : Graph} (reached : g.Reachable) :
    (g.findCycle? = none ↔
      ∀ id, ¬ TransGen (fun a b => ∃ e ∈ g.edges, e.source.node = a ∧ e.target.node = b) id id) ∧
    ∀ path, g.findCycle? = some path →
      3 ≤ path.length ∧ path.head? = path.getLast? ∧ path.dropLast.Nodup ∧
        (∀ id ∈ path, ∃ n ∈ g.nodes, n.id = id) ∧
        path.IsChain fun a b => ∃ e ∈ g.edges, e.source.node = a ∧ e.target.node = b := by
  have wf := reached.wellFormed
  refine ⟨findCycle?_eq_none_iff wf, fun path found => ?_⟩
  obtain ⟨long, closed, distinct, nodes, arcs⟩ := findCycle?_isCycle wf found
  exact ⟨long, closed, distinct, fun id mem => List.mem_map.mp (nodes id mem), arcs⟩

/-- A node with two inputs and two outputs of one type. -/
def junctionBody : NodeBody :=
  { kind := .fusion
    block := ⟨"texts.junction", "1.0.0"⟩
    inputs := [{ name := "q", portType := "text" }, { name := "r", portType := "text" }]
    outputs := [{ name := "p", portType := "text" }, { name := "o", portType := "text" }] }

/-- Two ways from `a` to `d`, one of which begins with two edges side by side, and two nodes apart. -/
def diamondHistory : List Edit :=
  [.insert "a" junctionBody, .insert "b" junctionBody, .insert "c" junctionBody,
   .insert "d" junctionBody, .insert "x" junctionBody, .insert "y" junctionBody,
   .connect (.between "a" "p" "b" "q"), .connect (.between "a" "o" "b" "r"),
   .connect (.between "a" "p" "c" "q"), .connect (.between "b" "p" "d" "q"),
   .connect (.between "c" "p" "d" "r"), .connect (.between "x" "p" "y" "q")]

/-- Ways that meet are no cycle. Once the nodes apart are joined both ways round, the search goes
past the ways that meet and finds these two. -/
theorem findCycle?_exact_diamond :
    (∀ id, ¬ TransGen (fun a b => ∃ e ∈ (empty.run diamondHistory).edges,
      e.source.node = a ∧ e.target.node = b) id id) ∧
    (empty.run (diamondHistory ++ [.connect (.between "y" "o" "x" "r")])).findCycle? =
      some ["x", "y", "x"] ∧
    ["x", "y", "x"].IsChain fun a b =>
      ∃ e ∈ (empty.run (diamondHistory ++ [.connect (.between "y" "o" "x" "r")])).edges,
        e.source.node = a ∧ e.target.node = b := by
  have found : (empty.run (diamondHistory ++
      [.connect (.between "y" "o" "x" "r")])).findCycle? = some ["x", "y", "x"] := by decide
  refine ⟨(findCycle?_exact ⟨diamondHistory, rfl⟩).1.mp (by decide), found, ?_⟩
  exact ((findCycle?_exact ⟨_, rfl⟩).2 _ found).2.2.2.2

end Graph

end BlockPipeline
