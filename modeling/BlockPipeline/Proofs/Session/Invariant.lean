import BlockPipeline.Proofs.Graph.QuickStart
import BlockPipeline.Proofs.Graph.Standing
import BlockPipeline.Proofs.Session.Log

/-!
# What holds in every state of a session

The graph of a session, the palette, and what is selected on either are fields of their own, and no
type ties them together. The actions do: each of them changes the workbench in one of eight ways, or
not at all (`Turn`), and where a way could leave a selection behind it sets the selection anew. What
is proved of one turn then holds in every state that a history leads to.

| Statement | In words | From |
| --- | --- | --- |
| `step_turn` | every action is a turn | one case for each action |
| `Sound.turn` | the graph stays reachable, and the palette offers the selected key | one case for each way |
| `SelectionThere.turn` | the selected node stays in the graph | one case for each way |
| `after_keeps_invariants` | both hold behind every history | `sound_after`, `selectionThere_after` |
-/

set_option autoImplicit false

namespace BlockPipeline

/-! ## Templates that are offered -/

namespace Palette

/-- A template that is found is offered, and has the key. -/
theorem find?_eq_some {p : Palette} {key : String} {t : Template} (found : p.find? key = some t) :
    t ∈ p.toList ∧ t.key = key :=
  ⟨List.mem_of_find?_eq_some found, by simpa using List.find?_some found⟩

/-- Whatever key is asked for, a template that is offered is selected. -/
theorem select_mem (p : Palette) (key : String) : p.select key ∈ p.toList := by
  unfold select
  cases found : p.find? key with
  | none => exact List.mem_cons_self
  | some t => exact (find?_eq_some found).1

/-- If a template with the key is offered, one with the key is selected. -/
theorem select_key {p : Palette} {t : Template} (offered : t ∈ p.toList) :
    (p.select t.key).key = t.key := by
  unfold select
  cases found : p.find? t.key with
  | none => simpa using List.find?_eq_none.mp found t offered
  | some u => exact (find?_eq_some found).2

end Palette

/-! ## What an action can do -/

/-- The part of a session that its user works on. -/
structure Workbench where
  palette : Palette
  graph : Graph
  paletteKey : String
  selectedNode : Option String

def Session.workbench (s : Session) : Workbench :=
  ⟨s.palette, s.graph, s.paletteKey, s.selectedNode⟩

/-- The node that an action selects by its name. -/
def Action.selected? : Action → Option String
  | .select node => node
  | _ => none

namespace Workbench

/-- **What an action can do** to the workbench, with the node that it selects by its name. -/
inductive Turn (w : Workbench) : Option String → Workbench → Prop where
  | kept : Turn w none w
  | offered (p : Palette) : Turn w none { w with palette := p, paletteKey := (p.select "").key }
  | chosen (key : String) : Turn w none { w with paletteKey := (w.palette.select key).key }
  | placed (t : Template) (offered : t ∈ w.palette.toList) (r : Registry) (draws : List String)
      (position : Position) :
    Turn w none
      { w with
        graph := (w.graph.apply (.place w.palette t.key r draws position)).2
        paletteKey := t.key }
  | connected (c : Candidate) : Turn w none { w with graph := (w.graph.apply (.connect c)).2 }
  | removed (id : String) :
    Turn w none
      { w with
        graph := (w.graph.apply (.remove id)).2
        selectedNode := if w.selectedNode = some id then none else w.selectedNode }
  | selected (node : Option String) : Turn w node { w with selectedNode := node }
  | replaced (g : Graph) (reachable : g.Reachable) :
    Turn w none { w with graph := g, selectedNode := g.nodes.head?.map (·.id) }
  | cleared : Turn w none { w with graph := (w.graph.apply .clear).2, selectedNode := none }

end Workbench

namespace Session

/-- **Every action is a turn.** -/
theorem step_turn (s : Session) (a : Action) :
    s.workbench.Turn a.selected? (s.step a).session.workbench := by
  cases a with
  | useCompiler compiler => exact .kept
  | usePalette palette => exact .offered palette
  | refresh reply => cases reply <;> exact .kept
  | selectTemplate key => exact .chosen key
  | place key draws position =>
    simp only [step, place]
    cases placed : s.palette.place? key s.graph s.registry draws position with
    | none => exact .kept
    | some result =>
      obtain ⟨n, graph⟩ := result
      obtain ⟨t, found, -⟩ := Option.bind_eq_some_iff.mp placed
      obtain ⟨offered, rfl⟩ := Palette.find?_eq_some found
      obtain rfl :
          (s.graph.apply (.place s.palette t.key s.registry draws position)).2 = graph := by
        simp only [Graph.apply, placed]
        rfl
      exact .placed t offered s.registry draws position
  | connect c =>
    simp only [step, connect]
    cases connected : s.graph.connect c with
    | error reason => exact .kept
    | ok result =>
      obtain ⟨e, graph⟩ := result
      obtain rfl : (s.graph.apply (.connect c)).2 = graph := by
        simp only [Graph.apply, connected]
      exact .connected c
  | remove id =>
    simp only [step, remove]
    cases removed : s.graph.remove? id with
    | none => exact .kept
    | some result =>
      obtain ⟨n, graph⟩ := result
      obtain rfl : (s.graph.apply (.remove id)).2 = graph := by
        simp only [Graph.apply, removed]
        rfl
      exact .removed id
  | select node => exact .selected node
  | loadQuickStart =>
    have reachable := quickStart_reachable s.registry
    simp only [step, loadQuickStart]
    -- that it is reachable is all that matters of the pipeline, which takes long to build
    generalize quickStart s.registry = graph at reachable ⊢
    exact .replaced graph reachable
  | clear => exact .cleared
  | compile stamp => exact .kept
  | diagnose => exact .kept
  | run stamp reply => cases reply <;> exact .kept
  | submit text reply =>
    simp only [step, submitText]
    cases Spec.ofText text with
    | error e => exact .kept
    | ok spec => cases reply <;> exact .kept
  | explain stamp reply => cases reply <;> exact .kept
  | listRuns reply => cases reply <;> exact .kept

end Session

/-! ## What a turn keeps -/

namespace Workbench

/-- **The graph comes of edits, and the selected template is offered.** -/
structure Sound (w : Workbench) : Prop where
  graph : w.graph.Reachable
  paletteKey : ∃ t ∈ w.palette.toList, t.key = w.paletteKey

/-- A node that is selected is in the graph. -/
def SelectionThere (w : Workbench) : Prop := ∀ id, w.selectedNode = some id → id ∈ w.graph.nodeIds

variable {w w' : Workbench} {node : Option String}

/-- **Every turn keeps the graph reachable and the selected template offered.** -/
theorem Sound.turn (sound : w.Sound) (turn : Turn w node w') : w'.Sound := by
  cases turn with
  | kept => exact sound
  | offered p => exact ⟨sound.graph, _, p.select_mem "", rfl⟩
  | chosen key => exact ⟨sound.graph, _, w.palette.select_mem key, rfl⟩
  | placed t offered => exact ⟨sound.graph.apply _, t, offered, rfl⟩
  | connected c => exact ⟨sound.graph.apply _, sound.paletteKey⟩
  | removed id => exact ⟨sound.graph.apply _, sound.paletteKey⟩
  | selected => exact ⟨sound.graph, sound.paletteKey⟩
  | replaced g reachable => exact ⟨reachable, sound.paletteKey⟩
  | cleared => exact ⟨sound.graph.apply _, sound.paletteKey⟩

/-- **Every turn keeps the selected node in the graph**, if what it selects by name is there. -/
theorem SelectionThere.turn (there : w.SelectionThere) (sound : w.Sound) (turn : Turn w node w')
    (present : ∀ id, node = some id → id ∈ w.graph.nodeIds) : w'.SelectionThere := by
  intro id selection
  have wf : w.graph.WellFormed := sound.graph.wellFormed
  cases turn with
  | kept => exact there id selection
  | offered p => exact there id selection
  | chosen key => exact there id selection
  | placed => exact Graph.mem_nodeIds_apply wf (there id selection) rfl
  | connected => exact Graph.mem_nodeIds_apply wf (there id selection) rfl
  | removed other =>
    obtain ⟨differs, selection⟩ := Option.ite_none_left_eq_some.mp selection
    have kept : (Edit.remove other).drops id = false :=
      beq_false_of_ne fun same => differs (same ▸ selection)
    exact Graph.mem_nodeIds_apply wf (there id selection) kept
  | selected => exact present id selection
  | replaced g reachable =>
    obtain ⟨n, first, rfl⟩ := Option.map_eq_some_iff.mp selection
    exact List.mem_map_of_mem (List.mem_of_head? first)
  | cleared => cases selection

end Workbench

namespace Session

/-! ## Histories -/

/-- Every node that a history selects by its name is there at that moment. -/
def SelectsPresent (s : Session) (actions : List Action) : Prop :=
  ∀ before id later, actions = before ++ .select (some id) :: later →
    id ∈ (s.after before).graph.nodeIds

theorem selectsPresent_nil (s : Session) : s.SelectsPresent [] := by
  intro before id later split
  cases before <;> cases split

theorem selectsPresent_cons {s : Session} {a : Action} {actions : List Action} :
    s.SelectsPresent (a :: actions) ↔
      (∀ id, a.selected? = some id → id ∈ s.graph.nodeIds) ∧
        (s.step a).session.SelectsPresent actions := by
  constructor
  · intro present
    constructor
    · intro id named
      cases a with
      | select node =>
        obtain rfl : node = some id := named
        exact present [] id actions rfl
      | _ => cases named
    · intro before id later split
      exact present (a :: before) id later (congrArg (a :: ·) split)
  · rintro ⟨first, rest⟩ before id later split
    cases before with
    | nil =>
      obtain ⟨rfl, -⟩ := List.cons.inj split
      exact first id rfl
    | cons b before =>
      obtain ⟨rfl, behind⟩ := List.cons.inj split
      exact rest before id later behind

theorem sound_start (compiler : Compiler) (palette : Palette) :
    (start compiler palette).workbench.Sound :=
  ⟨⟨[], rfl⟩, _, palette.select_mem "", rfl⟩

/-- **The workbench is sound behind every history** of a session where it is sound. -/
theorem sound_after {s : Session} (sound : s.workbench.Sound) (actions : List Action) :
    (s.after actions).workbench.Sound := by
  induction actions generalizing s with
  | nil => exact sound
  | cons a actions ih => exact ih (sound.turn (s.step_turn a))

/-- **The selected node stays in the graph** along a history that selects what is there. -/
theorem selectionThere_after {s : Session} (sound : s.workbench.Sound)
    (there : s.workbench.SelectionThere) {actions : List Action}
    (present : s.SelectsPresent actions) : (s.after actions).workbench.SelectionThere := by
  induction actions generalizing s with
  | nil => exact there
  | cons a actions ih =>
    obtain ⟨first, rest⟩ := selectsPresent_cons.mp present
    have turn : s.workbench.Turn a.selected? (s.step a).session.workbench := s.step_turn a
    exact ih (sound.turn turn) (there.turn sound turn first) rest

/-- **What holds in every state of a session**, whatever was done and whatever the services
replied: the graph comes of a history of edits, so it is well-formed, also where the quick-start
pipeline took its place; the palette offers a template with the selected key, and that is the one
that is selected; and if every node that was selected by its name was there at that moment, the
node that is selected now is in the graph. -/
theorem after_keeps_invariants (compiler : Compiler) (palette : Palette) (actions : List Action) :
    let s := (start compiler palette).after actions
    s.graph.Reachable ∧ s.graph.WellFormed ∧
      (∃ t ∈ s.palette.toList, t.key = s.paletteKey) ∧
      s.selectedTemplate ∈ s.palette.toList ∧ s.selectedTemplate.key = s.paletteKey ∧
      ((start compiler palette).SelectsPresent actions →
        ∀ id, s.selectedNode = some id → id ∈ s.graph.nodeIds) := by
  intro s
  have sound : s.workbench.Sound := sound_after (sound_start compiler palette) actions
  obtain ⟨t, offered, key⟩ := sound.paletteKey
  have selected : s.selectedTemplate.key = s.paletteKey := by
    have same : (s.palette.select t.key).key = t.key := Palette.select_key offered
    rwa [key] at same
  have nothing : (start compiler palette).workbench.SelectionThere := nofun
  refine ⟨sound.graph, sound.graph.wellFormed, ⟨t, offered, key⟩, s.palette.select_mem _, selected,
    fun present => ?_⟩
  exact selectionThere_after (sound_start compiler palette) nothing present

/-- Two nodes are placed and the first one is selected; then the second one is removed. -/
def selectingHistory : List Action :=
  [.place "fusion" ["0a"] (.ofInts 0 0), .place "trainer" ["0b"] (.ofInts 10 0),
    .select (some "fusion_0a"), .remove "trainer_0b"]

/-- The first node was there when it was selected, is still selected, and is still there. -/
theorem after_keeps_invariants_selecting :
    start.SelectsPresent selectingHistory ∧
      (start.after selectingHistory).selectedNode = some "fusion_0a" ∧
      "fusion_0a" ∈ (start.after selectingHistory).graph.nodeIds := by
  have present : start.SelectsPresent selectingHistory := by
    refine selectsPresent_cons.mpr ⟨nofun, selectsPresent_cons.mpr ⟨nofun, ?_⟩⟩
    refine selectsPresent_cons.mpr ⟨?_, selectsPresent_cons.mpr ⟨nofun, selectsPresent_nil _⟩⟩
    rintro _ ⟨⟩
    decide
  have selected : (start.after selectingHistory).selectedNode = some "fusion_0a" := rfl
  obtain ⟨-, -, -, -, -, there⟩ := after_keeps_invariants {} .builtin selectingHistory
  exact ⟨present, selected, there present "fusion_0a" selected⟩

end Session

end BlockPipeline
