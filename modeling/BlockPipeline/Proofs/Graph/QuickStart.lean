import BlockPipeline.Proofs.Graph.Change

/-!
# The quick-start pipeline is a history of edits

The quick-start pipeline is put together by edits like any other: its nodes are inserted into an empty
graph and its connections are proposed, one after the other (`quickStart_eq_run`). So it is reachable,
whatever the snapshot of the registry holds and whatever is refused on the way.
-/

set_option autoImplicit false

namespace BlockPipeline

open BlockPipeline.Graph

namespace QuickStart

/-- The edit that places a node of the layout. -/
def insertion (r : Registry) : String × String × Position → Edit
  | (id, key, position) =>
    let template := Palette.builtin.select key
    .insert id (template.body ((r.version? template.blockId).getD quickStartVersion) position)

/-- A node of the layout is inserted, or left out where its id was given. -/
theorem placeNode_eq_apply (r : Registry) (g : Graph) (entry : String × String × Position) :
    placeNode r g entry = (g.apply (insertion r entry)).2 := by
  obtain ⟨id, key, position⟩ := entry
  -- an edit that inserts nothing answers with the graph as it is
  have inserting : ∀ body, (g.insert? id body).getD g = (g.apply (.insert id body)).2 := by
    intro body
    simp only [apply]
    cases g.insert? id body <;> rfl
  exact inserting _

/-- A connection is proposed, and left out where it is refused. -/
theorem wire_eq_apply (g : Graph) (c : Candidate) : wire g c = (g.apply (.connect c)).2 := by
  simp only [wire, apply]
  cases g.connect c <;> rfl

end QuickStart

/-- The edits that the quick-start pipeline is made by. -/
def QuickStart.edits (r : Registry) : List Edit :=
  QuickStart.layout.map (QuickStart.insertion r) ++ QuickStart.wiring.map .connect

/-- **The quick-start pipeline comes of a history of edits.** -/
theorem quickStart_eq_run (r : Registry) : quickStart r = Graph.empty.run (QuickStart.edits r) := by
  unfold quickStart QuickStart.edits
  rw [run_append]
  simp only [Graph.run, List.foldl_map, ← QuickStart.placeNode_eq_apply, ← QuickStart.wire_eq_apply]

theorem quickStart_reachable (r : Registry) : (quickStart r).Reachable :=
  ⟨QuickStart.edits r, (quickStart_eq_run r).symm⟩

end BlockPipeline
