import BlockPipeline.Graph.Connection
import BlockPipeline.Palette

/-!
# Edits

Every way in which a graph changes is an `Edit`, and `Edit.apply` gives the graph behind it
together with what the edit answers. A refused edit leaves the graph as it was. A history of
a graph is a list of edits, and what holds after every history is a statement about
`Graph.run`.
-/

namespace BlockPipeline

/-- A change of a configuration. -/
inductive ConfigEdit where
  | set (key : String) (value : FreeJson)
  | remove (key : String)
  /-- Puts another configuration in place of the whole. -/
  | replace (config : Config)

namespace ConfigEdit

/-- The key that is changed; none if the whole is replaced. -/
def key? : ConfigEdit → Option String
  | .set key _ => some key
  | .remove key => some key
  | .replace _ => none

def apply : ConfigEdit → Config → Config
  | .set key value, c => c.insert key value
  | .remove key, c => c.erase key
  | .replace config, _ => config

/-- The value that the changed key has before the change. -/
def old? (edit : ConfigEdit) (c : Config) : Option FreeJson := edit.key?.bind c.get?

end ConfigEdit

/-- A change of a graph. -/
inductive Edit where
  /-- Places a node under an id made of the stem and a drawn suffix. -/
  | add (stem : String) (draws : List String) (body : NodeBody)
  /-- Places a node under an id of the caller's choice. -/
  | insert (id : String) (body : NodeBody)
  /-- Places a template of a palette. -/
  | place (palette : Palette) (key : String) (registry : Registry) (draws : List String)
      (position : Position)
  | remove (id : String)
  | connect (candidate : Candidate)
  | disconnect (id : String)
  | clear
  | configure (id : String) (edit : ConfigEdit)
  | move (id : String) (position : Position)

/-- What an edit answers. -/
inductive EditAnswer where
  /-- The node that was placed; none for an unknown template, or if no suffix was free. -/
  | placed (node : Option Node)
  /-- The node under its own id; none if the id was given before. -/
  | inserted (node : Option Node)
  | removed (node : Option Node)
  | connected (result : Except Refusal Edge)
  | disconnected (edge : Option Edge)
  | cleared
  /-- The value that the changed key had; none if there is no such node. -/
  | configured (old : Option (Option FreeJson))
  | moved (done : Bool)

namespace Graph

/-- The answer and the graph behind an edit that may change nothing. -/
def orElse {α : Type} (g : Graph) (answer : Option α → EditAnswer) (result : Option (α × Graph)) :
    EditAnswer × Graph :=
  match result with
  | some (a, g) => (answer (some a), g)
  | none => (answer none, g)

/-- Carries out an edit. -/
def apply (g : Graph) : Edit → EditAnswer × Graph
  | .add stem draws body => g.orElse .placed (g.add? stem draws body)
  | .insert id body =>
    g.orElse .inserted ((g.insert? id body).map fun g => ((⟨body, id⟩ : Node), g))
  | .place palette key registry draws position =>
    g.orElse .placed (palette.place? key g registry draws position)
  | .remove id => g.orElse .removed (g.remove? id)
  | .connect candidate =>
    match g.connect candidate with
    | .ok (edge, g) => (.connected (.ok edge), g)
    | .error reason => (.connected (.error reason), g)
  | .disconnect id => g.orElse .disconnected (g.disconnect? id)
  | .clear => (.cleared, g.clear)
  | .configure id edit =>
    (.configured ((g.node? id).map fun n => edit.old? n.config), g.configure id edit.apply)
  | .move id position => (.moved (g.node? id).isSome, g.move id position)

/-- Carries out a history of edits. -/
def run (g : Graph) (edits : List Edit) : Graph := edits.foldl (fun g edit => (g.apply edit).2) g

/-- A graph that some history of edits leads to from the empty one. -/
def Reachable (g : Graph) : Prop := ∃ edits, empty.run edits = g

end Graph

end BlockPipeline
