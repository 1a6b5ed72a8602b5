import BlockPipeline.Graph.Basic

/-!
# Finding a cycle

Depth-first search over the arcs from the source node to the target node of each edge. A node
is *visiting* while the search is below it and *done* once all that can be reached from it
has been searched; the stack holds the nodes being visited. An arc to a node that is being
visited closes a cycle, which is the part of the stack from that node on.

Nodes are taken in their order and arcs in the order of the edges, so the cycle that is
found is determined. The search goes no deeper than there are nodes and edges, because a node
is entered only while it has no mark.
-/

namespace BlockPipeline

namespace Graph

/-- How far the search has come with a node. -/
inductive Mark where
  | visiting
  | done
deriving DecidableEq

/-- The state of the search. -/
structure Walk where
  /-- The latest mark of a node stands first. -/
  marks : List (String × Mark) := []
  /-- The nodes being visited, innermost first. -/
  stack : List String := []

namespace Walk

def mark? (w : Walk) (id : String) : Option Mark := w.marks.lookup id

/-- Begins to visit a node. -/
def enter (w : Walk) (id : String) : Walk :=
  { marks := (id, .visiting) :: w.marks, stack := id :: w.stack }

/-- Is done with the innermost node. -/
def leave (w : Walk) (id : String) : Walk :=
  { marks := (id, .done) :: w.marks, stack := w.stack.tail }

/-- The nodes being visited from a node on, outermost first, and that node once more. -/
def cycleThrough (w : Walk) (id : String) : List String :=
  let path := w.stack.reverse
  path.drop ((path.idxOf? id).getD 0) ++ [id]

end Walk

/-- The targets of the arcs that leave a node, in the order of the edges. -/
def successors (g : Graph) (id : String) : List String := (g.outgoing id).map (·.target.node)

/-- Searches below a node that has no mark. The answer is a cycle, as an error that ends the
search, or the state behind the node. -/
def visit (g : Graph) : Nat → Walk → String → Except (List String) Walk
  | 0, w, _ => .ok w
  | depth + 1, w, id => do
    let w ← (g.successors id).foldlM
      (fun w next =>
        match w.mark? next with
        | some .visiting => .error (w.cycleThrough next)
        | some .done => .ok w
        | none => g.visit depth w next)
      (w.enter id)
    return w.leave id

/-- Searches from every node that has no mark yet. -/
def search (g : Graph) : Except (List String) Walk :=
  g.nodes.foldlM
    (fun w n => if (w.mark? n.id).isSome then .ok w
      else g.visit (g.nodes.length + g.edges.length) w n.id)
    {}

/-- A cycle as the ids along it, the first one once more at the end; nothing if there is no
cycle. -/
def findCycle? (g : Graph) : Option (List String) :=
  match g.search with
  | .ok _ => none
  | .error cycle => some cycle

end Graph

end BlockPipeline
