import BlockPipeline.Graph.Basic
import BlockPipeline.Trace.Basic

/-!
# A trace against its graph

A trace may have several steps for one node, steps for nodes that are no longer in the graph,
and none for nodes that are. The correlation sorts this out: for each node of the graph with
a step the place of its first one, the places of the steps without a node, and the nodes
without a step.
-/

namespace BlockPipeline

/-- How a trace lines up with a graph. -/
structure Correlation where
  /-- Nodes of the graph with the place of their first step, in the order of those steps. -/
  byNode : List (String × Nat)
  /-- The places of the steps whose node is not in the graph. -/
  orphanSteps : List Nat
  /-- The nodes of the graph that have no step, in the order of the graph. -/
  missingNodes : List String

namespace Correlation

/-- Sorts the steps from a place on. -/
def sortSteps (ids : List String) : Nat → List TraceStep → List (String × Nat) × List Nat
  | _, [] => ([], [])
  | i, step :: steps =>
    let (byNode, orphans) := sortSteps ids (i + 1) steps
    if ids.contains step.nodeId then
      ((step.nodeId, i) :: byNode.filter fun entry => entry.1 != step.nodeId, orphans)
    else (byNode, i :: orphans)

/-- Correlates a trace with a graph. -/
def build (t : Trace) (g : Graph) : Correlation :=
  let (byNode, orphans) := sortSteps g.nodeIds 0 t.steps
  { byNode := byNode
    orphanSteps := orphans
    missingNodes := g.nodeIds.filter fun id => (byNode.lookup id).isNone }

/-- The place of a node's first step. -/
def stepIndex? (c : Correlation) (node : String) : Option Nat := c.byNode.lookup node

/-- The first step of a node. -/
def stepFor? (c : Correlation) (t : Trace) (node : String) : Option TraceStep :=
  (c.stepIndex? node).bind (t.steps[·]?)

/-- Every node has a step and every step has a node. -/
def isComplete (c : Correlation) : Bool := c.orphanSteps.isEmpty && c.missingNodes.isEmpty

end Correlation

end BlockPipeline
