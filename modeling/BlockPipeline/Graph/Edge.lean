import BlockPipeline.Node

/-!
# Edges and candidates

An edge carries data from an output of one node to an input of another. It exists only
inside a graph, which has checked it. A *candidate* is an edge as an editor proposes it: four
texts of which nothing is known.
-/

namespace BlockPipeline

/-- One end of an edge: a node and one of its ports. -/
structure Endpoint where
  node : String
  handle : Handle
deriving DecidableEq

/-- An edge of a graph. -/
structure Edge where
  id : String
  source : Endpoint
  target : Endpoint
deriving DecidableEq

namespace Edge

/-- The edge starts or ends at a node. -/
def touches (e : Edge) (node : String) : Bool := e.source.node == node || e.target.node == node

/-- The edge joins the same two ports. -/
def joins (e : Edge) (source target : Endpoint) : Bool :=
  e.source == source && e.target == target

end Edge

/-- A connection as proposed, before it is checked. -/
structure Candidate where
  source : String
  sourceHandle : String
  target : String
  targetHandle : String
deriving DecidableEq

namespace Candidate

/-- The candidate from an output to an input, given by the names of the ports. -/
def between (source sourcePort target targetPort : String) : Candidate :=
  ⟨source, (Handle.output sourcePort).text, target, (Handle.input targetPort).text⟩

/-- The candidate that proposes an edge anew. -/
def ofEdge (e : Edge) : Candidate :=
  ⟨e.source.node, e.source.handle.text, e.target.node, e.target.handle.text⟩

/-- The wire form of a candidate. -/
def codec : Codec Candidate :=
  Record.codec
    (Record.start Candidate.mk
      |>.required "source" .string Candidate.source
      |>.required "sourceHandle" .string Candidate.sourceHandle
      |>.required "target" .string Candidate.target
      |>.required "targetHandle" .string Candidate.targetHandle)
    "CandidateEdge"

end Candidate

end BlockPipeline
