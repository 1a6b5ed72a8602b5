import BlockPipeline.Graph.Connection

/-!
# Saved drafts

A draft is the form in which an editor saves a canvas: the nodes with their data, and the
edges as candidates. Loading one puts its nodes into an empty graph under their own ids and
then proposes its edges one after the other. An edge that is refused is reported and left
out; a node without an id, or with an id for the second time, makes the whole draft
unusable.

`ofGraph` saves a graph. The ids of edges are not saved; loading finds them anew.
-/

namespace BlockPipeline

/-- What a draft says about a node besides its id and position. The label is for the editor
alone. -/
structure DraftNodeData where
  label : Option String := none
  kind : NodeKind
  blockId : String
  version : String
  inputs : List Port := []
  outputs : List Port := []
  config : Config := .empty

def DraftNodeData.codec : Codec DraftNodeData :=
  Record.codec
    (Record.start DraftNodeData.mk
      |>.optional "label" .string DraftNodeData.label
      |>.required "kind" NodeKind.codec DraftNodeData.kind
      |>.required "blockId" .string DraftNodeData.blockId
      |>.required "version" .string DraftNodeData.version
      |>.defaulted "inputs" Port.codec.list [] DraftNodeData.inputs
      |>.defaulted "outputs" Port.codec.list [] DraftNodeData.outputs
      |>.defaulted "config" .object .empty DraftNodeData.config)
    "DraftNodeData"

/-- A node of a draft. -/
structure DraftNode where
  id : String
  position : Position := .origin
  data : DraftNodeData

namespace DraftNode

def codec : Codec DraftNode :=
  Record.codec
    (Record.start DraftNode.mk
      |>.required "id" .string DraftNode.id
      |>.defaulted "position" Position.codec .origin DraftNode.position
      |>.required "data" DraftNodeData.codec DraftNode.data)
    "DraftNode"

/-- The node that is placed for a node of a draft, without its id. -/
def body (n : DraftNode) : NodeBody :=
  { kind := n.data.kind
    block := ⟨n.data.blockId, n.data.version⟩
    inputs := n.data.inputs
    outputs := n.data.outputs
    config := n.data.config
    position := n.position }

def ofNode (n : Node) : DraftNode :=
  { id := n.id
    position := n.position
    data :=
      { kind := n.kind
        blockId := n.block.blockId
        version := n.block.version
        inputs := n.inputs
        outputs := n.outputs
        config := n.config } }

end DraftNode

/-- A saved draft. -/
structure Draft where
  nodes : List DraftNode
  edges : List Candidate := []

/-- Why a draft cannot be loaded. -/
inductive DraftError where
  | undecodable (error : DecodeError)
  | duplicateNodeId (id : String)
  | emptyNodeId

def DraftError.message : DraftError → String
  | .undecodable error => "Failed to parse draft graph JSON: " ++ error.message
  | .duplicateNodeId id => "Node id " ++ singleQuoted id ++ " is already in use in this graph"
  | .emptyNodeId => "Invalid draft data: node id must not be empty"

/-- A loaded draft: the graph, and the candidates in their order with what became of each. -/
structure LoadedDraft where
  graph : Graph
  outcomes : List (Candidate × Except Refusal Edge)

/-- The candidates that were refused. -/
def LoadedDraft.refused (l : LoadedDraft) : List (Candidate × Refusal) :=
  l.outcomes.filterMap fun (candidate, outcome) =>
    match outcome with
    | .ok _ => none
    | .error reason => some (candidate, reason)

namespace Draft

def codec : Codec Draft :=
  Record.codec
    (Record.start Draft.mk
      |>.required "nodes" DraftNode.codec.list Draft.nodes
      |>.defaulted "edges" Candidate.codec.list [] Draft.edges)
    "DraftGraph"

/-- Reads a saved draft. -/
def ofText (text : String) : Except DraftError Draft :=
  (codec.decodeText text).mapError .undecodable

/-- Saves a graph. -/
def ofGraph (g : Graph) : Draft := ⟨g.nodes.map .ofNode, g.edges.map .ofEdge⟩

/-- Places one node of a draft under its own id. -/
def loadNode (g : Graph) (n : DraftNode) : Except DraftError Graph :=
  if n.id = "" then .error .emptyNodeId
  else match g.insert? n.id n.body with
    | some g => .ok g
    | none => .error (.duplicateNodeId n.id)

/-- Proposes one edge; a refusal leaves the graph as it is. -/
def proposeEdge (g : Graph) (c : Candidate) : Except Refusal Edge × Graph :=
  match g.connect c with
  | .ok (edge, g) => (.ok edge, g)
  | .error reason => (.error reason, g)

/-- Proposes edges one after the other. -/
def proposeEdges (g : Graph) : List Candidate → LoadedDraft
  | [] => ⟨g, []⟩
  | c :: rest =>
    let (outcome, g) := proposeEdge g c
    let loaded := proposeEdges g rest
    { loaded with outcomes := (c, outcome) :: loaded.outcomes }

/-- Loads a draft into an empty graph. -/
def load (d : Draft) : Except DraftError LoadedDraft := do
  let g ← d.nodes.foldlM loadNode .empty
  return proposeEdges g d.edges

end Draft

end BlockPipeline
