import BlockPipeline.Diagnose
import BlockPipeline.Draft
import BlockPipeline.Graph.Edit
import BlockPipeline.Service.Basic

/-!
# The journal

What the library does is recorded in events, each with a level, a sentence and some named
values. Nothing in the library reads them; they are computed from an operation and its
answer, and it is for the caller to keep or drop them.
-/

namespace BlockPipeline

inductive Level where
  | debug
  | info
  | warn
deriving DecidableEq

/-- A value in an event. -/
inductive EventValue where
  | text (s : String)
  | count (n : Nat)
deriving DecidableEq

/-- Something that happened. -/
structure Event where
  level : Level
  sentence : String
  values : List (String × EventValue)
deriving DecidableEq

namespace Event

def nodeAdded (n : Node) : Event :=
  ⟨.debug, "Node added",
    [("node_id", .text n.id), ("kind", .text n.kind.text), ("block", .text n.block.text)]⟩

def nodeRemoved (id : String) (edges : Nat) : Event :=
  ⟨.debug, "Node removed", [("node_id", .text id), ("edges_removed", .count edges)]⟩

def edgeAdded (e : Edge) : Event := ⟨.debug, "Edge added", [("edge_id", .text e.id)]⟩

def edgeRemoved (id : String) : Event := ⟨.debug, "Edge removed", [("edge_id", .text id)]⟩

def connectionRefused (c : Candidate) (reason : Refusal) : Event :=
  ⟨.warn, "Connection refused",
    [("source", .text c.source), ("source_handle", .text c.sourceHandle),
     ("target", .text c.target), ("target_handle", .text c.targetHandle),
     ("reason", .text reason.message)]⟩

def unknownTemplate (key : String) : Event :=
  ⟨.warn, "Unknown palette key, nothing placed", [("key", .text key)]⟩

def draftLoaded (l : LoadedDraft) : Event :=
  ⟨.info, "Draft converted to graph",
    [("nodes", .count l.graph.nodes.length), ("edges", .count l.graph.edges.length),
     ("refused", .count l.refused.length)]⟩

def compiled (s : Spec) : Event :=
  ⟨.info, "Pipeline compiled",
    [("pipeline_id", .text s.pipeline.id), ("nodes", .count s.graph.nodes.length),
     ("edges", .count s.graph.edges.length), ("locked", .count s.lockedBlocks.length)]⟩

def found (f : Finding) : Event :=
  ⟨.warn, "Pipeline diagnostic", [("diagnostic", .text f.message)]⟩

def registryRefreshed (listed : Nat) (r : Registry) : Event :=
  ⟨.info, "Block registry refreshed", [("listed", .count listed), ("published", .count r.size)]⟩

def refreshFailed (e : ServiceError) (kept : Registry) : Event :=
  ⟨.warn, "Block registry refresh failed",
    [("error", .text e.message), ("kept", .count kept.size)]⟩

def runRecorded (run : RunCreated) (s : Spec) : Event :=
  ⟨.info, "Run recorded", [("run_id", .text run.runId), ("pipeline_id", .text s.pipeline.id)]⟩

/-- A request is about to be sent. -/
def request (method url : String) : Event := ⟨.debug, method, [("url", .text url)]⟩

/-- The proposal of a candidate. -/
def ofProposal (c : Candidate) (outcome : Except Refusal Edge) : Event :=
  match outcome with
  | .ok e => edgeAdded e
  | .error reason => connectionRefused c reason

/-- A whole graph that was built without a refusal: its nodes, then its edges. -/
def ofBuiltGraph (g : Graph) : List Event := g.nodes.map nodeAdded ++ g.edges.map edgeAdded

/-- The nodes of a draft that are placed before the first one that cannot be. -/
def ofDraftNodes (g : Graph) : List DraftNode → List Event
  | [] => []
  | n :: nodes =>
    match Draft.loadNode g n with
    | .ok g => nodeAdded ⟨n.body, n.id⟩ :: ofDraftNodes g nodes
    | .error _ => []

/-- The loading of a draft. -/
def ofDraft (d : Draft) : List Event :=
  ofDraftNodes .empty d.nodes ++
    match d.load with
    | .ok l => l.outcomes.map (fun (c, outcome) => ofProposal c outcome) ++ [draftLoaded l]
    | .error _ => []

/-- An edit of a graph. -/
def ofEdit (before : Graph) (edit : Edit) : List Event :=
  match edit, (before.apply edit).1 with
  | _, .placed (some n) => [nodeAdded n]
  | .place palette key _ _ _, .placed none =>
    if (palette.find? key).isNone then [unknownTemplate key] else []
  | _, .inserted (some n) => [nodeAdded n]
  | _, .removed (some n) => [nodeRemoved n.id (before.edges.filter (·.touches n.id)).length]
  | .connect c, .connected outcome => [ofProposal c outcome]
  | _, .disconnected (some e) => [edgeRemoved e.id]
  | _, _ => []

end Event

end BlockPipeline
