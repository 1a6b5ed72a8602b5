import BlockPipeline.Graph.Basic

/-!
# Connecting ports

A candidate becomes an edge if both handles name a port on the right side, both nodes are
there and are two, the ports are there and have the same type, and no edge joins them yet.
The conditions are checked in this order, and the first one that fails is the reason for the
refusal. A refusal is an ordinary answer: the graph stays as it was.

Several edges may feed the same input.
-/

namespace BlockPipeline

/-- Why a candidate is refused. -/
inductive Refusal where
  | malformedHandle (handle : String)
  | sourceNodeMissing (node : String)
  | targetNodeMissing (node : String)
  | selfLoop (node : String)
  | sourcePortMissing (node port : String)
  | targetPortMissing (node port : String)
  | portTypeMismatch (sourceType targetType : String)
  /-- An edge already joins the two ports. -/
  | duplicate (edge : String)
deriving DecidableEq

/-- A text between single quotes. -/
def singleQuoted (s : String) : String := "'" ++ s ++ "'"

def Refusal.message : Refusal → String
  | .malformedHandle handle => "Handle " ++ singleQuoted handle ++ " does not name a port"
  | .sourceNodeMissing node => "Source node " ++ singleQuoted node ++ " does not exist"
  | .targetNodeMissing node => "Target node " ++ singleQuoted node ++ " does not exist"
  | .selfLoop node => "Node " ++ singleQuoted node ++ " cannot be connected to itself"
  | .sourcePortMissing node port =>
    "Node " ++ singleQuoted node ++ " has no output port named " ++ singleQuoted port
  | .targetPortMissing node port =>
    "Node " ++ singleQuoted node ++ " has no input port named " ++ singleQuoted port
  | .portTypeMismatch source target =>
    "Port type mismatch: " ++ singleQuoted source ++ " cannot feed " ++ singleQuoted target
  | .duplicate edge => "Edge " ++ singleQuoted edge ++ " already makes this connection"

namespace Graph

/-- The handle that a text stands for on a side. -/
def handleOn (side : Side) (text : String) : Except Refusal Handle :=
  match Handle.onSide? side text with
  | some h => .ok h
  | none => .error (.malformedHandle text)

/-- A value that has to be there. -/
def orRefuse {α : Type} (value : Option α) (reason : Refusal) : Except Refusal α :=
  match value with
  | some a => .ok a
  | none => .error reason

/-- Checks a candidate; the answer is the two ends of the edge that it would become. -/
def check (g : Graph) (c : Candidate) : Except Refusal (Endpoint × Endpoint) := do
  let sourceHandle ← handleOn .output c.sourceHandle
  let targetHandle ← handleOn .input c.targetHandle
  let source ← orRefuse (g.node? c.source) (.sourceNodeMissing c.source)
  let target ← orRefuse (g.node? c.target) (.targetNodeMissing c.target)
  if source.id = target.id then throw (.selfLoop source.id)
  let sourcePort ←
    orRefuse (source.output? sourceHandle.port) (.sourcePortMissing source.id sourceHandle.port)
  let targetPort ←
    orRefuse (target.input? targetHandle.port) (.targetPortMissing target.id targetHandle.port)
  if !Port.compatible sourcePort targetPort then
    throw (.portTypeMismatch sourcePort.portType targetPort.portType)
  let sourceEnd : Endpoint := ⟨source.id, sourceHandle⟩
  let targetEnd : Endpoint := ⟨target.id, targetHandle⟩
  match g.edges.find? (·.joins sourceEnd targetEnd) with
  | some e => throw (.duplicate e.id)
  | none => return (sourceEnd, targetEnd)

/-- Whether a candidate would be accepted. -/
def accepts (g : Graph) (c : Candidate) : Bool := (g.check c).toOption.isSome

/-! ## The id of a new edge -/

/-- The id of an edge between two ports. Names may hold any text, so different connections may
have the same one. -/
def baseEdgeId (source target : Endpoint) : String :=
  "e_" ++ source.node ++ "_" ++ source.handle.text ++ "_" ++ target.node ++ "_" ++
    target.handle.text

/-- The ids that are tried in turn: the base, and the base with a number from two on. -/
def edgeIdCandidates (base : String) (count : Nat) : List String :=
  base :: (List.range' 2 count).map fun k => base ++ "_" ++ toString k

/-- The first id that no edge has. The candidates differ from one another and outnumber the
edges, so one of them is free. -/
def freeEdgeId (g : Graph) (base : String) : String :=
  ((edgeIdCandidates base g.edges.length).find? fun id => (g.edge? id).isNone).getD base

/-- Adds the edge that a candidate proposes, or refuses it. -/
def connect (g : Graph) (c : Candidate) : Except Refusal (Edge × Graph) := do
  let (source, target) ← g.check c
  let edge : Edge := ⟨g.freeEdgeId (baseEdgeId source target), source, target⟩
  return (edge, { g with edges := g.edges ++ [edge] })

end Graph

end BlockPipeline
