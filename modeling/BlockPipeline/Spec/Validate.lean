import BlockPipeline.Spec.Basic

/-!
# The rules of a specification

A specification is usable if its version is the supported one, the names in it are not empty,
no two nodes and no two locked blocks share an id, and versions and digests have a least
length, counted in bytes. Whether an edge leads to a node that is there is not a rule.

`Spec.violations` lists every breach in the order of the document: the header, node by node,
edge by edge, lock by lock. `Spec.validate` reports the first one, and `Spec.ofText` accepts a
text as a whole or not at all.
-/

namespace BlockPipeline

/-- The least length of a version, that of `1.0.0`. -/
def minVersionLength : Nat := 5

/-- The least length of a digest. -/
def minDigestLength : Nat := 8

/-- A field of a specification that a rule is about. -/
inductive SpecField where
  | pipeline (name : String)
  | node (index : Nat) (name : String)
  /-- A port of a node, counted over the inputs and then the outputs. -/
  | nodePort (index port : Nat) (name : String)
  | edge (index : Nat) (name : String)
  | lock (index : Nat) (name : String)
deriving DecidableEq

def SpecField.text : SpecField → String
  | .pipeline name => "pipeline." ++ name
  | .node i name => "graph.nodes[" ++ toString i ++ "]." ++ name
  | .nodePort i j name => "graph.nodes[" ++ toString i ++ "].ports[" ++ toString j ++ "]." ++ name
  | .edge i name => "graph.edges[" ++ toString i ++ "]." ++ name
  | .lock i name => "lockedBlocks[" ++ toString i ++ "]." ++ name

/-- What is wrong with a field. -/
inductive SpecProblem where
  | empty
  | shortVersion
  | shortDigest
  | repeatedNode (id : String)
  | repeatedLock (blockId : String)
deriving DecidableEq

def SpecProblem.message : SpecProblem → String
  | .empty => "must not be empty"
  | .shortVersion => "version must be at least " ++ toString minVersionLength ++ " characters"
  | .shortDigest => "digest must be at least " ++ toString minDigestLength ++ " characters"
  | .repeatedNode id => "duplicate node id '" ++ id ++ "'"
  | .repeatedLock blockId => "block '" ++ blockId ++ "' is locked more than once"

/-- A breach of a rule. -/
structure Violation where
  field : SpecField
  problem : SpecProblem
deriving DecidableEq

/-- Why a text or a specification is refused. -/
inductive SpecError where
  | undecodable (error : DecodeError)
  | unsupportedVersion (version : String)
  | invalid (violation : Violation)

def SpecError.message : SpecError → String
  | .undecodable error => "Failed to parse pipeline spec JSON: " ++ error.message
  | .unsupportedVersion version => "Unsupported specVersion '" ++ version ++ "'"
  | .invalid v => "Invalid pipeline spec at '" ++ v.field.text ++ "': " ++ v.problem.message

namespace Spec

/-- A breach if a condition holds. -/
def breachIf (broken : Bool) (field : SpecField) (problem : SpecProblem) : List Violation :=
  if broken then [⟨field, problem⟩] else []

def nonEmpty (field : SpecField) (value : String) : List Violation :=
  breachIf (value == "") field .empty

/-- A version is not empty and has the least length. -/
def versionRule (field : SpecField) (version : String) : List Violation :=
  nonEmpty field version ++
    breachIf (version.utf8ByteSize < minVersionLength) field .shortVersion

/-- The rules of the ports of a node, the first of them at the given place. -/
def portViolations (node : Nat) : Nat → List Port → List Violation
  | _, [] => []
  | j, p :: ports =>
    nonEmpty (.nodePort node j "name") p.name ++
      nonEmpty (.nodePort node j "portType") p.portType ++ portViolations node (j + 1) ports

/-- The rules of a node behind others with the given ids. -/
def nodeViolations (earlier : List String) (i : Nat) (n : Node) : List Violation :=
  nonEmpty (.node i "id") n.id ++
    breachIf (earlier.contains n.id) (.node i "id") (.repeatedNode n.id) ++
    nonEmpty (.node i "blockRef.blockId") n.block.blockId ++
    versionRule (.node i "blockRef.version") n.block.version ++
    portViolations i 0 (n.inputs ++ n.outputs)

def nodesViolations (earlier : List String) : Nat → List Node → List Violation
  | _, [] => []
  | i, n :: nodes => nodeViolations earlier i n ++ nodesViolations (n.id :: earlier) (i + 1) nodes

def edgeViolations (i : Nat) (e : SpecEdge) : List Violation :=
  nonEmpty (.edge i "id") e.id ++
    nonEmpty (.edge i "from.nodeId") e.source.node ++
    nonEmpty (.edge i "from.port") e.source.port ++
    nonEmpty (.edge i "to.nodeId") e.target.node ++
    nonEmpty (.edge i "to.port") e.target.port

def edgesViolations : Nat → List SpecEdge → List Violation
  | _, [] => []
  | i, e :: edges => edgeViolations i e ++ edgesViolations (i + 1) edges

/-- The rules of a locked block behind others with the given ids. -/
def lockViolations (earlier : List String) (i : Nat) (b : BlockVersion) : List Violation :=
  nonEmpty (.lock i "blockId") b.blockId ++
    versionRule (.lock i "version") b.version ++
    breachIf (b.digest.utf8ByteSize < minDigestLength) (.lock i "digest") .shortDigest ++
    breachIf (earlier.contains b.blockId) (.lock i "blockId") (.repeatedLock b.blockId)

def locksViolations (earlier : List String) : Nat → List BlockVersion → List Violation
  | _, [] => []
  | i, b :: locks =>
    lockViolations earlier i b ++ locksViolations (b.blockId :: earlier) (i + 1) locks

/-- Every breach of a rule, in the order of the document. -/
def violations (s : Spec) : List Violation :=
  nonEmpty (.pipeline "id") s.pipeline.id ++
    nonEmpty (.pipeline "name") s.pipeline.name ++
    nodesViolations [] 0 s.graph.nodes ++
    edgesViolations 0 s.graph.edges ++
    locksViolations [] 0 s.lockedBlocks

/-- Checks the version and then the rules; the first breach is reported. -/
def validate (s : Spec) : Except SpecError Unit :=
  if s.specVersion ≠ BlockPipeline.specVersion then .error (.unsupportedVersion s.specVersion)
  else match s.violations with
    | [] => .ok ()
    | v :: _ => .error (.invalid v)

/-! ## Reading a text -/

/-- An object that gives a version has to give the supported one, whatever else it holds. A
version that is no string is reported as it is written. -/
def checkVersion (value : FreeJson) : Except SpecError Unit :=
  match value.object?.bind (·.get? "specVersion") with
  | none => .ok ()
  | some version =>
    match version.string? with
    | some s => if s = BlockPipeline.specVersion then .ok () else .error (.unsupportedVersion s)
    | none => .error (.unsupportedVersion version.json.compact)

/-- Reads a specification: a text that is no JSON is refused first, then an unsupported
version, then a value of the wrong shape, and last a breach of a rule. -/
def ofText (text : String) : Except SpecError Spec := do
  let value ← (liftFault (FreeJson.read text)).mapError .undecodable
  checkVersion value
  let s ← (codec.decodeValue value).mapError .undecodable
  s.validate
  return s

end Spec

end BlockPipeline
