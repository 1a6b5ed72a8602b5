import BlockPipeline.Compile
import BlockPipeline.Graph.Cycle

/-!
# Findings about a graph

A finding is advice: none of them stops a compilation. They come in four passes. Node by
node, the block is compared with what the registry publishes and the configuration with the
block's schema. Lock by lock, deprecated blocks are named. Input by input, the edges that
feed it are counted. Last, a cycle is named if there is one.
-/

namespace BlockPipeline

/-- An advisory finding. -/
inductive Finding where
  /-- Nothing is published for the node's block. -/
  | unlocked (node block : String)
  /-- The node was placed from another version than the one that is locked. -/
  | versionDrift (node placed locked : String)
  | deprecated (block version : String)
  /-- The block's schema does not allow a key. -/
  | unknownConfigKey (node key : String)
  | configTypeMismatch (node key expected : String)
  /-- More than one edge feeds an input. -/
  | fanIn (node port : String) (sources : List String)
  | unconnectedInput (node port : String)
  | cycle (path : List String)
deriving DecidableEq

namespace Finding

/-- A node's name in front of a remark. -/
def aboutNode (node remark : String) : String := "node '" ++ node ++ "': " ++ remark

def message : Finding → String
  | .unlocked node block =>
    aboutNode node ("block '" ++ block ++ "' has no published version and will not be locked")
  | .versionDrift node placed locked =>
    aboutNode node ("placed at version " ++ placed ++ " but the registry locks " ++ locked)
  | .deprecated block version => "block '" ++ block ++ "@" ++ version ++ "' is deprecated"
  | .unknownConfigKey node key =>
    aboutNode node ("config key '" ++ key ++ "' is not in the block schema")
  | .configTypeMismatch node key expected =>
    aboutNode node ("config key '" ++ key ++ "' should be of type " ++ expected)
  | .fanIn node port sources =>
    aboutNode node
      ("input '" ++ port ++ "' is fed by " ++ toString sources.length ++ " edges (from " ++
        ", ".intercalate sources ++ ")")
  | .unconnectedInput node port => aboutNode node ("input '" ++ port ++ "' is not connected")
  | .cycle path => "cycle: " ++ " -> ".intercalate path

end Finding

/-! ## Configurations against schemas -/

/-- Whether a value has the type that a schema names. A name that is no type of the format
allows every value. -/
def FreeJson.hasType (value : FreeJson) (type : String) : Bool :=
  match type with
  | "number" => value.number?.isSome
  | "integer" =>
    match value.number? with
    | some (.integer _) => true
    | _ => false
  | "string" => value.string?.isSome
  | "boolean" => value.bool?.isSome
  | "object" => value.object?.isSome
  | "array" => value.isArray
  | "null" => value.isNull
  | _ => true

/-- What a schema says about one key of a configuration. -/
def keyFindings (node : String) (schema : FreeObject) (key : String) (value : FreeJson) :
    List Finding :=
  let properties := (schema.get? "properties").bind (·.object?)
  let additional := ((schema.get? "additionalProperties").bind (·.bool?)).getD true
  match properties.bind (·.get? key) with
  | some property =>
    match (property.member? "type").bind (·.string?) with
    | some expected =>
      if value.hasType expected then [] else [.configTypeMismatch node key expected]
    | none => []
  | none => if additional then [] else [.unknownConfigKey node key]

/-- What a schema says about a configuration, by ascending keys. -/
def configFindings (n : Node) (schema : FreeObject) : List Finding :=
  n.config.entries.flatMap fun (key, value) => keyFindings n.id schema key value

/-! ## The passes -/

/-- A node against what is published for its block. -/
def lockFindings (r : Registry) (n : Node) : List Finding :=
  match r.lookup n.block.blockId with
  | none => [.unlocked n.id n.block.blockId]
  | some locked =>
    (if locked.version = n.block.version then []
      else [.versionDrift n.id n.block.version locked.version]) ++
      configFindings n locked.inputSchema

/-- The deprecated blocks among the locked ones. -/
def deprecationFindings (locks : List BlockVersion) : List Finding :=
  (locks.filter (·.isDeprecated)).map fun b => .deprecated b.blockId b.version

/-- The source nodes of the edges that feed an input. -/
def feeds (g : Graph) (node port : String) : List String :=
  (g.edges.filter fun e => e.target.node == node && e.target.handle.port == port).map
    (·.source.node)

/-- An input by the number of edges that feed it. -/
def inputFindings (g : Graph) (node port : String) : List Finding :=
  match feeds g node port with
  | [] => [.unconnectedInput node port]
  | [_] => []
  | sources => [.fanIn node port sources]

/-- The inputs of a node in order. -/
def wiringFindings (g : Graph) (n : Node) : List Finding :=
  n.inputs.flatMap fun p => inputFindings g n.id p.name

def cycleFindings (g : Graph) : List Finding := g.findCycle?.toList.map .cycle

/-- All findings about a graph against a snapshot of the registry. -/
def diagnose (g : Graph) (r : Registry) : List Finding :=
  g.nodes.flatMap (lockFindings r) ++ deprecationFindings (lockBlocks g.nodes r) ++
    g.nodes.flatMap (wiringFindings g) ++ cycleFindings g

end BlockPipeline
