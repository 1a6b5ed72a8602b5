import BlockPipeline.Config.Basic
import BlockPipeline.Port

/-!
# Nodes

A node is a block placed on a canvas. Its role, its block and its ports are settled when it
is placed; its configuration and its position may change later. `NodeBody` is what the
caller gives, and the graph adds the id.
-/

namespace BlockPipeline

/-- A block and the version of it that a node was placed from. -/
structure BlockRef where
  blockId : String
  version : String
deriving DecidableEq

namespace BlockRef

def text (b : BlockRef) : String := b.blockId ++ "@" ++ b.version

def codec : Codec BlockRef :=
  Record.codec
    (Record.start BlockRef.mk
      |>.required "blockId" .string BlockRef.blockId
      |>.required "version" .string BlockRef.version)
    "BlockRef"

end BlockRef

/-- Coordinates on the canvas. -/
structure Position where
  x : Double
  y : Double
deriving DecidableEq

namespace Position

def origin : Position := ⟨.zero false, .zero false⟩

/-- The position with the given whole coordinates. -/
def ofInts (x y : Int) : Position := ⟨.ofInt x, .ofInt y⟩

def codec : Codec Position :=
  Record.codec
    (Record.start Position.mk
      |>.required "x" .double Position.x
      |>.required "y" .double Position.y)
    "Position"

end Position

/-- A node without its id. -/
structure NodeBody where
  kind : NodeKind
  block : BlockRef
  inputs : List Port := []
  outputs : List Port := []
  config : Config := .empty
  position : Position := .origin

/-- A block placed on a graph. -/
structure Node extends NodeBody where
  id : String

namespace Node

/-- The first input with a name. -/
def input? (n : Node) (name : String) : Option Port := Port.find? n.inputs name

/-- The first output with a name. -/
def output? (n : Node) (name : String) : Option Port := Port.find? n.outputs name

/-- The wire form of a node. -/
def codec : Codec Node :=
  Record.codec
    (Record.start (fun id kind block inputs outputs config position =>
        (⟨⟨kind, block, inputs, outputs, config, position⟩, id⟩ : Node))
      |>.required "id" .string Node.id
      |>.required "type" NodeKind.codec (·.kind)
      |>.required "blockRef" BlockRef.codec (·.block)
      |>.defaulted "inputs" Port.codec.list [] (·.inputs)
      |>.defaulted "outputs" Port.codec.list [] (·.outputs)
      |>.defaulted "config" .object .empty (·.config)
      |>.defaulted "ui" Position.codec .origin (·.position))
    "NodeInstance"

end Node

end BlockPipeline
