import BlockPipeline.Json.Record

/-!
# Ports and handles

A node is connected through its ports. A port has a name and a type, and the type is an
opaque tag: an output feeds an input iff their tags are the same text. There is no
conversion and no subtyping.

A *handle* is how an editor writes down a port: `out:<port>` for an output, `in:<port>` for
an input, or the bare name where the side is understood. Only the first colon counts, so a
port's name may hold any text, colons included.
-/

namespace BlockPipeline

/-- A named connection point of a node. -/
structure Port where
  name : String
  portType : String
  schema : Option FreeObject := none

/-- The wire form of a port. -/
def Port.codec : Codec Port :=
  Record.codec
    (Record.start Port.mk
      |>.required "name" .string Port.name
      |>.required "portType" .string Port.portType
      |>.optional "schema" .object Port.schema)
    "PortDecl"

namespace Port

/-- The first port with a name. -/
def find? (ports : List Port) (name : String) : Option Port :=
  ports.find? (·.name == name)

/-- Whether the one port feeds the other: both are there and have the same type. -/
def compatible (source target : Option Port) : Bool :=
  match source, target with
  | some source, some target => source.portType == target.portType
  | _, _ => false

end Port

/-- The side of a node on which a port lies. -/
inductive Side where
  | input
  | output
deriving DecidableEq

namespace Side

/-- The word in front of the colon of a handle. -/
def word : Side → String
  | .input => "in"
  | .output => "out"

def opposite : Side → Side
  | .input => .output
  | .output => .input

end Side

/-- A port as an editor writes it down. -/
structure Handle where
  side : Option Side
  port : String
deriving DecidableEq

namespace Handle

def input (port : String) : Handle := ⟨some .input, port⟩

def output (port : String) : Handle := ⟨some .output, port⟩

/-- The handle of a port on a known side. -/
def on (side : Side) (port : String) : Handle := ⟨some side, port⟩

/-- The text of a handle. -/
def text (h : Handle) : String :=
  match h.side with
  | some side => side.word ++ ":" ++ h.port
  | none => h.port

/-- What stands in front of the first colon and what behind it. -/
def splitColon : List Char → Option (List Char × List Char)
  | [] => none
  | c :: rest =>
    if c = ':' then some ([], rest)
    else (splitColon rest).map fun (front, back) => (c :: front, back)

/-- The side that the text in front of the colon names, if it names one. -/
def sideOfWord (word : List Char) : Option Side :=
  if word = ['i', 'n'] then some .input
  else if word = ['o', 'u', 't'] then some .output
  else none

/-- Reads a handle. A text without a colon is a bare name, and a word in front of the colon
that names no side is dropped. There is no handle without a port. -/
def ofText? (text : String) : Option Handle :=
  let (side, port) :=
    match splitColon text.toList with
    | some (front, back) => (sideOfWord front, String.ofList back)
    | none => (none, text)
  if port = "" then none else some ⟨side, port⟩

/-- Reads a handle where a port of the given side is due; a bare name counts as one of that
side, and a handle of the other side is refused. -/
def onSide? (side : Side) (text : String) : Option Handle :=
  match ofText? text with
  | some h => if h.side.all (· = side) then some (.on side h.port) else none
  | none => none

end Handle

end BlockPipeline
