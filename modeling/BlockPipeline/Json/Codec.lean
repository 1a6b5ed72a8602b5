import BlockPipeline.Json.DecodeError

/-!
# Codecs

A `Codec` pairs the reading of a type with its writing. The same codec reads a document that
comes straight from a text and one that stands for a value already read; `Origin` says which,
because a few rules differ. From a text the reader sees only what it has reached, so a value
that cannot begin a variant is a fault of the text; a value is known as a whole, so its type
or its length can be named instead.

The codecs of this module are those of the types without fields of their own. Records are
in `BlockPipeline.Json.Record`.
-/

namespace BlockPipeline

/-- Where a document comes from. -/
inductive Origin where
  /-- It is a text being read. -/
  | text
  /-- It is a value that was read before; the keys of its objects ascend. -/
  | value
deriving DecidableEq

/-- How a type is read and written. -/
structure Codec (α : Type) where
  decode : Origin → Document → Except DecodeError α
  encode : α → Json

/-- A fault of the text as a reason not to decode it. -/
def liftFault {α : Type} (result : Except Fault α) : Except DecodeError α :=
  match result with
  | .ok a => .ok a
  | .error fault => .error (.text fault)

/-- The complaint that a document does not hold what is expected. -/
def mismatch {α : Type} (expected : String) (doc : Document) : Except DecodeError α := do
  let found ← liftFault doc.found
  throw (.wrongType found expected)

namespace Codec

variable {α : Type}

/-- Decodes a whole text: nothing may stand behind the document. -/
def decodeText (c : Codec α) (text : String) : Except DecodeError α := do
  let (root, trailing) := Document.read text
  let a ← c.decode .text root
  liftFault (Document.cutFault trailing)
  return a

/-- Decodes a value. -/
def decodeValue (c : Codec α) (value : FreeJson) : Except DecodeError α :=
  c.decode .value (.ofJson value.json)

def string : Codec String :=
  { decode := fun _ doc =>
      match doc with
      | .string s => .ok s
      | doc => mismatch "a string" doc
    encode := .string }

def bool : Codec Bool :=
  { decode := fun _ doc =>
      match doc with
      | .bool b => .ok b
      | doc => mismatch "a boolean" doc
    encode := .bool }

/-- Unsigned integers of 64 bits. A negative integer is of the right type and out of range; a
fractional number is of the wrong type even if it is whole. -/
def word : Codec UInt64 :=
  { decode := fun _ doc =>
      match doc with
      | .number (.integer n) =>
        match n.toUInt64? with
        | some w => .ok w
        | none => .error (.wrongValue (.number (.integer n)) "u64")
      | doc => mismatch "u64" doc
    encode := fun w => .number (.integer (.ofUInt64 w)) }

/-- Floating-point numbers. An integer is read as the number nearest to it. -/
def double : Codec Double :=
  { decode := fun _ doc =>
      match doc with
      | .number (.fractional x) => .ok x
      | .number (.integer n) => .ok (.ofInt n.value)
      | doc => mismatch "f64" doc
    encode := fun x => .number (.fractional x) }

/-- Free values. -/
def free : Codec FreeJson :=
  { decode := fun _ doc => liftFault doc.free
    encode := FreeJson.json }

/-- Free objects. -/
def object : Codec FreeObject :=
  { decode := fun _ doc =>
      match doc with
      | .object members cut => do
        let members ← liftFault (Document.freeMembers members)
        liftFault (Document.cutFault cut)
        return .ofList members
      | doc => mismatch "a map" doc
    encode := fun o => .object o.members }

/-- Lists: the items in order, then the closing bracket. -/
def list (c : Codec α) : Codec (List α) :=
  { decode := fun origin doc =>
      match doc with
      | .array items cut => do
        let values ← items.mapM (c.decode origin)
        liftFault (Document.cutFault cut)
        return values
      | doc => mismatch "a sequence" doc
    encode := fun values => .array (values.map c.encode) }

/-- A value or `null`. -/
def nullable (c : Codec α) : Codec (Option α) :=
  { decode := fun origin doc =>
      match doc with
      | .null => .ok none
      | doc => (c.decode origin doc).map some
    encode := fun a =>
      match a with
      | none => .null
      | some a => c.encode a }

/-! ## Variants -/

/-- The variant of a name. -/
def pickVariant (cases : List (String × α)) (name : String) : Except DecodeError α :=
  match cases.lookup name with
  | some a => .ok a
  | none => .error (.unknownVariant name (cases.map Prod.fst))

/-- The payload of a variant is `null`. -/
def noPayload (doc : Document) : Except DecodeError Unit :=
  match doc with
  | .null => .ok ()
  | doc => mismatch "unit" doc

/-- The variant that a key names. A key that is no string is a fault of the text. -/
def keyVariant (cases : List (String × α)) (key : Document) : Except DecodeError α := do
  pickVariant cases (← liftFault key.key)

/-- A variant written as an object with one member, read along the text. -/
def memberVariant (cases : List (String × α)) (members : List (Document × Document))
    (cut : Option Fault) : Except DecodeError α :=
  match members with
  | [] => .error (.text (cut.getD .malformed))
  | (key, payload) :: rest => do
    let a ← keyVariant cases key
    noPayload payload
    if rest.isEmpty then liftFault (Document.cutFault cut) else throw (.text .malformed)
    return a

/-- Variants without payload: the name, or an object with the name as its only key and `null`
under it. -/
def variant (cases : List (String × α)) (name : α → String) : Codec α :=
  { decode := fun origin doc =>
      match origin, doc with
      | _, .string s => pickVariant cases s
      | .text, .object members cut => memberVariant cases members cut
      | .value, .object [(key, payload)] _ => do
        let a ← keyVariant cases key
        noPayload payload
        return a
      | .value, .object _ _ => .error (.wrongValue .mapping "map with a single key")
      | .text, .broken fault _ => .error (.text fault)
      | .text, _ => .error (.text .malformed)
      | .value, doc => mismatch "string or map" doc
    encode := fun a => .string (name a) }

end Codec

end BlockPipeline
