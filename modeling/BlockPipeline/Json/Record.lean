import BlockPipeline.Json.Codec

/-!
# Records

A record type is described once, field by field, and the description gives its reader and
its writer. `Record σ α` describes how the fields of a `σ` are written and how an `α` is put
together from what is read; a finished description has both types equal.

A record is written as an object with its fields in the order of the description. It is read
from an object, whose members come in any order and may include others, or from an array with
the fields by position. What is wrong with the members that are there is reported first, in
the order of the document; a field that is missing comes after that, in the order of the
description.
-/

namespace BlockPipeline

/-- The reading of one field, for its errors alone. -/
structure Field where
  name : String
  check : Origin → Document → Except DecodeError Unit

/-- How fields are read into an `α` and written from a `σ`. -/
structure Record (σ α : Type) where
  fields : List Field
  /-- Puts the record together from the documents of its fields. -/
  assemble : Origin → (String → Option Document) → (String → DecodeError) → Except DecodeError α
  members : σ → List (String × Json)

namespace Record

variable {σ α β : Type}

/-- A description without fields. -/
def start (a : α) : Record σ α :=
  { fields := [], assemble := fun _ _ _ => .ok a, members := fun _ => [] }

/-- One more field: what its absence means, and whether it is written. -/
def field (r : Record σ (β → α)) (name : String) (c : Codec β) (absent : Option β)
    (write : σ → Option Json) : Record σ α :=
  { fields := r.fields ++ [⟨name, fun origin doc => (c.decode origin doc).map fun _ => ()⟩]
    assemble := fun origin documents missing => do
      let f ← r.assemble origin documents missing
      match documents name, absent with
      | some doc, _ => return f (← c.decode origin doc)
      | none, some b => return f b
      | none, none => throw (missing name)
    members := fun x =>
      r.members x ++
        match write x with
        | some json => [(name, json)]
        | none => [] }

/-- A field that has to be there. -/
def required (r : Record σ (β → α)) (name : String) (c : Codec β) (get : σ → β) : Record σ α :=
  r.field name c none fun x => some (c.encode (get x))

/-- A field with a value of its own where it is absent; it is always written. -/
def defaulted (r : Record σ (β → α)) (name : String) (c : Codec β) (absent : β) (get : σ → β) :
    Record σ α :=
  r.field name c (some absent) fun x => some (c.encode (get x))

/-- A field that may be absent or `null`; where there is no value, `null` is written. -/
def nullable (r : Record σ (Option β → α)) (name : String) (c : Codec β) (get : σ → Option β) :
    Record σ α :=
  r.defaulted name c.nullable none get

/-- A field that may be absent or `null`; where there is no value, it is not written. -/
def optional (r : Record σ (Option β → α)) (name : String) (c : Codec β) (get : σ → Option β) :
    Record σ α :=
  r.field name c.nullable (some none) fun x => (get x).map c.encode

/-! ## Reading -/

/-- Reads the members of an object in the order of the document: a field must not come twice,
and the value of an unknown member is skipped. -/
def checkMembers (fields : List Field) (origin : Origin) :
    List String → List (Document × Document) → Except DecodeError Unit
  | _, [] => .ok ()
  | seen, (key, doc) :: members => do
    let name ← liftFault key.key
    match fields.find? (·.name == name) with
    | none => do
      liftFault doc.skip
      checkMembers fields origin seen members
    | some f => do
      if seen.contains name then throw (.duplicateField name)
      f.check origin doc
      checkMembers fields origin (name :: seen) members

/-- The document of the first member with this name. -/
def memberNamed (members : List (Document × Document)) (name : String) : Option Document :=
  (members.find? fun member =>
    match member.1 with
    | .string key => key == name
    | _ => false).map Prod.snd

/-- Reads a record from an object. -/
def ofMembers (r : Record σ α) (origin : Origin) (members : List (Document × Document))
    (cut : Option Fault) : Except DecodeError α := do
  checkMembers r.fields origin [] members
  liftFault (Document.cutFault cut)
  r.assemble origin (memberNamed members) .missingField

/-- The place of a field in the description. -/
def position (r : Record σ α) (name : String) : Nat := r.fields.findIdx (·.name == name)

/-- What a record looks like as an array. -/
def shape (r : Record σ α) (typeName : String) : String :=
  "struct " ++ typeName ++ " with " ++ toString r.fields.length ++ " elements"

/-- Reads a record from an array: the fields by position, and nothing behind the last one. -/
def ofItems (r : Record σ α) (typeName : String) (origin : Origin) (items : List Document)
    (cut : Option Fault) : Except DecodeError α := do
  (r.fields.zip items).forM fun (f, doc) => f.check origin doc
  if items.length < r.fields.length then liftFault (Document.cutFault cut)
  let a ← r.assemble origin (fun name => items[r.position name]?) fun name =>
    .wrongLength (r.position name) (r.shape typeName)
  if items.length > r.fields.length then
    match origin with
    | .text => throw (.text .malformed)
    | .value => throw (.wrongLength items.length "fewer elements in array")
  liftFault (Document.cutFault cut)
  return a

/-- The codec of a described record. -/
def codec (r : Record α α) (typeName : String) : Codec α :=
  { decode := fun origin doc =>
      match doc with
      | .object members cut => r.ofMembers origin members cut
      | .array items cut => r.ofItems typeName origin items cut
      | doc => mismatch ("struct " ++ typeName) doc
    encode := fun a => .object (r.members a) }

end Record

end BlockPipeline
