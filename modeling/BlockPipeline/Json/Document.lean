import BlockPipeline.Json.Token
import BlockPipeline.Json.Value

/-!
# Documents as they are read

A text that is to be decoded need not be well-formed to the end, and the reader of a type
must not look further than it has to: a field of the wrong type in front of a missing bracket
is the first fault of the text and the one to report. So a text is first read into a
`Document`, a tree that keeps all that stands in front of the first fault and marks the place
of the fault. A decoder walks the tree in the order of the text and reports what it meets
first, be it a wrong type or the mark.

Besides the place where the text breaks off, a mark also stands at a value that is well-formed
but cannot be read: a string with an unpaired surrogate, a number beyond the range, a
container at a depth of more than `depthLimit`. A reader that skips such a value does not
mind it.

A member's key is a document too: a string, or the mark of what is wrong with it. Anything
but a string in its place is against the rules even where it breaks off, for every reader.
-/

namespace BlockPipeline

/-- A document with the marks of what is wrong with its text. -/
inductive Document where
  | null
  | bool (b : Bool)
  | number (n : Number)
  | string (s : String)
  /-- The items, and the fault behind the last one if the array is not closed. -/
  | array (items : List Document) (cut : Option Fault)
  /-- The members, and the fault behind the last one if the object is not closed. -/
  | object (members : List (Document × Document)) (cut : Option Fault)
  /-- What a reader of this value finds, and what one that skips it finds, if anything. -/
  | broken (read : Fault) (skip : Option Fault)
  /-- A word or a number that breaks off: what a reader finds, and what one that skips it
  finds. -/
  | brokenScalar (read skip : Fault)

namespace Document

instance : Inhabited Document := ⟨.null⟩

/-- The place where the text breaks off. -/
def lost (fault : Fault) : Document := .broken fault (some fault)

/-! ## Values as documents -/

mutual

/-- A value as a document without marks. -/
def ofJson : Json → Document
  | .null => .null
  | .bool b => .bool b
  | .number n => .number n
  | .string s => .string s
  | .array items => .array (ofItems items) none
  | .object members => .object (ofMembers members) none

def ofItems : List Json → List Document
  | [] => []
  | item :: items => ofJson item :: ofItems items

def ofMembers : List (String × Json) → List (Document × Document)
  | [] => []
  | (key, value) :: members => (.string key, ofJson value) :: ofMembers members

end

/-! ## Reading a free value, and skipping one -/

/-- A fault at a closing bracket. -/
def cutFault (cut : Option Fault) : Except Fault Unit :=
  match cut with
  | none => .ok ()
  | some fault => .error fault

/-- The string that a key has to be, or what is wrong with it. -/
def key : Document → Except Fault String
  | .string s => .ok s
  | .broken fault _ => .error fault
  | _ => .error .malformed

mutual

/-- The free value that a document denotes, or the first fault in it. Of two members under
one key the last one stands. -/
def free : Document → Except Fault FreeJson
  | .null => .ok .null
  | .bool b => .ok (.bool b)
  | .number n => .ok (.number n)
  | .string s => .ok (.string s)
  | .array items cut => do
    let items ← freeItems items
    cutFault cut
    return .array items
  | .object members cut => do
    let members ← freeMembers members
    cutFault cut
    return (FreeObject.ofList members).toFreeJson
  | .broken fault _ => .error fault
  | .brokenScalar fault _ => .error fault

def freeItems : List Document → Except Fault (List FreeJson)
  | [] => .ok []
  | item :: items => do
    let value ← item.free
    return value :: (← freeItems items)

def freeMembers : List (Document × Document) → Except Fault (List (String × FreeJson))
  | [] => .ok []
  | (name, item) :: members => do
    let name ← name.key
    let value ← item.free
    return (name, value) :: (← freeMembers members)

end

mutual

/-- The first fault that stops even a reader that does not look at the value. -/
def skip : Document → Except Fault Unit
  | .array items cut => do
    skipItems items
    cutFault cut
  | .object members cut => do
    skipMembers members
    cutFault cut
  | .broken _ fault => cutFault fault
  | .brokenScalar _ fault => .error fault
  | _ => .ok ()

def skipItems : List Document → Except Fault Unit
  | [] => .ok ()
  | item :: items => do
    item.skip
    skipItems items

def skipMembers : List (Document × Document) → Except Fault Unit
  | [] => .ok ()
  | (name, item) :: members => do
    name.skip
    item.skip
    skipMembers members

end

/-! ## From tokens to a document -/

/-- A container that is still open, its contents latest first. -/
inductive Frame where
  | array (items : List Document)
  | object (members : List (Document × Document))
  /-- An object whose latest key has no value yet. -/
  | member (members : List (Document × Document)) (name : Document)

/-- What may come next inside an open document. -/
inductive Expect where
  | value
  /-- Behind an opening bracket: a value or the closing bracket. -/
  | firstValue
  | name
  /-- Behind an opening brace: a key or the closing brace. -/
  | firstName
  | colon
  /-- Behind an item or a member: a comma or the closing bracket. -/
  | separator
deriving DecidableEq

/-- A document as far as it is built. -/
inductive Build where
  /-- The open containers, innermost first, and what may come next. -/
  | unfinished (stack : List Frame) (expect : Expect)
  /-- The document, and what is wrong with the text behind it. -/
  | finished (root : Document) (trailing : Option Fault)

/-- Containers may be nested this deep where their values are read. -/
def depthLimit : Nat := 127

/-- The container inside the `outer` ones, closed or cut off. A key without a value is cut off
before its value. -/
def Frame.seal (frame : Frame) (outer : List Frame) (cut : Option Fault) : Document :=
  if (outer.drop (depthLimit - 1)).isEmpty then
    match frame with
    | .array items => .array items.reverse cut
    | .object members => .object members.reverse cut
    | .member members name =>
      .object ((name, lost (cut.getD .malformed)) :: members).reverse cut
  else .broken .malformed cut

/-- The container with one more value, which is a key where a key is due. -/
def Frame.put (frame : Frame) (value : Document) : Frame :=
  match frame with
  | .array items => .array (value :: items)
  | .object members => .member members value
  | .member members name => .object ((name, value) :: members)

/-- Cuts off all open containers behind their last value. -/
def cutOff (fault : Fault) : List Frame → Document → Document
  | [], value => value
  | frame :: outer, value => cutOff fault outer ((frame.put value).seal outer (some fault))

/-- The text breaks off behind what the innermost container holds. -/
def Build.breakOff (stack : List Frame) (fault : Fault) : Build :=
  match stack with
  | [] => .finished (lost fault) (some fault)
  | frame :: outer => .finished (cutOff fault outer (frame.seal outer (some fault))) (some fault)

/-- The text breaks off inside or behind this value or key. -/
def Build.breakAt (stack : List Frame) (value : Document) (fault : Fault) : Build :=
  .finished (cutOff fault stack value) (some fault)

/-- A value is finished. -/
def Build.put (stack : List Frame) (value : Document) : Build :=
  match stack with
  | [] => .finished value none
  | frame :: outer => .unfinished (frame.put value :: outer) .separator

/-- The innermost container is closed. -/
def Build.close (stack : List Frame) : Build :=
  match stack with
  | [] => .finished (lost .malformed) (some .malformed)
  | frame :: outer => .put outer (frame.seal outer none)

/-- A key is finished. -/
def Build.putName (stack : List Frame) (name : Document) : Build :=
  match stack with
  | [] => .finished (lost .malformed) (some .malformed)
  | frame :: outer => .unfinished (frame.put name :: outer) .colon

/-- The document of a token that is a value by itself. -/
def ofToken? : Token → Option Document
  | .null => some .null
  | .bool b => some (.bool b)
  | .number (some n) => some (.number n)
  | .string (some s) => some (.string s)
  | .number none | .string none => some (.broken .malformed none)
  | _ => none

/-- A token where a value is due. -/
def Build.value (stack : List Frame) : Token → Build
  | .openArray => .unfinished (.array [] :: stack) .firstValue
  | .openObject => .unfinished (.object [] :: stack) .firstName
  | .brokenString read skip => .breakAt stack (.broken read (some skip)) skip
  | .brokenScalar read skip => .breakAt stack (.brokenScalar read skip) skip
  | token =>
    match ofToken? token with
    | some value => .put stack value
    | none => .breakAt stack (lost .malformed) .malformed

/-- A token where a key is due. Anything but a string is misplaced, and nothing is read behind
it. -/
def Build.name (stack : List Frame) : Token → Build
  | .string (some s) => .putName stack (.string s)
  | .string none => .putName stack (.broken .malformed none)
  | .brokenString read skip => .breakAt stack (.broken read (some skip)) skip
  | _ => .breakAt stack (lost .malformed) .malformed

/-- A token behind an item or a member. -/
def Build.separate (stack : List Frame) (token : Token) : Build :=
  match stack, token with
  | .array _ :: _, .comma => .unfinished stack .value
  | .array _ :: _, .closeArray => .close stack
  | .object _ :: _, .comma => .unfinished stack .name
  | .object _ :: _, .closeObject => .close stack
  | _, _ => .breakOff stack .malformed

/-- Reads one token. -/
def Build.step (build : Build) (token : Token) : Build :=
  match build with
  | .finished root trailing => .finished root (some (trailing.getD .malformed))
  | .unfinished stack expect =>
    match expect with
    | .value => .value stack token
    | .firstValue => if token = .closeArray then .close stack else .value stack token
    | .name => .name stack token
    | .firstName => if token = .closeObject then .close stack else .name stack token
    | .colon =>
      if token = .colon then .unfinished stack .value else .breakOff stack .malformed
    | .separator => .separate stack token

/-- The document at the end of the text, and what is wrong behind it. -/
def Build.finish : Build → Document × Option Fault
  | .finished root trailing => (root, trailing)
  | .unfinished stack expect =>
    let last := match expect with
      | .value | .name => cutOff .endOfText stack (lost .endOfText)
      | .firstValue | .firstName | .colon | .separator =>
        match stack with
        | [] => lost .endOfText
        | frame :: outer => cutOff .endOfText outer (frame.seal outer (some .endOfText))
    (last, some .endOfText)

/-- Reads a text into a document and the fault behind it, if there is one. -/
def read (text : String) : Document × Option Fault :=
  ((Token.scan text.toList).foldl Build.step (.unfinished [] .value)).finish

end Document

/-- The free value that a text denotes. -/
def FreeJson.read (text : String) : Except Fault FreeJson := do
  let (root, trailing) := Document.read text
  let value ← root.free
  Document.cutFault trailing
  return value

end BlockPipeline
