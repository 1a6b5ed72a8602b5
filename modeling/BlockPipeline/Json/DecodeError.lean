import BlockPipeline.Json.Document
import BlockPipeline.Number.Text
import BlockPipeline.Text.Visible

/-!
# Why a document is not decoded

A document may be no JSON at all, may hold a value of the wrong type, or may miss what a
record needs. Each cause carries what its message names, and the wording is in
`DecodeError.message` alone. The three causes that concern the text itself rather than its
shape are written as a mark between braces.
-/

namespace BlockPipeline

/-- What a document holds at a place where something else is expected. -/
inductive Found where
  | null
  | bool (b : Bool)
  | number (n : Number)
  | string (s : String)
  | sequence
  | mapping

def Found.text : Found → String
  | .null => "null"
  | .bool b => "boolean `" ++ (if b then "true" else "false") ++ "`"
  | .number (.integer n) => "integer `" ++ toString n.value ++ "`"
  | .number (.fractional x) => "floating point `" ++ x.text ++ "`"
  | .string s => "string " ++ Text.quoted s
  | .sequence => "sequence"
  | .mapping => "map"

/-- What stands at the root of a document; a scalar has to be readable for that. -/
def Document.found : Document → Except Fault Found
  | .null => .ok .null
  | .bool b => .ok (.bool b)
  | .number n => .ok (.number n)
  | .string s => .ok (.string s)
  | .array _ _ => .ok .sequence
  | .object _ _ => .ok .mapping
  | .broken fault _ => .error fault
  | .brokenScalar fault _ => .error fault

/-- Why a document does not decode. -/
inductive DecodeError where
  | text (fault : Fault)
  /-- A string is not a time stamp. -/
  | unreadableTime
  | wrongType (found : Found) (expected : String)
  /-- The type is right and the value outside its range. -/
  | wrongValue (found : Found) (expected : String)
  | wrongLength (count : Nat) (expected : String)
  | missingField (name : String)
  | duplicateField (name : String)
  | unknownVariant (name : String) (known : List String)

/-- The mark of a fault of the text. -/
def Fault.mark : Fault → String
  | .endOfText => "\x7beof\x7d"
  | .malformed => "\x7bsyntax\x7d"

namespace DecodeError

/-- A name between backquotes. -/
def named (name : String) : String := "`" ++ name ++ "`"

/-- The list of the variants that are known. -/
def knownVariants : List String → String
  | [a, b] => named a ++ " or " ++ named b
  | known => "one of " ++ ", ".intercalate (known.map named)

def message : DecodeError → String
  | .text fault => fault.mark
  | .unreadableTime => "\x7btime\x7d"
  | .wrongType found expected => "invalid type: " ++ found.text ++ ", expected " ++ expected
  | .wrongValue found expected => "invalid value: " ++ found.text ++ ", expected " ++ expected
  | .wrongLength count expected =>
    "invalid length " ++ toString count ++ ", expected " ++ expected
  | .missingField name => "missing field " ++ named name
  | .duplicateField name => "duplicate field " ++ named name
  | .unknownVariant name known =>
    "unknown variant " ++ named name ++ ", expected " ++ knownVariants known

end DecodeError

end BlockPipeline
