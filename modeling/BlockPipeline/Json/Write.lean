import BlockPipeline.Json.Value
import BlockPipeline.Number.Text

/-!
# Written documents

A document has two written forms. The compact one has no blank at all. The indented one puts
every item and member on a line of its own, two blanks deeper than its container, with one
blank behind the colon; an empty container is written without a break.

Inside quotes only the quote, the backslash and the control characters below the blank are
escaped, five of these by a letter and the others by four lower-case hexadecimal digits.
-/

namespace BlockPipeline

/-- A hexadecimal digit, lower case. -/
def hexDigit (n : Nat) : Char := (Nat.toDigits 16 n).getD 0 '0'

/-- The escape sequence of a character inside a quoted string, or the character itself. -/
def escapeChar (c : Char) : List Char :=
  if c = '"' then ['\\', '"']
  else if c = '\\' then ['\\', '\\']
  else if c = '\n' then ['\\', 'n']
  else if c = '\r' then ['\\', 'r']
  else if c = '\t' then ['\\', 't']
  else if c = '\x08' then ['\\', 'b']
  else if c = '\x0c' then ['\\', 'f']
  else if c.toNat < 0x20 then
    ['\\', 'u', '0', '0', hexDigit (c.toNat / 16), hexDigit (c.toNat % 16)]
  else [c]

/-- A string between quotes. -/
def quote (s : String) : String :=
  "\"" ++ String.ofList (s.toList.flatMap escapeChar) ++ "\""

namespace Json

mutual

/-- The compact form. -/
def compact : Json → String
  | .null => "null"
  | .bool b => if b then "true" else "false"
  | .number n => n.text
  | .string s => quote s
  | .array items => "[" ++ compactItems items ++ "]"
  | .object members => "\x7b" ++ compactMembers members ++ "\x7d"

def compactItems : List Json → String
  | [] => ""
  | [item] => item.compact
  | item :: items => item.compact ++ "," ++ compactItems items

def compactMembers : List (String × Json) → String
  | [] => ""
  | [(key, value)] => quote key ++ ":" ++ value.compact
  | (key, value) :: members =>
    quote key ++ ":" ++ value.compact ++ "," ++ compactMembers members

end

/-- A new line, indented for the given depth. -/
def lineBreak (depth : Nat) : String :=
  "\n" ++ String.ofList (List.replicate (2 * depth) ' ')

mutual

/-- The indented form of a value inside containers of the given depth. -/
def indented (depth : Nat) : Json → String
  | .array [] => "[]"
  | .array items => "[" ++ indentedItems (depth + 1) items ++ lineBreak depth ++ "]"
  | .object [] => "\x7b\x7d"
  | .object members => "\x7b" ++ indentedMembers (depth + 1) members ++ lineBreak depth ++ "\x7d"
  | scalar => scalar.compact

def indentedItems (depth : Nat) : List Json → String
  | [] => ""
  | [item] => lineBreak depth ++ item.indented depth
  | item :: items => lineBreak depth ++ item.indented depth ++ "," ++ indentedItems depth items

def indentedMembers (depth : Nat) : List (String × Json) → String
  | [] => ""
  | [(key, value)] => lineBreak depth ++ quote key ++ ": " ++ value.indented depth
  | (key, value) :: members =>
    lineBreak depth ++ quote key ++ ": " ++ value.indented depth ++ "," ++
      indentedMembers depth members

end

/-- The indented form. -/
def pretty (value : Json) : String := value.indented 0

end Json

end BlockPipeline
