import BlockPipeline.Number.Literal
import BlockPipeline.Text.Basic

/-!
# Tokens of a JSON text

The scanner runs over the characters once and emits tokens. A text may end inside a token or
break its rules there; the token is then *broken* and the last one, and it says whether the
text ended too early or is malformed. What is wrong with a text is thus found only by a
reader that gets as far as the broken token, which is how the first fault of a text, counted
from its beginning, comes to win.

Two things are wrong for a reader of the value and not for one that skips it: a string with
an unpaired surrogate, and a number beyond the range. Their tokens are complete and carry no
value. A number that breaks off at the end of the text ends it too early for a reader of the
value; for one that skips it, the number is malformed.
-/

namespace BlockPipeline

/-- Why a text is no JSON document. -/
inductive Fault where
  /-- The text ends before the document does. -/
  | endOfText
  /-- The text breaks the rules of a document. -/
  | malformed
deriving DecidableEq

/-- A token. -/
inductive Token where
  | openArray
  | closeArray
  | openObject
  | closeObject
  | colon
  | comma
  | null
  | bool (b : Bool)
  /-- A number, without a value if it is beyond the range. -/
  | number (value : Option Number)
  /-- A string, without a value if a surrogate in it has no partner. -/
  | string (value : Option String)
  /-- A string that the scanner could not finish: what a reader of its value finds wrong
  first, and what one that skips it finds. -/
  | brokenString (read skip : Fault)
  /-- A word or number that the scanner could not finish, with the same two findings. -/
  | brokenScalar (read skip : Fault)
  /-- A character with which no token begins. -/
  | stray
deriving DecidableEq

/-! ## Strings -/

/-- A string while it is scanned. -/
structure Quoted where
  /-- The characters so far, latest first. -/
  chars : List Char := []
  /-- A leading surrogate whose partner has to follow at once. -/
  leading : Option Nat := none
  /-- Whether a surrogate without partner was met. -/
  unpaired : Bool := false

namespace Quoted

/-- A leading surrogate that is not followed by its partner has none. -/
def settle (q : Quoted) : Quoted :=
  match q.leading with
  | none => q
  | some _ => { q with leading := none, unpaired := true }

def push (q : Quoted) (c : Char) : Quoted :=
  let q := q.settle
  { q with chars := c :: q.chars }

/-- Adds the UTF-16 unit of a numeric escape. -/
def pushUnit (q : Quoted) (unit : Nat) : Quoted :=
  if 0xDC00 ≤ unit ∧ unit ≤ 0xDFFF then
    match q.leading with
    | some high =>
      let code := 0x10000 + (high - 0xD800) * 0x400 + (unit - 0xDC00)
      { q with chars := Char.ofNat code :: q.chars, leading := none }
    | none => { q with unpaired := true }
  else
    let q := q.settle
    if 0xD800 ≤ unit ∧ unit ≤ 0xDBFF then { q with leading := some unit }
    else { q with chars := Char.ofNat unit :: q.chars }

/-- The token at the closing quote. -/
def finish (q : Quoted) : Token :=
  if q.settle.unpaired then .string none else .string (some (String.ofList q.chars.reverse))

/-- The token where the scanner stops inside the string. -/
def interrupt (q : Quoted) (fault : Fault) : Token :=
  .brokenString (if q.unpaired then .malformed else fault) fault

end Quoted

/-! ## Numbers -/

/-- How far a number has been scanned. Digits are kept latest first. -/
inductive Digits where
  | sign
  | zero
  | whole (digits : List Nat)
  | point (whole : List Nat)
  | fraction (whole fraction : List Nat)
  | exponentMark (whole : List Nat) (fraction : Option (List Nat))
  | exponentSign (whole : List Nat) (fraction : Option (List Nat)) (negative : Bool)
  | exponent (whole : List Nat) (fraction : Option (List Nat)) (negative : Bool) (digits : List Nat)

namespace Digits

/-- The value of a decimal digit. -/
def digit? (c : Char) : Option Nat :=
  if c.isDigit then some (c.toNat - '0'.toNat) else none

/-- The number that digits denote, the latest digit first. -/
def value (digits : List Nat) : Nat :=
  digits.foldr (fun d n => n * 10 + d) 0

/-- The token of a literal. -/
def literalToken (negative : Bool) (whole : List Nat) (fraction : Option (List Nat) := none)
    (exponent : Option Int := none) : Token :=
  .number (Literal.number? ⟨negative, whole.reverse, fraction.map List.reverse, exponent⟩)

def signed (negative : Bool) (n : Nat) : Int := if negative then -(n : Int) else n

/-- The token of a number that ends here, or what is missing for one. -/
def token? (negative : Bool) : Digits → Option Token
  | .zero => some (literalToken negative [0])
  | .whole w => some (literalToken negative w)
  | .fraction w f => some (literalToken negative w (some f))
  | .exponent w f down ds => some (literalToken negative w f (some (signed down (value ds))))
  | .sign | .point _ | .exponentMark _ _ | .exponentSign _ _ _ => none

/-- The number with one more character; nothing if the number ends before it. -/
def push? (digits : Digits) (c : Char) : Option Digits :=
  match digits, digit? c with
  | .sign, some 0 => some .zero
  | .sign, some d => some (.whole [d])
  | .whole w, some d => some (.whole (d :: w))
  | .point w, some d => some (.fraction w [d])
  | .fraction w f, some d => some (.fraction w (d :: f))
  | .exponentMark w f, some d => some (.exponent w f false [d])
  | .exponentSign w f down, some d => some (.exponent w f down [d])
  | .exponent w f down ds, some d => some (.exponent w f down (d :: ds))
  | .zero, none => behindWhole [0]
  | .whole w, none => behindWhole w
  | .fraction w f, none => if c = 'e' ∨ c = 'E' then some (.exponentMark w (some f)) else none
  | .exponentMark w f, none =>
    if c = '+' then some (.exponentSign w f false)
    else if c = '-' then some (.exponentSign w f true)
    else none
  | _, _ => none
where
  behindWhole (w : List Nat) : Option Digits :=
    if c = '.' then some (.point w)
    else if c = 'e' ∨ c = 'E' then some (.exponentMark w none)
    else none

/-- Whether no digit may follow, as behind a leading zero. -/
def refusesDigit : Digits → Bool
  | .zero => true
  | _ => false

end Digits

/-! ## The scanner -/

/-- What the scanner is inside of. -/
inductive Scan where
  | between
  /-- A word of which these characters have to follow. -/
  | word (next : Char) (rest : List Char) (token : Token)
  | number (negative : Bool) (digits : Digits)
  | string (q : Quoted)
  /-- Behind a backslash. -/
  | escape (q : Quoted)
  /-- Behind `\u`, with the characters that have to be four hexadecimal digits. -/
  | unicode (q : Quoted) (digits : List Char)
  /-- Behind a broken token. -/
  | stopped

namespace Scan

/-- The four blank characters of the format. -/
def isBlank (c : Char) : Bool := c = ' ' || c = '\n' || c = '\t' || c = '\r'

/-- The state and the tokens behind the first character of something new. -/
def start (c : Char) : Scan × List Token :=
  if isBlank c then (.between, [])
  else match c with
    | '[' => (.between, [.openArray])
    | ']' => (.between, [.closeArray])
    | '\x7b' => (.between, [.openObject])
    | '\x7d' => (.between, [.closeObject])
    | ':' => (.between, [.colon])
    | ',' => (.between, [.comma])
    | 'n' => (.word 'u' ['l', 'l'] .null, [])
    | 't' => (.word 'r' ['u', 'e'] (.bool true), [])
    | 'f' => (.word 'a' ['l', 's', 'e'] (.bool false), [])
    | '"' => (.string {}, [])
    | '-' => (.number true .sign, [])
    | c =>
      match Digits.digit? c with
      | some 0 => (.number false .zero, [])
      | some d => (.number false (.whole [d]), [])
      | none => (.stopped, [.stray])

/-- The character that a one-letter escape stands for. -/
def escaped? : Char → Option Char
  | '"' => some '"'
  | '\\' => some '\\'
  | '/' => some '/'
  | 'b' => some '\x08'
  | 'f' => some '\x0c'
  | 'n' => some '\n'
  | 'r' => some '\r'
  | 't' => some '\t'
  | _ => none

/-- Reads one character. The four digits of a numeric escape are judged once four bytes of
the text have gone by. -/
def step (scan : Scan) (c : Char) : Scan × List Token :=
  match scan with
  | .between => start c
  | .word next rest token =>
    if c ≠ next then broken (.brokenScalar .malformed .malformed)
    else match rest with
      | [] => (.between, [token])
      | after :: rest => (.word after rest token, [])
  | .number negative digits =>
    match digits.push? c with
    | some digits => (.number negative digits, [])
    | none =>
      match digits.token? negative with
      | none => broken (.brokenScalar .malformed .malformed)
      | some token =>
        if digits.refusesDigit && c.isDigit then broken (.brokenScalar .malformed .malformed)
        else (start c).map id (token :: ·)
  | .string q =>
    if c = '"' then (.between, [q.finish])
    else if c = '\\' then (.escape q, [])
    else if c.toNat < 0x20 then broken (q.interrupt .malformed)
    else (.string (q.push c), [])
  | .escape q =>
    if c = 'u' then (.unicode q [], [])
    else match escaped? c with
      | some e => (.string (q.push e), [])
      | none => broken (q.interrupt .malformed)
  | .unicode q digits =>
    let digits := digits ++ [c]
    if (String.ofList digits).utf8ByteSize < 4 then (.unicode q digits, [])
    else match Text.hexNumber? digits with
      | some unit => (.string (q.pushUnit unit), [])
      | none => broken (q.interrupt .malformed)
  | .stopped => (.stopped, [])
where
  broken (token : Token) : Scan × List Token := (.stopped, [token])

/-- The token at the end of the text. -/
def finish : Scan → List Token
  | .between | .stopped => []
  | .word _ _ _ => [.brokenScalar .endOfText .endOfText]
  | .number negative digits =>
    match digits.token? negative with
    | some token => [token]
    | none => [.brokenScalar .endOfText .malformed]
  | .string q | .escape q | .unicode q _ => [q.interrupt .endOfText]

end Scan

/-- The tokens of a text. -/
def Token.scan (text : List Char) : List Token :=
  let advance (state : Scan × List Token) (c : Char) : Scan × List Token :=
    let (scan, tokens) := state.1.step c
    (scan, tokens.reverse ++ state.2)
  let (scan, tokens) := text.foldl advance (.between, [])
  tokens.reverse ++ scan.finish

end BlockPipeline
