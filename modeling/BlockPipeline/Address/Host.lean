import BlockPipeline.Address.Escape
import BlockPipeline.Domain.Name
import BlockPipeline.Text.Basic

/-!
# Hosts

A host is a domain or a number. A number of 32 bits is written as up to four parts between
points, one of 128 bits as pieces of sixteen between colons, in brackets. Which number it is
does not depend on how it is written, so the written form here is always the same one.

A host that ends in a number is a number or none at all. Only the schemes of the web know
domains; for any other scheme a host is just a text.
-/

namespace BlockPipeline.Address

open Text

inductive Host where
  /-- A domain, or the text of a host for a scheme that does not know domains. -/
  | name (text : String)
  /-- Four bytes. -/
  | bytes (bytes : List Nat)
  /-- Eight pieces of sixteen bits. -/
  | pieces (pieces : List Nat)
deriving DecidableEq

/-! ## Numbers of 32 bits -/

/-- A number of a host: decimal, octal behind a zero, or hexadecimal behind `0x`. -/
def hostNumber? (part : List Char) : Option Nat :=
  let (radix, digits) : Nat × List Char := match part with
    | '0' :: 'x' :: rest => (16, rest)
    | '0' :: 'X' :: rest => (16, rest)
    | '0' :: c :: rest => (8, c :: rest)
    | part => (10, part)
  if part.isEmpty then none
  else digits.foldl
    (fun n c => do
      let d ← hexValue? c
      if d < radix then return (← n) * radix + d else none)
    (some 0)

/-- The parts of a host between points, without an empty one at the end. -/
def hostParts (host : List Char) : List (List Char) :=
  let parts := splitAll (· = '.') host
  if parts.length > 1 && parts.getLast? = some [] then parts.dropLast else parts

/-- Whether the last part of a host is a number, so that all of it has to be. -/
def endsInNumber (host : List Char) : Bool :=
  match (hostParts host).getLast? with
  | some last => (!last.isEmpty && last.all Char.isDigit) || (hostNumber? last).isSome
  | none => false

/-- The bytes of a host that is a number. At most four parts are read, of which the last one
fills what is left. -/
def hostBytes? (host : List Char) : Option (List Nat) := do
  let numbers ← (hostParts host).mapM hostNumber?
  let last ← numbers.getLast?
  let bytes := numbers.dropLast
  let free := 4 - bytes.length
  if 3 < bytes.length || bytes.any (255 < ·) || 1 <<< (8 * free) ≤ last then failure
  return bytes ++ (List.range free).reverse.map fun k => last >>> (8 * k) % 256

/-! ## Numbers of 128 bits -/

/-- The pieces of a part between colons: one in up to four hexadecimal digits, or two in four
bytes between points. -/
def partPieces? (part : List Char) : Option (List Nat) :=
  if part.contains '.' then do
    let bytes ← (splitAll (· = '.') part).mapM fun b =>
      if !b.isEmpty && b.length ≤ 3 && b.all Char.isDigit && (b.length = 1 || b.head? != some '0')
      then (hostNumber? b).filter (· ≤ 255)
      else none
    match bytes with
    | [a, b, c, d] => return [a * 256 + b, c * 256 + d]
    | _ => failure
  else if part.length ≤ 4 && !part.isEmpty then (hexNumber? part).map ([·])
  else none

/-- The pieces of parts between colons; only the last part may be written with points. -/
def allPieces? (text : List Char) : Option (List Nat) := do
  if text.isEmpty then return []
  let parts := splitAll (· = ':') text
  if parts.dropLast.any (·.contains '.') then failure
  return (← parts.mapM partPieces?).flatten

/-- What stands in front of the first double colon and what behind it. -/
def splitDoubleColon : List Char → Option (List Char × List Char)
  | ':' :: ':' :: rest => some ([], rest)
  | c :: rest => (splitDoubleColon rest).map fun (front, back) => (c :: front, back)
  | [] => none

/-- Eight pieces, or fewer with one double colon for the missing ones, which are zero. -/
def hostPieces? (text : List Char) : Option (List Nat) := do
  match splitDoubleColon text with
  | some (front, back) =>
    let first ← allPieces? front
    let second ← allPieces? back
    let missing := 8 - (first.length + second.length)
    if front.contains '.' || missing = 0 then failure
    return first ++ List.replicate missing 0 ++ second
  | none => (allPieces? text).filter (·.length = 8)

/-- Where the longest run of zeros begins and how long it is, the first one of several. -/
def longestZeros (pieces : List Nat) : Nat × Nat :=
  let zerosFrom (k : Nat) : Nat := ((pieces.drop k).takeWhile (· = 0)).length
  let runs := (List.range pieces.length).map fun k => (k, zerosFrom k)
  runs.foldl (fun best run => if best.2 < run.2 then run else best) (0, 0)

/-- The written form of pieces. A double colon stands for the longest run of zeros, if it is
longer than one. -/
def piecesText (pieces : List Nat) : String :=
  let joined (pieces : List Nat) : String :=
    ":".intercalate (pieces.map fun p => String.ofList (Nat.toDigits 16 p))
  let (start, length) := longestZeros pieces
  if length < 2 then joined pieces
  else joined (pieces.take start) ++ "::" ++ joined (pieces.drop (start + length))

/-! ## Hosts -/

/-- The written form of a host. -/
def Host.text : Host → String
  | .name text => text
  | .bytes four => ".".intercalate (four.map toString)
  | .pieces eight => "[" ++ piecesText eight ++ "]"

/-- The host of a text in brackets. -/
def bracketedHost? (text : List Char) : Option Host :=
  if text.getLast? = some ']' then (hostPieces? text.dropLast).map .pieces else none

/-- The host of a text for a scheme of the web. -/
def webHost? (text : List Char) : Option Host :=
  match text with
  | '[' :: rest => bracketedHost? rest
  | _ => do
    let domain ← Domain.wireForm? (← percentDecoded? text)
    if domain.isEmpty then failure
    if endsInNumber domain then (hostBytes? domain).map .bytes
    else return .name (String.ofList domain)

/-- The characters that no host has. -/
def forbiddenInHost : List Char := "\x00\t\n\r #/:<>?@[\\]^|".toList

/-- The host of a text for any other scheme. -/
def otherHost? (text : List Char) : Option Host :=
  match text with
  | '[' :: rest => bracketedHost? rest
  | _ =>
    if text.any forbiddenInHost.contains then none
    else some (.name (String.ofList (encoded [] text)))

end BlockPipeline.Address
