import BlockPipeline.Address.Escape
import BlockPipeline.Text.Basic

/-!
# Paths, queries and fragments

A path is a row of parts behind slashes. A part that is a point stands for nothing, and one of
two points takes back the part in front of it, unless that is the letter of a drive: a drive is
never left. In the path of a file the letter of a drive may be followed by a bar, which is
written as a colon.

Tabulators and line breaks are no characters of an address. Only in the path of a file, behind
the letter of a drive, one divides the drive from the rest of its part.
-/

namespace BlockPipeline.Address

open Text

/-- Whether a text is a letter with a colon or a bar behind it. -/
def isDrive (text : List Char) : Bool :=
  match text with
  | [letter, mark] => letter.isAlpha && (mark = ':' || mark = '|')
  | _ => false

/-- Whether a part of a path names a drive; it may go on behind a backslash. -/
def isDrivePart (part : List Char) : Bool := isDrive (part.takeWhile (· ≠ '\\'))

/-- The kind of dot segment that a part of a path is: how many steps up it goes. -/
def dotSegment? (part : List Char) : Option Nat :=
  let plain := String.ofList (part.map Char.toLower)
  if plain == "." || plain == "%2e" then some 0
  else if ["..", ".%2e", "%2e.", "%2e%2e"].contains plain then some 1
  else none

/-- One step up from parts that are given latest first. -/
def stepUp : List (List Char) → List (List Char)
  | [] => []
  | part :: earlier => if isDrivePart part then part :: earlier else earlier

def isBreak (c : Char) : Bool := c = '\t' || c = '\n' || c = '\r'

def withoutBreaks (text : List Char) : List Char := text.filter (!isBreak ·)

/-- The first part of a file's path as it is written, latest first if it is divided. -/
def firstParts (part : List Char) : List (List Char) :=
  let plain := withoutBreaks part
  let drive := plain.take 1 ++ [':']
  if isDrive plain then [drive]
  else if plain.take 2 = drive && isDrive drive && (part.dropWhile (· ≠ ':')).tail.head?.any isBreak
  then [encoded pathSpecial (plain.drop 2), drive]
  else [encoded pathSpecial plain]

/-- The parts of a path with the dot segments carried out, latest first. A dot segment at the
end leaves an empty part. -/
def resolveParts (file : Bool) : List (List Char) → List (List Char) → List (List Char)
  | resolved, [] => resolved
  | resolved, part :: rest =>
    match dotSegment? (withoutBreaks part) with
    | some up =>
      let above := if up = 0 then resolved else stepUp resolved
      resolveParts file (if rest.isEmpty then [] :: above else above) rest
    | none =>
      let written :=
        if file && resolved.isEmpty then firstParts part
        else [encoded pathSpecial (withoutBreaks part)]
      resolveParts file (written ++ resolved) rest

/-- The parts of a path whose slash at the front is not part of the text. -/
def pathParts (special file : Bool) (text : List Char) : List (List Char) :=
  (resolveParts file [] (splitAll (fun c => c = '/' || (special && c = '\\')) text)).reverse

/-- The written form of a path of the given parts. -/
def pathText (parts : List (List Char)) : List Char := '/' :: ['/'].intercalate parts

/-- The written form of a query and a fragment. -/
def tailText (special : Bool) (tail : List Char) : List Char :=
  let fragment := match tail.dropWhile (· ≠ '#') with
    | '#' :: fragment => '#' :: encoded fragmentSpecial fragment
    | _ => []
  match tail.takeWhile (· ≠ '#') with
  | '?' :: query =>
    '?' :: encoded (if special then '\'' :: querySpecial else querySpecial) query ++ fragment
  | _ => fragment

end BlockPipeline.Address
