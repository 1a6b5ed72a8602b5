import BlockPipeline.Domain.Direction
import BlockPipeline.Domain.Joiner
import BlockPipeline.Domain.Punycode

/-!
# Domains as they travel

A domain may be written in any script and travels in ASCII: it is brought into its plain form
and divided at the points, and a label beyond ASCII travels as `xn--` and its written form in
letters and digits. A label that is written like this already is read to see that it is the
form of a plain label.

A label does not begin with a mark, has joiners only where they show, and keeps to itself
where directions matter. Hyphens and lengths are not looked at, but for a limit on labels
beyond ASCII.
-/

namespace BlockPipeline.Domain

open Text

/-- What a label beyond ASCII begins with as it travels. -/
def wireMark : List Nat := "xn--".toList.map Char.toNat

def point : Nat := '.'.toNat

/-- The characters of ASCII that no domain has, besides controls and the blank. -/
def forbiddenCodes : List Nat := "%#/:<>?@[\\]^|\x7f".toList.map Char.toNat

/-- Whether no domain has a character. -/
def isForbidden (code : Nat) : Bool := code ≤ 0x20 || forbiddenCodes.contains code

/-- A label and how it travels. -/
structure Label where
  plain : List Nat
  wire : List Nat

/-- How many characters a label beyond ASCII may have. -/
def plainLimit : Nat := 1000

/-- How many characters a written form may have that is read. -/
def wireLimit : Nat := 2000

def isAscii (text : List Nat) : Bool := text.all (· < 0x80)

/-- Whether a label beyond ASCII can stand in a domain where directions do not matter. -/
def isSound (label : List Nat) : Bool :=
  !label.head?.any isMark && joinersShow [] label && label.length ≤ plainLimit

/-- The label that a wire form of it is read as. -/
def readLabel? (wire : List Nat) : Option (List Nat) := do
  let written := wire.drop wireMark.length
  if !isAscii wire || wire.getLast? = some Punycode.hyphen then failure
  if wireLimit < written.length then failure
  let plain ← Punycode.decode? written
  if plainForm? plain = some plain && !plain.any (fun c => isForbidden c || c = point) then
    return plain
  else failure

/-- A label from its plain form. -/
def Label.ofPlain? (label : List Nat) : Option Label := do
  if wireMark.isPrefixOf label then
    let plain ← readLabel? label
    if isSound plain then return ⟨plain, label⟩ else failure
  else if isAscii label then return ⟨label, label⟩
  else if isSound label then
    return ⟨label, wireMark ++ Punycode.encode label⟩
  else failure

/-- The labels of a domain, if it is one. -/
def labels? (domain : List Char) : Option (List Label) := do
  let plain ← plainForm? (domain.map Char.toNat)
  if plain.any isForbidden then failure
  let labels ← (splitAll (· = point) plain).mapM Label.ofPlain?
  if labels.any (fun l => isMixed l.plain) && !labels.all (fun l => isDirected l.plain) then failure
  return labels

/-- A domain as it travels, if it is one. -/
def wireForm? (domain : List Char) : Option (List Char) := do
  let labels ← labels? domain
  return (List.intercalate [point] (labels.map Label.wire)).map Char.ofNat

end BlockPipeline.Domain
