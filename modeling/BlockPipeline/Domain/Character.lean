import BlockPipeline.Domain.CharacterTable
import BlockPipeline.Text.Canonical.Form
import BlockPipeline.Text.Visible

/-!
# The characters of a domain

Domains are compared by what they say and not by how they are written, so a domain is brought
into a plain form first: its characters are taken apart, capital letters become small ones,
characters that only differ in style become plain ones, characters that cannot be told from
nothing are dropped, and what is left is composed. A character that does not show is refused,
and so are a few others; the two joiners are allowed because they change how their
neighbours look.
-/

namespace BlockPipeline.Domain

open Text

/-- The codes at which the property of being dropped changes. -/
def droppedChanges : List Nat :=
  [173, 174, 847, 848, 4447, 4449, 6068, 6070, 6155, 6160, 8203, 8204, 8288, 8293, 8298, 8304,
    12644, 12645, 65024, 65040, 65279, 65280, 65440, 65441, 113824, 113828, 119155, 119163, 917760,
    918000]

/-- The codes at which the property of being refused changes, for characters that show. -/
def refusedChanges : List Nat :=
  [8228, 8231, 9352, 9372, 12272, 12288, 12783, 12784, 13250, 13251, 13255, 13256, 13272, 13273,
    65042, 65043, 65049, 65050, 65072, 65073, 65106, 65107, 65532, 65534, 127232, 127233]

/-- The non-joiner. -/
def nonJoiner : Nat := 0x200C

/-- The joiner. -/
def joiner : Nat := 0x200D

/-- Whether a character may stand in a domain. -/
def isAllowed (code : Nat) : Bool :=
  code == nonJoiner || code == joiner ||
    (holdsAt visibleChanges code && !holdsAt refusedChanges code)

/-- What stands in the plain form for a character that cannot be taken apart; nothing for one
that is refused. -/
def plain? (code : Nat) : Option (List Nat) :=
  if holdsAt droppedChanges code then some []
  else
    match replacement? replacementRows code with
    | some text => some text
    | none => if isAllowed code then some [code] else none

/-- The plain form of a text, if all its characters are allowed. -/
def plainForm? (text : List Nat) : Option (List Nat) := do
  let replaced ← (Canonical.takenApart text).mapM plain?
  return Canonical.composedForm replaced.flatten

end BlockPipeline.Domain
