import BlockPipeline.Text.Basic

/-!
# Escapes in addresses

An address is written in visible ASCII. Every other character, and every one that means
something else where it stands, is written as its bytes, each as a percent sign and two
hexadecimal digits.
-/

namespace BlockPipeline.Address

/-- A character by its bytes. -/
def percentEncode (c : Char) : List Char :=
  (String.singleton c).toUTF8.toList.flatMap fun b =>
    '%' :: [Nat.toDigits 16 (b.toNat / 16), Nat.toDigits 16 (b.toNat % 16)].flatten.map Char.toUpper

/-- Escapes the characters that may not stand for themselves: those beyond ASCII, the controls,
and the given ones. -/
def encoded (special : List Char) (text : List Char) : List Char :=
  text.flatMap fun c =>
    if c.toNat < 0x20 || c.toNat ≥ 0x7F || special.contains c then percentEncode c else [c]

/-- What is escaped in a fragment; a path escapes some more, and a user name more still. -/
def fragmentSpecial : List Char := [' ', '"', '<', '>', '\x60']

def pathSpecial : List Char := fragmentSpecial ++ ['#', '?', '\x7b', '\x7d']

def userSpecial : List Char := pathSpecial ++ "/:;=@[\\]^|".toList

def querySpecial : List Char := [' ', '"', '#', '<', '>']

/-- The bytes of a text with its escapes resolved. -/
def percentDecodedBytes : List Char → List UInt8
  | '%' :: a :: b :: rest =>
    match Text.hexValue? a, Text.hexValue? b with
    | some high, some low => .ofNat (high * 16 + low) :: percentDecodedBytes rest
    | _, _ => 0x25 :: percentDecodedBytes (a :: b :: rest)
  | c :: rest => (String.singleton c).toUTF8.toList ++ percentDecodedBytes rest
  | [] => []

/-- A text with its escapes resolved, if the bytes are a text. -/
def percentDecoded? (text : List Char) : Option (List Char) :=
  (String.fromUTF8? ⟨(percentDecodedBytes text).toArray⟩).map String.toList

end BlockPipeline.Address
