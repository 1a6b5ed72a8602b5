import BlockPipeline.Number.Double

/-!
# Decimal literals

A literal is what stands in a text: a sign, the digits before and after the point, and a
power of ten. Two readings are kept apart:

- a literal without fraction and exponent whose value fits into 64 bits (signed below zero,
  unsigned from zero up) is an integer, except that `-0` is the floating-point zero;
- every other literal is a floating-point number. Its significand is made of the leading
  digits that fit into 64 bits, and this integer is scaled by a power of ten in
  floating-point arithmetic; a result beyond the range is no number.

The scaling rounds twice, once for the significand and once for the product or quotient.
For a literal of at most fifteen digits and a power of ten up to twenty-two both operands
are exact and the result is the number nearest to the literal.
-/

namespace BlockPipeline

/-- A number as it is written. Digits are values below ten, most significant first. -/
structure Literal where
  negative : Bool
  whole : List Nat
  fraction : Option (List Nat) := none
  exponent : Option Int := none
deriving DecidableEq

/-- An integer of 64 bits: signed below zero, unsigned from zero up. -/
structure WordInt where
  value : Int
  inWord : -9223372036854775808 ≤ value ∧ value < 18446744073709551616
deriving DecidableEq

namespace WordInt

/-- The integer, if it fits. -/
def ofInt? (n : Int) : Option WordInt :=
  if h : -9223372036854775808 ≤ n ∧ n < 18446744073709551616 then some ⟨n, h⟩ else none

def ofUInt64 (n : UInt64) : WordInt :=
  ⟨(n.toNat : Int), by have := n.toNat_lt; omega⟩

/-- The unsigned reading of an integer that is not negative. -/
def toUInt64? (n : WordInt) : Option UInt64 :=
  if n.value < 0 then none else some (UInt64.ofNat n.value.toNat)

theorem toUInt64?_ofUInt64 (n : UInt64) : (ofUInt64 n).toUInt64? = some n := by
  have h : ¬ ((n.toNat : Int) < 0) := by omega
  simp [ofUInt64, toUInt64?, h]

end WordInt

/-- A number as it is read: an integer of 64 bits, or a floating-point number. -/
inductive Number where
  | integer (n : WordInt)
  | fractional (x : Double)
deriving DecidableEq

namespace Literal

/-- Adds the leading digits to `significand` while it stays below `2 ^ 64`; answers the
significand and the digits that are left. -/
def takeDigits (significand : Nat) : List Nat → Nat × List Nat
  | [] => (significand, [])
  | d :: ds =>
    if significand * 10 + d < 18446744073709551616 then takeDigits (significand * 10 + d) ds
    else (significand, d :: ds)

/-- `10 ^ k` as a floating-point number. -/
def tenPow (k : Nat) : Double :=
  (Double.ofRatio? false (Nat.pow 10 k) 1).getD (Double.greatest false)

/-- `x * 10 ^ k` with one rounding, for a power within the range of the format; below it
the quotient is taken in two steps, and a smaller power gives zero. -/
def scaleByTen (x : Double) (k : Int) : Option Double :=
  if k ≥ 0 then
    if x.isZero then some x
    else if k ≤ 308 then x.mul? (tenPow k.toNat)
    else none
  else if -k ≤ 308 then x.div? (tenPow (-k).toNat)
  else if -k ≤ 616 then do
    let y ← x.div? (tenPow 308)
    y.div? (tenPow (-k - 308).toNat)
  else some (Double.zero x.negative)

/-- The floating-point reading; nothing when the value is beyond the range. -/
def double? (l : Literal) : Option Double := do
  let (significand, rest) := takeDigits 0 l.whole
  let fraction := l.fraction.getD []
  let (significand, unread) := takeDigits significand fraction
  let places : Int := (rest.length : Int) - ((fraction.length - unread.length : Nat) : Int)
  let x ← Double.ofRatio? l.negative significand 1
  scaleByTen x (places + l.exponent.getD 0)

/-- Whether the literal is written with digits alone. -/
def isPlain (l : Literal) : Bool := l.fraction.isNone && l.exponent.isNone

/-- The value of the digits before the point. -/
def wholeValue (l : Literal) : Nat := l.whole.foldl (fun n d => n * 10 + d) 0

/-- The integer reading of a literal, where it has one: digits alone, and a value that fits.
The literal `-0` has none, because only a floating-point zero has a sign. -/
def integer? (l : Literal) : Option WordInt :=
  if !l.isPlain then none
  else if l.negative then
    if l.wholeValue = 0 then none else WordInt.ofInt? (-(l.wholeValue : Int))
  else WordInt.ofInt? l.wholeValue

/-- The value of a literal: its integer reading if it has one, else its floating-point
reading; nothing for a literal beyond the range. -/
def number? (l : Literal) : Option Number :=
  match l.integer? with
  | some n => some (.integer n)
  | none => l.double?.map .fractional

end Literal

end BlockPipeline
