/-!
# Finite 64-bit floating-point numbers

Coordinates, resource limits, training rates and every fractional number of a free JSON
value are numbers of the 64-bit binary interchange format. A document can hold neither an
infinity nor a not-a-number, so the type here has only the finite ones: a sign, a
significand below `2 ^ 53` and an exponent, in the one normal form that the format itself
uses. Equality of values is therefore equality of structures, with the two zeros apart.

All arithmetic is exact arithmetic on `Nat` followed by one rounding: `Double.ofRatio?`
takes a ratio of natural numbers to the nearest number of the format, a tie going to the
even significand, and answers `none` beyond the range. Products and quotients are that
rounding applied to the exact ratio.
-/

namespace BlockPipeline

/-- The leading bit of a full significand, `2 ^ 52`. -/
abbrev Double.hiddenBit : Nat := 4503599627370496

/-- The normal form of a finite number `significand * 2 ^ exponent`: 53 bits at most, the
exponent within the format's range, and either the leading bit set or the least exponent. -/
def Double.Normal (significand : Nat) (exponent : Int) : Prop :=
  significand < 2 * Double.hiddenBit ∧ -1074 ≤ exponent ∧ exponent ≤ 971 ∧
    (Double.hiddenBit ≤ significand ∨ exponent = -1074)

instance (m : Nat) (e : Int) : Decidable (Double.Normal m e) := by
  unfold Double.Normal; infer_instance

/-- A finite number of the 64-bit binary format: `± significand * 2 ^ exponent`. -/
structure Double where
  negative : Bool
  significand : Nat
  exponent : Int
  normal : Double.Normal significand exponent
deriving DecidableEq

namespace Double

/-- Zero with the given sign. -/
def zero (negative : Bool) : Double :=
  ⟨negative, 0, -1074, by decide⟩

/-- The greatest number of the format. -/
def greatest (negative : Bool) : Double :=
  ⟨negative, 2 * hiddenBit - 1, 971, by decide⟩

instance : Inhabited Double := ⟨zero false⟩

def isZero (x : Double) : Bool := x.significand == 0

/-- The parts in normal form, or nothing: the exponent exceeds the range. -/
def ofParts? (negative : Bool) (significand : Nat) (exponent : Int) : Option Double :=
  if h : Normal significand exponent then some ⟨negative, significand, exponent, h⟩ else none

/-! ## Rounding -/

/-- `n * 2 ^ k`, where a negative `k` counts as zero: of a ratio `a * 2 ^ k / b` one side is
scaled by `k` and the other by `-k`. -/
def scale (n : Nat) (k : Int) : Nat := n <<< k.toNat

/-- The natural number nearest to `num / den`; of two that are equally near, the even one. -/
def roundHalfEven (num den : Nat) : Nat :=
  let whole := num / den
  let rest := num % den
  if 2 * rest < den || (2 * rest == den && whole % 2 == 0) then whole else whole + 1

/-- The place of the leading bit of a positive ratio: the `k` with
`2 ^ k ≤ num / den < 2 ^ (k + 1)`. -/
def leadingBit (num den : Nat) : Int :=
  let k : Int := (num.log2 : Int) - (den.log2 : Int)
  if scale den k ≤ scale num (-k) then k else k - 1

/-- The number nearest to `num / den`, ties to the even significand; nothing beyond the
range. Rounding up to `2 ^ 53` moves to the next exponent. -/
def ofRatio? (negative : Bool) (num den : Nat) : Option Double :=
  if num = 0 then
    some (zero negative)
  else
    let exponent := max (-1074) (leadingBit num den - 52)
    let significand := roundHalfEven (scale num (-exponent)) (scale den exponent)
    if significand = 2 * hiddenBit then
      ofParts? negative hiddenBit (exponent + 1)
    else
      ofParts? negative significand exponent

/-- The number nearest to an integer; the greatest one for an integer beyond the range. -/
def ofInt (n : Int) : Double :=
  (ofRatio? (decide (n < 0)) n.natAbs 1).getD (greatest (decide (n < 0)))

/-! ## Arithmetic -/

/-- The exact numerator of a magnitude, its denominator being `denominator`. -/
def numerator (x : Double) : Nat := scale x.significand x.exponent

def denominator (x : Double) : Nat := scale 1 (-x.exponent)

/-- The rounded product; nothing beyond the range. -/
def mul? (x y : Double) : Option Double :=
  ofRatio? (x.negative != y.negative) (x.numerator * y.numerator) (x.denominator * y.denominator)

/-- The rounded quotient; nothing beyond the range or for a divisor of zero. -/
def div? (x y : Double) : Option Double :=
  if y.isZero then none
  else
    ofRatio? (x.negative != y.negative) (x.numerator * y.denominator)
      (x.denominator * y.numerator)

/-! ## Whole numbers -/

/-- The magnitude without its fractional part. -/
def wholePart (x : Double) : Nat := x.numerator / x.denominator

/-- Whether the fractional part is zero. -/
def isWhole (x : Double) : Bool := x.numerator % x.denominator == 0

/-- The number without its fractional part; both zeros give `0`. -/
def truncate (x : Double) : Int :=
  if x.negative then -(x.wholePart : Int) else x.wholePart

end Double

end BlockPipeline
