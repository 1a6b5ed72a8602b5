import BlockPipeline.Number.Double

/-!
# Shortest decimal digits

Among the decimal numbers that a reader rounds back to `x`, the shortest one is written: the
fewest digits, and of those the number nearest to `x`.

The reals that round to `x` form an interval around it. Its ends lie half way to the two
neighbouring numbers of the format, and they belong to it iff the significand is even; the
lower end is nearer when `x` is the least number with its exponent. For one digit, two
digits and so on, the two numbers with that many digits that stand next to `x` are tried;
the first count with one of them inside the interval is the fewest, because if any number of
that grid lies in the interval then so does one of the two next to `x`. Seventeen digits are
always enough.

Everything is computed on natural numbers: `x`, the ends of the interval and the decimal
grid are multiples of one common unit.
-/

namespace BlockPipeline

/-- A decimal number `digits * 10 ^ exponent`. -/
structure Decimal where
  digits : Nat
  exponent : Int
deriving DecidableEq

namespace Double

/-- `10 ^ k`, where a negative `k` counts as zero. -/
def tenScale (n : Nat) (k : Int) : Nat := n * Nat.pow 10 k.toNat

/-- The place of the leading decimal digit of a positive ratio: the `k` with
`10 ^ (k - 1) ≤ num / den < 10 ^ k`. The place of the leading bit, taken times the
logarithm of two, is off by less than two. -/
def leadingPlace (num den : Nat) : Int :=
  let below (k : Int) : Bool := tenScale num (-k) < tenScale den k
  let k := leadingBit num den * 30103 / 100000
  if below k then k else if below (k + 1) then k + 1 else k + 2

/-- Where `x` lies between two neighbouring points of a decimal grid, all in one unit. -/
structure Bracket where
  /-- The grid point at or below `x`, counted in steps. -/
  floor : Nat
  /-- The length of a step. -/
  step : Nat
  /-- The number itself and the interval of reals that round to it. -/
  value : Nat
  lower : Nat
  upper : Nat
  /-- Whether the ends belong to the interval. -/
  closed : Bool

/-- The bracket of `x` on the grid of multiples of `10 ^ place`. -/
def bracket (x : Double) (place : Int) : Bracket :=
  let quarter (n : Nat) : Nat := tenScale (scale n (x.exponent - 2)) (-place)
  let step := tenScale (scale 1 (2 - x.exponent)) place
  let nearerBelow := x.significand == hiddenBit && x.exponent > -1074
  { floor := quarter (4 * x.significand) / step
    step := step
    value := quarter (4 * x.significand)
    lower := quarter (4 * x.significand - if nearerBelow then 1 else 2)
    upper := quarter (4 * x.significand + 2)
    closed := x.significand % 2 == 0 }

/-- Whether a number of steps rounds to the bracketed number. -/
def Bracket.contains (b : Bracket) (steps : Nat) : Bool :=
  let position := steps * b.step
  if b.closed then b.lower ≤ position && position ≤ b.upper
  else b.lower < position && position < b.upper

/-- Which of the two grid points next to the number is taken when both are inside and
equally near. -/
inductive Tie where
  | even
  | up
deriving DecidableEq

/-- The nearer of the two grid points among those that round to the number. -/
def Bracket.pick? (b : Bracket) (tie : Tie) : Option Nat :=
  let rest := b.value % b.step
  let nearerUp :=
    b.step < 2 * rest ||
      (b.step == 2 * rest && match tie with
        | .even => b.floor % 2 == 1
        | .up => true)
  match b.contains b.floor, b.contains (b.floor + 1) with
  | true, true => some (if nearerUp then b.floor + 1 else b.floor)
  | true, false => some b.floor
  | false, true => some (b.floor + 1)
  | false, false => none

/-- The shortest decimal number that reads back as the magnitude of `x`. -/
def shortest (x : Double) (tie : Tie) : Decimal :=
  if x.isZero then ⟨0, 0⟩
  else
    let place := leadingPlace x.numerator x.denominator
    let withDigits (count : Nat) : Option Decimal :=
      ((x.bracket (place - count)).pick? tie).map (⟨·, place - count⟩)
    ((List.range' 1 17).findSome? withDigits).getD ⟨x.significand, x.exponent⟩

end Double

end BlockPipeline
