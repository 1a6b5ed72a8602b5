import BlockPipeline.Number.Literal
import BlockPipeline.Number.Shortest

/-!
# How numbers are written

The digits of a floating-point number are chosen by `Double.shortest`; how they are laid out
is a matter of the document. `Layout` holds those decisions, and there are two of them: the
one of the documents and messages, and the one of the trace listing, where a number always
stands in positional form.
-/

namespace BlockPipeline

/-- The decisions of a written floating-point form. The *point* of a number is the place of
its decimal point relative to its digits: `0.d₁d₂… * 10 ^ point`. -/
structure Layout where
  /-- How two equally near digit strings are told apart. -/
  tie : Double.Tie
  /-- Whether a number with this point is written positionally, else with an exponent. -/
  positional : Int → Bool
  /-- What follows a number without fractional digits. -/
  wholeTail : String

namespace Layout

/-- The form of documents and messages: positional from `1e-5` up to, but without, `1e16`,
whole numbers with one fractional zero, ties to the even digit. -/
def document : Layout :=
  { tie := .even, positional := fun point => -5 < point && point ≤ 16, wholeTail := ".0" }

/-- The form of the trace listing: always positional, whole numbers without a point, ties
upwards. -/
def listing : Layout :=
  { tie := .up, positional := fun _ => true, wholeTail := "" }

/-- The digits of a natural number without zeros at the end; none for zero. -/
def significantDigits (n : Nat) : List Char :=
  ((Nat.toDigits 10 n).reverse.dropWhile (· == '0')).reverse

/-- Digits with the point inside, before or behind them. -/
def positionalForm (l : Layout) (digits : List Char) (point : Int) : String :=
  if point ≤ 0 then
    "0." ++ String.ofList (List.replicate (-point).toNat '0' ++ digits)
  else if digits.length ≤ point.toNat then
    String.ofList (digits ++ List.replicate (point.toNat - digits.length) '0') ++ l.wholeTail
  else
    String.ofList (digits.take point.toNat) ++ "." ++ String.ofList (digits.drop point.toNat)

/-- One digit before the point, the others behind it, and a signed exponent. -/
def exponentForm (digits : List Char) (point : Int) : String :=
  let lead := String.ofList (digits.take 1)
  let rest := if digits.length ≤ 1 then "" else "." ++ String.ofList (digits.drop 1)
  let exponent := point - 1
  let sign := if exponent < 0 then "-" else "+"
  lead ++ rest ++ "e" ++ sign ++ toString exponent.natAbs

/-- The text of a floating-point number. -/
def write (l : Layout) (x : Double) : String :=
  let sign := if x.negative then "-" else ""
  if x.isZero then sign ++ "0" ++ l.wholeTail
  else
    let d := x.shortest l.tie
    let digits := significantDigits d.digits
    let point : Int := d.exponent + (Nat.toDigits 10 d.digits).length
    sign ++ if l.positional point then l.positionalForm digits point else exponentForm digits point

end Layout

/-- The text of a floating-point number in documents and messages. -/
def Double.text (x : Double) : String := Layout.document.write x

/-- The text of a number in documents and messages. -/
def Number.text : Number → String
  | .integer n => toString n.value
  | .fractional x => x.text

end BlockPipeline
