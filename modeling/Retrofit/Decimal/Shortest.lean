import Retrofit.Decimal.Binary

/-!
The shortest decimal text of a binary floating point number: as few significant digits as read back
to the same number, and of those the digits nearest to it. The text is always positional.
-/

namespace Retrofit.Decimal

/-- The real numbers that read back as one number, as multiples of `1 / parts`. The ends belong to
the interval when `closed`. -/
structure Interval where
  low : Nat
  middle : Nat
  high : Nat
  parts : Nat
  closed : Bool

/-- Halfway to the lower neighbour up to halfway to the upper one. A number with an even significand
also wins the ties at both ends. -/
def Binary.interval (number : Binary) : Interval :=
  let scale := 1 <<< (number.exponent - 2).toNat
  let middle := 4 * number.significand
  { low := (middle - if number.nearerBelow then 1 else 2) * scale
    middle := middle * scale
    high := (middle + 2) * scale
    parts := 1 <<< (2 - number.exponent).toNat
    closed := number.significand % 2 = 0 }

/-- The number `digits · 10 ^ exponent`. -/
structure Tens where
  digits : Nat
  exponent : Int
deriving DecidableEq

namespace Interval

/-- Whether the multiple `digits` of `10 ^ exponent` reads back. -/
def holds (interval : Interval) (candidate : Tens) : Bool :=
  let point := candidate.digits * Nat.pow 10 candidate.exponent.toNat * interval.parts
  let stretch := Nat.pow 10 (-candidate.exponent).toNat
  if interval.closed then
    interval.low * stretch ≤ point && point ≤ interval.high * stretch
  else
    interval.low * stretch < point && point < interval.high * stretch

/-- The multiple of `10 ^ exponent` that reads back, if there is one: the one nearest to the middle,
and the upper one of two equally near. -/
def onGrid? (interval : Interval) (exponent : Int) : Option Tens :=
  let middle := interval.middle * Nat.pow 10 (-exponent).toNat
  let step := Nat.pow 10 exponent.toNat * interval.parts
  let below : Tens := ⟨middle / step, exponent⟩
  let above : Tens := ⟨middle / step + 1, exponent⟩
  match interval.holds below, interval.holds above with
  | true, true => if 2 * (middle % step) < step then some below else some above
  | true, false => some below
  | false, true => some above
  | false, false => none

/-- The first hit on the grids of step `10 ^ exponent`, `10 ^ (exponent - 1)` and so on. -/
def firstOnGrids (interval : Interval) : Nat → Int → Tens
  | 0, _ => ⟨0, 0⟩
  | grids + 1, exponent =>
    (interval.onGrid? exponent).getD (interval.firstOnGrids grids (exponent - 1))

/-- The decimal with the fewest digits in the interval. No power of ten with more digits than the
integral part of the upper end lies in it, and on the grid with as many places as `parts` has binary
digits the middle itself does. -/
def shortest (interval : Interval) : Tens :=
  let start := (Nat.toDigits 10 (interval.high / interval.parts)).length
  interval.firstOnGrids (start + interval.parts.log2 + 1) start

end Interval

/-- Positional text: no exponent, and no point unless digits follow it. -/
def Tens.text (number : Tens) : String :=
  let digits := Nat.toDigits 10 number.digits
  let places := (-number.exponent).toNat
  if places = 0 then
    String.ofList (digits ++ List.replicate number.exponent.toNat '0')
  else
    let padded := List.replicate (places + 1 - digits.length) '0' ++ digits
    let whole := padded.length - places
    String.ofList (padded.take whole ++ '.' :: padded.drop whole)

/-- The text of a bit pattern. A pattern that is no number has one text, whatever its sign. -/
def Format.text (format : Format) (bits : Nat) : String :=
  let sign := if format.isNegative bits then "-" else ""
  match format.magnitude bits with
  | .nan => "NaN"
  | .infinite => sign ++ "inf"
  | .zero => sign ++ "0"
  | .positive number => sign ++ number.interval.shortest.text

/-- A sum of powers of two prints as the digits that name it. -/
example : Format.double.text 0x3FB999999999999A = "0.1" := by decide +kernel

end Retrofit.Decimal
