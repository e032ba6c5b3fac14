import TraceView.Number.Double
import TraceView.Number.Layout

namespace TraceView.Double

/-!
# Doubles with six digits

Three styles write a double with six digits: after the point in positional or in scientific
notation, or six significant ones in whichever notation is shorter.  Each rounds the exact value, a
tie to the even digit.
-/

inductive Style where
  | positional
  | scientific
  | general
  deriving DecidableEq, Repr

/-- The value rounded to `count + 1` significant digits, with the power of ten of the first one.
Rounding may carry into a further digit, which is then the only one that is not zero. -/
def significant (numerator denominator count : Nat) : List Char × Int :=
  let first := leadingPower numerator denominator
  let (top, bottom) := shifted 10 numerator denominator (first - count)
  let digits := Nat.toDigits 10 (roundDiv top bottom)
  if digits.length = count + 2 then (digits.take (count + 1), first + 1) else (digits, first)

def sixPlaces (numerator denominator : Nat) : List Char :=
  let scaled := roundDiv (numerator * 1000000) denominator
  let fraction := Nat.toDigits 10 (scaled % 1000000)
  Nat.toDigits 10 (scaled / 1000000) ++
    '.' :: (List.replicate (6 - fraction.length) '0' ++ fraction)

def sixAfterFirst (significand numerator denominator : Nat) : List Char :=
  if significand = 0 then "0.000000e+00".toList
  else
    let (digits, power) := significant numerator denominator 6
    Layout.scientific digits power

def sixSignificant (significand numerator denominator : Nat) : List Char :=
  if significand = 0 then ['0']
  else
    let (digits, power) := significant numerator denominator 5
    let digits := Layout.trim digits
    if -4 ≤ power && power < 6 then
      let (whole, fraction) := Layout.positional digits power
      if fraction.isEmpty then whole else whole ++ '.' :: fraction
    else Layout.scientific digits power

def sixDigits (style : Style) : Double -> String
  | .finite negative significand exponent _ =>
    let (numerator, denominator) := magnitude significand exponent
    Layout.withSign negative <|
      match style with
      | .positional => sixPlaces numerator denominator
      | .scientific => sixAfterFirst significand numerator denominator
      | .general => sixSignificant significand numerator denominator
  | .infinite negative => Layout.infinity negative
  | .nan => "nan"

end TraceView.Double
