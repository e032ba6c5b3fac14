import TraceView.Number.Double
import TraceView.Number.Layout

namespace TraceView.Double

/-!
# The shortest text of a double

A double is written with the fewest significant digits from which it can be read back.  On the grid
of decimals with a given number of digits only the two neighbours of the value can be nearest to it,
so these two are tried for one digit, then for two, and so on; seventeen always suffice.
-/

/-- The neighbour of the value on the grid of multiples of `10 ^ power` that reads back as the
given double, if one does. -/
def onGrid? (double : Double) (numerator denominator : Nat) (power : Int) : Option Nat :=
  let (top, bottom) := shifted 10 numerator denominator power
  let below := top / bottom
  let nearest := roundDiv top bottom
  let other := if nearest = below then below + 1 else below
  if ofScaled false nearest power = double then some nearest
  else if ofScaled false other power = double then some other
  else none

/-- The shortest digits of a positive double, tried from `count` digits on, with the power of ten
of their last digit. -/
def shortestFrom (double : Double) (numerator denominator : Nat) (first : Int) :
    Nat -> Nat -> Nat × Int
  | 0, count =>
    let (top, bottom) := shifted 10 numerator denominator (first - count)
    (roundDiv top bottom, first - count)
  | more + 1, count =>
    match onGrid? double numerator denominator (first - count) with
    | some coefficient => (coefficient, first - count)
    | none => shortestFrom double numerator denominator first more (count + 1)

/-- The fewest significant digits that read back as a positive double, and the power of ten of
the first one. -/
def shortest (significand : Nat) (exponent : Int) (canonical : Canonical significand exponent) :
    List Char × Int :=
  let (numerator, denominator) := magnitude significand exponent
  let first := leadingPower numerator denominator
  let (coefficient, last) :=
    shortestFrom (.finite false significand exponent canonical) numerator denominator first 16 0
  let digits := Nat.toDigits 10 coefficient
  (Layout.trim digits, last + digits.length - 1)

def text : Double -> String
  | .finite negative significand exponent canonical =>
    if significand = 0 then Layout.withSign negative ['0', '.', '0']
    else
      let (digits, power) := shortest significand exponent canonical
      Layout.withSign negative <|
        if -4 ≤ power && power < 16 then
          let (whole, fraction) := Layout.positional digits power
          whole ++ '.' :: (if fraction.isEmpty then ['0'] else fraction)
        else Layout.scientific digits power
  | .infinite negative => Layout.infinity negative
  | .nan => "nan"

end TraceView.Double
