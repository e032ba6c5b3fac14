import TraceView.Number.Decimal

namespace TraceView

/-!
# Doubles

A double is kept as its exact value `± significand * 2 ^ exponent` in the one form that IEEE 754
binary64 gives it, so finite doubles of one value are equal.  Every construction rounds an exact
quotient to the nearest double, a tie going to the even significand.
-/

/-- The significands and exponents of finite doubles, each double in one form: the significand
fills 53 bits unless the exponent is the least one. -/
def Canonical (significand : Nat) (exponent : Int) : Prop :=
  significand < 0x20000000000000 ∧ -1074 ≤ exponent ∧ exponent ≤ 971 ∧
    (exponent = -1074 ∨ 0x10000000000000 ≤ significand)

instance Canonical.decidable (significand : Nat) (exponent : Int) :
    Decidable (Canonical significand exponent) :=
  inferInstanceAs (Decidable (_ ∧ _))

/-- A number in the format binary64.  All undefined results are one value. -/
inductive Double where
  | finite (negative : Bool) (significand : Nat) (exponent : Int)
      (canonical : Canonical significand exponent)
  | infinite (negative : Bool)
  | nan
  deriving DecidableEq

namespace Double

def zero (negative : Bool) : Double :=
  .finite negative 0 (-1074) (by decide)

/-- The quotient of two natural numbers rounded to the nearest one, a tie to the even one. -/
def roundDiv (numerator denominator : Nat) : Nat :=
  let quotient := numerator / denominator
  let remainder := 2 * (numerator % denominator)
  if remainder < denominator then quotient
  else if denominator < remainder then quotient + 1
  else if quotient % 2 = 0 then quotient else quotient + 1

/-- The fraction `numerator / (denominator * base ^ exponent)` as a pair of natural numbers. -/
def shifted (base : Nat) (numerator denominator : Nat) (exponent : Int) : Nat × Nat :=
  if 0 ≤ exponent then (numerator, denominator * base.pow exponent.toNat)
  else (numerator * base.pow (-exponent).toNat, denominator)

/-- The double with this significand and exponent.  A significand that rounding has carried to
`2 ^ 53` is renormalised, and an exponent that is too large makes the double infinite. -/
def pack (negative : Bool) (significand : Nat) (exponent : Int) : Double :=
  if direct : Canonical significand exponent then .finite negative significand exponent direct
  else if significand = 0x20000000000000 then
    if carried : Canonical 0x10000000000000 (exponent + 1) then
      .finite negative 0x10000000000000 (exponent + 1) carried
    else .infinite negative
  else .infinite negative

/-- The exponent at which a positive quotient has a significand of 53 bits, or the least exponent
if that is larger. -/
def exponentFor (numerator denominator : Nat) : Int :=
  let low : Int := (numerator.log2 : Int) - denominator.log2 - 53
  let (top, bottom) := shifted 2 numerator denominator low
  let full := if 0x20000000000000 ≤ top / bottom then low + 1 else low
  if full < -1074 then -1074 else full

/-- The double nearest to a quotient with a positive denominator. -/
def ofQuotient (negative : Bool) (numerator denominator : Nat) : Double :=
  if numerator = 0 then zero negative
  else
    let exponent := exponentFor numerator denominator
    let (top, bottom) := shifted 2 numerator denominator exponent
    pack negative (roundDiv top bottom) exponent

/-- The double nearest to `coefficient * 10 ^ exponent`.  Magnitudes that are far outside the
range are answered at once, so that their powers of ten are never computed. -/
def ofScaled (negative : Bool) (coefficient : Nat) (exponent : Int) : Double :=
  let places := exponent + (Nat.toDigits 10 coefficient).length
  if coefficient = 0 || places < -330 then zero negative
  else if 310 < places then .infinite negative
  else
    let (top, bottom) := shifted 10 coefficient 1 (-exponent)
    ofQuotient negative top bottom

def ofDecimal : Decimal -> Double
  | .finite negative coefficient exponent => ofScaled negative coefficient exponent
  | .infinite negative => .infinite negative
  | .nan _ _ => .nan

def ofInt (n : Int) : Except Fault Double :=
  match ofQuotient (n < 0) n.natAbs 1 with
  | .infinite _ => .error .tooLarge
  | double => .ok double

def read (text : String) : Option Double :=
  (Decimal.readPlain text).map ofDecimal

def magnitude (significand : Nat) (exponent : Int) : Nat × Nat :=
  shifted 2 significand 1 (-exponent)

/-- The power of ten of the first significant digit of a positive quotient. -/
def leadingPower (numerator denominator : Nat) : Int :=
  let estimate : Int :=
    ((Nat.toDigits 10 numerator).length : Int) - (Nat.toDigits 10 denominator).length
  let (top, bottom) := shifted 10 numerator denominator estimate
  if bottom ≤ top then estimate else estimate - 1

def toRat? : Double -> Option Rat
  | .finite negative significand exponent _ =>
    let magnitude : Rat := (significand : Rat) * (2 : Rat) ^ exponent
    some (if negative then -magnitude else magnitude)
  | .infinite _ => none
  | .nan => none

def isInteger : Double -> Bool
  | .finite _ significand exponent _ =>
    let (top, bottom) := magnitude significand exponent
    top % bottom == 0
  | .infinite _ => false
  | .nan => false

end Double

end TraceView
