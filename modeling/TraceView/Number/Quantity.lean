import TraceView.Number.Double

namespace TraceView

/-!
# Quantities

Integers, doubles and decimals are compared by what they denote: a whole number that does not end
with a zero, times a power of ten.  In this form no power has to be computed, however large the
exponent of a decimal is.
-/

/-- What a number denotes: `± coefficient * 10 ^ exponent`, an infinity, or nothing. -/
inductive Quantity where
  | finite (negative : Bool) (coefficient : Nat) (exponent : Int)
  | infinite (negative : Bool)
  | undefined
  deriving DecidableEq, Repr

namespace Quantity

def trailingZeros (n : Nat) : Nat :=
  ((Nat.toDigits 10 n).reverse.takeWhile (· == '0')).length

/-- The quantity `± coefficient * 10 ^ exponent` in its one form.  Zero has no sign. -/
def scaled (negative : Bool) (coefficient : Nat) (exponent : Int) : Quantity :=
  if coefficient = 0 then .finite false 0 0
  else
    let zeros := trailingZeros coefficient
    .finite negative (coefficient / Nat.pow 10 zeros) (exponent + zeros)

def ofInt (n : Int) : Quantity :=
  scaled (n < 0) n.natAbs 0

def ofDecimal : Decimal -> Quantity
  | .finite negative coefficient exponent => scaled negative coefficient exponent
  | .infinite negative => .infinite negative
  | .nan _ _ => .undefined

/-- The quantity that a double denotes.  A negative power of two is that power of five and of a
tenth. -/
def ofDouble : Double -> Quantity
  | .finite negative significand exponent _ =>
    if 0 ≤ exponent then scaled negative (significand * Nat.pow 2 exponent.toNat) 0
    else scaled negative (significand * Nat.pow 5 (-exponent).toNat) exponent
  | .infinite negative => .infinite negative
  | .nan => .undefined

/-- Whether two quantities are equal; the undefined one equals nothing. -/
def same : Quantity -> Quantity -> Bool
  | .undefined, _ => false
  | a, b => a == b

end Quantity

end TraceView
