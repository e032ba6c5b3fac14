import TraceView.Number.Numeral

namespace TraceView

/-!
# Exact decimal numbers

A decimal keeps its coefficient and exponent as they were written, so `1.50` and `1.5` are two
decimals of one value.  The text is positional where no zero has to be invented to the right of the
coefficient and at most six to its left.
-/

/-- A number `± coefficient * 10 ^ exponent`, an infinity or an undefined number, each with its sign.
An undefined number may carry another number, which only shows in its text. -/
inductive Decimal where
  | finite (negative : Bool) (coefficient : Nat) (exponent : Int)
  | infinite (negative : Bool)
  | nan (negative : Bool) (payload : Nat)
  deriving DecidableEq, Repr

namespace Decimal

def toRat? : Decimal -> Option Rat
  | .finite negative coefficient exponent =>
    let magnitude : Rat := (coefficient : Rat) * (10 : Rat) ^ exponent
    some (if negative then -magnitude else magnitude)
  | .infinite _ => none
  | .nan _ _ => none

/-- `coefficient * 10 ^ exponent` when that is a natural number.  No more zeros are tried than the
coefficient has digits, so that an exponent far below zero costs nothing. -/
def scaled? (coefficient : Nat) (exponent : Int) : Option Nat :=
  if coefficient = 0 then some 0
  else if 0 ≤ exponent then some (coefficient * Nat.pow 10 exponent.toNat)
  else
    let places := (-exponent).toNat
    if (Nat.toDigits 10 coefficient).length < places then none
    else
      let unit := Nat.pow 10 places
      if coefficient % unit = 0 then some (coefficient / unit) else none

/-- The integer that a decimal equals, if it equals one.  An infinite decimal is an overflow
rather than a decimal without an integer. -/
def integer? : Decimal -> Except Fault (Option Int)
  | .finite negative coefficient exponent =>
    .ok ((scaled? coefficient exponent).map (Numeral.signed negative))
  | .infinite _ => .error .tooLarge
  | .nan _ _ => .ok none

/-- Whether a decimal has an exponent that decimals may have: the first digit stands for at most
`10 ^ (10 ^ 18 - 1)` and the last one for at least `10 ^ (3 - 2 * 10 ^ 18)`. -/
def isInRange : Decimal -> Bool
  | .finite _ coefficient exponent =>
    exponent + (Nat.toDigits 10 coefficient).length ≤ 1000000000000000000 &&
      -1999999999999999997 ≤ exponent
  | .infinite _ => true
  | .nan _ _ => true

/-- The coefficient's digits with a point after the first `places` of them. -/
def positional (digits : List Char) (places : Int) : List Char :=
  if places ≤ 0 then '0' :: '.' :: (List.replicate (-places).toNat '0' ++ digits)
  else if (digits.length : Int) ≤ places then digits
  else digits.take places.toNat ++ '.' :: digits.drop places.toNat

/-- A coefficient's digits with a point after the first one, and the exponent that this leaves. -/
def scientific (digits : List Char) (exponent : Int) : List Char :=
  let mantissa := match digits with
    | first :: second :: rest => first :: '.' :: second :: rest
    | short => short
  let mark := if exponent < 0 then ['E', '-'] else ['E', '+']
  mantissa ++ mark ++ Nat.toDigits 10 exponent.natAbs

def text : Decimal -> String
  | .finite negative coefficient exponent =>
    let digits := Nat.toDigits 10 coefficient
    let places := exponent + digits.length
    let body :=
      if exponent ≤ 0 && -6 < places then positional digits places
      else scientific digits (places - 1)
    String.ofList (if negative then '-' :: body else body)
  | .infinite negative => if negative then "-Infinity" else "Infinity"
  | .nan negative payload =>
    (if negative then "-NaN" else "NaN") ++ if payload = 0 then "" else toString payload

/-- The digits of one part of a number; a part may be left out. -/
def part : List Char -> Option (List Nat)
  | [] => some []
  | text => Numeral.digitRun text

/-- The exponent after the mark `e`. -/
def readExponent (text : List Char) : Option Int :=
  let (negative, body) := Numeral.splitSign text
  (Numeral.digitRun body).map fun digits => Numeral.signed negative (Numeral.ofDigits digits)

/-- A decimal from its written parts: the digits on both sides of the point, of which one side
may be empty, and the exponent. -/
def ofParts (negative : Bool) (whole fraction : List Char) (exponent : Int) : Option Decimal := do
  let before <- part whole
  let after <- part fraction
  if before.isEmpty && after.isEmpty then none
  else some (.finite negative (Numeral.ofDigits (before ++ after)) (exponent - after.length))

/-- The number spelled by a text without blanks around it: digits with an optional point and an
optional exponent, or the name of an infinity or of the undefined number in either case. -/
def readBody (text : List Char) : Option Decimal :=
  let (negative, body) := Numeral.splitSign text
  let name := String.ofList (body.map Char.toLower)
  if name == "inf" || name == "infinity" then some (.infinite negative)
  else if name == "nan" then some (.nan negative 0)
  else
    let isMark := fun c : Char => c == 'e' || c == 'E'
    let mantissa := body.takeWhile (!isMark ·)
    let whole := mantissa.takeWhile (· != '.')
    let fraction := (mantissa.dropWhile (· != '.')).drop 1
    match body.dropWhile (!isMark ·) with
    | [] => ofParts negative whole fraction 0
    | _ :: power => (readExponent power).bind (ofParts negative whole fraction)

/-- The undefined number spelled by its name with digits after it. -/
def readPayload (text : List Char) : Option Decimal :=
  let (negative, body) := Numeral.splitSign text
  if (body.take 3).map Char.toLower == ['n', 'a', 'n'] then
    (Numeral.digitRun (body.drop 3)).map fun digits => .nan negative (Numeral.ofDigits digits)
  else none

def readPlain (text : String) : Option Decimal :=
  readBody (Text.strip text.toList)

def read (text : String) : Option Decimal :=
  (readPlain text).or (readPayload (Text.strip text.toList))

end Decimal

end TraceView
