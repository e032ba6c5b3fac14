namespace TraceView.Layout

/-!
# Laying out decimal digits

A positive number is given by its significant digits and the power of ten of the first one.  Both
layouts of doubles, the shortest one and the ones with a fixed number of digits, are written with
these functions.
-/

def trim (digits : List Char) : List Char :=
  (digits.reverse.dropWhile (· == '0')).reverse

/-- At least two digits of an exponent, after its sign. -/
def exponent (power : Int) : List Char :=
  let digits := Nat.toDigits 10 power.natAbs
  let sign := if power < 0 then '-' else '+'
  'e' :: sign :: (List.replicate (2 - digits.length) '0' ++ digits)

/-- One digit before the point, the others after it, and the exponent.  There is no point after a
single digit. -/
def scientific (digits : List Char) (power : Int) : List Char :=
  match digits with
  | [] => []
  | [first] => first :: exponent power
  | first :: rest => first :: '.' :: (rest ++ exponent power)

/-- The digits before and after the point in positional notation, with the zeros that the
position of the first digit asks for. -/
def positional (digits : List Char) (power : Int) : List Char × List Char :=
  if power < 0 then (['0'], List.replicate (-power - 1).toNat '0' ++ digits)
  else
    let whole := (power + 1).toNat
    (digits.take whole ++ List.replicate (whole - digits.length) '0', digits.drop whole)

def withSign (negative : Bool) (body : List Char) : String :=
  String.ofList (if negative then '-' :: body else body)

def infinity (negative : Bool) : String :=
  if negative then "-inf" else "inf"

end TraceView.Layout
