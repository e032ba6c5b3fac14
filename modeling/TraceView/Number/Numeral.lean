import TraceView.Fault
import TraceView.Text.Blank
import TraceView.Text.Digit

namespace TraceView.Numeral

/-!
# Decimal texts of integers

An integer is written without leading zeros and read more liberally: with blanks around it, digits
of any script and single underscores between digits.  Both directions refuse more than 4300 digits;
when reading, leading zeros count and underscores do not.
-/

/-- The largest number of decimal digits that is written or read. -/
def digitLimit : Nat := 4300

def full (n : Int) : String :=
  if n < 0 then "-" ++ toString n.natAbs else toString n.natAbs

/-- The decimal text of an integer within the digit limit. -/
def write (n : Int) : Except Fault String :=
  if (Nat.toDigits 10 n.natAbs).length ≤ digitLimit then .ok (full n) else .error .tooManyDigits

def writeSigned (n : Int) : Except Fault String :=
  if n < 0 then write n else (write n).map ("+" ++ ·)

/-- The number that a sequence of decimal digits denotes, most significant first. -/
def ofDigits (digits : List Nat) : Nat :=
  digits.foldl (fun value digit => 10 * value + digit) 0

/-- The digits of a text in which single underscores may stand between digits; there must be at
least one digit and nothing else. -/
def digitRun : List Char -> Option (List Nat)
  | [] => none
  | c :: rest =>
    match Text.digit? c, rest with
    | none, _ => none
    | some digit, [] => some [digit]
    | some digit, '_' :: more => (digitRun more).map (digit :: ·)
    | some digit, next :: more => (digitRun (next :: more)).map (digit :: ·)

/-- A leading sign, as "is negative", and the text after it. -/
def splitSign : List Char -> Bool × List Char
  | '-' :: rest => (true, rest)
  | '+' :: rest => (false, rest)
  | text => (false, text)

def signed (negative : Bool) (magnitude : Nat) : Int :=
  if negative then -(magnitude : Int) else magnitude

def read (text : String) : Option Int :=
  let (negative, body) := splitSign (Text.strip text.toList)
  (digitRun body).bind fun digits =>
    if digits.length ≤ digitLimit then some (signed negative (ofDigits digits)) else none

end TraceView.Numeral
