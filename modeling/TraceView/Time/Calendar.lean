import TraceView.Time.Elapsed

namespace TraceView.Time

/-!
# Wall-clock time

A wall-clock time is a number of nanoseconds since the beginning of 1970, written as a date and a
time of day in the proleptic Gregorian calendar.  The years 1 to 9999 can be written, and the year
has no zeros in front.
-/

structure Moment where
  year : Nat
  month : Nat
  day : Nat
  hour : Nat
  minute : Nat
  second : Nat
  nano : Nat
  deriving DecidableEq, Repr

/-- Leap years are the multiples of four, except for the centuries that four hundred does not
divide. -/
def isLeap (year : Nat) : Bool :=
  year % 4 == 0 && (year % 100 != 0 || year % 400 == 0)

def daysBeforeYear (year : Nat) : Nat :=
  let past := year - 1
  365 * past + past / 4 - past / 100 + past / 400

/-- The year of a day counted from the first day of year 1.  The mean length of a year gives a
year that is right or one too early or one too late. -/
def yearOfDay (day : Nat) : Nat :=
  let estimate := day * 400 / 146097 + 1
  if day < daysBeforeYear estimate then estimate - 1
  else if daysBeforeYear (estimate + 1) ≤ day then estimate + 1
  else estimate

/-- The year of a day is the one whose days it lies among. -/
theorem yearOfDay_bounds (day : Nat) :
    daysBeforeYear (yearOfDay day) ≤ day ∧ day < daysBeforeYear (yearOfDay day + 1) := by
  simp only [yearOfDay]
  split
  · simp only [daysBeforeYear] at *
    omega
  · split <;> simp only [daysBeforeYear] at * <;> omega

def monthLengths (year : Nat) : List Nat :=
  [31, if isLeap year then 29 else 28, 31, 30, 31, 30, 31, 31, 30, 31, 30, 31]

/-- The month in which a day of the year falls and the day of that month, both counted from
`month` and one, given the lengths of the months from `month` on. -/
def monthAndDay (month : Nat) : List Nat -> Nat -> Nat × Nat
  | [], day => (month, day + 1)
  | length :: rest, day =>
    if day < length then (month, day + 1) else monthAndDay (month + 1) rest (day - length)

/-- The day of 1970-01-01, counted from the first day of year 1. -/
def epochDay : Nat := 719162

/-- The number of days that can be written: those of the years 1 to 9999. -/
def dayCount : Nat := 3652059

/-- The instant with a number of nanoseconds since 1970, if its year can be written. -/
def Moment.ofNanoseconds? (ns : Int) : Option Moment :=
  let seconds := ns / 1000000000
  let day := seconds / 86400 + epochDay
  if 0 ≤ day && day < dayCount then
    let year := yearOfDay day.toNat
    let (month, dayOfMonth) :=
      monthAndDay 1 (monthLengths year) (day.toNat - daysBeforeYear year)
    let inDay := (seconds % 86400).toNat
    some ⟨year, month, dayOfMonth, inDay / 3600, inDay / 60 % 60, inDay % 60,
      (ns % 1000000000).toNat⟩
  else none

def padded (width : Nat) (n : Nat) : String :=
  let digits := Nat.toDigits 10 n
  String.ofList (List.replicate (width - digits.length) '0' ++ digits)

def Moment.text (m : Moment) : String :=
  toString m.year ++ "-" ++ padded 2 m.month ++ "-" ++ padded 2 m.day ++ "T" ++
    padded 2 m.hour ++ ":" ++ padded 2 m.minute ++ ":" ++ padded 2 m.second ++ "." ++
    padded 9 m.nano

def realText (ns : Int) : String :=
  match Moment.ofNanoseconds? ns with
  | some moment => moment.text
  | none => unknown

end TraceView.Time
