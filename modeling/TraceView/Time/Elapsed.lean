import TraceView.Number.Numeral

namespace TraceView.Time

/-!
# Elapsed time

An elapsed time is written in minutes, seconds, milliseconds and nanoseconds.  The larger units
are left out as long as they are zero; after the first unit that is written every smaller one is
written too, and nanoseconds always are.  Negative times have no text of their own.
-/

def unknown : String := "unknown"

structure Elapsed where
  minutes : Nat
  seconds : Nat
  millis : Nat
  nanos : Nat
  deriving DecidableEq, Repr

namespace Elapsed

def ofNanoseconds (ns : Nat) : Elapsed where
  minutes := ns / 60000000000
  seconds := ns % 60000000000 / 1000000000
  millis := ns % 1000000000 / 1000000
  nanos := ns % 1000000

def toNanoseconds (t : Elapsed) : Nat :=
  t.minutes * 60000000000 + t.seconds * 1000000000 + t.millis * 1000000 + t.nanos

theorem toNanoseconds_ofNanoseconds (ns : Nat) : (ofNanoseconds ns).toNanoseconds = ns := by
  simp only [toNanoseconds, ofNanoseconds]
  omega

/-- The units from minutes down to milliseconds with their marks. -/
def larger (t : Elapsed) : List (Nat × String) :=
  [(t.minutes, "m"), (t.seconds, "s"), (t.millis, "ms")]

def unitText (unit : Nat × String) : Except Fault String :=
  (Numeral.write unit.1).map (· ++ unit.2)

def text (t : Elapsed) : Except Fault String := do
  let units <- (t.larger.dropWhile (·.1 == 0)).mapM unitText
  let nanos <- unitText (t.nanos, "ns")
  .ok (String.join units ++ nanos)

end Elapsed

def elapsedText (ns : Int) : Except Fault String :=
  if ns < 0 then .ok unknown else (Elapsed.ofNanoseconds ns.toNat).text

end TraceView.Time
