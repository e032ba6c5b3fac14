import TraceView.Formatter
import TraceView.Sorting.Runs

namespace TraceView

/-!
# Timestamps

A timestamp is an instant on one of the two clocks.  Instants of one clock are ordered and have
differences; comparing or subtracting instants of different clocks is an error, and only the
question whether they are equal has an answer, which is no.
-/

structure Timestamp where
  domain : Domain
  nanoseconds : Int
  deriving DecidableEq, Repr

inductive TimestampError where
  | notInteger (kind : Kind)
  | mixed (left right : Domain)
  deriving DecidableEq, Repr

def TimestampError.message : TimestampError -> String
  | .notInteger kind => "Timestamp value must be an int, got " ++ kind.name
  | .mixed left right => "Cannot combine " ++ left.name ++ " and " ++ right.name ++ " timestamps"

namespace Timestamp

def ofValue (domain : Domain) (value : Value) : Except TimestampError Timestamp :=
  match value with
  | .int ns => .ok ⟨domain, ns⟩
  | other => .error (.notInteger other.kind)

/-- Two numbers of nanoseconds on one clock. -/
def together (a b : Timestamp) : Except TimestampError (Int × Int) :=
  if a.domain = b.domain then .ok (a.nanoseconds, b.nanoseconds)
  else .error (.mixed a.domain b.domain)

def lt (a b : Timestamp) : Except TimestampError Bool :=
  (together a b).map fun (x, y) => decide (x < y)

def le (a b : Timestamp) : Except TimestampError Bool :=
  (lt a b).map fun earlier => earlier || decide (a = b)

def gt (a b : Timestamp) : Except TimestampError Bool :=
  (lt a b).map fun earlier => !earlier && decide (a ≠ b)

def ge (a b : Timestamp) : Except TimestampError Bool :=
  (lt a b).map fun earlier => !earlier

/-- The number of nanoseconds from the second instant to the first. -/
def sub (a b : Timestamp) : Except TimestampError Int :=
  (together a b).map fun (x, y) => x - y

def add (a : Timestamp) (ns : Int) : Timestamp :=
  ⟨a.domain, a.nanoseconds + ns⟩

def text (a : Timestamp) : Except Fault String :=
  a.domain.formatter.text (.int a.nanoseconds)

/-- Timestamps in ascending order.  The first comparison that has no answer ends the sort. -/
def sort (timestamps : List Timestamp) : Except TimestampError (List Timestamp) :=
  Sorting.sorted lt timestamps

end Timestamp

end TraceView
