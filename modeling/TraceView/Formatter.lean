import TraceView.Value.Display
import TraceView.Time.Calendar

namespace TraceView

/-!
# Formatters

A node of a tree may carry a formatter, which decides how its value is shown.  One that adds an
offset is made for one purpose and is not the same as another with an equal offset, so each carries
the number of its issue.
-/

inductive Formatter where
  | elapsed
  | real
  | standard
  /-- Wall-clock time at an offset from elapsed time, with its name and issue. -/
  | shifted (label : String) (offset : Int) (issue : Nat)
  deriving DecidableEq, Repr

namespace Formatter

def name : Formatter -> String
  | .elapsed => "elapsed-timestamp"
  | .real => "real-timestamp"
  | .standard => "default"
  | .shifted label _ _ => label

def named? (name : String) : Option Formatter :=
  [Formatter.elapsed, .real, .standard].find? fun formatter => formatter.name == name

/-- Issue a formatter that shows elapsed time at an offset.  Its name holds the offset with its
sign. -/
def shift (offset : Int) (issue : Nat) : Except Fault Formatter :=
  (Numeral.writeSigned offset).map fun digits =>
    .shifted ("real-timestamp" ++ digits) offset issue

/-- How a formatter shows a value.  The formatters of time know integers only. -/
def text : Formatter -> Value -> Except Fault String
  | .elapsed, .int ns => Time.elapsedText ns
  | .real, .int ns => .ok (Time.realText ns)
  | .shifted _ offset _, .int ns => .ok (Time.realText (ns + offset))
  | .standard, value => value.propertyText
  | _, _ => .ok Time.unknown

end Formatter

def Domain.formatter : Domain -> Formatter
  | .elapsed => .elapsed
  | .real => .real

end TraceView
