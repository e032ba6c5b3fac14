namespace TraceView

/-!
# Kinds of traces and of clocks

A trace comes in one of two formats, and its entries are stamped on one of two clocks: the time
that elapsed since boot, which every trace carries, and wall-clock time, which a trace carries
only if the offset between the clocks is known.
-/

/-- The clock that a timestamp is read from. -/
inductive Domain where
  | elapsed
  | real
  deriving DecidableEq, Repr

namespace Domain

def name : Domain -> String
  | .elapsed => "ELAPSED"
  | .real => "REAL"

def word : Domain -> String
  | .elapsed => "elapsed"
  | .real => "real"

def ofWord? (word : String) : Option Domain :=
  if word == "elapsed" then some .elapsed
  else if word == "real" then some .real
  else none

/-- Both clocks, in the order in which they are listed. -/
def all : List Domain := [.elapsed, .real]

end Domain

/-- The format of a trace. -/
inductive TraceKind where
  | protoLog
  | transition
  deriving DecidableEq, Repr

namespace TraceKind

def name : TraceKind -> String
  | .protoLog => "PROTO_LOG"
  | .transition => "TRANSITION"

def word : TraceKind -> String
  | .protoLog => "protolog"
  | .transition => "transitions"

def rootId : TraceKind -> String
  | .protoLog => "LogMessage"
  | .transition => "TransitionsTraceEntry"

def entryName : TraceKind -> String
  | .protoLog => "message"
  | .transition => "transition"

end TraceKind

end TraceView
