import TraceView.Operation.Status
import TraceView.Operation.Suffix

namespace TraceView

/-!
# Pipelines

Calculated properties and formatters are added by operations, which are applied one after the
other.  None of them can fail.  Transitions have a pipeline of their own; log messages have
nothing to calculate.
-/

inductive Operation where
  | duration (rule : Operation.DurationRule)
  | status (name : String)
  | formatters (rules : Operation.SuffixRules)
  deriving DecidableEq, Repr

def Operation.apply : Operation -> Node -> Noted Node
  | .duration rule, tree => addDuration rule tree
  | .status name, tree => addStatus name tree
  | .formatters rules, tree => .quiet (setFormatters rules tree)

abbrev Pipeline := List Operation

namespace Pipeline

def steps : Pipeline -> Node -> Noted Node
  | [], tree => .quiet tree
  | operation :: rest, tree => (operation.apply tree).andThen (steps rest)

/-- Apply a pipeline, and note that it has been applied. -/
def apply (pipeline : Pipeline) (tree : Node) : Noted Node :=
  (pipeline.steps tree).andThen fun result => ⟨result, [.applied pipeline.length result.id]⟩

/-- The rules for the formatters of transitions.  On the wall clock the times of the record are
shown as wall-clock time, if the offset between the clocks is known. -/
def suffixRules (domain : Domain) (offset : Option Int) (issue : Nat) :
    Except Fault Operation.SuffixRules :=
  match domain, offset with
  | .real, some ns => (Formatter.shift ns issue).map fun formatter => [("TimeNs", formatter)]
  | _, _ => .ok .standard

def forTrace (kind : TraceKind) (domain : Domain) (offset : Option Int) (issue : Nat) :
    Except Fault Pipeline :=
  match kind with
  | .protoLog => .ok []
  | .transition =>
    (suffixRules domain offset issue).map fun rules =>
      [.formatters rules, .duration .standard, .status "status"]

end Pipeline

end TraceView
