import TraceView.Notice
import TraceView.Tree.Node

namespace TraceView.Operation

/-!
# Durations

A duration is calculated from a pair of times that lie next to each other in the tree.  It becomes
a property of the root, unless the root has a present property of its name.  A node of that name
that is absent makes way for it.
-/

/-- Where the two times of a duration are, and the name under which it is added. -/
structure DurationRule where
  parentPath : List String
  sendField : String
  finishField : String
  name : String
  deriving DecidableEq, Repr

def DurationRule.standard : DurationRule :=
  ⟨["wmData"], "sendTimeNs", "finishTimeNs", "duration"⟩

/-- Put a calculated property at the end of the children of a tree, in the place of an absent
child of its name. -/
def addCalculated (tree : Node) (name : String) (value : Value) (formatter : Option Formatter) :
    Node :=
  let cleared := tree.removeChild name
  let added := Node.leaf (tree.id ++ "." ++ name) name value .calculated formatter
  { cleared with children := cleared.children ++ [added] }

def DurationRule.times? (rule : DurationRule) (tree : Node) : Option (Int × Int) := do
  let parent <- tree.resolve? rule.parentPath
  let send <- (parent.child? rule.sendField).bind Node.int?
  let finish <- (parent.child? rule.finishField).bind Node.int?
  some (send, finish)

def addDuration (rule : DurationRule) (tree : Node) : Noted Node :=
  match tree.child? rule.name with
  | some existing =>
    ⟨tree, if existing.source = .calculated then [] else [.rawDuration tree.id rule.name]⟩
  | none =>
    match rule.times? tree with
    | none => .quiet tree
    | some (send, finish) =>
      if finish < send then
        ⟨tree, [.negativeDuration tree.id rule.finishField finish rule.sendField send]⟩
      else .quiet (addCalculated tree rule.name (.int (finish - send)) (some .elapsed))

end TraceView.Operation
