import TraceView.Operation.Duration

namespace TraceView.Operation

/-!
# Status of a transition

The times that a transition carries say how it ended.  They are looked at in a fixed order, and
the first one that is there decides.
-/

inductive Outcome where
  | aborted
  | merged
  | played
  deriving DecidableEq, Repr

def Outcome.text : Outcome -> String
  | .aborted => "ABORTED"
  | .merged => "MERGED"
  | .played => "PLAYED"

/-- The times that decide, in order, each with what it says. -/
def statusRules : List (Outcome × List String) :=
  [(.aborted, ["wmData", "abortTimeNs"]), (.merged, ["shellData", "mergeTimeNs"]),
    (.played, ["wmData", "finishTimeNs"]), (.played, ["shellData", "dispatchTimeNs"])]

def carries (tree : Node) (path : List String) : Bool :=
  ((tree.resolve? path).bind Node.int?).isSome

/-- How a transition ended, as far as its times say. -/
def outcome? (tree : Node) : Option Outcome :=
  (statusRules.find? fun rule => carries tree rule.2).map (·.1)

def addStatus (name : String) (tree : Node) : Noted Node :=
  match tree.child? name with
  | some existing =>
    ⟨tree, if existing.source = .calculated then [] else [.rawStatus tree.id name]⟩
  | none =>
    match outcome? tree with
    | none => .quiet tree
    | some outcome => .quiet (addCalculated tree name (.string outcome.text) none)

end TraceView.Operation
