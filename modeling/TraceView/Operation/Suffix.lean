import TraceView.Tree.Node
import TraceView.Fields

namespace TraceView.Operation

/-!
# Formatters by name

The name of a property says how it is to be shown.  Each node that has a value and no formatter
yet gets the formatter of the first ending in a list that its name has.
-/

abbrev SuffixRules := List (String × Formatter)

/-- The rules that hold when no others are given: times in nanoseconds are elapsed times. -/
def SuffixRules.standard : SuffixRules := [("TimeNs", .elapsed)]

/-- Rules as they are given.  An ending that is given again keeps its place and gets the later
formatter, and no rules at all stand for the standard ones. -/
def SuffixRules.ofList (rules : List (String × Formatter)) : SuffixRules :=
  if rules.isEmpty then .standard else Fields.settle rules

def hasEnding (ending name : String) : Bool :=
  ending.toList.isSuffixOf name.toList

/-- The formatter of the first ending that a name has. -/
def SuffixRules.formatter? (rules : SuffixRules) (name : String) : Option Formatter :=
  (rules.find? fun rule => hasEnding rule.1 name).map (·.2)

def formatterFor (rules : SuffixRules) (name : String) (value : Value)
    (formatter : Option Formatter) : Option Formatter :=
  if value.isNull then formatter else formatter.or (rules.formatter? name)

mutual

def setFormatters (rules : SuffixRules) : Node -> Node
  | ⟨id, name, value, source, formatter, isRoot, rootId, mark, children⟩ =>
    ⟨id, name, value, source, formatterFor rules name value formatter, isRoot, rootId, mark,
      setAllFormatters rules children⟩

def setAllFormatters (rules : SuffixRules) : List Node -> List Node
  | [] => []
  | node :: rest => setFormatters rules node :: setAllFormatters rules rest

end

end TraceView.Operation
