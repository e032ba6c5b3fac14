import TraceView.Formatter

namespace TraceView

/-!
# Property trees

An entry is shown as a tree of named properties.  A node holds a value or children, or both, and its
children are in order and have different names.  A node with neither counts as absent: it is there
for the rules on names, but no look-up finds it.
-/

/-- Where a property comes from: the record, or a calculation on other properties. -/
inductive Source where
  | raw
  | calculated
  deriving DecidableEq, Repr

def Source.name : Source -> String
  | .raw => "RAW"
  | .calculated => "CALCULATED"

def Source.word : Source -> String
  | .raw => "raw"
  | .calculated => "calculated"

/-- A named property.  A node that can be reached from several places carries a mark; equal marks
say that two occurrences are one node. -/
structure Node where
  id : String
  name : String
  value : Value
  source : Source
  formatter : Option Formatter
  isRoot : Bool
  rootId : Option String
  mark : Option Nat
  children : List Node

inductive TreeError where
  | incompleteRoot
  | nameless (parent : String)
  | secondRoot (name parent : String)
  /-- A root that was to become a child. -/
  | nestedRoot (name parent : String)
  | duplicate (name parent : String)
  deriving DecidableEq, Repr

def TreeError.message : TreeError -> String
  | .incompleteRoot => "Root node requires both a root id and a name"
  | .nameless parent => "Child of '" ++ parent ++ "' has no name"
  | .secondRoot name parent =>
    "Node '" ++ name ++ "' under '" ++ parent ++ "' is flagged as a second root"
  | .nestedRoot name parent =>
    "Root node '" ++ name ++ "' cannot be nested under '" ++ parent ++ "'"
  | .duplicate name parent => "Duplicate child '" ++ name ++ "' under '" ++ parent ++ "'"

namespace Node

def leaf (id name : String) (value : Value) (source : Source) (formatter : Option Formatter) :
    Node :=
  ⟨id, name, value, source, formatter, false, none, none, []⟩

/-- Whether a node has neither a value nor children. -/
def isAbsent (node : Node) : Bool :=
  node.value.isNull && node.children.isEmpty

/-- The child with a name, absent or not. -/
def stored? (node : Node) (name : String) : Option Node :=
  node.children.find? fun child => child.name == name

/-- The child with a name, if it is there and not absent. -/
def child? (node : Node) (name : String) : Option Node :=
  (node.stored? name).filter fun child => !child.isAbsent

/-- The node at the end of a path of names; no step may lead to an absent node. -/
def resolve? (node : Node) : List String -> Option Node
  | [] => some node
  | name :: rest => (node.child? name).bind fun child => child.resolve? rest

def int? (node : Node) : Option Int :=
  node.value.asInt?

/-- Append a child.  A root cannot become a child, and a name is given once only. -/
def addChild (node child : Node) : Except TreeError Node :=
  if child.isRoot then .error (.nestedRoot child.name node.id)
  else if (node.stored? child.name).isSome then .error (.duplicate child.name node.id)
  else .ok { node with children := node.children ++ [child] }

/-- The node without the child of a name. -/
def removeChild (node : Node) (name : String) : Node :=
  { node with children := node.children.filter fun child => child.name != name }

def text (node : Node) : Except Fault String :=
  if node.value.isNull then .ok ""
  else
    match node.formatter with
    | some formatter => formatter.text node.value
    | none => node.value.propertyText

mutual

/-- The node and all nodes below it, each before its children. -/
def walk : Node -> List Node
  | node@⟨_, _, _, _, _, _, _, _, children⟩ => node :: walkAll children

def walkAll : List Node -> List Node
  | [] => []
  | node :: rest => walk node ++ walkAll rest

end

/-- The node at the end of a path of names of stored children, absent ones included. -/
def at? (node : Node) : List String -> Option Node
  | [] => some node
  | name :: rest => (node.stored? name).bind fun child => child.at? rest

def replaceAt (node replacement : Node) : List String -> Node
  | [] => replacement
  | name :: rest =>
    { node with
      children := node.children.map fun child =>
        if child.name == name then child.replaceAt replacement rest else child }

end Node

end TraceView
