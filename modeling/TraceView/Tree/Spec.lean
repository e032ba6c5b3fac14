import TraceView.Tree.Node

namespace TraceView

/-!
# Building trees

A tree is built from a description of its nodes, and every rule on names and identifiers is checked
once, while it is built.  The identifier of a node is that of its parent, a point and its name.
-/

/-- The description of a node below the root.  A name may be any value; null and the empty text
are no names.  Of what a description leaves out, nothing is known, and a node comes from the record
unless its description says otherwise. -/
structure Spec where
  name : Value := .null
  value : Value := .null
  source : Source := .raw
  formatter : Option Formatter := none
  isRoot : Bool := false
  children : List Spec := []

inductive BuildError where
  | tree (error : TreeError)
  /-- A name without a text. -/
  | name (fault : Fault)
  deriving DecidableEq, Repr

namespace Spec

def leaf (name : String) (value : Value) : Spec :=
  ⟨.string name, value, .raw, none, false, []⟩

def branch (name : String) (children : List Spec) : Spec :=
  ⟨.string name, .null, .raw, none, false, children⟩

def isName : Value -> Bool
  | .null => false
  | .string text => !text.isEmpty
  | _ => true

def attach (parent : Node) (child : Node) : Except BuildError Node :=
  match parent.addChild child with
  | .ok node => .ok node
  | .error error => .error (.tree error)

mutual

def build (parent : String) : Spec -> Except BuildError Node
  | ⟨name, value, source, formatter, isRoot, children⟩ =>
    if !isName name then .error (.tree (.nameless parent))
    else
      match name.text with
      | .error fault => .error (.name fault)
      | .ok text =>
        if isRoot then .error (.tree (.secondRoot text parent))
        else
          buildInto children
            (Node.leaf (parent ++ "." ++ text) text value source formatter)

def buildInto : List Spec -> Node -> Except BuildError Node
  | [], node => .ok node
  | spec :: rest, node =>
    match build node.id spec with
    | .error error => .error error
    | .ok child =>
      match attach node child with
      | .error error => .error error
      | .ok grown => buildInto rest grown

end

/-- A value as it is held by a node: decimals become doubles. -/
def scalar : Value -> Value
  | .decimal d => .double (Double.ofDecimal d)
  | value => value

mutual

/-- The description of a field.  Fields without a value are left out; a mapping or a list becomes
a node with children, those of a list being named by their position. -/
def ofField (name : String) : Value -> Option Spec
  | .null => none
  | .map fields => some (branch name (ofFields fields))
  | .list items => some (branch name (ofItems 0 items))
  | value => some (leaf name (scalar value))

def ofFields : List (String × Value) -> List Spec
  | [] => []
  | (name, value) :: rest => (ofField name value).toList ++ ofFields rest

def ofItems (position : Nat) : List Value -> List Spec
  | [] => []
  | value :: rest => (ofField (toString position) value).toList ++ ofItems (position + 1) rest

end

end Spec

namespace Node

def build (rootId name : String) (value : Value) (children : List Spec) :
    Except BuildError Node :=
  if rootId.isEmpty || name.isEmpty then .error (.tree .incompleteRoot)
  else
    Spec.buildInto children
      ⟨rootId ++ " " ++ name, name, value, .raw, none, true, some rootId, none, []⟩

def ofFields (rootId name : String) (fields : List (String × Value)) : Except BuildError Node :=
  build rootId name .null (Spec.ofFields fields)

end Node

end TraceView
