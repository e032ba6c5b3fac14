import TraceView.Tree.Node

namespace TraceView

/-!
# Edits of trees

A tree is changed one node at a time: a child is appended or removed, or the value, the source or
the formatter of the node is set.  Only appending a child can be refused, and a refused edit
changes nothing.
-/

inductive Edit where
  | addChild (child : Node)
  | removeChild (name : String)
  | setValue (value : Value)
  | setSource (source : Source)
  | setFormatter (formatter : Option Formatter)

inductive EditError where
  | nowhere
  | tree (cause : TreeError)
  deriving DecidableEq, Repr

namespace Node

def edit (node : Node) : Edit -> Except TreeError Node
  | .addChild child => node.addChild child
  | .removeChild name => .ok (node.removeChild name)
  | .setValue value => .ok { node with value := value }
  | .setSource source => .ok { node with source := source }
  | .setFormatter formatter => .ok { node with formatter := formatter }

/-- Change the node at the end of a path of names of stored children. -/
def editAt (tree : Node) (path : List String) (edit : Edit) : Except EditError Node :=
  match tree.at? path with
  | none => .error .nowhere
  | some node =>
    match node.edit edit with
    | .ok changed => .ok (tree.replaceAt changed path)
    | .error cause => .error (.tree cause)

end Node

end TraceView
