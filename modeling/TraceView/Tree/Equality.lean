import TraceView.Tree.Node
import TraceView.Value.Equality

namespace TraceView.Node

/-!
# Equality of trees

Two trees are equal when their nodes agree one by one in everything they hold: identifiers,
names, values of one kind, sources, formatters and the order of the children.  Children with one
mark are one node, and a node is equal to itself even if it holds an undefined number.
-/

def isSame (a b : Node) : Bool :=
  a.mark.isSome && a.mark == b.mark

/-- Whether two values are equal and of one kind. -/
def sameValue (a b : Value) : Bool :=
  a.kind == b.kind && a.same b

mutual

def equal : Node -> Node -> Bool
  | node@⟨_, _, _, _, _, _, _, _, children⟩, other =>
    node.id == other.id && node.name == other.name && sameValue node.value other.value &&
      node.source == other.source && node.formatter == other.formatter &&
      node.isRoot == other.isRoot && node.rootId == other.rootId &&
      equalAll children other.children

def equalAll : List Node -> List Node -> Bool
  | [], [] => true
  | node :: rest, other :: others =>
    (isSame node other || equal node other) && equalAll rest others
  | _, _ => false

end

end TraceView.Node
