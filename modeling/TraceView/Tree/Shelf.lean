import TraceView.Tree.Edit
import TraceView.Tree.Equality

namespace TraceView

/-!
# Trees that share nodes

Trees that are worked on side by side may share nodes: a tree that becomes a child of another one
stays what it is, and a later change of it shows in both places.  The root of each tree is marked
with its position on the shelf, and occurrences with one mark are always alike.
-/

/-- Trees at their positions, each marked with its own. -/
structure Shelf where
  trees : List Node

mutual

/-- A tree in which every occurrence of a marked part is the one given. -/
def Node.refresh (parts : List Node) : Node -> Node
  | ⟨id, name, value, source, formatter, isRoot, rootId, mark, children⟩ =>
    match parts.find? fun part => mark.isSome && part.mark == mark with
    | some part => part
    | none =>
      ⟨id, name, value, source, formatter, isRoot, rootId, mark, Node.refreshAll parts children⟩

def Node.refreshAll (parts : List Node) : List Node -> List Node
  | [] => []
  | node :: rest => node.refresh parts :: Node.refreshAll parts rest

end

namespace Shelf

def empty : Shelf := ⟨[]⟩

def put (shelf : Shelf) (tree : Node) : Shelf × Nat :=
  let position := shelf.trees.length
  (⟨shelf.trees ++ [{ tree with mark := some position }]⟩, position)

def tree? (shelf : Shelf) (position : Nat) : Option Node :=
  shelf.trees[position]?

/-- Bring all trees up to date with one that has been changed. -/
def commit (shelf : Shelf) (changed : Node) : Shelf :=
  let parts := changed.walk.filter fun node => node.mark.isSome
  ⟨shelf.trees.map (Node.refresh parts)⟩

/-- The last marked node on a path and the rest of the path from there. -/
def anchor (node : Node) (position : Nat) (rest : List String) : List String -> Nat × List String
  | [] => (position, rest)
  | name :: more =>
    match node.stored? name with
    | none => (position, rest)
    | some child =>
      match child.mark with
      | some mark => anchor child mark more more
      | none => anchor child position rest more

/-- Change the node at the end of a path in the tree at a position. -/
def edit (shelf : Shelf) (position : Nat) (path : List String) (edit : Edit) :
    Except EditError Shelf :=
  match shelf.tree? position with
  | none => .error .nowhere
  | some tree =>
    let (nearest, rest) := anchor tree position path path
    match shelf.tree? nearest with
    | none => .error .nowhere
    | some owner => (owner.editAt rest edit).map shelf.commit

/-- Whether the trees at two positions are equal.  A tree compared with itself differs only by an
undefined number as its value. -/
def equal (shelf : Shelf) (first second : Nat) : Bool :=
  match shelf.tree? first, shelf.tree? second with
  | some a, some b => if first = second then a.value.equalsItself else a.equal b
  | _, _ => false

end Shelf

end TraceView
