import TraceView.Proofs.Operation.Lookup

namespace TraceView

/-!
# Properties in the place of absent children

A calculated property goes to the end of the children, and a child of its name is removed first.  Since
nothing is calculated under a name that a look-up finds, only an absent child ever makes way, and the
property is never refused for its name.
-/

/-- A node whose children have different names, as the nodes of all trees that are built. -/
structure KeyedNode extends Node where
  distinct : toNode.childNames.Nodup

namespace Operation

/-- The children that stay when a property is added under a name: all but an absent child of it. -/
def keptChildren (tree : Node) (name : String) : List Node :=
  tree.children.filter fun child => !(child.name == name && child.isAbsent)

/-- A child that makes way for a property is absent. -/
theorem removeChild_eq {tree : KeyedNode} {name : String} (missing : tree.child? name = none) :
    tree.removeChild name =
      { tree.toNode with children := keptChildren tree.toNode name } := by
  unfold Node.removeChild keptChildren
  congr 1
  apply List.filter_congr
  intro child listed
  cases called : child.name == name with
  | false => rw [bne, called, Bool.false_and]
  | true =>
      rw [← beq_iff_eq.mp called] at missing
      rw [bne, called, Node.isAbsent_of_missing tree.distinct listed missing, Bool.and_self]

theorem addCalculated_eq {tree : KeyedNode} {name : String} (missing : tree.child? name = none)
    (value : Value) (formatter : Option Formatter) :
    addCalculated tree.toNode name value formatter =
      { tree.toNode with
        children := keptChildren tree.toNode name ++
          [Node.leaf (tree.id ++ "." ++ name) name value .calculated formatter] } := by
  simp only [addCalculated, removeChild_eq missing]

/-- A calculated property is not refused as a child, in whatever tree. -/
theorem addChild_addCalculated (tree : Node) (name : String) (value : Value)
    (formatter : Option Formatter) :
    (tree.removeChild name).addChild
        (Node.leaf (tree.id ++ "." ++ name) name value .calculated formatter) =
      .ok (addCalculated tree name value formatter) :=
  Node.addChild_eq_ok_iff.mpr ⟨rfl, Node.not_mem_childNames_removeChild tree name, rfl⟩

/-- A look-up finds it. -/
theorem child?_addCalculated_self (tree : Node) (name : String) {value : Value}
    (present : value.isNull = false) (formatter : Option Formatter) :
    (addCalculated tree name value formatter).child? name =
      some (Node.leaf (tree.id ++ "." ++ name) name value .calculated formatter) := by
  have visible : (Node.leaf (tree.id ++ "." ++ name) name value .calculated formatter).isAbsent =
      false := by
    rw [Node.isAbsent, Node.leaf, present, Bool.false_and]
  exact @Node.child?_append (tree.removeChild name) _
    (Node.not_mem_childNames_removeChild tree name) visible

end Operation

end TraceView
