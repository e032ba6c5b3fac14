import TraceView.Operation.Pipeline
import TraceView.Proofs.Tree.Building

namespace TraceView

/-!
# Look-ups after an operation

An operation does one of three things to a tree: nothing, a calculated property at the end of the
children of the root, or formatters at nodes that have none.  What a look-up finds afterwards
follows from this, whatever the operation reads in order to decide.
-/

namespace Operation

variable {tree : Node} {name other : String}

theorem int?_eq_some_iff {node : Node} {n : Int} : node.int? = some n ↔ node.value = .int n := by
  unfold Node.int?
  cases node.value with
  | int m => rw [Value.asInt?, Option.some.injEq, Value.int.injEq]
  | _ => exact iff_of_false (fun impossible => nomatch impossible) fun impossible => nomatch impossible

/-! ## Calculated properties -/

/-- A calculated property hides no stored child of another name. -/
theorem stored?_addCalculated_of_ne (different : other ≠ name) (tree : Node) (value : Value)
    (formatter : Option Formatter) :
    (addCalculated tree name value formatter).stored? other = tree.stored? other := by
  have last := @Node.stored?_append (tree.removeChild name)
    (.leaf (tree.id ++ "." ++ name) name value .calculated formatter)
    (Node.not_mem_childNames_removeChild tree name) other
  exact last.trans ((if_neg different.symm).trans
    ((tree.stored?_removeChild name other).trans (if_neg different)))

theorem child?_addCalculated_of_ne (different : other ≠ name) (tree : Node) (value : Value)
    (formatter : Option Formatter) :
    (addCalculated tree name value formatter).child? other = tree.child? other := by
  rw [Node.child?, stored?_addCalculated_of_ne different, Node.child?]

/-! ## Formatters -/

theorem formatter?_eq_none_iff {rules : SuffixRules} :
    rules.formatter? name = none ↔ forall rule, rule ∈ rules -> ¬ hasEnding rule.1 name = true := by
  rw [SuffixRules.formatter?, Option.map_eq_none_iff, List.find?_eq_none]

theorem setAllFormatters_eq_map (rules : SuffixRules) (children : List Node) :
    setAllFormatters rules children = children.map (setFormatters rules) := by
  induction children with
  | nil => rfl
  | cons child rest inductionHypothesis =>
      rw [setAllFormatters, inductionHypothesis, List.map_cons]

/-- A node keeps everything but its formatter, and its children are changed likewise. -/
theorem setFormatters_eq (rules : SuffixRules) (node : Node) :
    setFormatters rules node =
      { node with
        formatter := formatterFor rules node.name node.value node.formatter
        children := node.children.map (setFormatters rules) } := by
  cases node
  rw [setFormatters, setAllFormatters_eq_map]

@[simp] theorem name_setFormatters (rules : SuffixRules) (node : Node) :
    (setFormatters rules node).name = node.name := by
  rw [setFormatters_eq]

@[simp] theorem value_setFormatters (rules : SuffixRules) (node : Node) :
    (setFormatters rules node).value = node.value := by
  rw [setFormatters_eq]

@[simp] theorem source_setFormatters (rules : SuffixRules) (node : Node) :
    (setFormatters rules node).source = node.source := by
  rw [setFormatters_eq]

/-- A formatter that a node has stays. -/
theorem formatter_setFormatters_of_some (rules : SuffixRules) {node : Node} {formatter : Formatter}
    (carried : node.formatter = some formatter) :
    (setFormatters rules node).formatter = some formatter := by
  rw [setFormatters_eq]
  simp only [formatterFor, carried, Option.some_or, ite_self]

@[simp] theorem isAbsent_setFormatters (rules : SuffixRules) (node : Node) :
    (setFormatters rules node).isAbsent = node.isAbsent := by
  rw [setFormatters_eq]
  simp only [Node.isAbsent, List.isEmpty_map]

theorem stored?_setFormatters (rules : SuffixRules) (tree : Node) (name : String) :
    (setFormatters rules tree).stored? name = (tree.stored? name).map (setFormatters rules) := by
  rw [setFormatters_eq]
  simp only [Node.stored?, List.find?_map, Function.comp_def, name_setFormatters]

theorem child?_setFormatters (rules : SuffixRules) (tree : Node) (name : String) :
    (setFormatters rules tree).child? name = (tree.child? name).map (setFormatters rules) := by
  simp only [Node.child?, stored?_setFormatters]
  cases tree.stored? name with
  | none => rfl
  | some child =>
      cases absent : child.isAbsent <;>
        simp only [Option.map_some, Option.filter_some, isAbsent_setFormatters, absent,
          Bool.not_true, Bool.not_false, Bool.false_eq_true, if_false, if_true, Option.map_none]

/-! ## What an operation can do -/

/-- A duration is the only thing that its rule adds, and only if no child has its name. -/
theorem addDuration_cases (rule : DurationRule) (tree : Node) :
    (addDuration rule tree).value = tree ∨
      (tree.child? rule.name = none ∧ Exists fun ns : Int =>
        (addDuration rule tree).value = addCalculated tree rule.name (.int ns) (some .elapsed)) := by
  unfold addDuration
  cases existing : tree.child? rule.name with
  | some child => exact Or.inl rfl
  | none =>
      cases rule.times? tree with
      | none => exact Or.inl rfl
      | some times =>
          by_cases negative : times.2 < times.1
          · simp only [if_pos negative, true_or]
          · simp only [if_neg negative, Noted.value_quiet]
            exact Or.inr ⟨trivial, times.2 - times.1, rfl⟩

/-- A status is the only thing that is added under its name, and only if no child has the name. -/
theorem addStatus_cases (name : String) (tree : Node) :
    (addStatus name tree).value = tree ∨
      (tree.child? name = none ∧ Exists fun outcome : Outcome =>
        (addStatus name tree).value = addCalculated tree name (.string outcome.text) none) := by
  unfold addStatus
  cases existing : tree.child? name with
  | some child => exact Or.inl rfl
  | none =>
      cases outcome? tree with
      | none => exact Or.inl rfl
      | some outcome => exact Or.inr ⟨rfl, outcome, rfl⟩

/-- All that an operation can do to a tree. -/
theorem apply_cases (operation : Operation) (tree : Node) :
    (operation.apply tree).value = tree ∨
      (Exists fun rules : SuffixRules => (operation.apply tree).value = setFormatters rules tree) ∨
      Exists fun added : String × Value × Option Formatter =>
        tree.child? added.1 = none ∧
          (operation.apply tree).value = addCalculated tree added.1 added.2.1 added.2.2 := by
  cases operation with
  | duration rule =>
      rcases addDuration_cases rule tree with unchanged | ⟨missing, ns, grown⟩
      · exact Or.inl unchanged
      · exact Or.inr (Or.inr ⟨(rule.name, .int ns, some .elapsed), missing, grown⟩)
  | status name =>
      rcases addStatus_cases name tree with unchanged | ⟨missing, outcome, grown⟩
      · exact Or.inl unchanged
      · exact Or.inr (Or.inr ⟨(name, .string outcome.text, none), missing, grown⟩)
  | formatters rules => exact Or.inr (Or.inl ⟨rules, rfl⟩)

end Operation

end TraceView
