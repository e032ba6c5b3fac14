import TraceView.Proofs.Operation.Congruence

namespace TraceView

/-!
# What pipelines do below the root

Below the root a pipeline only sets formatters.  It sets them at every node in the same way, it
leaves those that are there, and it needs nothing but the name and the value of the node, so that
to set them twice is to set them once.  Besides that it adds calculated properties, which have no
marks.
-/

namespace Pipeline

open Node

variable {tree node : Node}

/-! ## Setting formatters only -/

/-- Set the formatters that a pipeline sets, and do nothing else. -/
def dress : Pipeline -> Node -> Node
  | [], node => node
  | .formatters rules :: rest, node => dress rest (Operation.setFormatters rules node)
  | .duration _ :: rest, node => dress rest node
  | .status _ :: rest, node => dress rest node

theorem dress_eq (pipeline : Pipeline) (node : Node) :
    pipeline.dress node =
      { node with
        formatter := pipeline.look node.name node.value node.formatter
        children := node.children.map pipeline.dress } := by
  induction pipeline generalizing node with
  | nil =>
      have stays : node.children.map (dress []) = node.children := List.map_id' node.children
      rw [stays]
      cases node
      rfl
  | cons operation rest inductionHypothesis =>
      cases operation with
      | duration rule => exact inductionHypothesis node
      | status name => exact inductionHypothesis node
      | formatters rules =>
          rw [dress, inductionHypothesis, Operation.setFormatters_eq]
          simp only [List.map_map]
          rfl

theorem mark_dress (pipeline : Pipeline) (node : Node) : (pipeline.dress node).mark = node.mark := by
  rw [dress_eq]

/-- A formatter that is there stays. -/
theorem look_of_some (pipeline : Pipeline) (name : String) (value : Value) (formatter : Formatter) :
    pipeline.look name value (some formatter) = some formatter := by
  induction pipeline with
  | nil => rfl
  | cons operation rest inductionHypothesis =>
      cases operation with
      | duration rule => exact inductionHypothesis
      | status name => exact inductionHypothesis
      | formatters rules =>
          rw [look, Operation.through, Operation.formatterFor, Option.some_or, ite_self]
          exact inductionHypothesis

/-- Formatters that have been set are not set again. -/
theorem look_look (pipeline : Pipeline) (name : String) (value : Value)
    (formatter : Option Formatter) :
    pipeline.look name value (pipeline.look name value formatter) =
      pipeline.look name value formatter := by
  cases set : pipeline.look name value formatter with
  | some given => exact pipeline.look_of_some name value given
  | none =>
      cases formatter with
      | none => exact set
      | some given =>
          rw [look_of_some] at set
          cases set

theorem dress_dress (pipeline : Pipeline) (node : Node) :
    pipeline.dress (pipeline.dress node) = pipeline.dress node := by
  induction node using Node.induction_on_children with
  | step node inductionHypothesis =>
      have children : (node.children.map pipeline.dress).map pipeline.dress =
          node.children.map pipeline.dress := by
        rw [List.map_map]
        exact List.map_congr_left inductionHypothesis
      rw [dress_eq, dress_eq, look_look, children]

/-- A tree whose formatters have been set looks as it would after they have been set. -/
theorem sameView_dress (pipeline : Pipeline) (node : Node) :
    (pipeline.dress node).SameView pipeline.look node := by
  induction node using Node.induction_on_children with
  | step node inductionHypothesis =>
      rw [dress_eq]
      refine sameView_iff.mpr ⟨rfl, rfl, rfl, rfl, rfl, pipeline.look_look _ _ _, rfl, rfl, ?_⟩
      rw [List.map_map]
      exact List.map_congr_left inductionHypothesis

theorem walk_dress (pipeline : Pipeline) (node : Node) :
    (pipeline.dress node).walk = node.walk.map pipeline.dress := by
  induction pipeline generalizing node with
  | nil => exact (List.map_id' node.walk).symm
  | cons operation rest inductionHypothesis =>
      cases operation with
      | duration rule => exact inductionHypothesis node
      | status name => exact inductionHypothesis node
      | formatters rules =>
          rw [dress, inductionHypothesis, Operation.walk_setFormatters, List.map_map]
          rfl

/-! ## What a pipeline does below the root -/

theorem mark_apply (operation : Operation) (tree : Node) :
    (operation.apply tree).value.mark = tree.mark := by
  rcases Operation.apply_cases operation tree with same | ⟨rules, same⟩ | ⟨added, _, same⟩
  · rw [same]
  · rw [same, Operation.setFormatters_eq]
  · rw [same]
    rfl

theorem mark_steps (pipeline : Pipeline) (tree : Node) :
    (pipeline.steps tree).value.mark = tree.mark := by
  induction pipeline generalizing tree with
  | nil => rfl
  | cons operation rest inductionHypothesis =>
      exact (inductionHypothesis _).trans (mark_apply operation tree)

/-- A calculated property is all that is new below the root, and it has no mark. -/
theorem below_addCalculated {name : String} {value : Value} {formatter : Option Formatter}
    (below : node.Below (Operation.addCalculated tree name value formatter)) :
    node.mark = none ∨ node.Below tree := by
  rcases below with ⟨child, listed, inside⟩
  rcases List.mem_append.mp listed with kept | added
  · exact .inr ⟨child, (List.mem_filter.mp kept).1, inside⟩
  · rw [List.mem_singleton.mp added] at inside
    rw [List.mem_singleton.mp inside]
    exact .inl rfl

theorem below_addDuration {rule : Operation.DurationRule}
    (below : node.Below (Operation.addDuration rule tree).value) :
    node.mark = none ∨ node.Below tree := by
  rcases Operation.addDuration_cases rule tree with same | ⟨_, _, same⟩
  · exact .inr (same ▸ below)
  · exact below_addCalculated (same ▸ below)

theorem below_addStatus {name : String}
    (below : node.Below (Operation.addStatus name tree).value) :
    node.mark = none ∨ node.Below tree := by
  rcases Operation.addStatus_cases name tree with same | ⟨_, _, same⟩
  · exact .inr (same ▸ below)
  · exact below_addCalculated (same ▸ below)

theorem below_setFormatters {rules : Operation.SuffixRules}
    (below : node.Below (Operation.setFormatters rules tree)) :
    Exists fun before : Node => before.Below tree ∧ node = Operation.setFormatters rules before := by
  rcases below with ⟨child, listed, inside⟩
  rw [Operation.setFormatters_eq] at listed
  rcases List.mem_map.mp listed with ⟨old, oldListed, same⟩
  rw [← same, Operation.walk_setFormatters] at inside
  rcases List.mem_map.mp inside with ⟨before, member, set⟩
  exact ⟨before, ⟨old, oldListed, member⟩, set.symm⟩

/-- A node below the root is a calculated property, or a node that was there with its formatters
set. -/
theorem below_steps (pipeline : Pipeline) (below : node.Below (pipeline.steps tree).value) :
    node.mark = none ∨
      Exists fun before : Node => before.Below tree ∧ node = pipeline.dress before := by
  induction pipeline generalizing tree with
  | nil => exact .inr ⟨node, below, rfl⟩
  | cons operation rest inductionHypothesis =>
      rcases inductionHypothesis below with plain | ⟨between, there, dressed⟩
      · exact .inl plain
      have unmarked : between.mark = none -> node.mark = none := by
        intro plain
        rw [dressed, mark_dress, plain]
      cases operation with
      | duration rule =>
          exact (below_addDuration there).imp unmarked fun old => ⟨between, old, dressed⟩
      | status name =>
          exact (below_addStatus there).imp unmarked fun old => ⟨between, old, dressed⟩
      | formatters rules =>
          rcases below_setFormatters there with ⟨before, old, set⟩
          exact .inr ⟨before, old, dressed.trans (congrArg (dress rest) set)⟩

end Pipeline

end TraceView
