import TraceView.Proofs.Tree.Contents
import TraceView.Proofs.Tree.Equality

namespace TraceView

/-!
# Operations on trees with one view

What an operation reads of a tree is in its view, however formatters are looked at: the names of the
children, whether a child is absent, and which value is an integer.  What it adds is named after the
root.  Formatters that are set anyway are taken into account beforehand: a pipeline makes trees with
one view out of trees that differ at most in formatters, if it would make the same of these.
-/

namespace Node

variable {look : Look} {tree other : Node}

/-! ## Look-ups -/

theorem name_view (look : Look) (node : Node) : (node.view look).name = node.name := by
  rw [view_eq]

theorem stored?_of_view (same : tree.SameView look other) (name : String) :
    Option.Rel (SameView look) (tree.stored? name) (other.stored? name) := by
  have shown : forall node : Node, (node.stored? name).map (view look) =
      (node.children.map (view look)).find? fun child => child.name == name := by
    intro node
    simp only [stored?, List.find?_map, Function.comp_def, name_view]
  have found := shown tree
  rw [(sameView_iff.mp same).children, ← shown other] at found
  generalize tree.stored? name = first at found ⊢
  generalize other.stored? name = second at found ⊢
  cases first with
  | none =>
      rw [Option.map_eq_none_iff.mp found.symm]
      exact .none
  | some child =>
      rcases Option.map_eq_some_iff.mp found.symm with ⟨twin, here, views⟩
      rw [here]
      exact .some views.symm

theorem isAbsent_of_view (same : tree.SameView look other) : tree.isAbsent = other.isAbsent := by
  have alike := sameView_iff.mp same
  have lengths := congrArg List.isEmpty alike.children
  rw [List.isEmpty_map, List.isEmpty_map] at lengths
  rw [isAbsent, isAbsent, Value.isNull_eq, Value.isNull_eq, alike.kind, lengths]

theorem child?_of_view (same : tree.SameView look other) (name : String) :
    Option.Rel (SameView look) (tree.child? name) (other.child? name) := by
  have found := stored?_of_view same name
  unfold child?
  generalize tree.stored? name = first at found ⊢
  generalize other.stored? name = second at found ⊢
  rcases found with @⟨child, twin, views⟩ | _
  · rw [Option.filter_some, Option.filter_some, isAbsent_of_view views]
    cases twin.isAbsent with
    | true => exact .none
    | false => exact .some views
  · exact .none

/-- Along any path nodes with one view are found in both trees, or none in either. -/
theorem resolve?_of_view (same : tree.SameView look other) (path : List String) :
    Option.Rel (SameView look) (tree.resolve? path) (other.resolve? path) := by
  induction path generalizing tree other with
  | nil => exact .some same
  | cons name rest inductionHypothesis =>
      have found := child?_of_view same name
      rw [resolve?, resolve?]
      generalize tree.child? name = first at found ⊢
      generalize other.child? name = second at found ⊢
      rcases found with views | _
      · exact inductionHypothesis views
      · exact .none

theorem int?_of_view (same : tree.SameView look other) : tree.int? = other.int? :=
  Value.asInt?_of_content (sameView_iff.mp same).kind (sameView_iff.mp same).content

/-- What is read of nodes with one view is the same. -/
theorem bind_of_view {β : Type} {found twin : Option Node} {read : Node -> Option β}
    (related : Option.Rel (SameView look) found twin)
    (respects : forall node next : Node, node.SameView look next -> read node = read next) :
    found.bind read = twin.bind read := by
  rcases related with views | _
  · exact respects _ _ views
  · rfl

/-- Trees with one view under an exact look have one view under every look that takes values of one
kind alike. -/
theorem sameView_of_exactly
    (kinds : forall name formatter, forall value twin : Value, value.kind = twin.kind ->
      look name value formatter = look name twin formatter)
    (same : tree.SameView exactly other) : tree.SameView look other := by
  induction tree using induction_on_children generalizing other with
  | step tree inductionHypothesis =>
      have alike := sameView_iff.mp same
      refine sameView_iff.mpr ⟨alike.id, alike.name, alike.kind, alike.content, alike.source, ?_,
        alike.isRoot, alike.rootId, map_eq_of_view inductionHypothesis alike.children⟩
      have formatters : tree.formatter = other.formatter := alike.formatter
      rw [alike.name, formatters]
      exact kinds _ _ _ _ alike.kind

end Node

namespace Operation

open Node

variable {look : Look} {tree other : Node}

/-! ## What operations read -/

theorem times?_of_view (rule : DurationRule) (same : tree.SameView look other) :
    rule.times? tree = rule.times? other := by
  refine bind_of_view (resolve?_of_view same rule.parentPath) fun parent twin views => ?_
  have field : forall name : String,
      (parent.child? name).bind Node.int? = (twin.child? name).bind Node.int? :=
    fun name => bind_of_view (child?_of_view views name) fun _ _ => int?_of_view
  rw [field, field]

theorem outcome?_of_view (same : tree.SameView look other) : outcome? tree = outcome? other := by
  have read : forall path : List String, carries tree path = carries other path := by
    intro path
    rw [carries, carries,
      bind_of_view (resolve?_of_view same path) fun _ _ => int?_of_view]
  simp only [outcome?, read]

/-! ## What operations do -/

theorem addCalculated_of_view (same : tree.SameView look other) (name : String) (value : Value)
    (formatter : Option Formatter) :
    (addCalculated tree name value formatter).SameView look
      (addCalculated other name value formatter) := by
  have alike := sameView_iff.mp same
  have kept : forall node : Node, (node.removeChild name).children.map (view look) =
      (node.children.map (view look)).filter fun child => child.name != name := by
    intro node
    simp only [Node.removeChild, List.filter_map, Function.comp_def, name_view]
  refine sameView_iff.mpr ⟨alike.id, alike.name, alike.kind, alike.content, alike.source,
    alike.formatter, alike.isRoot, alike.rootId, ?_⟩
  simp only [addCalculated, List.map_append, kept, alike.children, alike.id]

theorem addDuration_of_view (rule : DurationRule) (same : tree.SameView look other) :
    (addDuration rule tree).value.SameView look (addDuration rule other).value := by
  have found := child?_of_view same rule.name
  unfold addDuration
  rw [times?_of_view rule same]
  generalize tree.child? rule.name = first at found ⊢
  generalize other.child? rule.name = second at found ⊢
  rcases found with _ | _
  · exact same
  · cases rule.times? other with
    | none => exact same
    | some times =>
        by_cases negative : times.2 < times.1
        · simp only [if_pos negative]
          exact same
        · simp only [if_neg negative]
          exact addCalculated_of_view same rule.name _ _

theorem addStatus_of_view (name : String) (same : tree.SameView look other) :
    (addStatus name tree).value.SameView look (addStatus name other).value := by
  have found := child?_of_view same name
  unfold addStatus
  rw [outcome?_of_view same]
  generalize tree.child? name = first at found ⊢
  generalize other.child? name = second at found ⊢
  rcases found with _ | _
  · exact same
  · cases outcome? other with
    | none => exact same
    | some outcome => exact addCalculated_of_view same name _ _

/-- A look at the formatters that rules will have set. -/
def through (rules : SuffixRules) (look : Look) : Look :=
  fun name value formatter => look name value (formatterFor rules name value formatter)

/-- To look at formatters after they have been set is to look through the rules before. -/
theorem view_setFormatters (rules : SuffixRules) (look : Look) (tree : Node) :
    (setFormatters rules tree).view look = tree.view (through rules look) := by
  induction tree using Node.induction_on_children with
  | step tree inductionHypothesis =>
      rw [setFormatters_eq, view_eq, view_eq, List.map_map]
      exact congrArg (View.mk _ _ _ _ _ _ _ _) (List.map_congr_left inductionHypothesis)

end Operation

namespace Pipeline

open Node

variable {tree other : Node}

/-- A look at the formatters that a pipeline will have set. -/
def look : Pipeline -> Look
  | [] => exactly
  | .formatters rules :: rest => Operation.through rules (look rest)
  | .duration _ :: rest => look rest
  | .status _ :: rest => look rest

theorem look_of_kind (pipeline : Pipeline) (name : String) (formatter : Option Formatter)
    (value twin : Value) (kinds : value.kind = twin.kind) :
    pipeline.look name value formatter = pipeline.look name twin formatter := by
  induction pipeline generalizing formatter with
  | nil => rfl
  | cons operation rest inductionHypothesis =>
      cases operation with
      | formatters rules =>
          simp only [look, Operation.through, Operation.formatterFor, Value.isNull_eq, kinds]
          exact inductionHypothesis _
      | duration rule => exact inductionHypothesis formatter
      | status name => exact inductionHypothesis formatter

/-- A pipeline makes equal trees out of trees that differ at most in formatters of which it makes the
same. -/
theorem steps_of_view (pipeline : Pipeline) (same : tree.SameView pipeline.look other) :
    (pipeline.steps tree).value.SameView exactly (pipeline.steps other).value := by
  induction pipeline generalizing tree other with
  | nil => exact same
  | cons operation rest inductionHypothesis =>
      cases operation with
      | duration rule => exact inductionHypothesis (Operation.addDuration_of_view rule same)
      | status name => exact inductionHypothesis (Operation.addStatus_of_view name same)
      | formatters rules =>
          refine inductionHypothesis ?_
          have views := Operation.view_setFormatters rules (look rest)
          exact (views tree).trans (Eq.trans same (views other).symm)

end Pipeline

end TraceView
