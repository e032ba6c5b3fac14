import Mathlib.Data.List.Forall2
import TraceView.Proofs.Operation.Lookup
import TraceView.Proofs.Tree.Building

namespace TraceView

/-!
# What the pipeline of transitions adds

The pipeline of transitions shows times as times and calculates a duration and a status.  Nothing
that was in the tree is changed by it, except that a time without a formatter gets one.

The calculated properties go to the end, which alone does not keep the record intact: a property
is put in the place of an absent child of its name, and a child of its name would hide it.  Both
are excluded if the names are free, so the names are a condition here.
-/

namespace Node

/-- Whether the pipeline of transitions gives a node the formatter of times: it has a value, no
formatter yet, and the name of a time. -/
def AwaitsClock (node : Node) : Prop :=
  node.value.isNull = false ∧ node.formatter = none ∧ "TimeNs".toList <:+ node.name.toList

/-- A tree and what becomes of it when its times are shown on a clock.  The two are one tree but
for the formatters of times that have none. -/
inductive Dressed (clock : Formatter) : Node -> Node -> Prop where
  | intro {bare dressed : Node}
      (id : dressed.id = bare.id) (name : dressed.name = bare.name)
      (value : dressed.value = bare.value) (source : dressed.source = bare.source)
      (isRoot : dressed.isRoot = bare.isRoot) (rootId : dressed.rootId = bare.rootId)
      (mark : dressed.mark = bare.mark)
      (timed : bare.AwaitsClock -> dressed.formatter = some clock)
      (kept : ¬ bare.AwaitsClock -> dressed.formatter = bare.formatter)
      (children : List.Forall₂ (Dressed clock) bare.children dressed.children) :
      Dressed clock bare dressed

/-- A tree and what the pipeline of transitions makes of it: the root is the same, its children
are those that it had, in order, followed by at most a duration and at most a status, and no two
of them have one name. -/
structure Completed (clock : Formatter) (bare full : Node) : Prop where
  id : full.id = bare.id
  name : full.name = bare.name
  value : full.value = bare.value
  source : full.source = bare.source
  formatter : full.formatter = bare.formatter
  isRoot : full.isRoot = bare.isRoot
  rootId : full.rootId = bare.rootId
  mark : full.mark = bare.mark
  children : Exists fun shown : List Node => Exists fun duration : Option Node =>
    Exists fun status : Option Node =>
      List.Forall₂ (Dressed clock) bare.children shown ∧
        full.children = shown ++ duration.toList ++ status.toList ∧
        (forall node, node ∈ duration -> node.name = "duration" ∧ node.source = .calculated) ∧
        forall node, node ∈ status -> node.name = "status" ∧ node.source = .calculated
  distinct : full.childNames.Nodup

end Node

namespace Operation

/-! ## Formatters of times -/

/-- The one rule for times gives its clock exactly to the nodes that await one. -/
theorem formatterFor_times (clock : Formatter) (node : Node) :
    (node.AwaitsClock -> formatterFor [("TimeNs", clock)] node.name node.value node.formatter =
      some clock) ∧
    (¬ node.AwaitsClock -> formatterFor [("TimeNs", clock)] node.name node.value node.formatter =
      node.formatter) := by
  have decided : hasEnding "TimeNs" node.name = true ↔ "TimeNs".toList <:+ node.name.toList :=
    List.isSuffixOf_iff_suffix
  constructor
  · rintro ⟨present, unset, ending⟩
    simp only [formatterFor, present, unset, SuffixRules.formatter?, List.find?_cons,
      decided.mpr ending, Bool.false_eq_true, if_false, Option.none_or, Option.map_some]
  · intro contented
    unfold formatterFor
    cases present : node.value.isNull with
    | true => exact if_pos rfl
    | false =>
        rw [if_neg Bool.false_ne_true]
        cases carried : node.formatter with
        | some formatter => exact Option.some_or
        | none =>
            have other : hasEnding "TimeNs" node.name = false := by
              apply eq_false_of_ne_true
              intro ending
              exact contented ⟨present, carried, decided.mp ending⟩
            simp only [SuffixRules.formatter?, List.find?_cons, other, List.find?_nil,
              Option.map_none, Option.or_none]

mutual

/-- Setting the formatters of times changes nothing else in a tree. -/
theorem dressed_setFormatters (clock : Formatter) :
    forall node : Node, node.Dressed clock (setFormatters [("TimeNs", clock)] node)
  | ⟨id, name, value, source, formatter, isRoot, rootId, mark, children⟩ =>
    .intro rfl rfl rfl rfl rfl rfl rfl
      (formatterFor_times clock
        ⟨id, name, value, source, formatter, isRoot, rootId, mark, children⟩).1
      (formatterFor_times clock
        ⟨id, name, value, source, formatter, isRoot, rootId, mark, children⟩).2
      (dressed_setAllFormatters clock children)

theorem dressed_setAllFormatters (clock : Formatter) :
    forall nodes : List Node,
      List.Forall₂ (Node.Dressed clock) nodes (setAllFormatters [("TimeNs", clock)] nodes)
  | [] => .nil
  | node :: rest => .cons (dressed_setFormatters clock node) (dressed_setAllFormatters clock rest)

end

theorem childNames_setFormatters (rules : SuffixRules) (tree : Node) :
    (setFormatters rules tree).childNames = tree.childNames := by
  rw [setFormatters_eq]
  simp only [Node.childNames, List.map_map, Function.comp_def, name_setFormatters]

/-! ## Calculated properties -/

/-- A tree and what an operation makes of it that may calculate a property of a name. -/
def Gains (name : String) (tree grown : Node) : Prop :=
  Exists fun added : Option Node =>
    grown = { tree with children := tree.children ++ added.toList } ∧
      forall node, node ∈ added -> node.name = name ∧ node.source = .calculated

variable {name other : String} {tree grown : Node}

theorem gains_self (name : String) (tree : Node) : Gains name tree tree := by
  refine ⟨none, ?_, ?_⟩
  · cases tree
    simp only [Option.toList_none, List.append_nil]
  · intro node impossible
    cases impossible

/-- A property that is calculated under a free name takes no other child's place. -/
theorem addCalculated_of_free (free : name ∉ tree.childNames) (value : Value)
    (formatter : Option Formatter) :
    addCalculated tree name value formatter =
      { tree with
        children := tree.children ++
          [Node.leaf (tree.id ++ "." ++ name) name value .calculated formatter] } := by
  have everything : tree.children.filter (fun child => child.name != name) = tree.children := by
    rw [List.filter_eq_self]
    intro child member
    apply bne_iff_ne.mpr
    intro same
    exact free (List.mem_map.mpr ⟨child, member, same⟩)
  simp only [addCalculated, Node.removeChild, everything]

theorem gains_addCalculated (free : name ∉ tree.childNames) (value : Value)
    (formatter : Option Formatter) : Gains name tree (addCalculated tree name value formatter) := by
  refine ⟨some (Node.leaf (tree.id ++ "." ++ name) name value .calculated formatter),
    addCalculated_of_free free value formatter, ?_⟩
  intro node same
  cases same
  exact ⟨rfl, rfl⟩

theorem gains_addDuration {rule : DurationRule} (free : rule.name ∉ tree.childNames) :
    Gains rule.name tree (addDuration rule tree).value := by
  rcases addDuration_cases rule tree with unchanged | ⟨_, ns, grown⟩
  · rw [unchanged]
    exact gains_self rule.name tree
  · rw [grown]
    exact gains_addCalculated free _ _

theorem gains_addStatus (free : name ∉ tree.childNames) :
    Gains name tree (addStatus name tree).value := by
  rcases addStatus_cases name tree with unchanged | ⟨_, outcome, grown⟩
  · rw [unchanged]
    exact gains_self name tree
  · rw [grown]
    exact gains_addCalculated free _ _

theorem Gains.childNames (gains : Gains name tree grown) (free : name ∉ tree.childNames)
    (distinct : tree.childNames.Nodup) :
    grown.childNames.Nodup ∧
      forall other, other ≠ name -> other ∉ tree.childNames -> other ∉ grown.childNames := by
  rcases gains with ⟨added, same, called⟩
  subst same
  cases added with
  | none =>
      simp only [Node.childNames, Option.toList_none, List.append_nil]
      exact ⟨distinct, fun other _ missing => missing⟩
  | some node =>
      have named : node.name = name := (called node rfl).1
      refine ⟨Node.nodup_append distinct (named ▸ free), fun other different missing => ?_⟩
      rw [Node.childNames, Option.toList_some, List.map_append, List.map_singleton, named,
        List.mem_append, List.mem_singleton]
      rintro (listed | last)
      · exact missing listed
      · exact different last

end Operation

/-! ## The pipeline -/

theorem Node.Completed.of_gains {clock : Formatter} {bare first second third : Node}
    (dressed : bare.Dressed clock first) (kept : ¬ bare.AwaitsClock)
    (duration : Operation.Gains "duration" first second)
    (status : Operation.Gains "status" second third) (distinct : third.childNames.Nodup) :
    bare.Completed clock third := by
  rcases dressed with ⟨id, name, value, source, isRoot, rootId, mark, _, formatter, children⟩
  rcases duration with ⟨added, grown, calledDuration⟩
  rcases status with ⟨addedLast, grownLast, calledStatus⟩
  subst grown grownLast
  exact ⟨id, name, value, source, formatter kept, isRoot, rootId, mark,
    ⟨first.children, added, addedLast, children, rfl, calledDuration, calledStatus⟩, distinct⟩

/-- The pipeline of transitions, with a formatter for times. -/
def Pipeline.ofTransition (clock : Formatter) : Pipeline :=
  [.formatters [("TimeNs", clock)], .duration .standard, .status "status"]

/-- The only rule for formatters is the one for times.  Elapsed times keep their clock; on the wall
clock they are shown at the offset between the clocks. -/
theorem Pipeline.suffixRules_eq_ok {domain : Domain} {offset : Option Int} {issue : Nat}
    {rules : Operation.SuffixRules} (made : suffixRules domain offset issue = .ok rules) :
    Exists fun clock : Formatter => rules = [("TimeNs", clock)] ∧
      (domain = .elapsed -> clock = .elapsed) ∧
      (domain = .real -> forall ns, offset = some ns -> Formatter.shift ns issue = .ok clock) := by
  cases domain with
  | elapsed =>
      cases made
      exact ⟨.elapsed, rfl, fun _ => rfl, fun impossible => by cases impossible⟩
  | real =>
      cases offset with
      | none =>
          cases made
          exact ⟨.elapsed, rfl, fun _ => rfl, fun _ ns impossible => by cases impossible⟩
      | some known =>
          simp only [suffixRules] at made
          cases shifted : Formatter.shift known issue with
          | error cause =>
              rw [shifted] at made
              cases made
          | ok clock =>
              rw [shifted] at made
              cases made
              refine ⟨clock, rfl, ?_, ?_⟩
              · intro impossible
                cases impossible
              · intro _ ns same
                cases same
                exact shifted

/-- A tree that has room for the calculated properties: their names are free, no two children have
one name, and the tree has no value of its own. -/
structure Node.Uncalculated (tree : Node) : Prop where
  untimed : tree.value = .null
  distinct : tree.childNames.Nodup
  duration : "duration" ∉ tree.childNames
  status : "status" ∉ tree.childNames

/-- The pipeline of transitions completes a tree that has room for the calculated properties. -/
theorem Pipeline.completed_steps {bare : Node} (clock : Formatter) (room : bare.Uncalculated) :
    bare.Completed clock ((Pipeline.ofTransition clock).steps bare).value := by
  rcases room with ⟨untimed, distinct, noDuration, noStatus⟩
  have kept : ¬ bare.AwaitsClock := by
    rintro ⟨present, _, _⟩
    rw [untimed] at present
    cases present
  have dressed := Operation.dressed_setFormatters clock bare
  -- each step is followed by what the next one needs: distinct names, and its own name free
  have names := Operation.childNames_setFormatters [("TimeNs", clock)] bare
  rw [← names] at distinct noDuration noStatus
  have duration : Operation.Gains "duration" _ _ :=
    @Operation.gains_addDuration _ .standard noDuration
  rcases duration.childNames noDuration distinct with ⟨stillDistinct, others⟩
  have stillFree := others "status" (by decide) noStatus
  have status := Operation.gains_addStatus stillFree
  exact .of_gains dressed kept duration status (status.childNames stillFree stillDistinct).1

end TraceView
