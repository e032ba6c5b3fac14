import TraceView.Proofs.Fields.Names
import TraceView.Proofs.Operation.Completion
import TraceView.Proofs.Tree.Contents

namespace TraceView

/-!
# Formatters by the first ending

A list of endings gives each node at most one formatter, that of the first ending that its name has, and
changes nothing else in a tree.  An empty list is treated like no list at all: it stands for the standard
one, which has one ending.  So an empty list changes nothing in a tree exactly if no node waits for the
formatter of times.
-/

namespace Operation

variable {rules others : List (String × Formatter)} {node tree : Node} {formatter : Option Formatter}

/-! ## What a list of endings assigns -/

/-- The formatter that a node has when a list of endings has been applied. -/
inductive Assigns (rules : List (String × Formatter)) (node : Node) : Option Formatter -> Prop where
  /-- The node has a formatter, or it has no value, or its name has none of the endings. -/
  | kept (reason : node.formatter ≠ none ∨ node.value = .null ∨
      forall rule, rule ∈ rules -> ¬ rule.1.toList <:+ node.name.toList) :
      Assigns rules node node.formatter
  /-- The node has a value and no formatter yet, and an ending is the first that its name has. -/
  | first {before after : List (String × Formatter)} {ending : String} {formatter : Formatter}
      (unset : node.formatter = none) (present : node.value ≠ .null)
      (split : rules = before ++ (ending, formatter) :: after)
      (skipped : forall rule, rule ∈ before -> ¬ rule.1.toList <:+ node.name.toList)
      (ends : ending.toList <:+ node.name.toList) : Assigns rules node (some formatter)

/-- A node before and after a list of endings has been applied. -/
structure Reformatted (rules : List (String × Formatter)) (before after : Node) : Prop where
  id : after.id = before.id
  name : after.name = before.name
  value : after.value = before.value
  source : after.source = before.source
  isRoot : after.isRoot = before.isRoot
  rootId : after.rootId = before.rootId
  mark : after.mark = before.mark
  children : after.children.length = before.children.length
  formatter : Assigns rules before after.formatter

theorem hasEnding_iff {ending name : String} :
    hasEnding ending name = true ↔ ending.toList <:+ name.toList :=
  List.isSuffixOf_iff_suffix

theorem formatterFor_of_reason (reason : node.formatter ≠ none ∨ node.value = .null ∨
    forall rule, rule ∈ rules -> ¬ rule.1.toList <:+ node.name.toList) :
    formatterFor rules node.name node.value node.formatter = node.formatter := by
  unfold formatterFor
  rcases reason with carried | valueless | unmatched
  · rcases Option.ne_none_iff_exists'.mp carried with ⟨formatter, same⟩
    rw [same, Option.some_or, ite_self]
  · rw [valueless]
    rfl
  · have none : SuffixRules.formatter? rules node.name = none :=
      formatter?_eq_none_iff.mpr fun rule listed ends =>
        unmatched rule listed (hasEnding_iff.mp ends)
    rw [none, Option.or_none, ite_self]

theorem formatterFor_of_first {before after : List (String × Formatter)} {ending : String}
    {formatter : Formatter} (unset : node.formatter = none) (present : node.value ≠ .null)
    (skipped : forall rule, rule ∈ before -> ¬ rule.1.toList <:+ node.name.toList)
    (ends : ending.toList <:+ node.name.toList) :
    formatterFor (before ++ (ending, formatter) :: after) node.name node.value node.formatter =
      some formatter := by
  have found : (before ++ (ending, formatter) :: after).find?
      (fun rule => hasEnding rule.1 node.name) = some (ending, formatter) := by
    refine List.find?_eq_some_iff_append.mpr ⟨hasEnding_iff.mpr ends, before, after, rfl, ?_⟩
    intro rule listed
    rw [Bool.not_eq_true', Bool.eq_false_iff]
    exact fun matching => skipped rule listed (hasEnding_iff.mp matching)
  rw [formatterFor, if_neg fun null => present (Value.isNull_iff.mp null), unset, Option.none_or,
    SuffixRules.formatter?, found, Option.map_some]

/-- The formatter that a node gets is the one that the list assigns: the first match splits the list. -/
theorem assigns_formatterFor (rules : List (String × Formatter)) (node : Node) :
    Assigns rules node (formatterFor rules node.name node.value node.formatter) := by
  by_cases reason : node.formatter ≠ none ∨ node.value = .null ∨
      forall rule, rule ∈ rules -> ¬ rule.1.toList <:+ node.name.toList
  · rw [formatterFor_of_reason reason]
    exact .kept reason
  · rcases not_or.mp reason with ⟨carried, others⟩
    rcases not_or.mp others with ⟨present, matched⟩
    have unset : node.formatter = none := not_not.mp carried
    cases found : rules.find? fun rule => hasEnding rule.1 node.name with
    | none =>
        refine absurd (fun rule listed ends => ?_) matched
        exact List.find?_eq_none.mp found rule listed (hasEnding_iff.mpr ends)
    | some rule =>
        rcases rule with ⟨ending, given⟩
        rcases List.find?_eq_some_iff_append.mp found with ⟨ends, before, after, split, skipped⟩
        have passed : forall rule, rule ∈ before -> ¬ rule.1.toList <:+ node.name.toList := by
          intro rule listed matching
          have skips := skipped rule listed
          rw [hasEnding_iff.mpr matching] at skips
          cases skips
        rw [split, formatterFor_of_first unset present passed (hasEnding_iff.mp ends)]
        exact .first unset present rfl passed (hasEnding_iff.mp ends)

/-- The list assigns no other. -/
theorem assigns_iff :
    Assigns rules node formatter ↔
      formatter = formatterFor rules node.name node.value node.formatter := by
  constructor
  · intro assigns
    cases assigns with
    | kept reason => exact (formatterFor_of_reason reason).symm
    | first unset present split skipped ends =>
        rw [split]
        exact (formatterFor_of_first unset present skipped ends).symm
  · intro same
    rw [same]
    exact assigns_formatterFor rules node

theorem reformatted_iff :
    Reformatted rules node (setFormatters others node) ↔
      Assigns rules node (formatterFor others node.name node.value node.formatter) := by
  rw [setFormatters_eq]
  exact ⟨fun reformatted => reformatted.formatter,
    fun assigns => ⟨rfl, rfl, rfl, rfl, rfl, rfl, rfl, List.length_map _, assigns⟩⟩

/-- A tree is reformatted node by node. -/
theorem forall₂_walk_iff :
    List.Forall₂ (Reformatted rules) tree.walk (setFormatters others tree).walk ↔
      forall node, node ∈ tree.walk ->
        Assigns rules node (formatterFor others node.name node.value node.formatter) := by
  rw [walk_setFormatters, List.forall₂_map_right_iff, List.forall₂_same]
  exact forall₂_congr fun _ _ => reformatted_iff

/-! ## What the operation does -/

/-- An empty list stands for the standard one, and any other for itself. -/
theorem ofList_table (rules : Fields.Table Formatter) :
    SuffixRules.ofList rules.fields =
      if rules.fields = [] then SuffixRules.standard else rules.fields := by
  unfold SuffixRules.ofList
  by_cases given : rules.fields = []
  · rw [if_pos given, given]
    rfl
  · rw [if_neg given, if_neg fun empty => given (List.isEmpty_iff.mp empty)]
    exact Fields.settle_of_distinct rules.distinct

theorem formatterFor_nil (node : Node) :
    formatterFor [] node.name node.value node.formatter = node.formatter :=
  formatterFor_of_reason (Or.inr (Or.inr fun _ impossible => absurd impossible List.not_mem_nil))

/-- Where an empty list stands for the standard one, it assigns what an empty list should exactly to the
nodes that do not wait for the formatter of times. -/
theorem assigns_nil_standard_iff :
    Assigns [] node (formatterFor .standard node.name node.value node.formatter) ↔
      ¬ node.AwaitsClock := by
  rw [assigns_iff, formatterFor_nil]
  constructor
  · intro same waits
    have dressed : formatterFor .standard node.name node.value node.formatter = some .elapsed :=
      (formatterFor_times .elapsed node).1 waits
    rw [same, waits.2.1] at dressed
    cases dressed
  · exact (formatterFor_times .elapsed node).2

/-- The operation changes nothing in a tree but formatters, and those as a list of endings says: the given
one if it is not empty, and the standard one otherwise.  So it does what the given list says exactly if
this is not empty or no node waits for the formatter of times. -/
theorem formatters_assigned (rules : Fields.Table Formatter) (tree : Node) :
    ((Operation.formatters (.ofList rules.fields)).apply tree).notices = [] ∧
      List.Forall₂ (Reformatted (if rules.fields = [] then SuffixRules.standard else rules.fields))
        tree.walk ((Operation.formatters (.ofList rules.fields)).apply tree).value.walk ∧
      (List.Forall₂ (Reformatted rules.fields) tree.walk
          ((Operation.formatters (.ofList rules.fields)).apply tree).value.walk ↔
        rules.fields ≠ [] ∨ forall node, node ∈ tree.walk -> ¬ node.AwaitsClock) := by
  have applied : ((Operation.formatters (.ofList rules.fields)).apply tree).value =
      setFormatters (if rules.fields = [] then SuffixRules.standard else rules.fields) tree :=
    congrArg (setFormatters · tree) (ofList_table rules)
  rw [applied, forall₂_walk_iff, forall₂_walk_iff]
  refine ⟨rfl, fun node _ => assigns_formatterFor _ node, ?_⟩
  by_cases given : rules.fields = []
  · simp only [given, if_true, assigns_nil_standard_iff, ne_eq, not_true_eq_false, false_or]
  · rw [if_neg given]
    exact iff_of_true (fun node _ => assigns_formatterFor rules.fields node) (Or.inl given)

/-- A section with three times, one of which has a formatter. -/
def timedTree : Node :=
  ⟨"R transition", "transition", .null, .raw, none, true, some "R", none,
    [⟨"R transition.wmData", "wmData", .null, .raw, none, false, none, none,
      [.leaf "R transition.wmData.startNs" "startNs" (.int 5) .raw none,
        .leaf "R transition.wmData.sendTimeNs" "sendTimeNs" (.int 6) .raw none,
        .leaf "R transition.wmData.wallTimeNs" "wallTimeNs" (.int 7) .raw (some .real)]⟩]⟩

/-- Endings that overlap, the last of which every name has. -/
def overlappingRules : List (String × Formatter) :=
  [("TimeNs", .elapsed), ("Ns", .real), ("", .standard)]

theorem overlappingRules_assigned :
    Fields.Distinct overlappingRules ∧
      List.Forall₂ (Reformatted overlappingRules) timedTree.walk
        ((Operation.formatters (.ofList overlappingRules)).apply timedTree).value.walk ∧
      ((Operation.formatters (.ofList overlappingRules)).apply timedTree).value.walk.map Node.formatter =
        [none, none, some .real, some .elapsed, some .real] := by
  have distinct : Fields.Distinct overlappingRules := List.nodup_iff_pairwise_ne.mpr (by decide)
  have given : overlappingRules ≠ [] := List.cons_ne_nil _ _
  exact ⟨distinct, (formatters_assigned ⟨overlappingRules, distinct⟩ timedTree).2.2.mpr (Or.inl given), by decide⟩

/-- An empty list of endings gives a formatter to a node whose name has none of them. -/
theorem emptyRules_assign :
    Fields.Distinct ([] : List (String × Formatter)) ∧
      ((Operation.formatters (.ofList [])).apply timedTree).value.walk.map Node.formatter =
        [none, none, none, some .elapsed, some .real] ∧
      ¬ List.Forall₂ (Reformatted []) timedTree.walk
        ((Operation.formatters (.ofList [])).apply timedTree).value.walk := by
  refine ⟨List.nodup_nil, by decide, ?_⟩
  intro reformatted
  have each := (@forall₂_walk_iff [] SuffixRules.standard timedTree).mp reformatted
  have listed : Node.leaf "R transition.wmData.sendTimeNs" "sendTimeNs" (.int 6) .raw none ∈
      timedTree.walk := @List.mem_of_getElem? _ _ 3 _ rfl
  exact assigns_nil_standard_iff.mp (each _ listed) ⟨rfl, rfl, by decide⟩

end Operation

end TraceView
