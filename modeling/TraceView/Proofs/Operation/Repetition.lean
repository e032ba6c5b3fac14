import TraceView.Proofs.Formatter
import TraceView.Proofs.Operation.Completion
import TraceView.Proofs.Operation.Durations
import TraceView.Proofs.Operation.Statuses
import TraceView.Proofs.Tree.Leaves

namespace TraceView

/-!
# Operations that are repeated

A tree that has been through the pipeline of transitions is not changed by it any more, whatever clock
either pass is for.  That every operation is idle where it has just been applied does not suffice: the
second pass begins with an operation that has not seen what the later ones added.  So each operation has
to be idle on what the others leave as well.  Formatters are idle because what is added later has no name
of a time, and durations because a status lies in no section.
-/

namespace Operation

variable {tree first second : Node} {name : String} {rule : DurationRule}

/-- An operation that changes nothing in a tree. -/
def Idle (operation : Operation) (tree : Node) : Prop :=
  (operation.apply tree).value = tree

/-- What an operation makes of a tree without an edit that is refused: nothing but formatters is
changed, or a child is appended under a name that has been freed. -/
inductive Unrefused (tree : Node) : Node -> Prop where
  | unchanged : Unrefused tree tree
  | dressed (rules : SuffixRules) : Unrefused tree (setFormatters rules tree)
  | grown {child grown : Node} (missing : tree.child? child.name = none)
      (appended : (tree.removeChild child.name).addChild child = .ok grown) : Unrefused tree grown

/-- No operation makes an edit that is refused, in whatever tree. -/
theorem unrefused_apply (operation : Operation) (tree : Node) :
    Unrefused tree (operation.apply tree).value := by
  rcases apply_cases operation tree with unchanged | ⟨rules, dressed⟩ | ⟨added, missing, grown⟩
  · rw [unchanged]
    exact .unchanged
  · rw [dressed]
    exact .dressed rules
  · rw [grown]
    exact .grown missing (addChild_addCalculated tree added.1 added.2.1 added.2.2)

/-! ## Formatters -/

/-- Rules have nothing left to give where others with all of their endings have been. -/
theorem formatterFor_again {earlier later : SuffixRules}
    (covered : later.map Prod.fst ⊆ earlier.map Prod.fst) (name : String) (value : Value)
    (formatter : Option Formatter) :
    formatterFor later name value (formatterFor earlier name value formatter) =
      formatterFor earlier name value formatter := by
  unfold formatterFor
  cases value.isNull with
  | true => rfl
  | false =>
      simp only [Bool.false_eq_true, if_false, Option.or_assoc]
      congr 1
      cases given : earlier.formatter? name with
      | some chosen => rfl
      | none =>
          rw [Option.none_or, formatter?_eq_none_iff]
          intro rule listed
          rcases List.mem_map.mp (covered (List.mem_map_of_mem listed)) with ⟨other, held, same⟩
          rw [← same]
          exact formatter?_eq_none_iff.mp given other held

mutual

theorem setFormatters_again {earlier later : SuffixRules}
    (covered : later.map Prod.fst ⊆ earlier.map Prod.fst) :
    forall node : Node, setFormatters later (setFormatters earlier node) = setFormatters earlier node
  | ⟨id, name, value, source, formatter, isRoot, rootId, mark, children⟩ => by
      simp only [setFormatters, formatterFor_again covered,
        setAllFormatters_again covered children]

theorem setAllFormatters_again {earlier later : SuffixRules}
    (covered : later.map Prod.fst ⊆ earlier.map Prod.fst) :
    forall nodes : List Node,
      setAllFormatters later (setAllFormatters earlier nodes) = setAllFormatters earlier nodes
  | [] => rfl
  | node :: rest => by
      simp only [setAllFormatters, setFormatters_again covered node,
        setAllFormatters_again covered rest]

end

/-- Rules change nothing in a tree exactly if they give its root nothing and change no child. -/
theorem setFormatters_eq_self_iff {rules : SuffixRules} :
    setFormatters rules tree = tree ↔
      formatterFor rules tree.name tree.value tree.formatter = tree.formatter ∧
        forall child, child ∈ tree.children -> setFormatters rules child = child := by
  cases tree
  simp only [setFormatters, setAllFormatters_eq_map, Node.mk.injEq, true_and]
  rw [← @List.map_inj_left _ _ _ (setFormatters rules) fun child => child, List.map_id']

/-- Rules that are idle on a tree stay idle when a property is added that they give nothing. -/
theorem setFormatters_addCalculated {rules : SuffixRules} (idle : setFormatters rules tree = tree)
    {value : Value} {formatter : Option Formatter}
    (given : formatterFor rules name value formatter = formatter) :
    setFormatters rules (addCalculated tree name value formatter) =
      addCalculated tree name value formatter := by
  rcases setFormatters_eq_self_iff.mp idle with ⟨root, children⟩
  refine setFormatters_eq_self_iff.mpr ⟨root, ?_⟩
  intro child listed
  rcases List.mem_append.mp listed with old | new
  · exact children child (List.mem_of_mem_filter old)
  · rw [List.mem_singleton.mp new]
    exact setFormatters_eq_self_iff.mpr ⟨given, fun _ impossible => nomatch impossible⟩

/-! ## Calculated properties -/

/-- What a rule for durations does depends on its two times and on the child of its name only. -/
theorem Idle.duration_of_same (idle : Idle (.duration rule) first)
    (sameChild : second.child? rule.name = first.child? rule.name)
    (sameTimes : rule.times? second = rule.times? first) : Idle (.duration rule) second := by
  change (addDuration rule second).value = second
  cases present : first.child? rule.name with
  | some existing => rw [addDuration_of_present (sameChild.trans present)]
  | none =>
      have missing := sameChild.trans present
      cases read : rule.times? first with
      | none => rw [addDuration_of_unread missing (sameTimes.trans read), Noted.value_quiet]
      | some times =>
          have reads : rule.Reads second times.1 times.2 :=
            times?_eq_some_iff.mp (sameTimes.trans read)
          by_cases negative : times.2 < times.1
          · rw [addDuration_of_negative missing reads negative]
          · -- the first tree would have got a duration
            have held : (Value.int (times.2 - times.1)).isNull = false := rfl
            have found := child?_addCalculated_self first rule.name held (some .elapsed)
            have grown : (addDuration rule first).value =
                addCalculated first rule.name (.int (times.2 - times.1)) (some .elapsed) := by
              simp only [addDuration, present, read, if_neg negative, Noted.value_quiet]
            rw [← grown, show (addDuration rule first).value = first from idle, present] at found
            cases found

/-- An operation is idle where it has been applied. -/
theorem idle_apply (operation : Operation) (tree : Node) :
    Idle operation (operation.apply tree).value := by
  cases operation with
  | formatters rules => exact setFormatters_again (List.Subset.refl _) tree
  | duration rule =>
      change (addDuration rule (addDuration rule tree).value).value = (addDuration rule tree).value
      rcases addDuration_cases rule tree with unchanged | ⟨_, ns, grown⟩
      · rw [unchanged, unchanged]
      · have held : (Value.int ns).isNull = false := rfl
        have found := child?_addCalculated_self tree rule.name held (some .elapsed)
        rw [← grown] at found
        rw [addDuration_of_present found]
  | status name =>
      change (addStatus name (addStatus name tree).value).value = (addStatus name tree).value
      rcases addStatus_cases name tree with unchanged | ⟨_, outcome, grown⟩
      · rw [unchanged, unchanged]
      · have held : (Value.string outcome.text).isNull = false := rfl
        have found := child?_addCalculated_self tree name held none
        rw [← grown] at found
        rw [addStatus_of_present found]

/-! ## One operation after another -/

/-- Durations stay idle when a status is added under another name, since no status holds a time. -/
theorem Idle.duration_addStatus (idle : Idle (.duration .standard) tree) (name : String)
    (different : DurationRule.standard.name ≠ name) :
    Idle (.duration .standard) (addStatus name tree).value := by
  rcases addStatus_cases name tree with unchanged | ⟨_, outcome, grown⟩
  · rw [unchanged]
    exact idle
  · apply idle.duration_of_same
    · rw [grown, child?_addCalculated_of_ne different]
    · apply Option.ext
      rintro ⟨send, finish⟩
      have same := timeAt?_apply (.status name) tree
      change forall place, (addStatus name tree).value.timeAt? place = tree.timeAt? place at same
      rw [times?_standard, times?_standard, same, same]

/-- Formatters stay idle when a duration is added, since it has a formatter of its own. -/
theorem Idle.formatters_addDuration {rules : SuffixRules} (idle : Idle (.formatters rules) tree)
    (rule : DurationRule) : Idle (.formatters rules) (addDuration rule tree).value := by
  rcases addDuration_cases rule tree with unchanged | ⟨_, ns, grown⟩
  · rw [unchanged]
    exact idle
  · rw [grown]
    exact setFormatters_addCalculated idle rfl

/-- Formatters stay idle when a status is added under a name with none of their endings. -/
theorem Idle.formatters_addStatus {rules : SuffixRules} (idle : Idle (.formatters rules) tree)
    (unnamed : rules.formatter? name = none) :
    Idle (.formatters rules) (addStatus name tree).value := by
  rcases addStatus_cases name tree with unchanged | ⟨_, outcome, grown⟩
  · rw [unchanged]
    exact idle
  · rw [grown]
    apply setFormatters_addCalculated idle
    rw [formatterFor, unnamed, Option.or_none, ite_self]

end Operation

/-! ## The pipeline -/

namespace Pipeline

variable {pipeline : Pipeline} {tree : Node}

theorem steps_of_idle (idle : forall operation, operation ∈ pipeline -> operation.Idle tree) :
    (pipeline.steps tree).value = tree := by
  induction pipeline with
  | nil => rfl
  | cons operation rest inductionHypothesis =>
      rcases List.forall_mem_cons.mp idle with ⟨here, others⟩
      rw [steps, Noted.value_andThen, show (operation.apply tree).value = tree from here]
      exact inductionHypothesis others

/-- Where the pipeline of transitions has been, every operation of another such pipeline is idle. -/
theorem idle_ofTransition (first second : Formatter) (tree : Node) {operation : Operation}
    (listed : operation ∈ ofTransition second) :
    operation.Idle ((ofTransition first).steps tree).value := by
  let dressed := Operation.setFormatters [("TimeNs", first)] tree
  let timed := (Operation.addDuration .standard dressed).value
  change operation.Idle (Operation.addStatus "status" timed).value
  simp only [ofTransition, List.mem_cons, List.not_mem_nil, or_false] at listed
  rcases listed with formatters | duration | status
  · have covered : Operation.Idle (.formatters [("TimeNs", second)]) dressed :=
      @Operation.setFormatters_again [("TimeNs", first)] [("TimeNs", second)]
        (List.Subset.refl ["TimeNs"]) tree
    have unnamed : Operation.SuffixRules.formatter? [("TimeNs", second)] "status" = none := by
      apply Operation.formatter?_eq_none_iff.mpr
      intro rule member
      rw [List.mem_singleton.mp member]
      change ¬ Operation.hasEnding "TimeNs" "status" = true
      decide
    rw [formatters]
    exact (covered.formatters_addDuration .standard).formatters_addStatus unnamed
  · have after : Operation.Idle (.duration .standard) timed :=
      Operation.idle_apply (.duration .standard) dressed
    rw [duration]
    exact after.duration_addStatus "status" (by decide)
  · rw [status]
    exact Operation.idle_apply (.status "status") timed

/-- The offset between the clocks, if it is shown at all, can be written. -/
def Nameable (domain : Domain) (offset : Option Int) : Prop :=
  domain = .real -> forall ns, offset = some ns -> Numeral.Fits ns

/-- There is a pipeline for transitions exactly if the offset that it shows can be written. -/
theorem forTrace_transition (domain : Domain) (offset : Option Int) (issue : Nat) :
    (Nameable domain offset ->
      Exists fun clock : Formatter =>
        forTrace .transition domain offset issue = .ok (ofTransition clock)) ∧
    (¬ Nameable domain offset ->
      forTrace .transition domain offset issue = .error .tooManyDigits) := by
  cases domain with
  | elapsed =>
      refine ⟨fun _ => ⟨.elapsed, rfl⟩, fun unnameable => absurd ?_ unnameable⟩
      intro impossible
      cases impossible
  | real =>
      cases offset with
      | none =>
          refine ⟨fun _ => ⟨.elapsed, rfl⟩, fun unnameable => absurd ?_ unnameable⟩
          intro _ ns impossible
          cases impossible
      | some known =>
          constructor
          · intro nameable
            rcases Formatter.shift_of_fits (nameable rfl known rfl) issue with ⟨clock, issued⟩
            refine ⟨clock, ?_⟩
            rw [forTrace, suffixRules, issued]
            rfl
          · intro unnameable
            have long : ¬ Numeral.Fits known := by
              intro fits
              apply unnameable
              intro _ ns same
              cases same
              exact fits
            rw [forTrace, suffixRules, Formatter.shift_of_long long]
            rfl

/-- The pipelines of transitions for two clocks exist exactly if the offsets that they show can be
written, and then the second changes nothing in what the first has left: the clock of the first pass is
the one that stays.  An operation, whatever it is told to look for, makes no edit that is refused and
changes nothing where it has been. -/
theorem transition_repeated (tree : Node) (first second : Domain) (offset other : Option Int)
    (issue again : Nat) :
    ((Exists fun earlier : Pipeline => Exists fun later : Pipeline =>
        forTrace .transition first offset issue = .ok earlier ∧
          forTrace .transition second other again = .ok later ∧
          (later.apply (earlier.apply tree).value).value = (earlier.apply tree).value) ↔
      Nameable first offset ∧ Nameable second other) ∧
    (¬ Nameable first offset ->
      forTrace .transition first offset issue = .error .tooManyDigits) ∧
    forall operation : Operation,
      Operation.Unrefused tree (operation.apply tree).value ∧
        operation.Idle (operation.apply tree).value := by
  rcases forTrace_transition first offset issue with ⟨ofFirst, noFirst⟩
  rcases forTrace_transition second other again with ⟨ofSecond, noSecond⟩
  refine ⟨⟨?_, ?_⟩, noFirst, ?_⟩
  · rintro ⟨earlier, later, made, remade, _⟩
    constructor
    · refine Classical.byContradiction fun unnameable => ?_
      rw [noFirst unnameable] at made
      cases made
    · refine Classical.byContradiction fun unnameable => ?_
      rw [noSecond unnameable] at remade
      cases remade
  · rintro ⟨nameable, alsoNameable⟩
    rcases ofFirst nameable with ⟨clock, made⟩
    rcases ofSecond alsoNameable with ⟨otherClock, remade⟩
    exact ⟨_, _, made, remade, steps_of_idle fun _ => idle_ofTransition clock otherClock tree⟩
  · intro operation
    exact ⟨Operation.unrefused_apply operation tree, Operation.idle_apply operation tree⟩

/-- A tree that has been through the pipeline for elapsed time cannot be sent through the one for the
wall clock if the offset between the clocks is one digit too long, because there is no such pipeline. -/
theorem longOffset_has_no_pipeline :
    forTrace .transition .elapsed none 0 = .ok (ofTransition .elapsed) ∧
      forTrace .transition .real (some (10 ^ Numeral.digitLimit)) 0 = .error .tooManyDigits := by
  refine ⟨rfl, (forTrace_transition _ _ _).2 ?_⟩
  intro nameable
  exact Numeral.not_fits_pow_digitLimit (nameable rfl _ rfl)

end Pipeline

end TraceView
