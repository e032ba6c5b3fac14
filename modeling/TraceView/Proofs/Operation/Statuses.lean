import TraceView.Proofs.Operation.Calculated

namespace TraceView

/-!
# The contract of statuses

A status is decided by four times, of which an earlier one outweighs the later ones.  It is added under a
free name; all children stay as they are, but an absent child of its name makes way.  That child may be
a section in which a time is looked for: an absent section has no times, so nothing that decides is lost.
-/

namespace Node

/-- A path leads past no absent node to a node whose value is an integer. -/
def Carries (tree : Node) (path : List String) : Prop :=
  Exists fun node : Node => Exists fun n : Int =>
    tree.resolve? path = some node ∧ node.value = .int n

/-- How a transition ended, as far as its times say.  An abort outweighs a merge, and both outweigh that
the transition was finished or dispatched. -/
inductive Ended (tree : Node) : Operation.Outcome -> Prop where
  | aborted (abort : tree.Carries ["wmData", "abortTimeNs"]) : tree.Ended .aborted
  | merged (going : ¬ tree.Carries ["wmData", "abortTimeNs"])
      (merge : tree.Carries ["shellData", "mergeTimeNs"]) : tree.Ended .merged
  | played (going : ¬ tree.Carries ["wmData", "abortTimeNs"])
      (apart : ¬ tree.Carries ["shellData", "mergeTimeNs"])
      (begun : tree.Carries ["wmData", "finishTimeNs"] ∨
        tree.Carries ["shellData", "dispatchTimeNs"]) : tree.Ended .played

/-- None of the four times is there. -/
def Undecided (tree : Node) : Prop :=
  ¬ tree.Carries ["wmData", "abortTimeNs"] ∧ ¬ tree.Carries ["shellData", "mergeTimeNs"] ∧
    ¬ tree.Carries ["wmData", "finishTimeNs"] ∧ ¬ tree.Carries ["shellData", "dispatchTimeNs"]

end Node

namespace Operation

variable {tree : Node} {outcome : Outcome}

/-! ## The decision -/

theorem carries_iff {path : List String} : carries tree path = true ↔ tree.Carries path := by
  unfold carries Node.Carries
  simp only [Option.isSome_iff_exists, Option.bind_eq_some_iff, int?_eq_some_iff]
  exact exists_comm

/-- The first of the four times that is there decides. -/
theorem outcome?_eq (tree : Node) :
    outcome? tree =
      if carries tree ["wmData", "abortTimeNs"] then some .aborted
      else if carries tree ["shellData", "mergeTimeNs"] then some .merged
      else if carries tree ["wmData", "finishTimeNs"] then some .played
      else if carries tree ["shellData", "dispatchTimeNs"] then some .played
      else none := by
  simp only [outcome?, statusRules, List.find?_cons, List.find?_nil]
  cases carries tree ["wmData", "abortTimeNs"] with
  | true => rfl
  | false =>
      cases carries tree ["shellData", "mergeTimeNs"] with
      | true => rfl
      | false =>
          cases carries tree ["wmData", "finishTimeNs"] with
          | true => rfl
          | false => cases carries tree ["shellData", "dispatchTimeNs"] <;> rfl

theorem outcome?_of_ended (ended : tree.Ended outcome) : outcome? tree = some outcome := by
  rw [outcome?_eq]
  cases ended with
  | aborted abort => rw [if_pos (carries_iff.mpr abort)]
  | merged going merge =>
      rw [if_neg (mt carries_iff.mp going), if_pos (carries_iff.mpr merge)]
  | played going apart begun =>
      rw [if_neg (mt carries_iff.mp going), if_neg (mt carries_iff.mp apart)]
      rcases begun with finish | dispatch
      · rw [if_pos (carries_iff.mpr finish)]
      · rw [if_pos (carries_iff.mpr dispatch), ite_self]

theorem outcome?_of_undecided (undecided : tree.Undecided) : outcome? tree = none := by
  rcases undecided with ⟨abort, merge, finish, dispatch⟩
  rw [outcome?_eq, if_neg (mt carries_iff.mp abort), if_neg (mt carries_iff.mp merge),
    if_neg (mt carries_iff.mp finish), if_neg (mt carries_iff.mp dispatch)]

/-- A tree with one of the four times has an outcome. -/
theorem ended_or_undecided (tree : Node) :
    (Exists fun outcome : Outcome => tree.Ended outcome) ∨ tree.Undecided := by
  by_cases abort : tree.Carries ["wmData", "abortTimeNs"]
  · exact Or.inl ⟨_, .aborted abort⟩
  · by_cases merge : tree.Carries ["shellData", "mergeTimeNs"]
    · exact Or.inl ⟨_, .merged abort merge⟩
    · by_cases finish : tree.Carries ["wmData", "finishTimeNs"]
      · exact Or.inl ⟨_, .played abort merge (Or.inl finish)⟩
      · by_cases dispatch : tree.Carries ["shellData", "dispatchTimeNs"]
        · exact Or.inl ⟨_, .played abort merge (Or.inr dispatch)⟩
        · exact Or.inr ⟨abort, merge, finish, dispatch⟩

theorem ended_iff_decided :
    (Exists fun outcome : Outcome => tree.Ended outcome) ↔ ¬ tree.Undecided := by
  constructor
  · rintro ⟨outcome, ended⟩ undecided
    have decided := outcome?_of_ended ended
    rw [outcome?_of_undecided undecided] at decided
    cases decided
  · exact (ended_or_undecided tree).resolve_right

/-! ## What is done -/

/-- The property that is added for an outcome. -/
def statusProperty (tree : Node) (name : String) (outcome : Outcome) : Node where
  id := tree.id ++ "." ++ name
  name := name
  value := .string outcome.text
  source := .calculated
  formatter := none
  isRoot := false
  rootId := none
  mark := none
  children := []

/-- The tree with the property that is added for an outcome. -/
def withStatus (tree : Node) (name : String) (outcome : Outcome) : Node :=
  { tree with children := keptChildren tree name ++ [statusProperty tree name outcome] }

variable {name : String}

theorem addStatus_of_present {existing : Node} (present : tree.child? name = some existing) :
    addStatus name tree =
      ⟨tree, if existing.source = .calculated then [] else [.rawStatus tree.id name]⟩ := by
  unfold addStatus
  rw [present]

theorem addStatus_of_undecided (missing : tree.child? name = none) (undecided : tree.Undecided) :
    addStatus name tree = .quiet tree := by
  unfold addStatus
  rw [missing, outcome?_of_undecided undecided]

section

variable {tree : KeyedNode}

theorem addStatus_of_ended (missing : tree.child? name = none)
    (ended : tree.Ended outcome) :
    addStatus name tree.toNode = .quiet (withStatus tree.toNode name outcome) := by
  unfold addStatus
  rw [missing, outcome?_of_ended ended]
  simp only [addCalculated_eq missing]
  rfl

/-- All that looking for a status can come to. -/
theorem addStatus_outcome (tree : KeyedNode) (name : String) :
    (Exists fun existing : Node => tree.child? name = some existing ∧
        addStatus name tree.toNode =
          ⟨tree.toNode, if existing.source = .calculated then [] else [.rawStatus tree.id name]⟩) ∨
      (tree.child? name = none ∧ tree.Undecided ∧ addStatus name tree.toNode = .quiet tree.toNode) ∨
      Exists fun outcome : Outcome => (tree.child? name = none ∧ tree.Ended outcome) ∧
        addStatus name tree.toNode = .quiet (withStatus tree.toNode name outcome) := by
  cases found : tree.child? name with
  | some existing => exact Or.inl ⟨existing, rfl, addStatus_of_present found⟩
  | none =>
      rcases ended_or_undecided tree.toNode with ⟨outcome, ended⟩ | undecided
      · exact Or.inr (Or.inr ⟨outcome, ⟨rfl, ended⟩, addStatus_of_ended found ended⟩)
      · exact Or.inr (Or.inl ⟨rfl, undecided, addStatus_of_undecided found undecided⟩)

/-- The property is not refused as a child, and a look-up finds it. -/
theorem addChild_statusProperty (missing : tree.child? name = none) (outcome : Outcome) :
    (tree.removeChild name).addChild (statusProperty tree.toNode name outcome) =
        .ok (withStatus tree.toNode name outcome) ∧
      (withStatus tree.toNode name outcome).child? name =
        some (statusProperty tree.toNode name outcome) := by
  have grown : addCalculated tree.toNode name (.string outcome.text) none =
      withStatus tree.toNode name outcome := addCalculated_eq missing _ _
  rw [← grown]
  exact ⟨addChild_addCalculated tree.toNode name _ _,
    child?_addCalculated_self tree.toNode name rfl _⟩

/-- A tree changes exactly if a property is added. -/
theorem addStatus_ne_iff :
    (addStatus name tree.toNode).value ≠ tree.toNode ↔
      tree.child? name = none ∧ Exists fun outcome : Outcome => tree.Ended outcome := by
  constructor
  · intro changed
    rcases addStatus_outcome tree name with
      ⟨existing, _, result⟩ | ⟨_, _, result⟩ | ⟨outcome, ⟨missing, ended⟩, _⟩
    · exact absurd (congrArg Noted.value result) changed
    · exact absurd (congrArg Noted.value result) changed
    · exact ⟨missing, outcome, ended⟩
  · rintro ⟨missing, outcome, ended⟩ same
    rw [addStatus_of_ended missing ended, Noted.value_quiet] at same
    have found := (addChild_statusProperty missing outcome).2
    rw [same, missing] at found
    cases found

/-- A notice is given exactly if a present child that is not calculated has the name. -/
theorem notices_addStatus (tree : KeyedNode) (name : String) :
    ((Exists fun existing : Node => tree.child? name = some existing ∧
        existing.source ≠ .calculated) ->
      (addStatus name tree.toNode).notices = [.rawStatus tree.id name]) ∧
    ((forall existing : Node, tree.child? name = some existing -> existing.source = .calculated) ->
      (addStatus name tree.toNode).notices = []) := by
  constructor
  · rintro ⟨existing, present, raw⟩
    rw [addStatus_of_present present, if_neg raw]
  · intro calculated
    rcases addStatus_outcome tree name with
      ⟨existing, present, result⟩ | ⟨_, _, result⟩ | ⟨outcome, _, result⟩
    · rw [result, if_pos (calculated existing present)]
    · rw [result, Noted.notices_quiet]
    · rw [result, Noted.notices_quiet]

/-- A tree, whose children have different names, changes exactly if it has no present child of the name
and one of the four times.  Then it has the property of its outcome at the end of its children, where it
is not refused, and no child but an absent one of the name is gone.  The one notice is of a present
child of the name that is not calculated. -/
theorem addStatus_contract (tree : KeyedNode) (name : String) :
    ((addStatus name tree.toNode).value ≠ tree.toNode ↔
        tree.child? name = none ∧ Exists fun outcome : Outcome => tree.Ended outcome) ∧
      ((Exists fun outcome : Outcome => tree.Ended outcome) ↔ ¬ tree.Undecided) ∧
      (forall outcome : Outcome, tree.child? name = none -> tree.Ended outcome ->
        (addStatus name tree.toNode).value = withStatus tree.toNode name outcome ∧
          (tree.removeChild name).addChild (statusProperty tree.toNode name outcome) =
            .ok (withStatus tree.toNode name outcome)) ∧
      ((Exists fun existing : Node => tree.child? name = some existing ∧
          existing.source ≠ .calculated) ->
        (addStatus name tree.toNode).notices = [.rawStatus tree.id name]) ∧
      ((forall existing : Node, tree.child? name = some existing ->
          existing.source = .calculated) ->
        (addStatus name tree.toNode).notices = []) := by
  refine ⟨addStatus_ne_iff, ended_iff_decided, ?_, notices_addStatus tree name⟩
  intro outcome missing ended
  refine ⟨?_, (addChild_statusProperty missing outcome).1⟩
  rw [addStatus_of_ended missing ended, Noted.value_quiet]

end

/-- A tree with an absent section, and with two times in the other one. -/
def halfway : Node where
  id := "entry"
  name := "transition"
  value := .null
  source := .raw
  formatter := none
  isRoot := true
  rootId := some "entry"
  mark := none
  children := [
    Node.leaf "entry.wmData" "wmData" .null .raw none,
    { Node.leaf "entry.shellData" "shellData" .null .raw none with
      children := [
        Node.leaf "entry.shellData.dispatchTimeNs" "dispatchTimeNs" (.int 10) .raw none,
        Node.leaf "entry.shellData.mergeTimeNs" "mergeTimeNs" (.int 30) .raw none] }]

/-- The merge outweighs the dispatch.  The status may take the place of the absent section, but not of
the other one. -/
theorem halfway_contract :
    halfway.childNames.Nodup ∧ halfway.Ended .merged ∧
      (addStatus "status" halfway).value = withStatus halfway "status" .merged ∧
      (addStatus "wmData" halfway).value = withStatus halfway "wmData" .merged ∧
      (addStatus "wmData" halfway).value ≠ halfway ∧
      (addStatus "shellData" halfway).value = halfway ∧
      (addStatus "shellData" halfway).notices = [.rawStatus "entry" "shellData"] ∧
      (addStatus "status" halfway).notices = [] := by
  have distinct : halfway.childNames.Nodup := by decide
  have going : ¬ halfway.Carries ["wmData", "abortTimeNs"] := by
    rintro ⟨node, n, impossible, _⟩
    cases impossible
  have merge : halfway.Carries ["shellData", "mergeTimeNs"] := ⟨_, 30, rfl, rfl⟩
  have ended : halfway.Ended .merged := .merged going merge
  have free : halfway.child? "status" = none := rfl
  have absent : halfway.child? "wmData" = none := rfl
  have raw : Exists fun part : Node =>
      halfway.child? "shellData" = some part ∧ part.source ≠ .calculated := ⟨_, rfl, by decide⟩
  rcases addStatus_contract ⟨halfway, distinct⟩ "status" with ⟨_, _, added, _, silent⟩
  rcases addStatus_contract ⟨halfway, distinct⟩ "wmData" with ⟨changes, _, replaced, _⟩
  rcases addStatus_contract ⟨halfway, distinct⟩ "shellData" with ⟨kept, _, _, noted, _⟩
  refine ⟨distinct, ended, (added .merged free ended).1, (replaced .merged absent ended).1,
    changes.mpr ⟨absent, .merged, ended⟩, ?_, noted raw, silent ?_⟩
  · refine Classical.byContradiction fun changed => ?_
    rcases raw with ⟨part, present, _⟩
    rw [(kept.mp changed).1] at present
    cases present
  · intro existing impossible
    rw [free] at impossible
    cases impossible

end Operation

end TraceView
