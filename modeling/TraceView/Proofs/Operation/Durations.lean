import TraceView.Proofs.Operation.Calculated

namespace TraceView.Operation

/-!
# The contract of durations

A duration is added exactly if both of its times are found, the second is not before the first, and no
present child has its name.  All other children stay as they are, but an absent child of its name makes
way.  In all other cases the tree stays as it is, and a notice says why if the record is to blame.
-/

variable {rule : DurationRule} {tree : Node} {send finish : Int}

/-! ## The times of a rule -/

/-- The node at the end of the path of a rule has children with these two integers. -/
def DurationRule.Reads (rule : DurationRule) (tree : Node) (send finish : Int) : Prop :=
  Exists fun parent : Node => Exists fun first : Node => Exists fun last : Node =>
    tree.resolve? rule.parentPath = some parent ∧
      (parent.child? rule.sendField = some first ∧ first.value = .int send) ∧
      parent.child? rule.finishField = some last ∧ last.value = .int finish

theorem times?_eq_some_iff : rule.times? tree = some (send, finish) ↔ rule.Reads tree send finish := by
  unfold DurationRule.times? DurationRule.Reads
  simp only [Option.bind_eq_bind, Option.bind_eq_some_iff, int?_eq_some_iff, Option.some.injEq,
    Prod.mk.injEq]
  constructor
  · rintro ⟨parent, found, _, ⟨first, early, sent⟩, _, ⟨last, late, finished⟩, rfl, rfl⟩
    exact ⟨parent, first, last, found, ⟨early, sent⟩, late, finished⟩
  · rintro ⟨parent, first, last, found, ⟨early, sent⟩, late, finished⟩
    exact ⟨parent, found, send, ⟨first, early, sent⟩, finish, ⟨last, late, finished⟩, rfl, rfl⟩

/-! ## What is done -/

/-- The property that is added for two times. -/
def DurationRule.property (rule : DurationRule) (tree : Node) (send finish : Int) : Node where
  id := tree.id ++ "." ++ rule.name
  name := rule.name
  value := .int (finish - send)
  source := .calculated
  formatter := some .elapsed
  isRoot := false
  rootId := none
  mark := none
  children := []

/-- The tree with the property that is added for two times. -/
def DurationRule.grown (rule : DurationRule) (tree : Node) (send finish : Int) : Node :=
  { tree with children := keptChildren tree rule.name ++ [rule.property tree send finish] }

/-! ## The four outcomes -/

theorem addDuration_of_present {existing : Node} (present : tree.child? rule.name = some existing) :
    addDuration rule tree =
      ⟨tree, if existing.source = .calculated then [] else [.rawDuration tree.id rule.name]⟩ := by
  unfold addDuration
  rw [present]

theorem addDuration_of_unread (missing : tree.child? rule.name = none)
    (unread : rule.times? tree = none) : addDuration rule tree = .quiet tree := by
  unfold addDuration
  rw [missing, unread]

theorem addDuration_of_negative (missing : tree.child? rule.name = none)
    (reads : rule.Reads tree send finish) (negative : finish < send) :
    addDuration rule tree =
      ⟨tree, [.negativeDuration tree.id rule.finishField finish rule.sendField send]⟩ := by
  unfold addDuration
  rw [missing, times?_eq_some_iff.mpr reads]
  exact if_pos negative

section

variable {tree : KeyedNode}

theorem addDuration_of_ordered (missing : tree.child? rule.name = none)
    (reads : rule.Reads tree.toNode send finish) (ordered : send ≤ finish) :
    addDuration rule tree.toNode = .quiet (rule.grown tree.toNode send finish) := by
  unfold addDuration
  rw [missing, times?_eq_some_iff.mpr reads]
  simp only [if_neg (Int.not_lt.mpr ordered), addCalculated_eq missing]
  rfl

/-- All that a rule can come to. -/
theorem addDuration_outcome (tree : KeyedNode) (rule : DurationRule) :
    (Exists fun existing : Node => tree.child? rule.name = some existing ∧
        addDuration rule tree.toNode =
          ⟨tree.toNode,
            if existing.source = .calculated then [] else [.rawDuration tree.id rule.name]⟩) ∨
      addDuration rule tree.toNode = .quiet tree.toNode ∨
      (Exists fun send : Int => Exists fun finish : Int =>
        (tree.child? rule.name = none ∧ rule.Reads tree.toNode send finish ∧ finish < send) ∧
          addDuration rule tree.toNode =
            ⟨tree.toNode, [.negativeDuration tree.id rule.finishField finish rule.sendField send]⟩) ∨
      Exists fun send : Int => Exists fun finish : Int =>
        (tree.child? rule.name = none ∧ rule.Reads tree.toNode send finish ∧ send ≤ finish) ∧
          addDuration rule tree.toNode = .quiet (rule.grown tree.toNode send finish) := by
  cases found : tree.child? rule.name with
  | some existing => exact Or.inl ⟨existing, rfl, addDuration_of_present found⟩
  | none =>
      cases read : rule.times? tree.toNode with
      | none => exact Or.inr (Or.inl (addDuration_of_unread found read))
      | some times =>
          have reads : rule.Reads tree.toNode times.1 times.2 := times?_eq_some_iff.mp read
          by_cases negative : times.2 < times.1
          · exact Or.inr (Or.inr (Or.inl ⟨times.1, times.2, ⟨rfl, reads, negative⟩,
              addDuration_of_negative found reads negative⟩))
          · have ordered := Int.not_lt.mp negative
            exact Or.inr (Or.inr (Or.inr ⟨times.1, times.2, ⟨rfl, reads, ordered⟩,
              addDuration_of_ordered found reads ordered⟩))

/-- The property is not refused as a child, and a look-up finds it. -/
theorem addChild_property (missing : tree.child? rule.name = none)
    (send finish : Int) :
    (tree.removeChild rule.name).addChild (rule.property tree.toNode send finish) =
        .ok (rule.grown tree.toNode send finish) ∧
      (rule.grown tree.toNode send finish).child? rule.name =
        some (rule.property tree.toNode send finish) := by
  have grown : addCalculated tree.toNode rule.name (.int (finish - send)) (some .elapsed) =
      rule.grown tree.toNode send finish := addCalculated_eq missing _ _
  rw [← grown]
  exact ⟨addChild_addCalculated tree.toNode rule.name _ _,
    child?_addCalculated_self tree.toNode rule.name rfl _⟩

/-- A tree changes exactly if a property is added. -/
theorem addDuration_ne_iff :
    (addDuration rule tree.toNode).value ≠ tree.toNode ↔
      tree.child? rule.name = none ∧ Exists fun send : Int => Exists fun finish : Int =>
        rule.Reads tree.toNode send finish ∧ send ≤ finish := by
  constructor
  · intro changed
    rcases addDuration_outcome tree rule with
      ⟨existing, _, result⟩ | result | ⟨send, finish, _, result⟩ |
        ⟨send, finish, ⟨missing, reads, ordered⟩, _⟩
    · exact absurd (congrArg Noted.value result) changed
    · exact absurd (congrArg Noted.value result) changed
    · exact absurd (congrArg Noted.value result) changed
    · exact ⟨missing, send, finish, reads, ordered⟩
  · rintro ⟨missing, send, finish, reads, ordered⟩ same
    rw [addDuration_of_ordered missing reads ordered, Noted.value_quiet] at same
    have found := (addChild_property missing send finish).2
    rw [same, missing] at found
    cases found

/-- Why nothing is added is noted if the record is to blame. -/
theorem mem_notices_addDuration_iff {notice : Notice} :
    notice ∈ (addDuration rule tree.toNode).notices ↔
      (notice = .rawDuration tree.id rule.name ∧ Exists fun existing : Node =>
        tree.child? rule.name = some existing ∧ existing.source ≠ .calculated) ∨
      Exists fun send : Int => Exists fun finish : Int =>
        notice = .negativeDuration tree.id rule.finishField finish rule.sendField send ∧
          tree.child? rule.name = none ∧ rule.Reads tree.toNode send finish ∧ finish < send := by
  constructor
  · intro noted
    rcases addDuration_outcome tree rule with
      ⟨existing, present, result⟩ | result | ⟨send, finish, due, result⟩ | ⟨send, finish, _, result⟩
    · rw [result] at noted
      by_cases calculated : existing.source = .calculated
      · rw [if_pos calculated] at noted
        cases noted
      · rw [if_neg calculated] at noted
        exact Or.inl ⟨List.mem_singleton.mp noted, existing, present, calculated⟩
    · rw [result] at noted
      cases noted
    · rw [result] at noted
      exact Or.inr ⟨send, finish, List.mem_singleton.mp noted, due⟩
    · rw [result] at noted
      cases noted
  · rintro (⟨same, existing, present, raw⟩ | ⟨send, finish, same, missing, reads, negative⟩)
    · rw [addDuration_of_present present, if_neg raw]
      exact List.mem_singleton.mpr same
    · rw [addDuration_of_negative missing reads negative]
      exact List.mem_singleton.mpr same

theorem length_notices_addDuration (tree : KeyedNode) (rule : DurationRule) :
    (addDuration rule tree.toNode).notices.length ≤ 1 := by
  rcases addDuration_outcome tree rule with
    ⟨existing, _, result⟩ | result | ⟨send, finish, _, result⟩ | ⟨send, finish, _, result⟩
  · rw [result]
    split
    · exact Nat.zero_le 1
    · exact Nat.le_refl 1
  · rw [result]
    exact Nat.zero_le 1
  · rw [result]
    exact Nat.le_refl 1
  · rw [result]
    exact Nat.zero_le 1

/-- A tree, whose children have different names, changes exactly if it has no present child of the name
and both times, the second not before the first.  Then it has the property at the end of its children,
where it is not refused, and no child but an absent one of the name is gone.  There is at most one
notice: of a present child of the name that is not calculated, or of times in the wrong order. -/
theorem addDuration_contract (tree : KeyedNode) (rule : DurationRule) :
    ((addDuration rule tree.toNode).value ≠ tree.toNode ↔
        tree.child? rule.name = none ∧ Exists fun send : Int => Exists fun finish : Int =>
          rule.Reads tree.toNode send finish ∧ send ≤ finish) ∧
      (forall send finish : Int, tree.child? rule.name = none -> rule.Reads tree.toNode send finish ->
        send ≤ finish ->
          (addDuration rule tree.toNode).value = rule.grown tree.toNode send finish ∧
          (tree.removeChild rule.name).addChild (rule.property tree.toNode send finish) =
            .ok (rule.grown tree.toNode send finish)) ∧
      (forall notice : Notice, notice ∈ (addDuration rule tree.toNode).notices ↔
        (notice = .rawDuration tree.id rule.name ∧ Exists fun existing : Node =>
          tree.child? rule.name = some existing ∧ existing.source ≠ .calculated) ∨
        Exists fun send : Int => Exists fun finish : Int =>
          notice = .negativeDuration tree.id rule.finishField finish rule.sendField send ∧
            tree.child? rule.name = none ∧ rule.Reads tree.toNode send finish ∧ finish < send) ∧
      (addDuration rule tree.toNode).notices.length ≤ 1 := by
  refine ⟨addDuration_ne_iff, ?_, fun notice => mem_notices_addDuration_iff,
    length_notices_addDuration tree rule⟩
  intro send finish missing reads ordered
  refine ⟨?_, (addChild_property missing send finish).1⟩
  rw [addDuration_of_ordered missing reads ordered, Noted.value_quiet]

end

/-- A tree with both times, and with an absent child in the place of the duration. -/
def unmeasured : Node where
  id := "entry"
  name := "transition"
  value := .null
  source := .raw
  formatter := none
  isRoot := true
  rootId := some "entry"
  mark := none
  children := [
    { Node.leaf "entry.wmData" "wmData" .null .raw none with
      children := [
        Node.leaf "entry.wmData.sendTimeNs" "sendTimeNs" (.int 10) .raw none,
        Node.leaf "entry.wmData.finishTimeNs" "finishTimeNs" (.int 30) .raw none] },
    Node.leaf "entry.duration" "duration" .null .raw none]

/-- The duration takes the place of the absent child.  With the times exchanged, or under the name of
the section, nothing is added and the reason is noted. -/
theorem unmeasured_contract :
    unmeasured.childNames.Nodup ∧
      DurationRule.standard.Reads unmeasured 10 30 ∧
      (addDuration .standard unmeasured).value = DurationRule.standard.grown unmeasured 10 30 ∧
      (addDuration .standard unmeasured).value ≠ unmeasured ∧
      .negativeDuration "entry" "sendTimeNs" 10 "finishTimeNs" 30 ∈
        (addDuration ⟨["wmData"], "finishTimeNs", "sendTimeNs", "duration"⟩ unmeasured).notices ∧
      .rawDuration "entry" "wmData" ∈
        (addDuration ⟨["wmData"], "sendTimeNs", "finishTimeNs", "wmData"⟩ unmeasured).notices := by
  have distinct : unmeasured.childNames.Nodup := by decide
  have reads : DurationRule.standard.Reads unmeasured 10 30 :=
    ⟨_, _, _, rfl, ⟨rfl, rfl⟩, rfl, rfl⟩
  have exchanged : DurationRule.Reads ⟨["wmData"], "finishTimeNs", "sendTimeNs", "duration"⟩
      unmeasured 30 10 := ⟨_, _, _, rfl, ⟨rfl, rfl⟩, rfl, rfl⟩
  have missing : unmeasured.child? "duration" = none := rfl
  have raw : Exists fun part : Node =>
      unmeasured.child? "wmData" = some part ∧ part.source ≠ .calculated := ⟨_, rfl, by decide⟩
  rcases addDuration_contract ⟨unmeasured, distinct⟩ .standard with ⟨changes, grows, _⟩
  refine ⟨distinct, reads, (grows 10 30 missing reads (by decide)).1, ?_, ?_, ?_⟩
  · exact changes.mpr ⟨missing, 10, 30, reads, by decide⟩
  · apply ((addDuration_contract ⟨unmeasured, distinct⟩ _).2.2.1 _).mpr
    exact Or.inr ⟨30, 10, rfl, missing, exchanged, by decide⟩
  · apply ((addDuration_contract ⟨unmeasured, distinct⟩ _).2.2.1 _).mpr
    exact Or.inl ⟨rfl, raw⟩

end TraceView.Operation
