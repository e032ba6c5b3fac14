import TraceView.Proofs.Sorting.Sides

namespace TraceView.Sorting

/-!
# What a merge gives

Whatever is merged was the next item at its end.  So at every moment the merged part, put together with
any stable sort of what is left of the two runs, is a stable sort of both runs.  Which pace is kept, and
from which end the runs are merged, decides only how many questions are asked.
-/

variable {α ε κ : Type} [LinearOrder κ] {key : α -> κ} {known : α -> Prop}
  {precedes : α -> α -> Except ε Bool} {possible : ε -> Prop}

namespace Merging

variable {side : Side} {input : List α} {merging : Merging α} {count : Nat}

/-- What has been merged, with a list in the place of what is left. -/
def assemble (side : Side) (merging : Merging α) (mid : List α) : List α :=
  match side with
  | .front => merging.merged.reverse ++ mid
  | .back => mid ++ merging.merged

/-- A merge under way: with any stable sort of what is left of the runs, what has been merged is a
stable sort of the input. -/
structure Sound (side : Side) (key : α -> κ) (known : α -> Prop) (input : List α)
    (merging : Merging α) : Prop where
  left : IsRun key known merging.left.toList
  right : IsRun key known merging.right.toList
  crossed : side.Crossed key merging.left.toList merging.right.toList
  completes : forall mid, Sorts key (merging.left.toList ++ merging.right.toList) mid ->
    Sorts key input (merging.assemble side mid)

/-- The number of items that are left. -/
def remaining (merging : Merging α) : Nat :=
  merging.left.size + merging.right.size

theorem assemble_merge (side : Side) (merging : Merging α) (left right items : Array α)
    (mid : List α) :
    assemble side ⟨left, right, merge side items merging.merged⟩ mid =
      merging.assemble side (side.join items.toList mid) := by
  cases side with
  | front =>
      rw [assemble, assemble, merge, Side.join, List.reverse_append, List.reverse_reverse,
        List.append_assoc]
  | back => rw [assemble, assemble, merge, Side.join, List.append_assoc]

theorem Sound.takeLeft (sound : Sound side key known input merging) (count : Nat)
    (next : forall item, item ∈ (side.split count merging.left).1.toList ->
      forall other, other ∈ merging.right.toList -> side.LeftNext key item other) :
    Sound side key known input (merging.takeLeft side count) := by
  have whole := Side.join_split side count merging.left
  refine ⟨sound.left.sublist (Side.split_sublist side count merging.left).2, sound.right,
    Side.Crossed.of_left (whole ▸ sound.crossed), ?_⟩
  intro mid sorts
  change Sorts key ((side.split count merging.left).2.toList ++ merging.right.toList) mid at sorts
  have more := Side.sorts_join_left side (whole ▸ sound.left.ascends) next sorts
  rw [whole] at more
  exact (assemble_merge side merging _ _ _ mid).symm ▸ sound.completes _ more

theorem Sound.takeRight (sound : Sound side key known input merging) (count : Nat)
    (next : forall item, item ∈ (side.split count merging.right).1.toList ->
      forall other, other ∈ merging.left.toList -> ¬ side.LeftNext key other item) :
    Sound side key known input (merging.takeRight side count) := by
  have whole := Side.join_split side count merging.right
  refine ⟨sound.left, sound.right.sublist (Side.split_sublist side count merging.right).2,
    Side.Crossed.of_right (whole ▸ sound.crossed), ?_⟩
  intro mid sorts
  change Sorts key (merging.left.toList ++ (side.split count merging.right).2.toList) mid at sorts
  have more := Side.sorts_join_right side (whole ▸ sound.right.ascends) next sorts
  rw [whole] at more
  exact (assemble_merge side merging _ _ _ mid).symm ▸ sound.completes _ more

/-- What a step leaves: the merge is sound still, and less is left. -/
def Follows (side : Side) (key : α -> κ) (known : α -> Prop) (input : List α)
    (merging next : Merging α) : Prop :=
  Sound side key known input next ∧ next.remaining < merging.remaining

theorem remaining_takeLeft_le (side : Side) (count : Nat) (merging : Merging α) :
    (merging.takeLeft side count).remaining ≤ merging.remaining := by
  have shorter := (Side.split_sublist side count merging.left).2.length_le
  rw [Array.length_toList, Array.length_toList] at shorter
  exact Nat.add_le_add_right shorter _

theorem remaining_takeRight_le (side : Side) (count : Nat) (merging : Merging α) :
    (merging.takeRight side count).remaining ≤ merging.remaining := by
  have shorter := (Side.split_sublist side count merging.right).2.length_le
  rw [Array.length_toList, Array.length_toList] at shorter
  exact Nat.add_le_add_left shorter _

section

variable {left right : α}

theorem Sound.takeLeft_one (sound : Sound side key known input merging)
    (there : side.item? merging.left = some left)
    (next : forall other, other ∈ merging.right.toList -> side.LeftNext key left other) :
    Follows side key known input merging (merging.takeLeft side 1) := by
  rcases Side.split_one there with ⟨items, size⟩
  refine ⟨sound.takeLeft 1 ?_, ?_⟩
  · intro item listed
    rw [items, List.mem_singleton] at listed
    rw [listed]
    exact next
  · change (side.split 1 merging.left).2.size + merging.right.size <
      merging.left.size + merging.right.size
    omega

theorem Sound.takeRight_one (sound : Sound side key known input merging)
    (there : side.item? merging.right = some right)
    (next : forall other, other ∈ merging.left.toList -> ¬ side.LeftNext key other right) :
    Follows side key known input merging (merging.takeRight side 1) := by
  rcases Side.split_one there with ⟨items, size⟩
  refine ⟨sound.takeRight 1 ?_, ?_⟩
  · intro item listed
    rw [items, List.mem_singleton] at listed
    rw [listed]
    exact next
  · change merging.left.size + (side.split 1 merging.right).2.size <
      merging.left.size + merging.right.size
    omega

theorem stepOnce_ends (compares : Compares precedes key known possible)
    (sound : Sound side key known input merging) (leftThere : side.item? merging.left = some left)
    (rightThere : side.item? merging.right = some right) (threshold lefts rights : Nat) :
    Ends possible (fun found => Follows side key known input merging found.1)
      (stepOnce precedes side threshold lefts rights merging left right) := by
  have leftKnown := sound.left.all left (Side.mem_of_item leftThere)
  have rightKnown := sound.right.all right (Side.mem_of_item rightThere)
  refine (compares right left rightKnown leftKnown).bind ?_
  rintro _ rfl
  by_cases next : side.LeftNext key left right
  · rw [if_pos (beq_iff_eq.mpr (Side.leftNext_iff_before.mpr next))]
    exact sound.takeLeft_one leftThere
      (Side.leftNext_of_item sound.right.ascends rightThere next)
  · rw [if_neg fun answer => next (Side.leftNext_iff_before.mp (beq_iff_eq.mp answer))]
    exact sound.takeRight_one rightThere
      (Side.not_leftNext_of_item sound.left.ascends leftThere next)

/-- Whatever the pace, a merge goes on soundly. -/
theorem advance_ends (compares : Compares precedes key known possible)
    (sound : Sound side key known input merging) (leftThere : side.item? merging.left = some left)
    (rightThere : side.item? merging.right = some right) (pace : Pace) (threshold : Nat) :
    Ends possible (fun found => Follows side key known input merging found.1)
      (merging.advance precedes side pace threshold) := by
  have leftKnown := sound.left.all left (Side.mem_of_item leftThere)
  have rightKnown := sound.right.all right (Side.mem_of_item rightThere)
  unfold advance
  rw [leftThere, rightThere]
  cases pace with
  | stepping lefts rights =>
      refine (stepOnce_ends compares sound leftThere rightThere threshold lefts rights).bind ?_
      exact fun found follows => follows
  | seekingLeft =>
      rcases exists_divides_upTo sound.left.ascends right with ⟨point, divides⟩
      refine (Side.stretch_ends divides (compares.asks_upTo sound.left rightKnown) side).bind ?_
      rintro count ⟨taken, kept⟩
      have after := sound.takeLeft count fun item listed =>
        Side.leftNext_of_item sound.right.ascends rightThere
          (Side.leftNext_iff_upTo.mp (taken item listed))
      rcases after.takeRight_one rightThere fun other listed =>
        Side.not_leftNext_of_upTo (kept other listed) with ⟨last, fewer⟩
      exact ⟨last, Nat.lt_of_lt_of_le fewer (remaining_takeLeft_le side count merging)⟩
  | seekingRight lefts =>
      rcases exists_divides_before sound.right.ascends left with ⟨point, divides⟩
      refine (Side.stretch_ends divides (compares.asks_before sound.right leftKnown) side).bind ?_
      rintro count ⟨taken, kept⟩
      have after := sound.takeRight count fun item listed =>
        Side.not_leftNext_of_item sound.left.ascends leftThere
          (Side.not_leftNext_of_before (taken item listed))
      rcases after.takeLeft_one leftThere fun other listed =>
        Side.leftNext_iff_before.mp (kept other listed) with ⟨last, fewer⟩
      have follows : Follows side key known input merging
          ((merging.takeRight side count).takeLeft side 1) :=
        ⟨last, Nat.lt_of_lt_of_le fewer (remaining_takeRight_le side count merging)⟩
      dsimp only
      split
      · exact follows
      · exact follows

end

/-! ## Whole merges -/

theorem eq_singleton_of_mem {items : List α} {item : α} (short : items.length ≤ 1)
    (listed : item ∈ items) : items = [item] := by
  cases items with
  | nil => cases listed
  | cons first rest =>
      cases List.eq_nil_of_length_eq_zero (Nat.le_zero.mp (Nat.le_of_succ_le_succ short))
      rw [List.mem_singleton.mp listed]

/-- When nothing has to be compared any more, all that is left of the right run comes first. -/
theorem Sound.before_of_isDecided (sound : Sound side key known input merging)
    (decided : merging.isDecided side = true) :
    forall item, item ∈ merging.left.toList -> forall other, other ∈ merging.right.toList ->
      key other < key item := by
  intro item here other there
  have crossed := sound.crossed
  cases side with
  | front =>
      rcases Bool.or_eq_true_iff.mp decided with short | none
      · have only := eq_singleton_of_mem (of_decide_eq_true short) here
        exact crossed item (only ▸ rfl) other there
      · rw [Array.isEmpty_iff.mp none] at there
        cases there
  | back =>
      rcases Bool.or_eq_true_iff.mp decided with short | none
      · have only := eq_singleton_of_mem (of_decide_eq_true short) there
        exact crossed other (only ▸ rfl) item here
      · rw [Array.isEmpty_iff.mp none] at here
        cases here

theorem toList_result (side : Side) (merging : Merging α) :
    (merging.result side).toList =
      merging.assemble side (merging.right.toList ++ merging.left.toList) := by
  cases side <;> simp [result, assemble]

theorem Sound.result (sound : Sound side key known input merging)
    (decided : merging.isDecided side = true) : Sorts key input (merging.result side).toList := by
  rw [toList_result]
  exact sound.completes _
    (Sorts.swap sound.left.ascends sound.right.ascends (sound.before_of_isDecided decided))

/-- A merge is decided once one of the runs is used up. -/
theorem isDecided_of_empty (side : Side) (empty : merging.left.size = 0 ∨ merging.right.size = 0) :
    merging.isDecided side = true := by
  cases side with
  | front =>
      rcases empty with left | right
      · exact Bool.or_eq_true_iff.mpr (Or.inl (decide_eq_true (by omega)))
      · exact Bool.or_eq_true_iff.mpr (Or.inr (decide_eq_true right))
  | back =>
      rcases empty with left | right
      · exact Bool.or_eq_true_iff.mpr (Or.inr (decide_eq_true left))
      · exact Bool.or_eq_true_iff.mpr (Or.inl (decide_eq_true (by omega)))

/-- A merge that is not decided has an item left at its end of either run. -/
theorem exists_items (undecided : merging.isDecided side = false) :
    Exists fun left : α => Exists fun right : α =>
      side.item? merging.left = some left ∧ side.item? merging.right = some right := by
  have inhabited : ¬ (merging.left.size = 0 ∨ merging.right.size = 0) := by
    intro empty
    rw [isDecided_of_empty side empty] at undecided
    cases undecided
  rcases not_or.mp inhabited with ⟨left, right⟩
  rcases Side.exists_item side (Nat.pos_of_ne_zero left) with ⟨leftItem, leftThere⟩
  rcases Side.exists_item side (Nat.pos_of_ne_zero right) with ⟨rightItem, rightThere⟩
  exact ⟨leftItem, rightItem, leftThere, rightThere⟩

/-- A merge that is sound ends with a stable sort. -/
theorem finish_ends (compares : Compares precedes key known possible)
    (sound : Sound side key known input merging) {fuel : Nat} (enough : merging.remaining ≤ fuel)
    (pace : Pace) (threshold : Nat) :
    Ends possible (fun found => Sorts key input found.1.toList)
      (finish precedes side fuel merging pace threshold) := by
  induction fuel generalizing merging pace threshold with
  | zero =>
      have empty : merging.left.size = 0 := Nat.eq_zero_of_add_eq_zero_right (Nat.le_zero.mp enough)
      exact sound.result (isDecided_of_empty side (Or.inl empty))
  | succ fuel inductionHypothesis =>
      rw [finish]
      cases decided : merging.isDecided side with
      | true => exact sound.result decided
      | false =>
          rw [if_neg Bool.false_ne_true]
          rcases exists_items decided with ⟨left, right, leftThere, rightThere⟩
          refine (advance_ends compares sound leftThere rightThere pace threshold).bind ?_
          rintro ⟨next, pace, threshold⟩ ⟨sound, fewer⟩
          exact inductionHypothesis sound (by omega) pace threshold

end Merging

section

variable {left right : Array α}

/-- Two runs of which the first item is on the right and the last one on the left are merged. -/
theorem mergeCrossed_ends (compares : Compares precedes key known possible)
    (leftSound : IsRun key known left.toList) (rightSound : IsRun key known right.toList)
    (lastLeft : Side.front.Crossed key left.toList right.toList)
    (firstRight : Side.back.Crossed key left.toList right.toList) (threshold : Nat) :
    Ends possible (fun found => Sorts key (left.toList ++ right.toList) found.1.toList)
      (mergeCrossed precedes left right threshold) := by
  unfold mergeCrossed
  by_cases shorter : left.size ≤ right.size
  · have start : Merging.Sound .front key known (left.toList ++ right.toList) ⟨left, right, []⟩ :=
      ⟨leftSound, rightSound, lastLeft, fun mid sorts => sorts⟩
    rw [if_pos shorter]
    refine Merging.finish_ends compares (start.takeRight 1 ?_)
      (Merging.remaining_takeRight_le .front 1 _) _ _
    intro item listed other there
    have first := (Side.item?_front right).symm.trans (Side.item?_of_mem listed)
    exact not_le_of_gt (firstRight item first other there)
  · have start : Merging.Sound .back key known (left.toList ++ right.toList) ⟨left, right, []⟩ := by
      refine ⟨leftSound, rightSound, firstRight, ?_⟩
      intro mid sorts
      rw [Merging.assemble, List.append_nil]
      exact sorts
    rw [if_neg shorter]
    refine Merging.finish_ends compares (start.takeLeft 1 ?_)
      (Merging.remaining_takeLeft_le .back 1 _) _ _
    intro item listed other there
    have last := (Side.item?_back left).symm.trans (Side.item?_of_mem listed)
    exact lastLeft item last other there

/-- Two runs that stand in order already. -/
theorem sorts_of_ordered (leftSound : IsRun key known left.toList)
    (rightSound : IsRun key known right.toList)
    (ordered : forall item, item ∈ left.toList -> forall other, other ∈ right.toList ->
      key item ≤ key other) :
    Sorts key (left.toList ++ right.toList) (left ++ right).toList := by
  rw [Array.toList_append]
  exact (Sorts.refl leftSound.ascends).append (Sorts.refl rightSound.ascends) ordered

/-- What is in place at the outer ends of two runs may be left out of a merge. -/
theorem sorts_around {first second mid : List α} {before among : Nat}
    (firstAscends : Ascends key first) (secondAscends : Ascends key second)
    (leading : forall item, item ∈ first.take before -> forall other, other ∈ second ->
      key item ≤ key other)
    (trailing : forall other, other ∈ second.drop among -> forall item, item ∈ first ->
      key item ≤ key other)
    (sorts : Sorts key (first.drop before ++ second.take among) mid) :
    Sorts key (first ++ second) (first.take before ++ mid ++ second.drop among) := by
  have firstParts : first.take before ++ first.drop before = first := List.take_append_drop _ _
  have secondParts : second.take among ++ second.drop among = second := List.take_append_drop _ _
  have firstOrder : Ascends key (first.take before ++ first.drop before) := by
    rw [firstParts]
    exact firstAscends
  have secondOrder : Ascends key (second.take among ++ second.drop among) := by
    rw [secondParts]
    exact secondAscends
  rcases List.pairwise_append.mp firstOrder with ⟨start, _, within⟩
  rcases List.pairwise_append.mp secondOrder with ⟨_, stop, inside⟩
  have parts : first ++ second = first.take before ++ (first.drop before ++ second.take among) ++
      second.drop among := by
    rw [List.append_assoc, List.append_assoc, secondParts, ← List.append_assoc, firstParts]
  rw [parts]
  refine ((Sorts.refl start).append sorts ?_).append (Sorts.refl stop) ?_
  · intro item here other there
    rcases List.mem_append.mp there with kept | across
    · exact within item here other kept
    · exact leading item here other (List.mem_of_mem_take across)
  · intro item here other there
    rcases List.mem_append.mp here with taken | later
    · exact trailing other there item (List.mem_of_mem_take taken)
    · rcases List.mem_append.mp later with kept | across
      · exact trailing other there item (List.mem_of_mem_drop kept)
      · exact inside item across other there

/-- The parts of two runs that are not in place already are merged between those that are. -/
theorem mergeInside_ends (compares : Compares precedes key known possible)
    (leftSound : IsRun key known left.toList) (rightSound : IsRun key known right.toList)
    {first last : α} (firstThere : Side.front.item? right = some first)
    (lastThere : Side.back.item? left = some last) {before among : Nat}
    (leftDivides : Divides (fun item => decide (key item ≤ key first)) left.toList before)
    (rightDivides : Divides (fun item => decide (key item < key last)) right.toList among)
    (someAfter : ¬ left.size ≤ before) (someBefore : among ≠ 0) (threshold : Nat) :
    Ends possible
      (fun found => Sorts key (left.toList ++ right.toList)
        (left.extract 0 before ++ found.1 ++ right.extract among right.size).toList)
      (mergeCrossed precedes (left.extract before left.size) (right.extract 0 among) threshold) := by
  have leftPart := Side.toList_extract_end left before
  have rightPart := Side.toList_extract_start right among
  have lastLeft : Side.front.Crossed key (left.toList.drop before) (right.toList.take among) := by
    intro item there other listed
    rw [List.getLast?_drop, if_neg (Array.length_toList ▸ someAfter)] at there
    cases there.symm.trans ((Side.item?_back left).symm.trans lastThere)
    exact of_decide_eq_true (rightDivides.before listed)
  have firstRight : Side.back.Crossed key (left.toList.drop before) (right.toList.take among) := by
    intro item there other listed
    rw [List.head?_take, if_neg someBefore] at there
    cases there.symm.trans ((Side.item?_front right).symm.trans firstThere)
    exact lt_of_not_ge (of_decide_eq_false (leftDivides.after listed))
  rw [← leftPart, ← rightPart] at lastLeft firstRight
  refine (mergeCrossed_ends compares
    (leftSound.sublist (leftPart ▸ List.drop_sublist _ _))
    (rightSound.sublist (rightPart ▸ List.take_sublist _ _)) lastLeft firstRight threshold).imp ?_
  intro found sorts
  rw [leftPart, rightPart] at sorts
  rw [Array.toList_append, Array.toList_append, Side.toList_extract_start, Side.toList_extract_end]
  refine sorts_around leftSound.ascends rightSound.ascends ?_ ?_ sorts
  · intro item listed
    exact Side.leftNext_of_item rightSound.ascends firstThere
      (Side.leftNext_iff_upTo.mp (leftDivides.before listed))
  · intro other listed item member
    exact le_of_not_gt (Side.not_leftNext_of_item leftSound.ascends lastThere
      (Side.not_leftNext_of_before (rightDivides.after listed)) item member)

/-- Two runs are merged.  What is in place already is left out: the items of the left run that come
before the right one, and the items of the right run that come after the left one. -/
theorem mergeRuns_ends (compares : Compares precedes key known possible)
    (leftSound : IsRun key known left.toList) (rightSound : IsRun key known right.toList)
    (threshold : Nat) :
    Ends possible (fun found => Sorts key (left.toList ++ right.toList) found.1.toList)
      (mergeRuns precedes left right threshold) := by
  unfold mergeRuns
  split
  · rename_i first last firstItem lastItem
    have firstThere : Side.front.item? right = some first := firstItem
    have lastThere : Side.back.item? left = some last := lastItem
    rcases exists_divides_upTo leftSound.ascends first with ⟨before, leftDivides⟩
    rcases exists_divides_before rightSound.ascends last with ⟨among, rightDivides⟩
    refine (countBelow_ends leftDivides
      (compares.asks_upTo leftSound (rightSound.all first (Side.mem_of_item firstThere)))
      (Nat.zero_le _)).bind ?_
    intro count same
    rw [same]
    by_cases all : left.size ≤ before
    · rw [if_pos all]
      refine sorts_of_ordered leftSound rightSound fun item listed =>
        Side.leftNext_of_item rightSound.ascends firstThere ?_
      rw [← List.take_of_length_le (Array.length_toList.trans_le all)] at listed
      exact Side.leftNext_iff_upTo.mp (leftDivides.before listed)
    · rw [if_neg all]
      refine (countBelow_ends rightDivides
        (compares.asks_before rightSound (leftSound.all last (Side.mem_of_item lastThere)))
        (Nat.sub_le _ _)).bind ?_
      intro rightCount same
      rw [same]
      by_cases none : among = 0
      · rw [if_pos none]
        subst none
        refine sorts_of_ordered leftSound rightSound fun item here other there => le_of_not_gt ?_
        exact Side.not_leftNext_of_item leftSound.ascends lastThere
          (Side.not_leftNext_of_before (rightDivides.after there)) item here
      · rw [if_neg none]
        exact (mergeInside_ends compares leftSound rightSound firstThere lastThere leftDivides
          rightDivides all none threshold).bind fun found sorts => sorts
  · rename_i none
    refine sorts_of_ordered leftSound rightSound fun item here other there => ?_
    rcases Side.exists_item .back (Array.length_toList ▸ List.length_pos_of_mem here) with
      ⟨last, lastThere⟩
    rcases Side.exists_item .front (Array.length_toList ▸ List.length_pos_of_mem there) with
      ⟨first, firstThere⟩
    exact absurd lastThere (none first last firstThere)

end

end TraceView.Sorting
