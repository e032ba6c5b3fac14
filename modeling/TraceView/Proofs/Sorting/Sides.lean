import TraceView.Proofs.Sorting.Search
import TraceView.Sorting.Merge

namespace TraceView.Sorting

/-!
# The next items of two runs

Two sorted runs that stand side by side are merged from the front or from the back.  At either end one
question tells which run has the next item, and the answer for the item at the end of a run holds for
the whole run.  Items that are next may be put away, and a stable sort of the others completes them to a
stable sort of both runs; so it does not matter how many of them are put away at once.
-/

variable {α ε κ : Type} [LinearOrder κ] {key : α -> κ} {known : α -> Prop}
  {precedes : α -> α -> Except ε Bool} {possible : ε -> Prop}

/-- A comparison that says of known items whether the first one has the lesser key, or has no answer
for a cause of some kind. -/
def Compares (precedes : α -> α -> Except ε Bool) (key : α -> κ) (known : α -> Prop)
    (possible : ε -> Prop) : Prop :=
  forall first second, known first -> known second ->
    Ends possible (· = decide (key first < key second)) (precedes first second)

/-- Known items in ascending order. -/
structure IsRun (key : α -> κ) (known : α -> Prop) (run : List α) : Prop where
  ascends : Ascends key run
  all : forall item, item ∈ run -> known item

theorem IsRun.sublist {run part : List α} (sound : IsRun key known run) (within : part.Sublist run) :
    IsRun key known part :=
  ⟨sound.ascends.sublist within, fun item listed => sound.all item (within.subset listed)⟩

/-! ## Questions about a run -/

section

variable {run : Array α} {item : α}

/-- Which items of a run come before an item. -/
theorem Compares.asks_before (compares : Compares precedes key known possible)
    (sound : IsRun key known run.toList) (given : known item) :
    forall other, other ∈ run.toList ->
      Ends possible (· = decide (key other < key item)) (precedes other item) :=
  fun other listed => compares other item (sound.all other listed) given

/-- Which items of a run an item does not come before. -/
theorem Compares.asks_upTo (compares : Compares precedes key known possible)
    (sound : IsRun key known run.toList) (given : known item) :
    forall other, other ∈ run.toList ->
      Ends possible (· = decide (key other ≤ key item)) ((precedes item other).map not) := by
  intro other listed
  refine (compares item other given (sound.all other listed)).map ?_
  rintro _ rfl
  rw [← decide_not]
  exact decide_eq_decide.mpr not_lt

theorem exists_divides_before (ascends : Ascends key run.toList) (item : α) :
    Exists fun point : Nat => Divides (fun other => decide (key other < key item)) run.toList point :=
  exists_divides ascends fun _ _ earlier before =>
    decide_eq_true (lt_of_le_of_lt earlier (of_decide_eq_true before))

theorem exists_divides_upTo (ascends : Ascends key run.toList) (item : α) :
    Exists fun point : Nat => Divides (fun other => decide (key other ≤ key item)) run.toList point :=
  exists_divides ascends fun _ _ earlier before =>
    decide_eq_true (le_trans earlier (of_decide_eq_true before))

end

/-! ## The two ends of a merge -/

namespace Side

variable {side : Side} {run : Array α} {count : Nat} {item : α}

/-- Items put before others at the front, or after them at the back. -/
def join : Side -> List α -> List α -> List α
  | .front, items, others => items ++ others
  | .back, items, others => others ++ items

/-- Of an item of the left run and one of the right run, the left one is the next at this end. -/
def LeftNext (side : Side) (key : α -> κ) (left right : α) : Prop :=
  match side with
  | .front => key left ≤ key right
  | .back => key right < key left

/-- The item at the far end is known to be the last one that is merged. -/
def Crossed (side : Side) (key : α -> κ) (left right : List α) : Prop :=
  match side with
  | .front => forall last, last ∈ left.getLast? -> forall item, item ∈ right -> key item < key last
  | .back => forall first, first ∈ right.head? -> forall item, item ∈ left -> key first < key item

/-- One question tells which item is the next one. -/
theorem leftNext_iff_before {left right : α} :
    decide (key right < key left) = (side == .back) ↔ side.LeftNext key left right := by
  cases side with
  | front => exact decide_eq_false_iff_not.trans not_lt
  | back => simp only [LeftNext, beq_self_eq_true, decide_eq_true_eq]

theorem leftNext_iff_upTo {left right : α} :
    decide (key left ≤ key right) = (side == .front) ↔ side.LeftNext key left right := by
  cases side with
  | front => simp only [LeftNext, beq_self_eq_true, decide_eq_true_eq]
  | back => exact decide_eq_false_iff_not.trans not_le

theorem not_leftNext_of_before {left right : α}
    (answer : decide (key right < key left) = (side == .front)) :
    ¬ side.LeftNext key left right := by
  cases side with
  | front => exact not_le_of_gt (of_decide_eq_true answer)
  | back => exact decide_eq_false_iff_not.mp answer

theorem not_leftNext_of_upTo {left right : α}
    (answer : decide (key left ≤ key right) = (side == .back)) :
    ¬ side.LeftNext key left right := by
  cases side with
  | front => exact decide_eq_false_iff_not.mp answer
  | back => exact not_lt_of_ge (of_decide_eq_true answer)

/-! ### Items at one end -/

theorem toList_extract_end (run : Array α) (start : Nat) :
    (run.extract start run.size).toList = run.toList.drop start := by
  rw [Array.toList_extract, List.extract_eq_take_drop]
  exact List.take_of_length_le (by simp)

theorem toList_extract_start (run : Array α) (stop : Nat) :
    (run.extract 0 stop).toList = run.toList.take stop := by
  rw [Array.toList_extract, List.extract_eq_take_drop, Nat.sub_zero, List.drop_zero]

theorem split_front (count : Nat) (run : Array α) :
    (Side.front.split count run).1.toList = run.toList.take count ∧
      (Side.front.split count run).2.toList = run.toList.drop count :=
  ⟨toList_extract_start run count, toList_extract_end run count⟩

theorem split_back (count : Nat) (run : Array α) :
    (Side.back.split count run).1.toList = run.toList.drop (run.size - count) ∧
      (Side.back.split count run).2.toList = run.toList.take (run.size - count) :=
  ⟨toList_extract_end run _, toList_extract_start run _⟩

theorem join_split (side : Side) (count : Nat) (run : Array α) :
    side.join (side.split count run).1.toList (side.split count run).2.toList = run.toList := by
  cases side with
  | front =>
      rcases split_front count run with ⟨items, rest⟩
      rw [items, rest]
      exact List.take_append_drop _ _
  | back =>
      rcases split_back count run with ⟨items, rest⟩
      rw [items, rest]
      exact List.take_append_drop _ _

theorem split_sublist (side : Side) (count : Nat) (run : Array α) :
    (side.split count run).1.toList.Sublist run.toList ∧
      (side.split count run).2.toList.Sublist run.toList := by
  rw [← join_split side count run]
  cases side with
  | front => exact ⟨List.sublist_append_left _ _, List.sublist_append_right _ _⟩
  | back => exact ⟨List.sublist_append_right _ _, List.sublist_append_left _ _⟩

theorem item?_front (run : Array α) : Side.front.item? run = run.toList.head? := by
  rw [item?, List.head?_eq_getElem?, Array.getElem?_toList]

theorem item?_back (run : Array α) : Side.back.item? run = run.toList.getLast? := by
  rw [item?, Array.getLast?_toList]

theorem exists_item (side : Side) (inhabited : 0 < run.size) :
    Exists fun item : α => side.item? run = some item := by
  cases side with
  | front => exact ⟨_, Array.getElem?_eq_getElem inhabited⟩
  | back =>
      rw [item?, Array.back?_eq_getElem?]
      exact ⟨_, Array.getElem?_eq_getElem (Nat.sub_one_lt (Nat.ne_of_gt inhabited))⟩

/-- The item at an end, and the others. -/
theorem join_of_item (there : side.item? run = some item) :
    Exists fun rest : List α => run.toList = side.join [item] rest := by
  cases side with
  | front => exact List.head?_eq_some_iff.mp ((item?_front run).symm.trans there)
  | back => exact List.getLast?_eq_some_iff.mp ((item?_back run).symm.trans there)

theorem mem_of_item (there : side.item? run = some item) : item ∈ run.toList := by
  rcases join_of_item there with ⟨rest, shape⟩
  rw [shape]
  cases side with
  | front => exact List.mem_append_left _ (List.mem_singleton_self item)
  | back => exact List.mem_append_right _ (List.mem_singleton_self item)

/-- The item at an end is the one that is split off. -/
theorem split_one (there : side.item? run = some item) :
    (side.split 1 run).1.toList = [item] ∧ (side.split 1 run).2.size + 1 = run.size := by
  rcases join_of_item there with ⟨rest, shape⟩
  rw [← Array.length_toList, ← @Array.length_toList _ run]
  cases side with
  | front =>
      rcases split_front 1 run with ⟨first, others⟩
      rw [first, others, shape]
      exact ⟨rfl, rfl⟩
  | back =>
      rcases split_back 1 run with ⟨last, others⟩
      rw [last, others, ← Array.length_toList, shape, join, List.length_append,
        List.length_singleton, Nat.add_sub_cancel, List.drop_left, List.take_left]
      exact ⟨rfl, rfl⟩

theorem item?_of_mem (listed : item ∈ (side.split 1 run).1.toList) : side.item? run = some item := by
  have member : item ∈ run.toList := (split_sublist side 1 run).1.subset listed
  have inhabited : 0 < run.size := Array.length_toList ▸ List.length_pos_of_mem member
  rcases exists_item side inhabited with ⟨other, there⟩
  rw [(split_one there).1, List.mem_singleton] at listed
  rw [listed, there]

/-- What is next before the item at an end is next before the whole run. -/
theorem leftNext_of_item {left : α} (ascends : Ascends key run.toList)
    (there : side.item? run = some item) (next : side.LeftNext key left item) :
    forall other, other ∈ run.toList -> side.LeftNext key left other := by
  intro other listed
  rcases join_of_item there with ⟨rest, shape⟩
  rw [shape] at ascends listed
  cases side with
  | front =>
      rcases List.mem_cons.mp listed with here | later
      · rw [here]
        exact next
      · exact le_trans next ((List.pairwise_cons.mp ascends).1 other later)
  | back =>
      rcases List.mem_append.mp listed with earlier | here
      · exact lt_of_le_of_lt ((List.pairwise_append.mp ascends).2.2 other earlier item
          (List.mem_singleton_self item)) next
      · rw [List.mem_singleton.mp here]
        exact next

theorem not_leftNext_of_item {right : α} (ascends : Ascends key run.toList)
    (there : side.item? run = some item) (next : ¬ side.LeftNext key item right) :
    forall other, other ∈ run.toList -> ¬ side.LeftNext key other right := by
  intro other listed
  rcases join_of_item there with ⟨rest, shape⟩
  rw [shape] at ascends listed
  cases side with
  | front =>
      rcases List.mem_cons.mp listed with here | later
      · rw [here]
        exact next
      · exact not_le_of_gt (lt_of_lt_of_le (lt_of_not_ge next)
          ((List.pairwise_cons.mp ascends).1 other later))
  | back =>
      rcases List.mem_append.mp listed with earlier | here
      · exact not_lt_of_ge (le_trans ((List.pairwise_append.mp ascends).2.2 other earlier item
          (List.mem_singleton_self item)) (le_of_not_gt next))
      · rw [List.mem_singleton.mp here]
        exact next

/-- A stretch takes from its end the items on the one side of a point. -/
theorem stretch_ends {below : α -> Bool} {isBelow : α -> Except ε Bool} {point : Nat}
    (divides : Divides below run.toList point)
    (asks : forall item, item ∈ run.toList -> Ends possible (· = below item) (isBelow item))
    (side : Side) :
    Ends possible
      (fun count =>
        (forall item, item ∈ (side.split count run).1.toList -> below item = (side == .front)) ∧
          forall item, item ∈ (side.split count run).2.toList -> below item = (side == .back))
      (side.stretch isBelow run) := by
  cases side with
  | front =>
      refine (countBelow_ends divides asks (Nat.zero_le _)).imp ?_
      intro count same
      rw [same]
      rcases split_front point run with ⟨items, rest⟩
      rw [items, rest]
      exact ⟨fun item => divides.before, fun item => divides.after⟩
  | back =>
      refine (countBelow_ends divides asks (Nat.sub_le _ _)).map ?_
      intro count same
      rw [same]
      have within := divides.within
      rw [Array.length_toList] at within
      rcases split_back (run.size - point) run with ⟨items, rest⟩
      rw [items, rest, Nat.sub_sub_self within]
      exact ⟨fun item => divides.after, fun item => divides.before⟩

end Side

/-! ## Steps of a merge -/

namespace Side

variable {side : Side} {left right items rest mid : List α}

/-- Items of the left run that are next can be merged before the others. -/
theorem sorts_join_left (side : Side) (ascends : Ascends key (side.join items rest))
    (next : forall item, item ∈ items -> forall other, other ∈ right -> side.LeftNext key item other)
    (sorts : Sorts key (rest ++ right) mid) :
    Sorts key (side.join items rest ++ right) (side.join items mid) := by
  cases side with
  | front =>
      rcases List.pairwise_append.mp ascends with ⟨first, _, before⟩
      rw [join, join, List.append_assoc]
      refine (Sorts.refl first).append sorts ?_
      intro item here other there
      rcases List.mem_append.mp there with kept | across
      · exact before item here other kept
      · exact next item here other across
  | back =>
      rcases List.pairwise_append.mp ascends with ⟨_, second, before⟩
      rw [join, join, List.append_assoc]
      have moved : Similar key (rest ++ (items ++ right)) (rest ++ right ++ items) := by
        rw [List.append_assoc]
        exact (Similar.refl rest).append (Similar.swap fun item here other there =>
          (ne_of_lt (next item here other there)).symm)
      refine Sorts.of_similar moved (sorts.append (Sorts.refl second) ?_)
      intro other there item here
      rcases List.mem_append.mp there with kept | across
      · exact before other kept item here
      · exact le_of_lt (next item here other across)

/-- So can items of the right run, if no item of the left run is next before them. -/
theorem sorts_join_right (side : Side) (ascends : Ascends key (side.join items rest))
    (next : forall item, item ∈ items -> forall other, other ∈ left ->
      ¬ side.LeftNext key other item)
    (sorts : Sorts key (left ++ rest) mid) :
    Sorts key (left ++ side.join items rest) (side.join items mid) := by
  cases side with
  | front =>
      rcases List.pairwise_append.mp ascends with ⟨first, _, before⟩
      have moved : Similar key (left ++ (items ++ rest)) (items ++ (left ++ rest)) := by
        rw [← List.append_assoc, ← List.append_assoc]
        exact (Similar.swap fun other there item here => (ne_of_lt
          (lt_of_not_ge (next item here other there))).symm).append (Similar.refl rest)
      refine Sorts.of_similar moved ((Sorts.refl first).append sorts ?_)
      intro item here other there
      rcases List.mem_append.mp there with across | kept
      · exact le_of_lt (lt_of_not_ge (next item here other across))
      · exact before item here other kept
  | back =>
      rcases List.pairwise_append.mp ascends with ⟨_, second, before⟩
      rw [join, join, ← List.append_assoc]
      refine sorts.append (Sorts.refl second) ?_
      intro other there item here
      rcases List.mem_append.mp there with across | kept
      · exact le_of_not_gt (next item here other across)
      · exact before other kept item here

theorem Crossed.of_left (crossed : side.Crossed key (side.join items rest) right) :
    side.Crossed key rest right := by
  cases side with
  | front =>
      intro last there
      exact crossed last (List.mem_getLast?_append_of_mem_getLast? there)
  | back => exact fun first there item listed => crossed first there item (List.mem_append_left _ listed)

theorem Crossed.of_right (crossed : side.Crossed key left (side.join items rest)) :
    side.Crossed key left rest := by
  cases side with
  | front => exact fun last there item listed => crossed last there item (List.mem_append_right _ listed)
  | back =>
      intro first there
      exact crossed first (List.mem_head?_append_of_mem_head? there)

end Side

end TraceView.Sorting
