import TraceView.Proofs.Sorting.Merge
import TraceView.Sorting.Runs

namespace TraceView.Sorting

/-!
# What sorting by runs gives

The runs on the stack are sorted, and read from the bottom they are what has been taken from the list so
far, but for the order of different keys.  Each step keeps this: a run is taken off the list, filled up
and put on the stack, or two neighbours on the stack are merged.  So in the end there is one run, which
is the stable sort of the list, or a comparison has had no answer.
-/

variable {α ε κ : Type} [LinearOrder κ] {key : α -> κ} {known : α -> Prop}
  {precedes : α -> α -> Except ε Bool} {possible : ε -> Prop} {items input : List α}

theorem IsRun.of_sorts {output : List α} (sorts : Sorts key input output)
    (all : forall item, item ∈ input -> known item) : IsRun key known output :=
  ⟨sorts.ascends, fun item listed => all item (sorts.mem_iff.mp listed)⟩

/-! ## Taking runs off a list -/

/-- A list begins with items of which a run is the stable sort. -/
def Begins (key : α -> κ) (items run left : List α) : Prop :=
  Exists fun taken : List α => items = taken ++ left ∧ Sorts key taken run ∧
    (items ≠ [] -> taken ≠ [])

theorem Begins.known_run {run left : List α} (begins : Begins key items run left)
    (all : forall item, item ∈ items -> known item) : IsRun key known run := by
  rcases begins with ⟨taken, rfl, sorts, _⟩
  exact IsRun.of_sorts sorts fun item listed => all item (List.mem_append_left _ listed)

theorem Begins.known_left {run left : List α} (begins : Begins key items run left)
    (all : forall item, item ∈ items -> known item) : forall item, item ∈ left -> known item := by
  rcases begins with ⟨taken, rfl, _, _⟩
  exact fun item listed => all item (List.mem_append_right _ listed)

/-- One item after another in a run that falls strictly, or else does not fall. -/
def Goes (key : α -> κ) (falling : Bool) (first second : α) : Prop :=
  decide (key second < key first) = falling

theorem Goes.trans {falling : Bool} {first second third : α} (before : Goes key falling first second)
    (after : Goes key falling second third) : Goes key falling first third := by
  cases falling with
  | true =>
      exact decide_eq_true (lt_trans (of_decide_eq_true after) (of_decide_eq_true before))
  | false =>
      exact decide_eq_false (not_lt_of_ge (le_trans (le_of_not_gt (of_decide_eq_false before))
        (le_of_not_gt (of_decide_eq_false after))))

/-- A run goes on as long as the items go on in its direction. -/
theorem continueRun_ends (compares : Compares precedes key known possible) (falling : Bool)
    {last : α} (given : known last) (all : forall item, item ∈ items -> known item) :
    Ends possible
      (fun found => items = found.1 ++ found.2 ∧ (last :: found.1).Pairwise (Goes key falling))
      (continueRun precedes falling last items) := by
  induction items generalizing last with
  | nil => exact ⟨rfl, List.pairwise_singleton _ last⟩
  | cons item rest inductionHypothesis =>
      rcases List.forall_mem_cons.mp all with ⟨here, others⟩
      rw [continueRun]
      refine (compares item last here given).bind ?_
      rintro _ rfl
      by_cases goes : Goes key falling last item
      · rw [if_pos (beq_iff_eq.mpr goes)]
        refine (inductionHypothesis here others).bind ?_
        rintro ⟨more, left⟩ ⟨same, chain⟩
        refine ⟨congrArg (item :: ·) same, List.pairwise_cons.mpr ⟨?_, chain⟩⟩
        intro other listed
        rcases List.mem_cons.mp listed with same | later
        · rw [same]
          exact goes
        · exact goes.trans ((List.pairwise_cons.mp chain).1 other later)
      · rw [if_neg fun answer => goes (beq_iff_eq.mp answer)]
        exact ⟨rfl, List.pairwise_singleton _ last⟩

/-- Items that go in one direction are sorted by turning them round if they fall. -/
theorem sorts_of_goes {falling : Bool} (goes : items.Pairwise (Goes key falling)) :
    Sorts key items (if falling then items.reverse else items) := by
  cases falling with
  | true =>
      have descends : items.Pairwise fun first second => key second < key first :=
        goes.imp of_decide_eq_true
      exact ⟨List.pairwise_reverse.mpr (descends.imp le_of_lt), Similar.reverse descends⟩
  | false => exact Sorts.refl (goes.imp fun answer => le_of_not_gt (of_decide_eq_false answer))

theorem firstRun_ends (compares : Compares precedes key known possible)
    (all : forall item, item ∈ items -> known item) :
    Ends possible (fun found => Begins key items found.1 found.2) (firstRun precedes items) := by
  match items with
  | [] => exact ⟨[], rfl, Sorts.refl List.Pairwise.nil, id⟩
  | [item] => exact ⟨[item], rfl, Sorts.refl (List.pairwise_singleton _ item), id⟩
  | first :: second :: rest =>
      have firstKnown := all first List.mem_cons_self
      have secondKnown := all second (List.mem_cons_of_mem _ List.mem_cons_self)
      rw [firstRun]
      refine (compares second first secondKnown firstKnown).bind ?_
      rintro falling direction
      refine (continueRun_ends compares falling secondKnown fun item listed =>
        all item (List.mem_cons_of_mem _ (List.mem_cons_of_mem _ listed))).bind ?_
      rintro ⟨more, left⟩ ⟨same, chain⟩
      have goes : (first :: second :: more).Pairwise (Goes key falling) := by
        refine List.pairwise_cons.mpr ⟨?_, chain⟩
        intro other listed
        have here : Goes key falling first second := direction.symm
        rcases List.mem_cons.mp listed with same | later
        · rw [same]
          exact here
        · exact here.trans ((List.pairwise_cons.mp chain).1 other later)
      exact ⟨first :: second :: more, congrArg (first :: second :: ·) same, sorts_of_goes goes,
        fun _ => List.cons_ne_nil _ _⟩

/-- An item is put behind the items of a run that it does not come before. -/
theorem insert_ends (compares : Compares precedes key known possible) {run : Array α} {item : α}
    (sound : IsRun key known run.toList) (given : known item) :
    Ends possible (fun found => Sorts key (run.toList ++ [item]) found.toList)
      (insert precedes run item) := by
  rcases exists_divides_upTo sound.ascends item with ⟨point, divides⟩
  unfold insert
  refine (bisect_ends divides (compares.asks_upTo sound given) (Nat.zero_le _)
    (Array.length_toList ▸ divides.within) (Nat.le_succ _)).bind ?_
  intro place same
  rw [same]
  change Sorts key _ (run.extract 0 point ++ #[item] ++ run.extract point run.size).toList
  rw [Array.toList_append, Array.toList_append, Side.toList_extract_start, Side.toList_extract_end,
    List.append_assoc, ← List.append_nil (run.toList.take point ++ _)]
  have moved : Sorts key (run.toList.drop point ++ [item].take 1)
      ([item] ++ run.toList.drop point) := by
    refine Sorts.swap (sound.ascends.sublist (List.drop_sublist _ _))
      (List.pairwise_singleton _ item) ?_
    intro other later next here
    rw [List.mem_singleton.mp here]
    exact lt_of_not_ge (of_decide_eq_false (divides.after later))
  refine sorts_around sound.ascends (List.pairwise_singleton _ item) ?_ ?_ moved
  · intro other earlier next here
    rw [List.mem_singleton.mp here]
    exact of_decide_eq_true (divides.before earlier)
  · intro other impossible
    cases impossible

theorem foldlM_insert_ends (compares : Compares precedes key known possible) {run : Array α}
    (sound : IsRun key known run.toList) (all : forall item, item ∈ items -> known item) :
    Ends possible (fun found => Sorts key (run.toList ++ items) found.toList)
      (items.foldlM (insert precedes) run) := by
  induction items generalizing run with
  | nil => exact (List.append_nil run.toList).symm ▸ Sorts.refl sound.ascends
  | cons item rest inductionHypothesis =>
      rcases List.forall_mem_cons.mp all with ⟨here, others⟩
      rw [List.foldlM_cons]
      refine (insert_ends compares sound here).bind ?_
      intro next inserted
      have nextSound : IsRun key known next.toList := IsRun.of_sorts inserted fun other listed =>
        (List.mem_append.mp listed).elim (sound.all other)
          fun single => List.mem_singleton.mp single ▸ here
      refine (inductionHypothesis nextSound others).imp ?_
      intro found sorts
      rw [← List.singleton_append, ← List.append_assoc]
      exact sorts.of_similar (inserted.similar.append (Similar.refl rest))

theorem nextRun_ends (compares : Compares precedes key known possible)
    (all : forall item, item ∈ items -> known item) (least : Nat) :
    Ends possible (fun found => Begins key items found.1.toList found.2)
      (nextRun precedes least items) := by
  unfold nextRun
  refine (firstRun_ends compares all).bind ?_
  rintro ⟨run, left⟩ begins
  have leftKnown := begins.known_left all
  refine (foldlM_insert_ends compares (begins.known_run all) fun item listed =>
    leftKnown item (List.mem_of_mem_take listed)).bind ?_
  intro filled sorts
  rcases begins with ⟨taken, same, first, some⟩
  refine ⟨taken ++ left.take (least - run.length), ?_, ?_, ?_⟩
  · rw [List.append_assoc, List.take_append_drop]
    exact same
  · exact sorts.of_similar (first.similar.append (Similar.refl _))
  · exact fun given empty => some given (List.append_eq_nil_iff.mp empty).1

/-! ## Runs that wait -/

/-- The items of the runs on a stack, from the bottom to the top. -/
def content : List (Waiting α) -> List α
  | [] => []
  | top :: below => content below ++ top.items.toList

theorem content_append (above below : List (Waiting α)) :
    content (above ++ below) = content below ++ content above := by
  induction above with
  | nil => rw [List.nil_append, content, List.append_nil]
  | cons top rest inductionHypothesis =>
      rw [List.cons_append, content, content, inductionHypothesis, List.append_assoc]

/-- The runs on a stack are sorted, and hold what has been taken from the list. -/
structure Stacked (key : α -> κ) (known : α -> Prop) (input : List α) (stack : List (Waiting α)) :
    Prop where
  runs : forall waiting, waiting ∈ stack -> IsRun key known waiting.items.toList
  similar : Similar key input (content stack)

/-- Two neighbours on a stack that are merged take the place of both. -/
theorem Stacked.replace {above rest : List (Waiting α)} {top below joined : Waiting α}
    (stacked : Stacked key known input (above ++ top :: below :: rest))
    (sorts : Sorts key (below.items.toList ++ top.items.toList) joined.items.toList) :
    Stacked key known input (above ++ joined :: rest) := by
  have member : forall {waiting : Waiting α}, waiting ∈ top :: below :: rest ->
      IsRun key known waiting.items.toList :=
    fun listed => stacked.runs _ (List.mem_append_right _ listed)
  have topSound := member List.mem_cons_self
  have belowSound := member (List.mem_cons_of_mem _ List.mem_cons_self)
  refine ⟨?_, ?_⟩
  · intro waiting listed
    rcases List.mem_append.mp listed with higher | lower
    · exact stacked.runs waiting (List.mem_append_left _ higher)
    · rcases List.mem_cons.mp lower with here | deeper
      · rw [here]
        exact IsRun.of_sorts sorts fun item given =>
          (List.mem_append.mp given).elim (belowSound.all item) (topSound.all item)
      · exact member (List.mem_cons_of_mem _ (List.mem_cons_of_mem _ deeper))
  · refine stacked.similar.trans ?_
    rw [content_append, content_append, content, content, content, List.append_assoc (content rest)]
    exact ((Similar.refl _).append sorts.similar).append (Similar.refl _)

theorem join_ends (compares : Compares precedes key known possible) {below top : Waiting α}
    (belowSound : IsRun key known below.items.toList) (topSound : IsRun key known top.items.toList)
    (threshold : Nat) :
    Ends possible
      (fun found => Sorts key (below.items.toList ++ top.items.toList) found.1.items.toList)
      (below.join precedes top threshold) :=
  (mergeRuns_ends compares belowSound topSound threshold).bind fun _ sorts => sorts

theorem joinDeeper_ends (compares : Compares precedes key known possible) (depth : Nat)
    {stack : List (Waiting α)} {top : Waiting α} (stacked : Stacked key known input (top :: stack))
    (threshold : Nat) :
    Ends possible (fun found => Stacked key known input found.1)
      (joinDeeper precedes depth top threshold stack) := by
  induction stack generalizing top threshold with
  | nil => exact stacked
  | cons below rest inductionHypothesis =>
      rw [joinDeeper]
      by_cases deeper : depth < top.depth
      · rw [if_pos deeper]
        refine (join_ends compares (stacked.runs below (List.mem_cons_of_mem _ List.mem_cons_self))
          (stacked.runs top List.mem_cons_self) threshold).bind ?_
        rintro ⟨joined, threshold⟩ sorts
        exact inductionHypothesis (@Stacked.replace _ _ _ _ _ _ [] _ _ _ _ stacked sorts) threshold
      · rw [if_neg deeper]
        exact stacked

theorem push_ends (compares : Compares precedes key known possible) (length : Nat) {run : Array α}
    (sound : IsRun key known run.toList) {stack : List (Waiting α)}
    (stacked : Stacked key known input stack) (threshold : Nat) :
    Ends possible (fun found => Stacked key known (input ++ run.toList) found.1)
      (push precedes length run threshold stack) := by
  -- whatever stack has been made of the one below, the run goes on top of it
  have topped : forall {stack : List (Waiting α)} (start depth : Nat),
      Stacked key known input stack ->
        Stacked key known (input ++ run.toList) (⟨start, depth, run⟩ :: stack) := by
    intro stack start depth stacked
    exact ⟨List.forall_mem_cons.mpr ⟨sound, stacked.runs⟩,
      stacked.similar.append (Similar.refl run.toList)⟩
  cases stack with
  | nil => exact topped 0 0 stacked
  | cons top rest =>
      rw [push]
      refine (joinDeeper_ends compares _ stacked threshold).bind ?_
      rintro ⟨stack, threshold⟩ stacked
      exact topped _ _ stacked

/-- In the end all runs are merged, whichever neighbours go first. -/
theorem joinAll_ends (compares : Compares precedes key known possible) {stack : List (Waiting α)}
    {top below : Waiting α} (stacked : Stacked key known input (top :: below :: stack))
    (threshold : Nat) :
    Ends possible (fun found => Sorts key input found.toList)
      (joinAll precedes top below threshold stack) := by
  induction stack generalizing top below threshold with
  | nil =>
      refine (join_ends compares (stacked.runs below (List.mem_cons_of_mem _ List.mem_cons_self))
        (stacked.runs top List.mem_cons_self) threshold).bind ?_
      rintro ⟨joined, threshold⟩ sorts
      exact sorts.of_similar stacked.similar
  | cons lowest rest inductionHypothesis =>
      have topSound := stacked.runs top List.mem_cons_self
      have belowSound := stacked.runs below (List.mem_cons_of_mem _ List.mem_cons_self)
      have lowestSound := stacked.runs lowest
        (List.mem_cons_of_mem _ (List.mem_cons_of_mem _ List.mem_cons_self))
      rw [joinAll]
      by_cases shorter : lowest.items.size < top.items.size
      · rw [if_pos shorter]
        refine (join_ends compares lowestSound belowSound threshold).bind ?_
        rintro ⟨joined, threshold⟩ sorts
        exact inductionHypothesis (@Stacked.replace _ _ _ _ _ _ [top] _ _ _ _ stacked sorts) threshold
      · rw [if_neg shorter]
        refine (join_ends compares belowSound topSound threshold).bind ?_
        rintro ⟨joined, threshold⟩ sorts
        exact inductionHypothesis (@Stacked.replace _ _ _ _ _ _ [] _ _ _ _ stacked sorts) threshold

/-! ## Whole lists -/

/-- When the list is used up, what waits on the stack is merged. -/
theorem sortOnto_nil_ends (compares : Compares precedes key known possible)
    (length least fuel : Nat) {stack : List (Waiting α)} (stacked : Stacked key known input stack)
    (threshold : Nat) :
    Ends possible (fun found => Sorts key input found.toList)
      (sortOnto precedes length least fuel stack threshold []) := by
  match stack, stacked with
  | [], stacked =>
      have finished : Sorts key input ([] : List α) :=
        (Sorts.refl List.Pairwise.nil).of_similar stacked.similar
      cases fuel <;> exact finished
  | [only], stacked =>
      have finished : Sorts key input only.items.toList :=
        (Sorts.refl (stacked.runs only List.mem_cons_self).ascends).of_similar stacked.similar
      cases fuel <;> exact finished
  | top :: below :: rest, stacked =>
      have finished := joinAll_ends compares stacked threshold
      cases fuel <;> exact finished

/-- Each run that is taken off the list and put on the stack keeps what has been taken so far. -/
theorem sortOnto_ends (compares : Compares precedes key known possible) (length least : Nat)
    {fuel : Nat} {stack : List (Waiting α)} (stacked : Stacked key known input stack)
    (threshold : Nat) (all : forall item, item ∈ items -> known item)
    (enough : items.length ≤ fuel) :
    Ends possible (fun found => Sorts key (input ++ items) found.toList)
      (sortOnto precedes length least fuel stack threshold items) := by
  induction fuel generalizing input stack threshold items with
  | zero =>
      rw [List.length_eq_zero_iff.mp (Nat.le_zero.mp enough), List.append_nil]
      exact sortOnto_nil_ends compares length least 0 stacked threshold
  | succ fuel inductionHypothesis =>
      cases items with
      | nil =>
          rw [List.append_nil]
          exact sortOnto_nil_ends compares length least (fuel + 1) stacked threshold
      | cons item rest =>
          rw [sortOnto]
          refine (nextRun_ends compares all least).bind ?_
          rintro ⟨run, left⟩ begins
          have leftKnown := begins.known_left all
          refine (push_ends compares length (begins.known_run all) stacked threshold).bind ?_
          rintro ⟨stack, threshold⟩ stacked
          rcases begins with ⟨taken, same, sorts, some⟩
          have shorter : left.length ≤ fuel := by
            have whole : rest.length + 1 = taken.length + left.length := by
              rw [← List.length_append, ← same, List.length_cons]
            have given := List.length_pos_iff.mpr (some (List.cons_ne_nil _ _))
            rw [List.length_cons] at enough
            omega
          refine (inductionHypothesis stacked threshold leftKnown shorter).imp ?_
          intro found whole
          rw [same, ← List.append_assoc]
          exact whole.of_similar
            (((Similar.refl input).append sorts.similar).append (Similar.refl left))

/-- A sort by comparisons gives the stable sort of the list, unless a comparison has no answer. -/
theorem sorted_ends (compares : Compares precedes key known possible)
    (all : forall item, item ∈ items -> known item) :
    Ends possible (fun found => Sorts key items found) (sorted precedes items) := by
  have empty : Stacked key known ([] : List α) [] :=
    ⟨fun _ impossible => absurd impossible List.not_mem_nil, Similar.refl []⟩
  exact (sortOnto_ends compares _ _ empty _ all (Nat.le_refl _)).map fun _ sorts => sorts

end TraceView.Sorting
