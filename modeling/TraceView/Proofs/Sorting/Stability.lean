import Mathlib.Data.List.Basic
import Mathlib.Logic.Relation
import Mathlib.Order.Lattice

namespace TraceView.Sorting

/-!
# Stable sorts

Items are sorted by a key.  Two things fix what a stable sort gives: the keys ascend, and the items
of each key are those of the list, in the order of the list.  There is one list of this kind, so a
stable sort forgets how the items of different keys were ordered against each other, and nothing
else.
-/

variable {α κ : Type} [LinearOrder κ] {key : α -> κ}

/-- The keys of a list ascend. -/
abbrev Ascends (key : α -> κ) (items : List α) : Prop :=
  items.Pairwise fun first second => key first ≤ key second

/-- Two lists have the same items of each key in the same order. -/
def Similar (key : α -> κ) (items others : List α) : Prop :=
  forall k, items.filter (fun item => key item = k) = others.filter fun item => key item = k

/-- A list and what a stable sort makes of it. -/
structure Sorts (key : α -> κ) (input output : List α) : Prop where
  ascends : Ascends key output
  similar : Similar key input output

variable {items others more rest input output : List α}

/-! ## Lists that differ in the order of different keys -/

namespace Similar

theorem refl (items : List α) : Similar key items items :=
  fun _ => rfl

theorem symm (similar : Similar key items others) : Similar key others items :=
  fun k => (similar k).symm

theorem trans (first : Similar key items others) (second : Similar key others more) :
    Similar key items more :=
  fun k => (first k).trans (second k)

theorem append (first : Similar key items others) (second : Similar key more rest) :
    Similar key (items ++ more) (others ++ rest) := by
  intro k
  rw [List.filter_append, List.filter_append, first k, second k]

/-- Items trade places with others if no key occurs on both sides. -/
theorem swap (apart : forall item, item ∈ items -> forall other, other ∈ others ->
    key item ≠ key other) : Similar key (items ++ others) (others ++ items) := by
  intro k
  rw [List.filter_append, List.filter_append]
  by_cases occurs : Exists fun item : α => item ∈ items ∧ key item = k
  · rcases occurs with ⟨item, listed, same⟩
    have none : others.filter (fun other => key other = k) = [] := by
      apply List.filter_eq_nil_iff.mpr
      intro other there equal
      exact apart item listed other there (same.trans (of_decide_eq_true equal).symm)
    rw [none, List.append_nil, List.nil_append]
  · have none : items.filter (fun item => key item = k) = [] := by
      apply List.filter_eq_nil_iff.mpr
      intro item listed equal
      exact occurs ⟨item, listed, of_decide_eq_true equal⟩
    rw [none, List.append_nil, List.nil_append]

theorem perm (similar : Similar key items others) : items.Perm others := by
  classical
  apply List.perm_iff_count.mpr
  intro item
  have kept : forall list : List α,
      (list.filter fun other => key other = key item).count item = list.count item :=
    fun list => List.count_filter (decide_eq_true rfl)
  rw [← kept items, similar (key item), kept others]

/-- What is similar after one item is similar without it. -/
theorem of_cons {item : α} (similar : Similar key (item :: items) (item :: others)) :
    Similar key items others := by
  intro k
  have all := similar k
  rw [List.filter_cons, List.filter_cons] at all
  by_cases here : key item = k
  · rw [if_pos (decide_eq_true here), if_pos (decide_eq_true here)] at all
    exact (List.cons.inj all).2
  · simpa only [here, decide_false, Bool.false_eq_true, if_false] using all

/-- Items in descending order, no two of one key, may be turned round. -/
theorem reverse (descends : items.Pairwise fun first second => key second < key first) :
    Similar key items items.reverse := by
  induction items with
  | nil => exact refl []
  | cons first rest inductionHypothesis =>
      rcases List.pairwise_cons.mp descends with ⟨below, others⟩
      have moved : Similar key ([first] ++ rest) (rest ++ [first]) := by
        apply swap
        intro item here other there
        rw [List.mem_singleton.mp here]
        exact (below other there).ne'
      rw [List.reverse_cons]
      exact moved.trans ((inductionHypothesis others).append (refl [first]))

end Similar

/-! ## Sorted lists -/

namespace Sorts

theorem refl (ascends : Ascends key items) : Sorts key items items :=
  ⟨ascends, Similar.refl items⟩

theorem perm (sorts : Sorts key input output) : input.Perm output :=
  sorts.similar.perm

theorem mem_iff (sorts : Sorts key input output) {item : α} : item ∈ output ↔ item ∈ input :=
  sorts.perm.mem_iff.symm

/-- Only the similarity of what is sorted matters. -/
theorem of_similar (similar : Similar key items input) (sorts : Sorts key input output) :
    Sorts key items output :=
  ⟨sorts.ascends, similar.trans sorts.similar⟩

/-- Parts are sorted apart if no item of the second one comes before one of the first. -/
theorem append (first : Sorts key input output) (second : Sorts key items others)
    (before : forall item, item ∈ input -> forall other, other ∈ items -> key item ≤ key other) :
    Sorts key (input ++ items) (output ++ others) := by
  refine ⟨List.pairwise_append.mpr ⟨first.ascends, second.ascends, ?_⟩,
    first.similar.append second.similar⟩
  intro item here other there
  exact before item (first.mem_iff.mp here) other (second.mem_iff.mp there)

/-- Ascending parts trade places if all items of the second one come before those of the first. -/
theorem swap (first : Ascends key items) (second : Ascends key others)
    (before : forall item, item ∈ items -> forall other, other ∈ others -> key other < key item) :
    Sorts key (items ++ others) (others ++ items) := by
  refine ⟨List.pairwise_append.mpr ⟨second, first, ?_⟩, Similar.swap ?_⟩
  · exact fun other there item here => (before item here other there).le
  · exact fun item here other there => (before item here other there).ne'

end Sorts

/-- Similar lists that ascend are equal. -/
theorem eq_of_similar (similar : Similar key items others) (ascends : Ascends key items)
    (alsoAscends : Ascends key others) : items = others := by
  induction items generalizing others with
  | nil => exact (List.nil_perm.mp similar.perm).symm
  | cons item rest inductionHypothesis =>
      cases others with
      | nil => exact List.perm_nil.mp similar.perm
      | cons other left =>
          have least : forall {first : α} {after : List α}, Ascends key (first :: after) ->
              forall {next : α}, next ∈ first :: after -> key first ≤ key next := by
            intro first after ascends next member
            rcases List.mem_cons.mp member with here | later
            · rw [here]
            · exact (List.pairwise_cons.mp ascends).1 next later
          have same : key other = key item := le_antisymm
            (least alsoAscends (similar.perm.mem_iff.mp List.mem_cons_self))
            (least ascends (similar.perm.mem_iff.mpr List.mem_cons_self))
          have heads := similar (key item)
          rw [List.filter_cons_of_pos (by simp), List.filter_cons_of_pos (by simp [same])] at heads
          rcases List.cons.inj heads with ⟨equal, _⟩
          subst equal
          congr 1
          exact inductionHypothesis similar.of_cons ascends.of_cons alsoAscends.of_cons

/-- A list is sorted in one way. -/
theorem Sorts.unique (first : Sorts key input output) (second : Sorts key input others) :
    output = others :=
  eq_of_similar (first.similar.symm.trans second.similar) first.ascends second.ascends

/-! ## Sorting by merging -/

theorem early_trans (first second third : α) (before : decide (key first ≤ key second) = true)
    (after : decide (key second ≤ key third) = true) : decide (key first ≤ key third) = true :=
  decide_eq_true ((of_decide_eq_true before).trans (of_decide_eq_true after))

theorem early_total (first second : α) :
    (decide (key first ≤ key second) || decide (key second ≤ key first)) = true := by
  rw [Bool.or_eq_true, decide_eq_true_eq, decide_eq_true_eq]
  exact le_total _ _

/-- The merge sort of the library is stable. -/
theorem sorts_mergeSort (key : α -> κ) (items : List α) :
    Sorts key items (items.mergeSort fun first second => decide (key first ≤ key second)) := by
  refine ⟨(List.pairwise_mergeSort early_trans early_total items).imp of_decide_eq_true, ?_⟩
  intro k
  have equal : (items.filter fun item => key item = k).Pairwise
      fun first second => decide (key first ≤ key second) = true := by
    apply List.pairwise_of_forall_mem_list
    intro first early second late
    have one := of_decide_eq_true (List.mem_filter.mp early).2
    have other := of_decide_eq_true (List.mem_filter.mp late).2
    exact decide_eq_true (one.trans other.symm).le
  have kept := (List.sublist_mergeSort early_trans early_total equal List.filter_sublist).filter
    fun item => decide (key item = k)
  simp only [List.filter_filter, Bool.and_self] at kept
  exact kept.eq_of_length ((List.mergeSort_perm _ _).filter _).length_eq.symm

/-- Lists have one sort exactly if they are similar. -/
theorem Sorts.eq_iff_similar (sorts : Sorts key input output) (alsoSorts : Sorts key items others) :
    output = others ↔ Similar key input items := by
  constructor
  · intro same
    subst same
    exact sorts.similar.trans alsoSorts.similar.symm
  · intro similar
    exact sorts.unique (alsoSorts.of_similar similar)

/-! ## Trading places -/

/-- Two neighbours with different keys trade places. -/
inductive Exchange (key : α -> κ) : List α -> List α -> Prop where
  | neighbours (before : List α) {first second : α} (after : List α)
      (different : key first ≠ key second) :
      Exchange key (before ++ first :: second :: after) (before ++ second :: first :: after)

/-- Neighbours with different keys trade places, as often as it may be. -/
abbrev Rearranged (key : α -> κ) : List α -> List α -> Prop :=
  Relation.ReflTransGen (Exchange key)

theorem Exchange.similar (exchange : Exchange key items others) : Similar key items others := by
  rcases exchange with @⟨before, first, second, after, different⟩
  have apart : forall item, item ∈ [first] -> forall other, other ∈ [second] ->
      key item ≠ key other := by
    intro item here other there
    rw [List.mem_singleton.mp here, List.mem_singleton.mp there]
    exact different
  exact (Similar.refl before).append ((Similar.swap apart).append (Similar.refl after))

theorem Rearranged.similar (rearranged : Rearranged key items others) :
    Similar key items others := by
  induction rearranged with
  | refl => exact Similar.refl items
  | tail _ exchange inductionHypothesis => exact inductionHypothesis.trans exchange.similar

omit [LinearOrder κ] in
theorem Rearranged.cons (item : α) (rearranged : Rearranged key items others) :
    Rearranged key (item :: items) (item :: others) := by
  refine rearranged.lift (item :: ·) ?_
  rintro _ _ ⟨before, after, different⟩
  exact Exchange.neighbours (item :: before) after different

omit [LinearOrder κ] in
/-- An item goes behind items of other keys. -/
theorem rearranged_behind {item : α}
    (different : forall other, other ∈ items -> key item ≠ key other) (rest : List α) :
    Rearranged key (item :: (items ++ rest)) (items ++ item :: rest) := by
  induction items with
  | nil => exact Relation.ReflTransGen.refl
  | cons first others inductionHypothesis =>
      rcases List.forall_mem_cons.mp different with ⟨here, later⟩
      exact ((inductionHypothesis later).cons first).head (Exchange.neighbours [] _ here)

/-- Lists are similar exactly if the one becomes the other when neighbours with different keys trade
places. -/
theorem rearranged_iff_similar : Rearranged key items others ↔ Similar key items others := by
  refine ⟨Rearranged.similar, fun similar => ?_⟩
  induction items generalizing others with
  | nil =>
      rw [List.nil_perm.mp similar.perm]
  | cons item rest inductionHypothesis =>
      -- the first item is the first of its key in the other list, so it can go to its place there
      have heads := similar (key item)
      rw [List.filter_cons_of_pos (by simp)] at heads
      rcases List.filter_eq_cons_iff.mp heads.symm with ⟨before, after, same, none, _, _⟩
      have different : forall other, other ∈ before -> key item ≠ key other :=
        fun other listed equal => none other listed (decide_eq_true equal.symm)
      have moved := rearranged_behind different after
      rw [← same] at moved
      have left : Similar key rest (before ++ after) :=
        (similar.trans moved.similar.symm).of_cons
      exact ((inductionHypothesis left).cons item).trans moved

end TraceView.Sorting
