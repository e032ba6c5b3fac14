import TraceView.Proofs.Outcome
import TraceView.Proofs.Sorting.Stability
import TraceView.Sorting.Search

namespace TraceView.Sorting

/-!
# What a search finds

A search asks for items of a run whether they lie below a point.  If the items below the point come
first, and every question that has an answer is answered truly, then the search ends with the number
of the items below the point, or with the first question that has no answer.
-/

variable {α ε κ : Type} [LinearOrder κ] {key : α -> κ}

/-- The items of a run below a point come first, and there are so many of them. -/
structure Divides (below : α -> Bool) (run : List α) (point : Nat) : Prop where
  within : point ≤ run.length
  below_eq : forall (position : Nat) (item : α), run[position]? = some item ->
    below item = decide (position < point)

namespace Divides

variable {below : α -> Bool} {run : List α} {point : Nat}

theorem before (divides : Divides below run point) {item : α} (listed : item ∈ run.take point) :
    below item = true := by
  rcases List.mem_iff_getElem?.mp listed with ⟨position, found⟩
  rw [List.getElem?_take] at found
  by_cases early : position < point
  · rw [if_pos early] at found
    rw [divides.below_eq position item found, decide_eq_true early]
  · rw [if_neg early] at found
    cases found

theorem after (divides : Divides below run point) {item : α} (listed : item ∈ run.drop point) :
    below item = false := by
  rcases List.mem_iff_getElem?.mp listed with ⟨position, found⟩
  rw [List.getElem?_drop] at found
  rw [divides.below_eq _ item found]
  exact decide_eq_false (by omega)

end Divides

/-- A sorted run is divided by a point if whatever comes before an item below it is below it too. -/
theorem exists_divides {run : List α} (ascends : Ascends key run) {below : α -> Bool}
    (lower : forall first second, key first ≤ key second -> below second = true ->
      below first = true) : Exists fun point : Nat => Divides below run point := by
  induction run with
  | nil =>
      refine ⟨0, Nat.le_refl 0, ?_⟩
      intro position item impossible
      cases impossible
  | cons first rest inductionHypothesis =>
      rcases List.pairwise_cons.mp ascends with ⟨least, others⟩
      cases here : below first with
      | true =>
          rcases inductionHypothesis others with ⟨point, within, below_eq⟩
          refine ⟨point + 1, Nat.succ_le_succ within, ?_⟩
          intro position item found
          cases position with
          | zero =>
              cases found
              rw [here, decide_eq_true (Nat.succ_pos point)]
          | succ position =>
              rw [below_eq position item found]
              exact decide_eq_decide.mpr (by omega)
      | false =>
          refine ⟨0, Nat.zero_le _, ?_⟩
          intro position item found
          have listed : item ∈ first :: rest := List.mem_of_getElem? found
          rw [decide_eq_false (Nat.not_lt_zero position)]
          rcases List.mem_cons.mp listed with same | later
          · rw [same, here]
          · apply eq_false_of_ne_true
            intro under
            rw [lower first item (least item later) under] at here
            cases here

/-! ## Searches -/

section

variable {possible : ε -> Prop} {below : α -> Bool} {isBelow : α -> Except ε Bool} {run : Array α}
  {point : Nat}

/-- Questions about positions are answered truly, also beyond the end of the run. -/
theorem isBelowAt_ends (divides : Divides below run.toList point)
    (asks : forall item, item ∈ run.toList -> Ends possible (· = below item) (isBelow item))
    (position : Nat) :
    Ends possible (· = decide (position < point)) (isBelowAt isBelow run position) := by
  unfold isBelowAt
  cases found : run[position]? with
  | none =>
      have beyond : run.size ≤ position := Array.getElem?_eq_none_iff.mp found
      have within := divides.within
      rw [Array.length_toList] at within
      exact (decide_eq_false (by omega)).symm
  | some item =>
      have listed : run.toList[position]? = some item := by rw [Array.getElem?_toList, found]
      rw [← divides.below_eq position item listed]
      exact asks item (List.mem_of_getElem? listed)

/-- A binary search between two positions that enclose the point finds it. -/
theorem bisect_ends (divides : Divides below run.toList point)
    (asks : forall item, item ∈ run.toList -> Ends possible (· = below item) (isBelow item))
    {fuel low high : Nat} (lowest : low ≤ point) (highest : point ≤ high)
    (enough : high - low ≤ fuel) : Ends possible (· = point) (bisect isBelow run fuel low high) := by
  induction fuel generalizing low high with
  | zero => exact show low = point by omega
  | succ fuel inductionHypothesis =>
      rw [bisect]
      by_cases met : high ≤ low
      · rw [if_pos met]
        exact show low = point by omega
      · rw [if_neg met]
        refine (isBelowAt_ends divides asks _).bind ?_
        rintro _ rfl
        by_cases left : low + (high - low) / 2 < point
        · rw [if_pos (decide_eq_true left)]
          exact inductionHypothesis left highest (by omega)
        · rw [if_neg (by simpa using left)]
          exact inductionHypothesis lowest (by omega) (by omega)

/-- Leaps end where the answer changes: it was yes at the first distance that is given, and it is no
at the second one, unless this is the limit. -/
theorem leap_ends {goesOn : Nat -> Except ε Bool} (yes : Nat -> Prop) [DecidablePred yes]
    (asks : forall distance, Ends possible (· = decide (yes distance)) (goesOn distance))
    (limit : Nat) {fuel last distance : Nat} (started : yes last) :
    Ends possible (fun found => yes found.1 ∧ (found.2 = limit ∨ found.2 < limit ∧ ¬ yes found.2))
      (leap goesOn limit fuel last distance) := by
  induction fuel generalizing last distance with
  | zero => exact ⟨started, Or.inl rfl⟩
  | succ fuel inductionHypothesis =>
      rw [leap]
      by_cases far : limit ≤ distance
      · rw [if_pos far]
        exact ⟨started, Or.inl rfl⟩
      · rw [if_neg far]
        refine (asks distance).bind ?_
        rintro _ rfl
        by_cases more : yes distance
        · rw [if_pos (decide_eq_true more)]
          exact inductionHypothesis more
        · rw [if_neg (by simpa using more)]
          exact ⟨started, Or.inr ⟨Nat.lt_of_not_le far, more⟩⟩

/-- A search from a position on finds the number of the items below the point. -/
theorem countBelow_ends (divides : Divides below run.toList point)
    (asks : forall item, item ∈ run.toList -> Ends possible (· = below item) (isBelow item))
    {start : Nat} (inside : start ≤ run.size) :
    Ends possible (· = point) (countBelow isBelow run start) := by
  have within := divides.within
  rw [Array.length_toList] at within
  unfold countBelow
  refine (isBelowAt_ends divides asks start).bind ?_
  rintro _ rfl
  by_cases under : start < point
  · rw [if_pos (decide_eq_true under)]
    refine (leap_ends (fun distance => start + distance < point)
      (fun distance => isBelowAt_ends divides asks (start + distance)) _ under).bind ?_
    rintro ⟨last, distance⟩ ⟨near, far⟩
    exact bisect_ends divides asks (by omega) (by omega) (by omega)
  · rw [if_neg (by simpa using under)]
    refine (leap_ends (fun distance => ¬ start - distance < point) (fun distance =>
      (isBelowAt_ends divides asks (start - distance)).map ?_) _ under).bind ?_
    · rintro _ rfl
      rw [decide_not]
    · rintro ⟨last, distance⟩ ⟨near, far⟩
      exact bisect_ends divides asks (by omega) (by omega) (by omega)

end

end TraceView.Sorting
