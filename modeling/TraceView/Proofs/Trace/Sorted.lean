import TraceView.Proofs.Sorting.Runs
import TraceView.Proofs.Trace.Opened

namespace TraceView

/-!
# Records in the order of time

Loading puts the stamped records in ascending order of time and keeps the order of the records of each
time.  This says all about the order: the result depends on the records of each time, in their order, and
on nothing else.  So records of different times may change places in a document, and the trace does not
show it.
-/

namespace Stamped

variable {stamped others : Stamped}

/-- The records of one time, in their order. -/
def recordsAt (stamped : Stamped) (ns : Int) : List Value :=
  (stamped.filter fun pair => pair.1 = ns).map (·.2)

theorem filter_eq_map_recordsAt (stamped : Stamped) (ns : Int) :
    stamped.filter (fun pair => pair.1 = ns) = (stamped.recordsAt ns).map fun record => (ns, record) := by
  rw [recordsAt, List.map_map]
  refine (List.map_id _).symm.trans (List.map_congr_left ?_)
  intro pair listed
  exact Prod.ext (of_decide_eq_true (List.mem_filter.mp listed).2) rfl

/-- The records of each time are the same exactly if only the order of different times is not. -/
theorem recordsAt_eq_iff_similar :
    (forall ns, stamped.recordsAt ns = others.recordsAt ns) ↔
      Sorting.Similar Prod.fst stamped others := by
  constructor
  · intro same ns
    rw [filter_eq_map_recordsAt, filter_eq_map_recordsAt, same ns]
  · exact fun similar ns => congrArg (List.map Prod.snd) (similar ns)

/-- Records may be sorted by comparing their times, as well as by merging. -/
theorem sorted_by_comparisons {ε : Type} (stamped : Stamped) :
    Sorting.sorted (fun a b => .ok (decide (a.1 < b.1))) stamped =
      (.ok stamped.sorted : Except ε Stamped) := by
  have compares : Sorting.Compares (fun a b : Int × Value => .ok (decide (a.1 < b.1))) Prod.fst
      (fun _ => True) (fun _ : ε => False) := fun _ _ _ _ => rfl
  rcases (Sorting.sorted_ends compares fun _ _ => trivial).exists_ok with ⟨others, given, sorts⟩
  rw [given, sorts.unique stamped.sorts_sorted]

end Stamped

namespace Loaded

variable {stamped others : Stamped} {offset : Option Int}

/-- The times and the records are those of one list. -/
theorem zip_ofStamped (stamped : Stamped) (offset : Option Int) :
    (ofStamped stamped offset).elapsed.zip (ofStamped stamped offset).records = stamped.sorted :=
  (List.zip_of_prod rfl rfl).symm

/-- What is loaded depends on the sorted list. -/
theorem ofStamped_inj :
    ofStamped stamped offset = ofStamped others offset ↔ stamped.sorted = others.sorted := by
  constructor
  · intro same
    rw [← zip_ofStamped stamped offset, same, zip_ofStamped others offset]
  · intro same
    rw [ofStamped, same]
    rfl

/-- Loading sorts the records by their times: it keeps each record with its time and the order of the
records of each time.  Two lists of records are loaded alike if they have the same records of each time in
the same order, and so exactly if the one becomes the other when neighbours of different times trade
places. -/
theorem ofStamped_stable (stamped others : Stamped) (offset : Option Int) :
    (ofStamped stamped offset).records.length = stamped.length ∧
      (ofStamped stamped offset).elapsed.length = stamped.length ∧
      (ofStamped stamped offset).elapsed.Pairwise (· ≤ ·) ∧
      ((ofStamped stamped offset).elapsed.zip (ofStamped stamped offset).records).Perm stamped ∧
      (forall ns, Stamped.recordsAt
        ((ofStamped stamped offset).elapsed.zip (ofStamped stamped offset).records) ns =
          stamped.recordsAt ns) ∧
      (ofStamped stamped offset = ofStamped others offset ↔
        forall ns, stamped.recordsAt ns = others.recordsAt ns) ∧
      (ofStamped stamped offset = ofStamped others offset ↔
        Sorting.Rearranged Prod.fst stamped others) := by
  have sorts := stamped.sorts_sorted
  have alike : ofStamped stamped offset = ofStamped others offset ↔
      Sorting.Similar Prod.fst stamped others :=
    ofStamped_inj.trans (sorts.eq_iff_similar others.sorts_sorted)
  have length : stamped.sorted.length = stamped.length := sorts.perm.length_eq.symm
  rw [zip_ofStamped]
  refine ⟨(List.length_map _).trans length, (List.length_map _).trans length,
    List.pairwise_map.mpr sorts.ascends, sorts.perm.symm, ?_, ?_, ?_⟩
  · exact Stamped.recordsAt_eq_iff_similar.mpr sorts.similar.symm
  · exact alike.trans Stamped.recordsAt_eq_iff_similar.symm
  · exact alike.trans Sorting.rearranged_iff_similar.symm

end Loaded

end TraceView
