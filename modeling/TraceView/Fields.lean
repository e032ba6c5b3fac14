namespace TraceView.Fields

/-!
# Ordered fields

The fields of a mapping are a list of pairs in the order in which they were first given.  Giving
a field again changes its value and leaves its place, and a field that is erased and given again
comes last.
-/

variable {α : Type}

/-- Give a field a value, in its place if it has one and otherwise at the end. -/
def put (key : String) (value : α) : List (String × α) -> List (String × α)
  | [] => [(key, value)]
  | (other, old) :: rest =>
    if other = key then (key, value) :: rest else (other, old) :: put key value rest

def erase (key : String) (fields : List (String × α)) : List (String × α) :=
  fields.filter fun field => field.1 != key

/-- Fields in which no name is repeated: each name has its first place and its last value. -/
def settle (fields : List (String × α)) : List (String × α) :=
  fields.foldl (fun settled field => put field.1 field.2 settled) []

theorem lookup_put_self (key : String) (value : α) (fields : List (String × α)) :
    (put key value fields).lookup key = some value := by
  induction fields with
  | nil => simp only [put, List.lookup_cons, beq_self_eq_true]
  | cons field rest inductionHypothesis =>
    obtain ⟨name, old⟩ := field
    by_cases same : name = key
    · simp only [put, if_pos same, List.lookup_cons, beq_self_eq_true]
    · have different : (key == name) = false := by
        simpa only [beq_eq_false_iff_ne] using fun equal => same equal.symm
      simp only [put, if_neg same, List.lookup_cons, different, inductionHypothesis]

theorem lookup_put_of_ne {key other : String} (different : other ≠ key) (value : α)
    (fields : List (String × α)) :
    (put key value fields).lookup other = fields.lookup other := by
  have elsewhere : (other == key) = false := by simpa only [beq_eq_false_iff_ne] using different
  induction fields with
  | nil => simp only [put, List.lookup_cons, elsewhere]
  | cons field rest inductionHypothesis =>
    obtain ⟨name, old⟩ := field
    by_cases same : name = key
    · subst same
      simp only [put, if_true, List.lookup_cons, elsewhere]
    · simp only [put, if_neg same, List.lookup_cons, inductionHypothesis]

theorem lookup_erase_self (key : String) (fields : List (String × α)) :
    (erase key fields).lookup key = none := by
  rw [List.lookup_eq_none_iff]
  intro field kept
  have different : field.1 ≠ key := bne_iff_ne.mp (List.mem_filter.mp kept).2
  exact bne_iff_ne.mpr different.symm

theorem lookup_erase_of_none {other : String} {fields : List (String × α)}
    (missing : fields.lookup other = none) (key : String) :
    (erase key fields).lookup other = none := by
  rw [List.lookup_eq_none_iff] at missing ⊢
  intro field kept
  exact missing field (List.mem_filter.mp kept).1

end TraceView.Fields
