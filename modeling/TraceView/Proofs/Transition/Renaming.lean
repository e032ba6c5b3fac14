import TraceView.Transition.Decoder

namespace TraceView.Transition

/-!
# Names that a decoded transition leaves free

The tree of an entry has three properties that its record must not take: the timestamp, and the
duration and the status that may be calculated.  Decoding changes these names wherever the record
itself has them.  The changes are made one after the other, so each has to leave free what the
ones before it have freed; this holds because no new name is a reserved one.
-/

/-- A field whose name is changed is gone. -/
theorem lookup_rename_self {names : String × String} (different : names.1 ≠ names.2)
    (fields : List (String × Value)) : (rename fields names).lookup names.1 = none := by
  unfold rename
  cases held : fields.lookup names.1 with
  | none => exact held
  | some value =>
      change (Fields.put names.2 value (Fields.erase names.1 fields)).lookup names.1 = none
      rw [Fields.lookup_put_of_ne different, Fields.lookup_erase_self]

/-- A name that is free stays free when another field takes a different name. -/
theorem lookup_rename_of_none {names : String × String} {name : String}
    {fields : List (String × Value)} (missing : fields.lookup name = none)
    (different : name ≠ names.2) : (rename fields names).lookup name = none := by
  unfold rename
  cases fields.lookup names.1 with
  | none => exact missing
  | some value =>
      change (Fields.put names.2 value (Fields.erase names.1 fields)).lookup name = none
      rw [Fields.lookup_put_of_ne different, Fields.lookup_erase_of_none missing]

theorem lookup_foldl_rename_of_none {changes : List (String × String)} {name : String}
    (different : forall names, names ∈ changes -> name ≠ names.2) {fields : List (String × Value)}
    (missing : fields.lookup name = none) : (changes.foldl rename fields).lookup name = none := by
  induction changes generalizing fields with
  | nil => exact missing
  | cons names rest inductionHypothesis =>
      refine inductionHypothesis ?_ ?_
      · intro later member
        exact different later (List.mem_cons_of_mem _ member)
      · exact lookup_rename_of_none missing (different names List.mem_cons_self)

/-- Changes of names free every name that they change, if none of them gives a name that another
one changes. -/
theorem lookup_foldl_rename {changes : List (String × String)}
    (different : forall before, before ∈ changes -> forall after, after ∈ changes ->
      before.1 ≠ after.2)
    (fields : List (String × Value)) {names : String × String} (member : names ∈ changes) :
    (changes.foldl rename fields).lookup names.1 = none := by
  induction changes generalizing fields with
  | nil => cases member
  | cons first rest inductionHypothesis =>
      rcases List.mem_cons.mp member with same | later
      · subst same
        have freed : (rename fields names).lookup names.1 = none :=
          lookup_rename_self (different names List.mem_cons_self names List.mem_cons_self) fields
        rw [List.foldl_cons]
        refine lookup_foldl_rename_of_none ?_ freed
        intro after listed
        exact different names List.mem_cons_self after (List.mem_cons_of_mem _ listed)
      · refine inductionHypothesis ?_ (rename fields first) later
        intro before listed after following
        exact different before (List.mem_cons_of_mem _ listed) after
          (List.mem_cons_of_mem _ following)

theorem reserved_different : forall before, before ∈ reserved -> forall after, after ∈ reserved ->
    before.1 ≠ after.2 := by
  decide

/-- A decoded transition has none of the names that the tree of an entry uses itself, whatever its
record has. -/
theorem lookup_decode {record : Value} {fields : List (String × Value)}
    (decoded : decode record = .ok (.map fields)) {names : String × String}
    (member : names ∈ reserved) : fields.lookup names.1 = none := by
  unfold decode at decoded
  cases shape : normalise "" record with
  | map held =>
      rw [shape] at decoded
      cases decoded
      exact lookup_foldl_rename reserved_different held member
  | _ =>
      rw [shape] at decoded
      dsimp only at decoded
      split at decoded <;> cases decoded

end TraceView.Transition
