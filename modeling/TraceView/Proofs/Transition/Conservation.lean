import Mathlib.Data.List.Nodup
import TraceView.Proofs.Trace.Times

namespace TraceView.Transition

/-!
# Fields that decoding keeps

Decoding gives each field of a transition its normal form and three of them another name.  A new
name may be in use already, and then the field that has it is lost: the value of the renamed field
takes the place of its own.  This is the only loss, so a record keeps all its fields exactly if it
does not have a reserved name together with the name that replaces it.
-/

/-- The name that a field has after decoding. -/
def newName (name : String) : String :=
  (reserved.lookup name).getD name

def decodedField (field : String × Value) : String × Value :=
  (newName field.1, normalise field.1 field.2)

/-- The name of a field is the new name of another field of the record. -/
def IsOverwritten (fields : List (String × Value)) (name : String) : Prop :=
  Exists fun names : String × String =>
    names ∈ reserved ∧ names.2 = name ∧ names.1 ∈ fields.map Prod.fst

instance (fields : List (String × Value)) (name : String) :
    Decidable (IsOverwritten fields name) :=
  inferInstanceAs (Decidable (∃ names ∈ reserved, names.2 = name ∧ names.1 ∈ fields.map Prod.fst))

variable {fields : List (String × Value)} {name : String} {value : Value}

/-! ## New names -/

theorem reserved_distinct : Fields.Distinct reserved := by
  unfold Fields.Distinct
  decide

theorem replacements_distinct : (reserved.map Prod.snd).Nodup := by
  decide

theorem newName_of_mem {names : String × String} (member : names ∈ reserved) :
    newName names.1 = names.2 := by
  have found := (Fields.lookup_eq_some_iff_mem reserved_distinct).mpr member
  rw [newName, found, Option.getD_some]

theorem newName_of_free (free : forall names, names ∈ reserved -> name ≠ names.1) :
    newName name = name := by
  have missing : reserved.lookup name = none :=
    List.lookup_eq_none_iff.mpr fun names member => bne_iff_ne.mpr (free names member)
  rw [newName, missing, Option.getD_none]

/-- A name that replaces another one is kept itself. -/
theorem newName_of_replacement {names : String × String} (member : names ∈ reserved) :
    newName names.2 = names.2 :=
  newName_of_free fun other listed => (reserved_different other listed names member).symm

/-- A name is reserved, or it replaces a reserved one, or it has no part in the changes of names. -/
theorem name_cases (name : String) :
    (Exists fun names : String × String => names ∈ reserved ∧ names.1 = name) ∨
      (Exists fun names : String × String => names ∈ reserved ∧ names.2 = name) ∨
      forall names, names ∈ reserved -> name ≠ names.1 ∧ name ≠ names.2 := by
  by_cases old : Exists fun names : String × String => names ∈ reserved ∧ names.1 = name
  · exact Or.inl old
  · by_cases new : Exists fun names : String × String => names ∈ reserved ∧ names.2 = name
    · exact Or.inr (Or.inl new)
    · refine Or.inr (Or.inr fun names member => ⟨?_, ?_⟩)
      · exact fun same => old ⟨names, member, same.symm⟩
      · exact fun same => new ⟨names, member, same.symm⟩

/-- A name is reserved, or it is kept. -/
theorem newName_cases (name : String) :
    (Exists fun names : String × String => names ∈ reserved ∧ names.1 = name) ∨
      newName name = name := by
  rcases name_cases name with old | ⟨names, member, rfl⟩ | apart
  · exact Or.inl old
  · exact Or.inr (newName_of_replacement member)
  · exact Or.inr (newName_of_free fun names member => (apart names member).1)

/-! ## Changes of names -/

/-- The new name has the value of the old one, or its own if there is no old one. -/
theorem lookup_rename_new (names : String × String) (fields : List (String × Value)) :
    (rename fields names).lookup names.2 =
      (fields.lookup names.1).or (fields.lookup names.2) := by
  unfold rename
  cases fields.lookup names.1 with
  | none => rw [Option.none_or]
  | some value => exact Fields.lookup_put_self names.2 value _

/-- So it is after several changes, if no name is changed twice, given twice, or both. -/
theorem lookup_foldl_rename_new {changes : List (String × String)}
    (different : forall before, before ∈ changes -> forall after, after ∈ changes ->
      before.1 ≠ after.2)
    (olds : Fields.Distinct changes) (news : (changes.map Prod.snd).Nodup)
    (fields : List (String × Value)) {names : String × String} (member : names ∈ changes) :
    (changes.foldl rename fields).lookup names.2 =
      (fields.lookup names.1).or (fields.lookup names.2) := by
  induction changes generalizing fields with
  | nil => cases member
  | cons first rest inductionHypothesis =>
      rcases List.nodup_cons.mp olds with ⟨oldFresh, olds⟩
      rcases List.nodup_cons.mp news with ⟨newFresh, news⟩
      rw [List.foldl_cons]
      rcases List.mem_cons.mp member with same | later
      · subst same
        have untouched : forall next, next ∈ rest -> names.2 ≠ next.1 ∧ names.2 ≠ next.2 := by
          intro next listed
          refine ⟨(different next (List.mem_cons_of_mem _ listed) names List.mem_cons_self).symm, ?_⟩
          intro same
          exact newFresh (List.mem_map.mpr ⟨next, listed, same.symm⟩)
        rw [lookup_foldl_rename_of_ne untouched, lookup_rename_new]
      · have oldKept : names.1 ≠ first.1 := fun same =>
          oldFresh (List.mem_map.mpr ⟨names, later, same⟩)
        have newKept : names.2 ≠ first.2 := fun same =>
          newFresh (List.mem_map.mpr ⟨names, later, same⟩)
        have inner := inductionHypothesis
          (fun before listed after following => different before (List.mem_cons_of_mem _ listed)
            after (List.mem_cons_of_mem _ following)) olds news (rename fields first) later
        rw [inner, lookup_rename_of_ne oldKept (different names member first List.mem_cons_self),
          lookup_rename_of_ne (different first List.mem_cons_self names member).symm newKept]

/-- So it is after the changes of a transition. -/
theorem lookup_decoded_new (fields : List (String × Value)) {names : String × String}
    (member : names ∈ reserved) :
    (reserved.foldl rename fields).lookup names.2 =
      (fields.lookup names.1).or (fields.lookup names.2) :=
  lookup_foldl_rename_new reserved_different reserved_distinct replacements_distinct fields member

theorem distinct_foldl_rename (changes : List (String × String))
    (distinct : Fields.Distinct fields) : Fields.Distinct (changes.foldl rename fields) :=
  List.foldlRecOn (motive := Fields.Distinct) changes rename distinct
    fun _ distinct names _ => distinct_rename distinct names

/-! ## Fields that are kept -/

theorem not_isOverwritten_of_reserved {names : String × String} (member : names ∈ reserved) :
    ¬ IsOverwritten fields names.1 := by
  rintro ⟨other, listed, same, _⟩
  exact reserved_different names member other listed same.symm

/-- Only one change of names gives a name, so a field is kept if the name that this one changes is
missing. -/
theorem isOverwritten_iff {names : String × String} (member : names ∈ reserved) :
    IsOverwritten fields names.2 ↔ names.1 ∈ fields.map Prod.fst := by
  constructor
  · rintro ⟨other, listed, same, present⟩
    have unique := List.inj_on_of_nodup_map replacements_distinct listed member same
    rw [← unique]
    exact present
  · exact fun present => ⟨names, member, rfl, present⟩

/-- Two fields that are kept have different names after decoding. -/
theorem newName_injective {first second : String} (held : first ∈ fields.map Prod.fst)
    (otherHeld : second ∈ fields.map Prod.fst) (kept : ¬ IsOverwritten fields first)
    (otherKept : ¬ IsOverwritten fields second) (same : newName first = newName second) :
    first = second := by
  rcases newName_cases first with ⟨names, member, rfl⟩ | free
  · rw [newName_of_mem member] at same
    rcases newName_cases second with ⟨others, listed, rfl⟩ | otherFree
    · rw [newName_of_mem listed] at same
      rw [List.inj_on_of_nodup_map replacements_distinct member listed same]
    · rw [otherFree] at same
      exact absurd ⟨names, member, same, held⟩ otherKept
  · rw [free] at same
    rcases newName_cases second with ⟨others, listed, rfl⟩ | otherFree
    · rw [newName_of_mem listed] at same
      exact absurd ⟨others, listed, same.symm, otherHeld⟩ kept
    · rwa [otherFree] at same

/-- The fields of a record that are kept, after decoding. -/
def keptFields (fields : List (String × Value)) : List (String × Value) :=
  (fields.filter fun field => ¬ IsOverwritten fields field.1).map decodedField

theorem mem_keptFields : (name, value) ∈ keptFields fields ↔
    Exists fun field : String × Value => field ∈ fields ∧ ¬ IsOverwritten fields field.1 ∧
      newName field.1 = name ∧ normalise field.1 field.2 = value := by
  unfold keptFields decodedField
  simp only [List.mem_map, List.mem_filter, decide_eq_true_eq, Prod.mk.injEq, and_assoc]

theorem distinct_keptFields (distinct : Fields.Distinct fields) :
    Fields.Distinct (keptFields fields) := by
  have whole : (fields.filter fun field => ¬ IsOverwritten fields field.1).Nodup :=
    (List.Nodup.of_map Prod.fst distinct).filter _
  unfold Fields.Distinct keptFields
  rw [List.map_map]
  refine whole.map_on ?_
  intro first listed second otherListed same
  rcases List.mem_filter.mp listed with ⟨member, kept⟩
  rcases List.mem_filter.mp otherListed with ⟨otherMember, otherKept⟩
  have names : first.1 = second.1 := newName_injective (List.mem_map_of_mem member)
    (List.mem_map_of_mem otherMember) (of_decide_eq_true kept) (of_decide_eq_true otherKept) same
  exact List.inj_on_of_nodup_map distinct member otherMember names

/-- The decoded record holds each field that is kept. -/
theorem mem_decoded_of_kept (distinct : Fields.Distinct fields)
    (kept : (name, value) ∈ keptFields fields) :
    (name, value) ∈ reserved.foldl rename (normaliseFields fields) := by
  rcases mem_keptFields.mp kept with ⟨⟨source, given⟩, member, notLost, rfl, rfl⟩
  apply Fields.mem_of_lookup
  have held : (normaliseFields fields).lookup source = some (normalise source given) := by
    rw [lookup_normaliseFields, (Fields.lookup_eq_some_iff_mem distinct).mpr member,
      Option.map_some]
  rcases name_cases source with ⟨names, listed, rfl⟩ | ⟨names, listed, rfl⟩ | apart
  · rw [newName_of_mem listed, lookup_decoded_new _ listed, held, Option.some_or]
  · have missing : fields.lookup names.1 = none := by
      rw [isOverwritten_iff listed] at notLost
      exact Fields.lookup_eq_none_iff_notMem.mpr notLost
    rw [newName_of_replacement listed, lookup_decoded_new _ listed, lookup_normaliseFields, missing,
      Option.map_none, Option.none_or, held]
  · rw [newName_of_free fun names listed => (apart names listed).1,
      lookup_foldl_rename_of_ne apart, held]

/-- It holds nothing else. -/
theorem kept_of_mem_decoded (distinct : Fields.Distinct fields)
    (member : (name, value) ∈ reserved.foldl rename (normaliseFields fields)) :
    (name, value) ∈ keptFields fields := by
  have decoded : Fields.Distinct (reserved.foldl rename (normaliseFields fields)) :=
    distinct_foldl_rename reserved (distinct_normaliseFields distinct)
  have found := (Fields.lookup_eq_some_iff_mem decoded).mpr member
  -- a field that is found under a name that is not lost is the source of the value
  have source : forall {key : String}, ¬ IsOverwritten fields key -> newName key = name ->
      (normaliseFields fields).lookup key = some value -> (name, value) ∈ keptFields fields := by
    intro key kept called held
    rw [lookup_normaliseFields] at held
    rcases Option.map_eq_some_iff.mp held with ⟨given, there, same⟩
    exact mem_keptFields.mpr ⟨(key, given), Fields.mem_of_lookup there, kept, called, same⟩
  rcases name_cases name with ⟨names, listed, rfl⟩ | ⟨names, listed, rfl⟩ | apart
  · rw [lookup_foldl_rename reserved_different _ listed] at found
    cases found
  · rw [lookup_decoded_new _ listed] at found
    cases old : (normaliseFields fields).lookup names.1 with
    | some other =>
        rw [old, Option.some_or] at found
        exact source (not_isOverwritten_of_reserved listed) (newName_of_mem listed)
          (old.trans found)
    | none =>
        rw [old, Option.none_or] at found
        have kept : ¬ IsOverwritten fields names.2 := by
          rw [isOverwritten_iff listed, ← names_normaliseFields]
          exact Fields.lookup_eq_none_iff_notMem.mp old
        exact source kept (newName_of_replacement listed) found
  · have kept : ¬ IsOverwritten fields name := by
      rintro ⟨names, listed, same, _⟩
      exact (apart names listed).2 same.symm
    rw [lookup_foldl_rename_of_ne apart] at found
    exact source kept (newName_of_free fun names listed => (apart names listed).1) found

/-! ## Decoded records -/

/-- A record has no reserved name together with the name that replaces it. -/
def KeepsAll (fields : List (String × Value)) : Prop :=
  forall names, names ∈ reserved ->
    ¬ (names.1 ∈ fields.map Prod.fst ∧ names.2 ∈ fields.map Prod.fst)

theorem keepsAll_iff :
    KeepsAll fields ↔ forall field, field ∈ fields -> ¬ IsOverwritten fields field.1 := by
  constructor
  · rintro keeps field member ⟨names, listed, same, present⟩
    apply keeps names listed
    rw [same]
    exact ⟨present, List.mem_map_of_mem member⟩
  · rintro kept names listed ⟨present, taken⟩
    rcases List.mem_map.mp taken with ⟨field, member, called⟩
    exact kept field member ⟨names, listed, called.symm, present⟩

theorem keptFields_of_keepsAll (keeps : KeepsAll fields) :
    keptFields fields = fields.map decodedField := by
  have all : (fields.filter fun field => ¬ IsOverwritten fields field.1) = fields := by
    apply List.filter_eq_self.mpr
    exact fun field member => decide_eq_true (keepsAll_iff.mp keeps field member)
  rw [keptFields, all]

theorem keepsAll_of_length (same : (keptFields fields).length = fields.length) :
    KeepsAll fields := by
  rw [keptFields, List.length_map, List.length_filter_eq_length_iff] at same
  exact keepsAll_iff.mpr fun field member => of_decide_eq_true (same field member)

/-- What decoding a transition does to its fields.  A record with different names decodes to one with
different names, which has the kept fields of the record, each with its new name and in its normal
form.  It has all fields of the record, and as many, exactly if the record has no reserved name
together with the name that replaces it. -/
theorem fields_conserved (record : Fields.Table Value) :
    Exists fun decoded : Fields.Table Value =>
      decode (.map record.fields) = .ok (.map decoded.fields) ∧
        decoded.fields.Perm (keptFields record.fields) ∧
        (decoded.fields.Perm (record.fields.map decodedField) ↔ KeepsAll record.fields) ∧
        (decoded.fields.length = record.fields.length ↔ KeepsAll record.fields) := by
  rcases record with ⟨fields, distinct⟩
  have decoded : Fields.Distinct (reserved.foldl rename (normaliseFields fields)) :=
    distinct_foldl_rename reserved (distinct_normaliseFields distinct)
  have same : (reserved.foldl rename (normaliseFields fields)).Perm (keptFields fields) := by
    apply (List.perm_ext_iff_of_nodup (List.Nodup.of_map Prod.fst decoded)
      (List.Nodup.of_map Prod.fst (distinct_keptFields distinct))).mpr
    rintro ⟨name, value⟩
    exact ⟨kept_of_mem_decoded distinct, mem_decoded_of_kept distinct⟩
  refine ⟨⟨_, decoded⟩, rfl, same, ?_, ?_⟩
  · constructor
    · intro all
      apply keepsAll_of_length
      rw [← same.length_eq, all.length_eq, List.length_map]
    · intro keeps
      rw [← keptFields_of_keepsAll keeps]
      exact same
  · rw [same.length_eq]
    constructor
    · exact keepsAll_of_length
    · intro keeps
      rw [keptFields_of_keepsAll keeps, List.length_map]

/-- A record that has one of the reserved names, and the replacement of another one. -/
def mixedFields : List (String × Value) :=
  [("timestamp", .int 1), ("rawStatus", .null), ("layerId", .string "5")]

/-- It keeps all its fields. -/
theorem mixedFields_conserved :
    Fields.Distinct mixedFields ∧
      Exists fun decoded : List (String × Value) =>
        decode (.map mixedFields) = .ok (.map decoded) ∧
          decoded.Perm [("rawTimestamp", .int 1), ("rawStatus", .null), ("layerId", .int 5)] := by
  have distinct : Fields.Distinct mixedFields := List.nodup_iff_pairwise_ne.mpr (by decide)
  rcases fields_conserved ⟨mixedFields, distinct⟩ with ⟨decoded, same, _, all, _⟩
  have keeps : KeepsAll mixedFields := by
    unfold KeepsAll
    decide
  exact ⟨distinct, decoded.fields, same, all.mpr keeps⟩

/-- A record that has a reserved name and its replacement. -/
def collidingFields : List (String × Value) :=
  [("timestamp", .int 1), ("rawTimestamp", .int 2)]

/-- Its two fields become one, and the value of the second is lost. -/
theorem collidingFields_merged :
    Fields.Distinct collidingFields ∧
      decode (.map collidingFields) = .ok (.map [("rawTimestamp", .int 1)]) ∧
      forall decoded, decode (.map collidingFields) = .ok (.map decoded) ->
        decoded.length ≠ collidingFields.length ∧
          ¬ decoded.Perm (collidingFields.map decodedField) := by
  have distinct : Fields.Distinct collidingFields := List.nodup_iff_pairwise_ne.mpr (by decide)
  refine ⟨distinct, rfl, ?_⟩
  intro decoded same
  cases same
  refine ⟨by decide, ?_⟩
  intro all
  exact absurd all.length_eq (by decide)

end TraceView.Transition
