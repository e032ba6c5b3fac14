import TraceView.Proofs.Fields.Names
import TraceView.Proofs.Number.Digits
import TraceView.Proofs.Value.Scalars

namespace TraceView

/-!
# Members of a value

Mappings and lists hold other values.  A mapping holds those of its fields, under their names.  A list
holds its items under the decimal numbers of their positions, so that one can look into either by names.
What is said of all values in a value is said of its members, of their members, and so on.
-/

namespace Value

/-- Items under the decimal numbers of their positions, from a position on. -/
def numbered (position : Nat) : List Value -> List (String × Value)
  | [] => []
  | item :: rest => (toString position, item) :: numbered (position + 1) rest

/-- The values that a value holds, each under its name. -/
def members : Value -> List (String × Value)
  | .map fields => fields
  | .list items => numbered 0 items
  | _ => []

/-- What a value holds at the end of a path of names. -/
def look? (value : Value) : List String -> Option Value
  | [] => some value
  | name :: rest => (value.members.lookup name).bind fun member => member.look? rest

variable {value : Value}

/-! ## Names of members -/

theorem members_of_isScalar (scalar : value.IsScalar) : value.members = [] := by
  cases value with
  | list items => exact scalar.elim
  | map fields => exact scalar.elim
  | _ => rfl

theorem mem_numbered {items : List Value} {position : Nat} {member : String × Value} :
    member ∈ numbered position items ↔
      Exists fun place : Nat =>
        items[place]? = some member.2 ∧ member.1 = toString (position + place) := by
  induction items generalizing position with
  | nil =>
      simp only [numbered, List.not_mem_nil, List.getElem?_nil, reduceCtorEq, false_and, exists_false]
  | cons item rest inductionHypothesis =>
      rw [numbered, List.mem_cons, inductionHypothesis]
      constructor
      · rintro (here | ⟨place, held, called⟩)
        · rw [here]
          exact ⟨0, rfl, rfl⟩
        · refine ⟨place + 1, held, ?_⟩
          rw [called, Nat.add_right_comm, Nat.add_assoc]
      · rintro ⟨place, held, called⟩
        cases place with
        | zero => exact Or.inl (Prod.ext called (Option.some.inj held).symm)
        | succ place =>
            refine Or.inr ⟨place, held, ?_⟩
            rw [called, Nat.add_right_comm, Nat.add_assoc]

/-- No two positions have one number. -/
theorem distinct_numbered (position : Nat) (items : List Value) :
    Fields.Distinct (numbered position items) := by
  induction items generalizing position with
  | nil => exact List.nodup_nil
  | cons item rest inductionHypothesis =>
      refine List.nodup_cons.mpr ⟨?_, inductionHypothesis (position + 1)⟩
      intro listed
      rcases List.mem_map.mp listed with ⟨member, later, same⟩
      rcases mem_numbered.mp later with ⟨place, _, called⟩
      have equal := Numeral.toString_inj (called.symm.trans same)
      omega

theorem exists_member_of_item {items : List Value} {item : Value} (listed : item ∈ items) :
    Exists fun member : String × Value => member ∈ (Value.list items).members ∧ member.2 = item := by
  rcases List.mem_iff_getElem?.mp listed with ⟨place, held⟩
  exact ⟨(toString (0 + place), item), mem_numbered.mpr ⟨place, held, rfl⟩, rfl⟩

/-! ## Induction -/

/-- A value has a property if its members have it. -/
def Ascends (holds : Value -> Prop) : Prop :=
  forall value : Value, (forall member, member ∈ value.members -> holds member.2) -> holds value

mutual

/-- All values have a property that a value has if its members have it. -/
theorem forall_of_members {holds : Value -> Prop} (step : Ascends holds) :
    forall value : Value, holds value
  | .map fields => step (.map fields) (forall_of_fields step fields)
  | .list items => step (.list items) (forall_of_items step items 0)
  | .null => step .null fun _ impossible => nomatch impossible
  | .bool flag => step (.bool flag) fun _ impossible => nomatch impossible
  | .int n => step (.int n) fun _ impossible => nomatch impossible
  | .double x => step (.double x) fun _ impossible => nomatch impossible
  | .undefined => step .undefined fun _ impossible => nomatch impossible
  | .decimal d => step (.decimal d) fun _ impossible => nomatch impossible
  | .string text => step (.string text) fun _ impossible => nomatch impossible
  | .constant c => step (.constant c) fun _ impossible => nomatch impossible

theorem forall_of_fields {holds : Value -> Prop} (step : Ascends holds) :
    forall fields : List (String × Value), forall field, field ∈ fields -> holds field.2
  | [] => fun _ impossible => nomatch impossible
  | (_, value) :: rest =>
      List.forall_mem_cons.mpr ⟨forall_of_members step value, forall_of_fields step rest⟩

theorem forall_of_items {holds : Value -> Prop} (step : Ascends holds) :
    forall (items : List Value) (position : Nat),
      forall member, member ∈ numbered position items -> holds member.2
  | [], _ => fun _ impossible => nomatch impossible
  | value :: rest, position =>
      List.forall_mem_cons.mpr
        ⟨forall_of_members step value, forall_of_items step rest (position + 1)⟩

end

/-- Induction on the members of a value. -/
@[elab_as_elim] theorem induction_on_members {motive : Value -> Prop}
    (step : forall value : Value, (forall member, member ∈ value.members -> motive member.2) ->
      motive value) (value : Value) : motive value :=
  forall_of_members step value

/-! ## Checks -/

mutual

/-- Whether a value, its members, their members and so on all pass a check. -/
def everywhere (check : Value -> Bool) : Value -> Bool
  | .map fields => check (.map fields) && everyField check fields
  | .list items => check (.list items) && everyItem check items
  | value => check value

/-- Whether the values of fields pass a check everywhere. -/
def everyField (check : Value -> Bool) : List (String × Value) -> Bool
  | [] => true
  | (_, value) :: rest => value.everywhere check && everyField check rest

/-- Whether items pass a check everywhere. -/
def everyItem (check : Value -> Bool) : List Value -> Bool
  | [] => true
  | value :: rest => value.everywhere check && everyItem check rest

end

variable {check : Value -> Bool}

theorem everyField_iff {fields : List (String × Value)} :
    everyField check fields = true ↔
      forall field, field ∈ fields -> field.2.everywhere check = true := by
  induction fields with
  | nil => exact iff_of_true rfl fun _ impossible => nomatch impossible
  | cons field rest inductionHypothesis =>
      rcases field with ⟨name, value⟩
      rw [everyField, Bool.and_eq_true, inductionHypothesis, List.forall_mem_cons]

theorem everyItem_eq (items : List Value) (position : Nat) :
    everyItem check items = everyField check (numbered position items) := by
  induction items generalizing position with
  | nil => rfl
  | cons item rest inductionHypothesis =>
      rw [everyItem, numbered, everyField, inductionHypothesis]

theorem everywhere_iff :
    value.everywhere check = true ↔ check value = true ∧
      forall member, member ∈ value.members -> member.2.everywhere check = true := by
  rw [← everyField_iff]
  cases value with
  | map fields => rw [everywhere, Bool.and_eq_true, members]
  | list items => rw [everywhere, Bool.and_eq_true, members, everyItem_eq items 0]
  | _ => exact (and_iff_left rfl).symm

/-! ## Values without repeated names -/

/-- No mapping in a value gives a name twice. -/
inductive Tidy : Value -> Prop where
  | intro {value : Value} (distinct : Fields.Distinct value.members)
      (inside : forall member, member ∈ value.members -> member.2.Tidy) : Tidy value

theorem Tidy.distinct (tidy : value.Tidy) : Fields.Distinct value.members := by
  cases tidy with
  | intro distinct _ => exact distinct

theorem Tidy.member (tidy : value.Tidy) {member : String × Value} (held : member ∈ value.members) :
    member.2.Tidy := by
  cases tidy with
  | intro _ inside => exact inside member held

theorem tidy_of_isScalar (scalar : value.IsScalar) : value.Tidy := by
  apply Tidy.intro
  · rw [members_of_isScalar scalar]
    exact List.nodup_nil
  · rw [members_of_isScalar scalar]
    exact fun _ impossible => nomatch impossible

theorem tidy_list {items : List Value} (each : forall item, item ∈ items -> item.Tidy) :
    (Value.list items).Tidy := by
  refine .intro (distinct_numbered 0 items) fun member held => ?_
  rcases mem_numbered.mp held with ⟨place, listed, _⟩
  exact each member.2 (List.mem_of_getElem? listed)

theorem everywhere_distinct_iff :
    value.everywhere (fun value => decide (value.members.map Prod.fst).Nodup) = true ↔ value.Tidy := by
  induction value using induction_on_members with
  | step value inductionHypothesis =>
      rw [everywhere_iff, decide_eq_true_eq]
      constructor
      · rintro ⟨distinct, inside⟩
        exact .intro distinct fun member held =>
          (inductionHypothesis member held).mp (inside member held)
      · intro tidy
        exact ⟨tidy.distinct, fun member held =>
          (inductionHypothesis member held).mpr (tidy.member held)⟩

instance (value : Value) : Decidable value.Tidy :=
  decidable_of_iff _ everywhere_distinct_iff

/-! ## Fields without a name -/

/-- Some mapping in a value has a field without a name that is not null. -/
inductive HasNameless : Value -> Prop where
  | here {fields : List (String × Value)} {item : Value} (held : ("", item) ∈ fields)
      (present : item ≠ .null) : HasNameless (.map fields)
  | inside {value : Value} {member : String × Value} (held : member ∈ value.members)
      (nameless : member.2.HasNameless) : HasNameless value

theorem not_hasNameless_null : ¬ HasNameless .null := by
  intro nameless
  cases nameless with
  | inside held _ => cases held

/-- The items of a list all have names. -/
theorem hasNameless_iff :
    value.HasNameless ↔ Exists fun member : String × Value =>
      member ∈ value.members ∧ member.2 ≠ .null ∧ (member.1 = "" ∨ member.2.HasNameless) := by
  constructor
  · intro nameless
    cases nameless with
    | here held present => exact ⟨_, held, present, Or.inl rfl⟩
    | @inside _ member held nameless =>
        refine ⟨member, held, ?_, Or.inr nameless⟩
        intro null
        rw [null] at nameless
        exact not_hasNameless_null nameless
  · rintro ⟨⟨name, item⟩, held, present, unnamed | nameless⟩
    · cases value with
      | map fields =>
          cases unnamed
          exact .here held present
      | list items =>
          rcases mem_numbered.mp held with ⟨place, _, called⟩
          have empty : toString (0 + place) = "" := called.symm.trans unnamed
          rw [Nat.toString_eq_repr] at empty
          exact absurd empty Nat.repr_ne_empty
      | _ => cases held
    · exact .inside held nameless

theorem everywhere_named_iff :
    value.everywhere
        (fun value => value.members.all fun member => member.2.isNull || member.1 != "") = true ↔
      ¬ value.HasNameless := by
  induction value using induction_on_members with
  | step value inductionHypothesis =>
      rw [everywhere_iff, List.all_eq_true, hasNameless_iff]
      constructor
      · rintro ⟨named, inside⟩ ⟨member, held, present, unnamed | nameless⟩
        · have visible := named member held
          rw [unnamed, bne_self_eq_false, Bool.or_false, isNull_iff] at visible
          exact present visible
        · exact (inductionHypothesis member held).mp (inside member held) nameless
      · intro named
        constructor
        · intro member held
          rw [Bool.or_eq_true, isNull_iff, bne_iff_ne]
          refine Classical.byContradiction fun unnamed => ?_
          rw [not_or, ne_eq, not_not] at unnamed
          exact named ⟨member, held, unnamed.1, Or.inl unnamed.2⟩
        · intro member held
          refine (inductionHypothesis member held).mpr fun nameless => ?_
          refine named ⟨member, held, fun null => ?_, Or.inr nameless⟩
          rw [null] at nameless
          exact not_hasNameless_null nameless

instance (value : Value) : Decidable value.HasNameless :=
  decidable_of_iff _ (not_iff_comm.mp everywhere_named_iff.symm)

example : HasNameless (.list [.null, .map [("a", .int 1), ("", .int 2)]]) := by decide

end Value

end TraceView
