import TraceView.Proofs.Fields.Names
import TraceView.Tree.Spec

namespace TraceView

/-!
# Scalars in a value

A value is made of scalars, which lists and mappings put together.  What is taken out of a value,
such as a field of a mapping, has no scalars that the whole does not have.
-/

namespace Value

/-- A value that is neither a list nor a mapping. -/
def IsScalar : Value -> Prop
  | .list _ => False
  | .map _ => False
  | _ => True

mutual

/-- The scalars in a value, in order. -/
def scalars : Value -> List Value
  | .list items => itemScalars items
  | .map fields => fieldScalars fields
  | scalar => [scalar]

/-- The scalars in the items of a list. -/
def itemScalars : List Value -> List Value
  | [] => []
  | item :: rest => item.scalars ++ itemScalars rest

/-- The scalars in the fields of a mapping. -/
def fieldScalars : List (String × Value) -> List Value
  | [] => []
  | (_, value) :: rest => value.scalars ++ fieldScalars rest

end

variable {scalar : Value}

theorem mem_itemScalars {items : List Value} :
    scalar ∈ itemScalars items ↔
      Exists fun item : Value => item ∈ items ∧ scalar ∈ item.scalars := by
  induction items with
  | nil => simp only [itemScalars, List.not_mem_nil, false_and, exists_false]
  | cons item rest inductionHypothesis =>
      simp only [itemScalars, List.mem_append, inductionHypothesis, List.mem_cons,
        or_and_right, exists_or, exists_eq_left]

theorem mem_fieldScalars {fields : List (String × Value)} :
    scalar ∈ fieldScalars fields ↔
      Exists fun field : String × Value => field ∈ fields ∧ scalar ∈ field.2.scalars := by
  induction fields with
  | nil => simp only [fieldScalars, List.not_mem_nil, false_and, exists_false]
  | cons field rest inductionHypothesis =>
      rcases field with ⟨name, value⟩
      simp only [fieldScalars, List.mem_append, inductionHypothesis, List.mem_cons,
        or_and_right, exists_or, exists_eq_left]

/-- A field has no scalars that the mapping does not have. -/
theorem mem_fieldScalars_of_lookup {fields : List (String × Value)} {name : String} {value : Value}
    (found : fields.lookup name = some value) (member : scalar ∈ value.scalars) :
    scalar ∈ fieldScalars fields :=
  mem_fieldScalars.mpr ⟨(name, value), Fields.mem_of_lookup found, member⟩

mutual

theorem isScalar_of_mem : forall value : Value, forall item, item ∈ value.scalars -> item.IsScalar
  | .list items => isScalar_of_mem_items items
  | .map fields => isScalar_of_mem_fields fields
  | .null => List.forall_mem_singleton.mpr trivial
  | .bool _ => List.forall_mem_singleton.mpr trivial
  | .int _ => List.forall_mem_singleton.mpr trivial
  | .double _ => List.forall_mem_singleton.mpr trivial
  | .undefined => List.forall_mem_singleton.mpr trivial
  | .decimal _ => List.forall_mem_singleton.mpr trivial
  | .string _ => List.forall_mem_singleton.mpr trivial
  | .constant _ => List.forall_mem_singleton.mpr trivial

theorem isScalar_of_mem_items :
    forall items : List Value, forall item, item ∈ itemScalars items -> item.IsScalar
  | [] => fun _ impossible => absurd impossible List.not_mem_nil
  | value :: rest => List.forall_mem_append.mpr ⟨isScalar_of_mem value, isScalar_of_mem_items rest⟩

theorem isScalar_of_mem_fields :
    forall fields : List (String × Value), forall item, item ∈ fieldScalars fields -> item.IsScalar
  | [] => fun _ impossible => absurd impossible List.not_mem_nil
  | (_, value) :: rest =>
      List.forall_mem_append.mpr ⟨isScalar_of_mem value, isScalar_of_mem_fields rest⟩

end

end Value

end TraceView
