import Mathlib.Data.List.Forall2
import TraceView.Fields

namespace TraceView.Fields

/-!
# Fields that are related one by one

Two lists of fields that have the same names, in the same order, can differ in their values.  What
is known of the two values below each name is kept by everything that treats fields by their
names: giving a field, settling which of several counts, and looking one up.
-/

variable {α β : Type} {Below : String -> α -> β -> Prop}

/-- The fields have the same names, and the values below each name are related. -/
def Related (Below : String -> α -> β -> Prop) (fields : List (String × α))
    (others : List (String × β)) : Prop :=
  List.Forall₂ (fun field other => field.1 = other.1 ∧ Below field.1 field.2 other.2) fields others

theorem Related.put {fields : List (String × α)} {others : List (String × β)}
    (related : Related Below fields others) {key : String} {value : α} {other : β}
    (values : Below key value other) :
    Related Below (put key value fields) (put key other others) := by
  induction related with
  | nil => exact .cons ⟨rfl, values⟩ .nil
  | @cons field otherField rest otherRest first related inductionHypothesis =>
      rcases field with ⟨name, old⟩
      rcases otherField with ⟨otherName, otherOld⟩
      rcases first with ⟨same, below⟩
      cases same
      by_cases here : name = key
      · rw [Fields.put, Fields.put, if_pos here, if_pos here]
        exact .cons ⟨rfl, values⟩ related
      · rw [Fields.put, Fields.put, if_neg here, if_neg here]
        exact .cons ⟨rfl, below⟩ inductionHypothesis

/-- Fields that are given one after the other settle to related ones. -/
theorem Related.settle {fields : List (String × α)} {others : List (String × β)}
    (related : Related Below fields others) :
    Related Below (Fields.settle fields) (Fields.settle others) := by
  have into : forall {settled : List (String × α)} {otherSettled : List (String × β)},
      Related Below settled otherSettled ->
      Related Below (fields.foldl (fun settled field => Fields.put field.1 field.2 settled) settled)
        (others.foldl (fun settled field => Fields.put field.1 field.2 settled) otherSettled) := by
    induction related with
    | nil => exact fun settled => settled
    | @cons field other _ _ first _ inductionHypothesis =>
        intro _ _ settled
        rcases field with ⟨name, value⟩
        rcases other with ⟨otherName, otherValue⟩
        rcases first with ⟨same, below⟩
        cases same
        exact inductionHypothesis (settled.put below)
  exact into .nil

theorem Related.lookup {fields : List (String × α)} {others : List (String × β)}
    (related : Related Below fields others) (name : String) :
    Option.Rel (Below name) (fields.lookup name) (others.lookup name) := by
  induction related with
  | nil => exact .none
  | @cons field other _ _ first _ inductionHypothesis =>
      rcases field with ⟨key, value⟩
      rcases other with ⟨otherKey, otherValue⟩
      rcases first with ⟨same, below⟩
      cases same
      by_cases here : name = key
      · cases here
        rw [List.lookup_cons_self, List.lookup_cons_self]
        exact .some below
      · have elsewhere : (name == key) = false := beq_eq_false_iff_ne.mpr here
        rw [List.lookup_cons, List.lookup_cons, elsewhere]
        exact inductionHypothesis

end TraceView.Fields
