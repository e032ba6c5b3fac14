import TraceView.Proofs.Json.Respelling
import TraceView.Proofs.Value.Related

namespace TraceView.Transition

/-!
# Transitions that spell 64-bit integers in two ways

Decoding a transition replaces the texts of 64-bit integers by the integers, so two respellings of
a record decode to the same.  The time of a record is looked up before it is decoded, and is found
in either spelling.
-/

open Json

variable {kind : TraceKind}

/-! ## Normal forms -/

theorem normaliseFields_of_related {fields others : List (String × Value)}
    (related : Fields.Related (fun name value other => normalise name value = normalise name other)
      fields others) : normaliseFields fields = normaliseFields others := by
  induction related with
  | nil => rfl
  | @cons field other _ _ first _ inductionHypothesis =>
      rcases field with ⟨name, value⟩
      rcases other with ⟨otherName, otherValue⟩
      rcases first with ⟨same, normal⟩
      cases same
      rw [normaliseFields, normaliseFields, inductionHypothesis]
      exact congrArg (fun head => (name, head) :: _) normal

mutual

/-- Respellings below a name have one normal form. -/
theorem normalise_of_respelled {spot : Spot} {tree other : Json} {name : String}
    (respelled : Respelled kind spot tree other)
    (spotted : spot = .transition (isWide name)) :
    normalise name tree.exactValue = normalise name other.exactValue := by
  cases respelled with
  | same scalar => rfl
  | @text _ n wide fits =>
      rw [spotted] at wide
      change Value.int n = normaliseText name (Numeral.full n)
      rw [normaliseText, if_pos (show isWide name = true from wide),
        Numeral.read_write (Numeral.write_of_fits fits)]
  | array each =>
      refine congrArg Value.list (normaliseItems_of_respelled each ?_)
      rw [spotted, Spot.item]
  | object each =>
      refine congrArg Value.map (normaliseFields_of_related (Fields.Related.settle ?_))
      exact related_of_respelled each ⟨isWide name, spotted⟩

theorem normaliseItems_of_respelled {spot : Spot} {items others : List Json} {name : String}
    (respelled : RespelledItems kind spot items others)
    (spotted : spot = .transition (isWide name)) :
    normaliseItems name (itemValues .decimal items) =
      normaliseItems name (itemValues .decimal others) := by
  cases respelled with
  | nil => rfl
  | cons first rest =>
      rw [itemValues, itemValues, normaliseItems, normaliseItems,
        normaliseItems_of_respelled rest spotted]
      exact congrArg (· :: _) (normalise_of_respelled first spotted)

/-- The members of respelled objects have one normal form below each name. -/
theorem related_of_respelled {spot : Spot} {members others : List (String × Json)}
    (respelled : RespelledMembers kind spot members others)
    (spotted : Exists fun wide : Bool => spot = .transition wide) :
    Fields.Related (fun name value other => normalise name value = normalise name other)
      (memberValues .decimal members) (memberValues .decimal others) := by
  cases respelled with
  | nil => exact .nil
  | cons first rest =>
      rcases spotted with ⟨wide, same⟩
      rw [memberValues, memberValues]
      refine .cons ⟨rfl, normalise_of_respelled first ?_⟩ (related_of_respelled rest ⟨wide, same⟩)
      rw [same, Spot.member]

end

/-! ## Times -/

/-- The text of a field stays as it is, or becomes the integer that it spells. -/
theorem normaliseText_cases (name text : String) :
    normaliseText name text = .string text ∨
      Exists fun n : Int => normaliseText name text = .int n ∧ Numeral.read text = some n := by
  unfold normaliseText
  by_cases wide : isWide name = true
  · rw [if_pos wide]
    cases spelled : Numeral.read text with
    | none => exact Or.inl rfl
    | some n => exact Or.inr ⟨n, rfl, rfl⟩
  · rw [if_neg wide]
    exact Or.inl rfl

/-- Normalising a value does not change the integer that it stands for. -/
theorem toInt?_normalise (name : String) (value : Value) :
    (normalise name value).toInt? = value.toInt? := by
  cases value with
  | string text =>
      change (normaliseText name text).toInt? = _
      rcases normaliseText_cases name text with same | ⟨n, same, spelled⟩
      · rw [same]
      · rw [same]
        simp only [Value.toInt?, Value.integer?, spelled]
  | _ => rfl

theorem lookup_normaliseFields (name : String) (fields : List (String × Value)) :
    (normaliseFields fields).lookup name = (fields.lookup name).map (normalise name) := by
  induction fields with
  | nil => rfl
  | cons field rest inductionHypothesis =>
      rcases field with ⟨key, value⟩
      by_cases here : name = key
      · cases here
        rw [normaliseFields, List.lookup_cons_self, List.lookup_cons_self, Option.map_some]
      · have elsewhere : (name == key) = false := beq_eq_false_iff_ne.mpr here
        rw [normaliseFields, List.lookup_cons, List.lookup_cons, elsewhere]
        exact inductionHypothesis

/-- A time is found in the normal form of a record exactly if it is found in the record. -/
theorem timeAt?_normaliseFields (fields : List (String × Value)) (place : String × String) :
    timeAt? (normaliseFields fields) place = timeAt? fields place := by
  unfold timeAt?
  rw [lookup_normaliseFields]
  cases fields.lookup place.1 with
  | none => rfl
  | some part =>
      cases part with
      | map times =>
          change ((normaliseFields times).lookup place.2).bind Value.toInt? =
            (times.lookup place.2).bind Value.toInt?
          rw [lookup_normaliseFields]
          cases times.lookup place.2 with
          | none => rfl
          | some time => exact toInt?_normalise place.2 time
      | string text =>
          have normalised : normalise place.1 (.string text) = normaliseText place.1 text := rfl
          rcases normaliseText_cases place.1 text with same | ⟨n, same, _⟩
          · rw [Option.map_some, normalised, same]
          · rw [Option.map_some, normalised, same]
      | _ => rfl

/-- The time with which a record is loaded, if it is. -/
def recordStamp? : Value -> Option Int
  | .map fields => stamp? fields
  | _ => none

theorem stampAll_value (records : List Value) :
    (stampAll records).value =
      records.filterMap fun record => (recordStamp? record).map fun ns => (ns, record) := by
  induction records with
  | nil => rfl
  | cons record rest inductionHypothesis =>
      rw [List.filterMap_cons, ← inductionHypothesis, stampAll]
      cases record with
      | map fields =>
          simp only [stampRecord, recordStamp?]
          cases stamp? fields <;> rfl
      | _ => rfl

/-- Only the normal form of a record matters for its time and for what it decodes to. -/
theorem recordStamp?_normalise (record : Value) :
    recordStamp? (normalise "" record) = recordStamp? record := by
  cases record with
  | map fields =>
      have same : timeAt? (normaliseFields fields) = timeAt? fields :=
        funext (timeAt?_normaliseFields fields)
      change stamp? (normaliseFields fields) = stamp? fields
      unfold stamp?
      rw [same]
  | string text => rfl
  | _ => rfl

/-- Two respellings of a record have the same time, and decode to the same. -/
theorem record_of_respelled {tree other : Json}
    (respelled : Respelled .transition (.record .transition) tree other) :
    recordStamp? tree.exactValue = recordStamp? other.exactValue ∧
      decode tree.exactValue = decode other.exactValue := by
  have normal : normalise "" tree.exactValue = normalise "" other.exactValue :=
    normalise_of_respelled respelled rfl
  constructor
  · rw [← recordStamp?_normalise, normal, recordStamp?_normalise]
  · unfold decode
    rw [normal]

end TraceView.Transition
