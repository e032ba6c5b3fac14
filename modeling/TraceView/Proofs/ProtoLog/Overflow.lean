import TraceView.Proofs.Json.Numbers
import TraceView.Proofs.Outcome
import TraceView.ProtoLog.Decoder

namespace TraceView

/-!
# Numbers that are too large for a message

Of all faults that decoding a message may come to, a number that is too large for a double is the
only one that is not reported as a fault of the entry.  In a message of a document it has one
source: a directive for a double that takes an integer beyond the largest double.
-/

/-- A fault that is reported as one of the entry, if it is not known to be another one. -/
def Fault.Contained (exception : Prop) (fault : Fault) : Prop :=
  fault = .tooLarge -> exception

theorem Fault.contained_of_ne {exception : Prop} {fault : Fault} (other : fault ≠ .tooLarge) :
    fault.Contained exception :=
  fun same => absurd same other

/-! ## Texts -/

namespace Value

variable {exception : Prop}

theorem contained_write (n : Int) : FailsOnly (Fault.Contained exception) (Numeral.write n) := by
  unfold Numeral.write
  split
  · exact failsOnly_ok _
  · exact failsOnly_error (Fault.contained_of_ne (by decide))

mutual

theorem contained_item : forall value : Value, FailsOnly (Fault.Contained exception) value.item
  | .int n => contained_write n
  | .list items => failsOnly_map (contained_itemsOf items)
  | .map fields => failsOnly_map (contained_fieldItemsOf fields)
  | .null => failsOnly_ok _
  | .bool _ => failsOnly_ok _
  | .double _ => failsOnly_ok _
  | .undefined => failsOnly_ok _
  | .decimal _ => failsOnly_ok _
  | .string _ => failsOnly_ok _
  | .constant _ => failsOnly_ok _

theorem contained_itemsOf : forall items : List Value,
    FailsOnly (Fault.Contained exception) (itemsOf items)
  | [] => failsOnly_ok _
  | value :: rest => by
      rw [itemsOf]
      exact failsOnly_bind (contained_item value) fun _ _ =>
        failsOnly_bind (contained_itemsOf rest) fun _ _ => failsOnly_ok _

theorem contained_fieldItemsOf : forall fields : List (String × Value),
    FailsOnly (Fault.Contained exception) (fieldItemsOf fields)
  | [] => failsOnly_ok _
  | (name, value) :: rest => by
      rw [fieldItemsOf]
      exact failsOnly_bind (contained_item value) fun _ _ =>
        failsOnly_bind (contained_fieldItemsOf rest) fun _ _ => failsOnly_ok _

end

/-- A value has a text, unless an integer in it has too many digits. -/
theorem contained_text (value : Value) : FailsOnly (Fault.Contained exception) value.text := by
  cases value with
  | decimal d => exact failsOnly_ok _
  | string text => exact failsOnly_ok _
  | constant c => exact failsOnly_ok _
  | _ => exact contained_item _

end Value

namespace ProtoLog

/-! ## Directives -/

/-- An integer that is taken for a double and is beyond the largest one. -/
def Beyond (values : List Value) : Prop :=
  Exists fun n : Int => .int n ∈ values ∧ Double.ofInt n = .error .tooLarge

theorem Beyond.mono {values others : List Value} (beyond : Beyond values)
    (within : forall value, value ∈ values -> value ∈ others) : Beyond others := by
  rcases beyond with ⟨n, member, large⟩
  exact ⟨n, within _ member, large⟩

/-- A parameter that is taken for a double. -/
theorem contained_toDouble {value : Value} {values : List Value} (member : value ∈ values) :
    FailsOnly (Fault.Contained (Beyond values)) value.toDouble := by
  cases value with
  | int n =>
      intro fault failed large
      rw [large] at failed
      exact ⟨n, member, failed⟩
  | bool flag => cases flag <;> exact failsOnly_ok _
  | string text =>
      unfold Value.toDouble
      dsimp only
      split
      · exact failsOnly_ok _
      · exact failsOnly_error (Fault.contained_of_ne (by decide))
  | double x => exact failsOnly_ok _
  | undefined => exact failsOnly_ok _
  | decimal d => exact failsOnly_ok _
  | _ => exact failsOnly_error (Fault.contained_of_ne (by decide))

/-- A parameter that is taken for an integer; no decimal of a document is infinite. -/
theorem contained_integer? {exception : Prop} {value : Value} (regular : value.IsRegular) :
    FailsOnly (Fault.Contained exception) value.integer? := by
  cases value with
  | decimal d =>
      cases d with
      | finite negative coefficient exponent => exact failsOnly_ok _
      | infinite negative => exact regular.elim
      | nan negative payload => exact failsOnly_ok _
  | _ => exact failsOnly_ok _

theorem contained_integerText {exception : Prop} (radix : Radix) (n : Int) :
    FailsOnly (Fault.Contained exception) (integerText radix n) := by
  cases radix with
  | decimal => exact Value.contained_write n
  | octal => exact failsOnly_ok _
  | hexadecimal => exact failsOnly_ok _

theorem contained_integerParameter {exception : Prop} (radix : Radix) {value : Value}
    (regular : value.IsRegular) :
    FailsOnly (Fault.Contained exception) (parameterText (.integer radix) value) := by
  unfold parameterText
  by_cases null : value.isNull = true
  · rw [if_pos null]
    exact failsOnly_ok _
  · have integers : FailsOnly (Fault.Contained exception) value.integer? :=
      contained_integer? regular
    rw [if_neg null]
    cases taken : value.integer? with
    | error fault => exact failsOnly_error (integers fault taken)
    | ok integer =>
        cases integer with
        | none => exact failsOnly_ok _
        | some n => exact contained_integerText radix n

theorem contained_doubleParameter (style : Double.Style) {value : Value} {values : List Value}
    (member : value ∈ values) :
    FailsOnly (Fault.Contained (Beyond values)) (parameterText (.double style) value) := by
  unfold parameterText
  by_cases null : value.isNull = true
  · rw [if_pos null]
    exact failsOnly_ok _
  · rw [if_neg null]
    exact failsOnly_map (contained_toDouble member)

section Templates

variable {parameters : Parameters}

/-- Parameters of which those for integers are no infinite decimals. -/
def Parameters.Regular (parameters : Parameters) : Prop :=
  forall value, value ∈ parameters.integers -> value.IsRegular

theorem contained_directiveText (regular : parameters.Regular) (directive : Directive) :
    FailsOnly (Fault.Contained (Beyond parameters.doubles))
      (directiveText directive parameters) := by
  cases directive with
  | percent => exact failsOnly_ok _
  | text =>
      simp only [directiveText, Parameters.next?]
      cases parameters.texts.head? with
      | none => exact failsOnly_ok _
      | some value =>
          simp only [parameterText]
          split
          · exact failsOnly_ok _
          · exact value.contained_text
  | integer radix =>
      simp only [directiveText, Parameters.next?]
      cases first : parameters.integers.head? with
      | none => exact failsOnly_ok _
      | some value =>
          exact contained_integerParameter radix (regular value (List.mem_of_mem_head? first))
  | double style =>
      simp only [directiveText, Parameters.next?]
      cases first : parameters.doubles.head? with
      | none => exact failsOnly_ok _
      | some value => exact contained_doubleParameter style (List.mem_of_mem_head? first)
  | truth =>
      simp only [directiveText, Parameters.next?]
      cases parameters.truths.head? with
      | none => exact failsOnly_ok _
      | some value =>
          simp only [parameterText]
          split <;> exact failsOnly_ok _

/-- A directive takes a parameter away and adds none. -/
theorem Parameters.after_within (parameters : Parameters) (directive : Directive) :
    (forall value, value ∈ (parameters.after directive).integers -> value ∈ parameters.integers) ∧
      forall value, value ∈ (parameters.after directive).doubles -> value ∈ parameters.doubles := by
  cases directive with
  | integer radix => exact ⟨fun _ => List.mem_of_mem_tail, fun _ => id⟩
  | double style => exact ⟨fun _ => id, fun _ => List.mem_of_mem_tail⟩
  | _ => exact ⟨fun _ => id, fun _ => id⟩

/-- A template is filled in directive by directive. -/
theorem contained_fill (template : List Char) (regular : parameters.Regular) :
    FailsOnly (Fault.Contained (Beyond parameters.doubles)) (fill template parameters) := by
  induction template, parameters using fill.induct with
  | case1 => exact failsOnly_ok _
  | case2 => exact failsOnly_ok _
  | case3 c rest parameters unknown inductionHypothesis =>
      simp only [fill, unknown]
      exact failsOnly_map (inductionHypothesis regular)
  | case4 c rest parameters directive named fault failed =>
      simp only [fill, named, failed]
      exact failsOnly_error (contained_directiveText regular directive fault failed)
  | case5 c rest parameters directive named shown showed inductionHypothesis =>
      rcases parameters.after_within directive with ⟨integers, doubles⟩
      have later := inductionHypothesis fun value member => regular value (integers value member)
      simp only [fill, named, showed]
      apply failsOnly_map
      intro fault failed large
      exact (later fault failed large).mono doubles
  | case6 c next rest parameters plain inductionHypothesis =>
      rw [fill.eq_4 _ c next rest plain]
      exact failsOnly_map (inductionHypothesis regular)

end Templates

/-! ## Messages -/

namespace Decoder

/-- A record with an integer beyond the largest double among its parameters for doubles. -/
def HoldsBeyond (record : Value) : Prop :=
  Exists fun fields : List (String × Value) => Exists fun items : List Value =>
    record = .map fields ∧ fields.lookup "doubleParams" = some (.list items) ∧ Beyond items

theorem contained_fields {exception : Prop} (value : Value) :
    FailsOnly (Fault.Contained exception) (ViewerConfig.fields value) := by
  cases value with
  | map fields => exact failsOnly_ok _
  | _ => exact failsOnly_error (Fault.contained_of_ne (by decide))

theorem fields_eq_ok {value : Value} {fields : List (String × Value)}
    (mapping : ViewerConfig.fields value = .ok fields) : value = .map fields := by
  cases value with
  | map members =>
      cases mapping
      rfl
  | _ => cases mapping

theorem contained_family {exception : Prop} (name : String) (record : List (String × Value)) :
    FailsOnly (Fault.Contained exception) (family name record) := by
  unfold family
  cases record.lookup name with
  | none => exact failsOnly_ok _
  | some value =>
      cases value with
      | list items => exact failsOnly_ok _
      | string text => exact failsOnly_ok _
      | map fields => exact failsOnly_ok _
      | _ => exact failsOnly_error (Fault.contained_of_ne (by decide))

theorem contained_parameters {exception : Prop} (record : List (String × Value)) :
    FailsOnly (Fault.Contained exception) (parameters record) := by
  unfold parameters
  exact failsOnly_bind (contained_family _ _) fun _ _ =>
    failsOnly_bind (contained_family _ _) fun _ _ =>
      failsOnly_bind (contained_family _ _) fun _ _ =>
        failsOnly_bind (contained_family _ _) fun _ _ => failsOnly_ok _

/-- The parameters of a family are the items of a list, or texts. -/
theorem mem_family {name : String} {record : List (String × Value)} {values : List Value}
    (taken : family name record = .ok values) {value : Value} (member : value ∈ values) :
    record.lookup name = some (.list values) ∨ Exists fun text : String => value = .string text := by
  unfold family at taken
  cases given : record.lookup name with
  | none =>
      rw [given] at taken
      cases taken
      exact absurd member List.not_mem_nil
  | some whole =>
      rw [given] at taken
      cases whole with
      | list items =>
          cases taken
          exact Or.inl rfl
      | string text =>
          cases taken
          rcases List.mem_map.mp member with ⟨c, _, same⟩
          exact Or.inr ⟨_, same.symm⟩
      | map fields =>
          cases taken
          rcases List.mem_map.mp member with ⟨field, _, same⟩
          exact Or.inr ⟨_, same.symm⟩
      | _ => cases taken

/-- The parameters of a record. -/
theorem parameters_eq_ok {record : List (String × Value)} {all : Parameters}
    (taken : parameters record = .ok all) :
    family "sint64Params" record = .ok all.integers ∧
      family "doubleParams" record = .ok all.doubles := by
  unfold parameters at taken
  rcases bind_eq_ok_iff.mp taken with ⟨texts, _, taken⟩
  rcases bind_eq_ok_iff.mp taken with ⟨integers, forIntegers, taken⟩
  rcases bind_eq_ok_iff.mp taken with ⟨doubles, forDoubles, taken⟩
  rcases bind_eq_ok_iff.mp taken with ⟨truths, _, taken⟩
  cases taken
  exact ⟨forIntegers, forDoubles⟩

theorem regular_parameters {record : List (String × Value)} {all : Parameters}
    (regular : forall item, item ∈ Value.fieldScalars record -> item.IsRegular)
    (taken : parameters record = .ok all) : all.Regular := by
  intro value member
  rcases mem_family (parameters_eq_ok taken).1 member with listed | ⟨text, same⟩
  · cases value with
    | int n => exact regular _ (Value.mem_fieldScalars_of_lookup listed (Value.mem_itemScalars.mpr
        ⟨.int n, member, List.mem_singleton_self _⟩))
    | decimal d => exact regular _ (Value.mem_fieldScalars_of_lookup listed
        (Value.mem_itemScalars.mpr ⟨.decimal d, member, List.mem_singleton_self _⟩))
    | _ => trivial
  · rw [same]
    trivial

theorem holdsBeyond_of_parameters {record : List (String × Value)} {all : Parameters}
    (taken : parameters record = .ok all) (beyond : Beyond all.doubles) :
    HoldsBeyond (.map record) := by
  rcases beyond with ⟨n, member, large⟩
  rcases mem_family (parameters_eq_ok taken).2 member with listed | ⟨text, same⟩
  · exact ⟨record, all.doubles, rfl, listed, n, member, large⟩
  · cases same

theorem contained_unresolved {exception : Prop} (hash : String) (all : Parameters) :
    FailsOnly (Fault.Contained exception) (unresolved hash all) := by
  unfold unresolved
  exact failsOnly_bind (failsOnly_mapM fun value _ => value.contained_text) fun _ _ =>
    failsOnly_ok _

theorem contained_resolved (state : Decoder) (entry : Value) {all : Parameters}
    (regular : all.Regular) :
    FailsOnly (Fault.Contained (Beyond all.doubles)) (state.resolved entry all) := by
  unfold resolved
  refine failsOnly_bind (contained_fields entry) ?_
  intro fields _
  dsimp only
  split
  · exact failsOnly_error (Fault.contained_of_ne (by decide))
  · split
    · refine failsOnly_bind (failsOnly_map (contained_fill _ regular)) ?_
      intro text _
      exact failsOnly_bind (contained_fields _) fun _ _ => failsOnly_ok _
    · exact failsOnly_error (Fault.contained_of_ne (by decide))

/-- Decoding a message of a document comes to no other fault than those of its entry, unless an integer
beyond the largest double is among its parameters for doubles. -/
theorem contained_decode (state : Decoder) {record : Value}
    (regular : forall item, item ∈ record.scalars -> item.IsRegular) :
    FailsOnly (Fault.Contained (HoldsBeyond record)) (state.decode record) := by
  unfold decode
  refine failsOnly_bind (contained_fields record) ?_
  intro fields mapping
  rw [fields_eq_ok mapping] at regular ⊢
  refine failsOnly_bind (Value.contained_text _) ?_
  intro hash _
  refine failsOnly_bind (contained_parameters fields) ?_
  intro all taken
  split
  · exact failsOnly_bind (contained_unresolved hash all) fun _ _ => failsOnly_ok _
  · intro fault failed large
    exact holdsBeyond_of_parameters taken
      (contained_resolved state _ (regular_parameters regular taken) fault failed large)

end Decoder

end ProtoLog

end TraceView
