import TraceView.Proofs.Json.Respelling
import TraceView.Proofs.Value.Related
import TraceView.ProtoLog.Decoder

namespace TraceView.ProtoLog

/-!
# Messages that spell 64-bit integers in two ways

A message is not normalised before it is decoded.  Its integers are read at four places instead:
as the time, as the hash, as the parameters of a known message and as those of an unknown one.  A
number and its text mean the same at each of them: as an integer they are the same, and as a text
the number is shown by the very text.
-/

open Json

/-! ## Numbers and their texts -/

/-- A value and the same value, or an integer and its text. -/
inductive SameNumber : Value -> Value -> Prop where
  | refl (value : Value) : SameNumber value value
  | text {n : Int} {text : String} (written : Numeral.write n = .ok text) :
      SameNumber (.int n) (.string text)

/-- A value and the same value, or two lists of the same numbers. -/
inductive SameNumbers : Value -> Value -> Prop where
  | refl (value : Value) : SameNumbers value value
  | list {items others : List Value} (each : List.Forall₂ SameNumber items others) :
      SameNumbers (.list items) (.list others)

/-- What may differ between two respellings of a field of a message. -/
def SameField (name : String) : Value -> Value -> Prop :=
  if name = "elapsedRealtimeNanos" ∨ name = "messageHash" then SameNumber
  else if name = "sint64Params" then SameNumbers
  else Eq

/-- Two messages whose fields are the same up to the texts of integers. -/
inductive SameMessage : Value -> Value -> Prop where
  | refl (value : Value) : SameMessage value value
  | fields {fields others : List (String × Value)}
      (each : Fields.Related SameField fields others) :
      SameMessage (.map fields) (.map others)

namespace SameNumber

variable {value other : Value} (same : SameNumber value other)

include same

theorem isNull : value.isNull = other.isNull := by
  cases same <;> rfl

theorem integer? : value.integer? = other.integer? := by
  cases same with
  | refl => rfl
  | text written => simp only [Value.integer?, Numeral.read_write written]

theorem plainText : value.text = other.text := by
  cases same with
  | refl => rfl
  | text written => exact written

end SameNumber

theorem forall₂_refl (values : List Value) : List.Forall₂ SameNumber values values :=
  List.forall₂_same.mpr fun value _ => .refl value

/-! ## Respellings of a message -/

variable {kind : TraceKind}

theorem sameNumber_of_respelled {tree other : Json}
    (respelled : Respelled kind .number tree other) :
    SameNumber tree.exactValue other.exactValue := by
  cases respelled with
  | same scalar => exact .refl _
  | text wide fits => exact .text (Numeral.write_of_fits fits)
  | array each =>
      rw [each.eq_of_barren barren_narrow rfl]
      exact .refl _
  | object each =>
      rw [each.eq_of_barren barren_narrow fun _ => rfl]
      exact .refl _

theorem sameNumbers_of_items {items others : List Json}
    (respelled : RespelledItems kind .number items others) :
    List.Forall₂ SameNumber (itemValues .decimal items) (itemValues .decimal others) := by
  cases respelled with
  | nil => exact .nil
  | cons first rest => exact .cons (sameNumber_of_respelled first) (sameNumbers_of_items rest)

theorem sameNumbers_of_respelled {tree other : Json}
    (respelled : Respelled kind .parameters tree other) :
    SameNumbers tree.exactValue other.exactValue := by
  cases respelled with
  | same scalar => exact .refl _
  | text wide fits => exact absurd wide not_false
  | array each => exact .list (sameNumbers_of_items each)
  | object each =>
      rw [each.eq_of_barren barren_narrow fun _ => rfl]
      exact .refl _

/-- A member of a message is at the spot that its name has in a message. -/
theorem sameField_of_respelled {name : String} {tree other : Json}
    (respelled : Respelled kind (Spot.message.member kind name) tree other) :
    SameField name tree.exactValue other.exactValue := by
  unfold SameField
  rw [Spot.member] at respelled
  by_cases number : name = "elapsedRealtimeNanos" ∨ name = "messageHash"
  · rw [if_pos number] at respelled ⊢
    exact sameNumber_of_respelled respelled
  · rw [if_neg number] at respelled ⊢
    by_cases parameters : name = "sint64Params"
    · rw [if_pos parameters] at respelled ⊢
      exact sameNumbers_of_respelled respelled
    · rw [if_neg parameters] at respelled ⊢
      exact congrArg Json.exactValue (respelled.eq_of_barren barren_narrow rfl)

theorem sameFields_of_members {members others : List (String × Json)}
    (respelled : RespelledMembers kind .message members others) :
    Fields.Related SameField (memberValues .decimal members) (memberValues .decimal others) := by
  cases respelled with
  | nil => exact .nil
  | cons first rest => exact .cons ⟨rfl, sameField_of_respelled first⟩ (sameFields_of_members rest)

theorem sameMessage_of_respelled {tree other : Json}
    (respelled : Respelled kind .message tree other) :
    SameMessage tree.exactValue other.exactValue := by
  cases respelled with
  | same scalar => exact .refl _
  | text wide fits => exact absurd wide not_false
  | array each =>
      rw [each.eq_of_barren barren_narrow rfl]
      exact .refl _
  | object each => exact .fields (sameFields_of_members each).settle

/-! ## Message texts -/

/-- Parameters that are the same up to the texts of integers. -/
structure Parameters.Same (parameters others : Parameters) : Prop where
  texts : parameters.texts = others.texts
  integers : List.Forall₂ SameNumber parameters.integers others.integers
  doubles : parameters.doubles = others.doubles
  truths : parameters.truths = others.truths

variable {parameters others : Parameters}

theorem Parameters.Same.after (same : parameters.Same others) (directive : Directive) :
    (parameters.after directive).Same (others.after directive) := by
  rcases same with ⟨texts, integers, doubles, truths⟩
  cases directive with
  | percent => exact ⟨texts, integers, doubles, truths⟩
  | text => exact ⟨congrArg List.tail texts, integers, doubles, truths⟩
  | integer radix =>
      refine ⟨texts, ?_, doubles, truths⟩
      change List.Forall₂ SameNumber parameters.integers.tail others.integers.tail
      generalize parameters.integers = left at integers
      generalize others.integers = right at integers
      cases integers with
      | nil => exact .nil
      | cons first rest => exact rest
  | double style => exact ⟨texts, integers, congrArg List.tail doubles, truths⟩
  | truth => exact ⟨texts, integers, doubles, congrArg List.tail truths⟩

/-- An integer directive shows a number and its text alike. -/
theorem parameterText_of_same (radix : Radix) {value other : Value} (same : SameNumber value other) :
    parameterText (.integer radix) value = parameterText (.integer radix) other := by
  simp only [parameterText, same.isNull, same.integer?]

theorem directiveText_of_same (same : parameters.Same others) (directive : Directive) :
    directiveText directive parameters = directiveText directive others := by
  rcases same with ⟨texts, integers, doubles, truths⟩
  cases directive with
  | percent => rfl
  | text => simp only [directiveText, Parameters.next?, texts]
  | integer radix =>
      simp only [directiveText, Parameters.next?]
      generalize parameters.integers = left at integers
      generalize others.integers = right at integers
      cases integers with
      | nil => rfl
      | cons first rest =>
          simp only [List.head?_cons]
          exact parameterText_of_same radix first
  | double style => simp only [directiveText, Parameters.next?, doubles]
  | truth => simp only [directiveText, Parameters.next?, truths]

/-- A template is filled in alike, because each directive takes and leaves the same parameters. -/
theorem fill_of_same (template : List Char) (same : parameters.Same others) :
    fill template parameters = fill template others := by
  induction template, parameters using fill.induct generalizing others with
  | case1 => rfl
  | case2 => rfl
  | case3 c rest parameters unknown inductionHypothesis =>
      simp only [fill, unknown, inductionHypothesis same]
  | case4 c rest parameters directive named fault failed =>
      have failedAlike := (directiveText_of_same same directive).symm.trans failed
      simp only [fill, named, failed, failedAlike]
  | case5 c rest parameters directive named shown showed inductionHypothesis =>
      have showedAlike := (directiveText_of_same same directive).symm.trans showed
      simp only [fill, named, showed, showedAlike, inductionHypothesis (same.after directive)]
  | case6 c next rest parameters plain inductionHypothesis =>
      rw [fill.eq_4 _ c next rest plain, fill.eq_4 _ c next rest plain, inductionHypothesis same]

theorem messageText_of_same (template : String) (same : parameters.Same others) :
    messageText template parameters = messageText template others := by
  rw [messageText, messageText, fill_of_same template.toList same]

/-- The texts of parameters show a number by its very text. -/
theorem mapM_text_of_same {values others : List Value}
    (same : List.Forall₂ SameNumber values others) :
    values.mapM Value.text = others.mapM Value.text := by
  induction same with
  | nil => rfl
  | cons first _ inductionHypothesis =>
      rw [List.mapM_cons, List.mapM_cons, first.plainText, inductionHypothesis]

theorem unresolved_of_same (hash : String) (same : parameters.Same others) :
    Decoder.unresolved hash parameters = Decoder.unresolved hash others := by
  have all : List.Forall₂ SameNumber
      (parameters.texts ++ parameters.integers ++ parameters.doubles ++ parameters.truths)
      (others.texts ++ others.integers ++ others.doubles ++ others.truths) := by
    rw [same.texts, same.doubles, same.truths]
    exact List.rel_append (List.rel_append (List.rel_append (forall₂_refl _) same.integers)
      (forall₂_refl _)) (forall₂_refl _)
  simp only [Decoder.unresolved, mapM_text_of_same all]

theorem resolved_of_same (state : Decoder) (entry : Value) (same : parameters.Same others) :
    state.resolved entry parameters = state.resolved entry others := by
  simp only [Decoder.resolved, messageText_of_same _ same]

/-! ## Decoding -/

variable {fields otherFields : List (String × Value)}

theorem lookup_of_same (same : Fields.Related SameField fields otherFields) {name : String}
    (different : name ≠ "elapsedRealtimeNanos" ∧ name ≠ "messageHash" ∧ name ≠ "sint64Params") :
    fields.lookup name = otherFields.lookup name := by
  have here := same.lookup name
  unfold SameField at here
  rw [if_neg (not_or.mpr ⟨different.1, different.2.1⟩), if_neg different.2.2] at here
  generalize fields.lookup name = first at here
  generalize otherFields.lookup name = second at here
  cases here with
  | none => rfl
  | some equal => rw [equal]

/-- The number below a name is found in either spelling. -/
theorem lookupNumber_of_same (same : Fields.Related SameField fields otherFields) {name : String}
    (number : name = "elapsedRealtimeNanos" ∨ name = "messageHash") :
    Option.Rel SameNumber (fields.lookup name) (otherFields.lookup name) := by
  have here := same.lookup name
  unfold SameField at here
  rwa [if_pos number] at here

theorem family_of_same (same : Fields.Related SameField fields otherFields) {name : String}
    (different : name ≠ "elapsedRealtimeNanos" ∧ name ≠ "messageHash" ∧ name ≠ "sint64Params") :
    Decoder.family name fields = Decoder.family name otherFields := by
  rw [Decoder.family, Decoder.family, lookup_of_same same different]

/-- Taken as sequences, two lists of the same numbers are refused alike or the same numbers. -/
theorem elements_of_same {taken other : Value} (same : SameNumbers taken other) :
    (Exists fun cause : Fault => ViewerConfig.elements taken = .error cause ∧
      ViewerConfig.elements other = .error cause) ∨
    Exists fun values : List Value => Exists fun others : List Value =>
      ViewerConfig.elements taken = .ok values ∧ ViewerConfig.elements other = .ok others ∧
        List.Forall₂ SameNumber values others := by
  cases same with
  | list each => exact Or.inr ⟨_, _, rfl, rfl, each⟩
  | refl =>
      cases outcome : ViewerConfig.elements taken with
      | error cause => exact Or.inl ⟨cause, rfl, rfl⟩
      | ok values => exact Or.inr ⟨values, values, rfl, rfl, forall₂_refl values⟩

/-- The integer parameters of two respellings are refused alike or the same numbers. -/
theorem integers_of_same (same : Fields.Related SameField fields otherFields) :
    (Exists fun cause : Fault => Decoder.family "sint64Params" fields = .error cause ∧
      Decoder.family "sint64Params" otherFields = .error cause) ∨
    Exists fun values : List Value => Exists fun others : List Value =>
      Decoder.family "sint64Params" fields = .ok values ∧
        Decoder.family "sint64Params" otherFields = .ok others ∧
        List.Forall₂ SameNumber values others := by
  have here : Option.Rel SameNumbers (fields.lookup "sint64Params")
      (otherFields.lookup "sint64Params") := same.lookup "sint64Params"
  unfold Decoder.family
  generalize fields.lookup "sint64Params" = first at here
  generalize otherFields.lookup "sint64Params" = second at here
  cases here with
  | none => exact Or.inr ⟨[], [], rfl, rfl, .nil⟩
  | some same => exact elements_of_same same

theorem parameters_of_same (same : Fields.Related SameField fields otherFields) :
    (Exists fun cause : Fault => Decoder.parameters fields = .error cause ∧
      Decoder.parameters otherFields = .error cause) ∨
    Exists fun parameters : Parameters => Exists fun others : Parameters =>
      Decoder.parameters fields = .ok parameters ∧
        Decoder.parameters otherFields = .ok others ∧ parameters.Same others := by
  have texts : Decoder.family "strParams" fields = Decoder.family "strParams" otherFields :=
    family_of_same same (by decide)
  have doubles : Decoder.family "doubleParams" fields = Decoder.family "doubleParams" otherFields :=
    family_of_same same (by decide)
  have truths : Decoder.family "booleanParams" fields =
      Decoder.family "booleanParams" otherFields := family_of_same same (by decide)
  unfold Decoder.parameters
  rw [texts, doubles, truths]
  cases Decoder.family "strParams" otherFields with
  | error cause => exact Or.inl ⟨cause, rfl, rfl⟩
  | ok texts =>
      rcases integers_of_same same with ⟨cause, first, second⟩ | ⟨values, others, first, second, each⟩
      · rw [first, second]
        exact Or.inl ⟨cause, rfl, rfl⟩
      · rw [first, second]
        cases Decoder.family "doubleParams" otherFields with
        | error cause => exact Or.inl ⟨cause, rfl, rfl⟩
        | ok doubles =>
            cases Decoder.family "booleanParams" otherFields with
            | error cause => exact Or.inl ⟨cause, rfl, rfl⟩
            | ok truths => exact Or.inr ⟨_, _, rfl, rfl, rfl, each, rfl, rfl⟩

/-- The hash of a message is the same text in either spelling. -/
theorem hash_of_same (same : Fields.Related SameField fields otherFields) :
    ((fields.lookup "messageHash").getD .null).text =
      ((otherFields.lookup "messageHash").getD .null).text := by
  have here := lookupNumber_of_same same (Or.inr rfl)
  generalize fields.lookup "messageHash" = first at here
  generalize otherFields.lookup "messageHash" = second at here
  cases here with
  | none => rfl
  | some number => exact number.plainText

/-- Two respellings of a message decode to the same, whatever the decoder knows. -/
theorem decode_of_same (state : Decoder) {message other : Value} (same : SameMessage message other) :
    state.decode message = state.decode other := by
  cases same with
  | refl => rfl
  | @fields fields otherFields each =>
      unfold Decoder.decode
      simp only [ViewerConfig.fields, hash_of_same each, bind, Except.bind]
      cases ((otherFields.lookup "messageHash").getD .null).text with
      | error cause => rfl
      | ok hash =>
          rcases parameters_of_same each with
            ⟨cause, first, second⟩ | ⟨parameters, others, first, second, same⟩
          · simp only [first, second]
          · simp only [first, second, unresolved_of_same _ same, resolved_of_same _ _ same]

/-- Two respellings of a message have the same time. -/
theorem stamp?_of_same {message other : Value} (same : SameMessage message other) :
    Decoder.stamp? message = Decoder.stamp? other := by
  cases same with
  | refl => rfl
  | @fields fields otherFields each =>
      have here := lookupNumber_of_same each (Or.inl rfl)
      unfold Decoder.stamp?
      dsimp only
      generalize fields.lookup "elapsedRealtimeNanos" = first at here
      generalize otherFields.lookup "elapsedRealtimeNanos" = second at here
      cases here with
      | none => rfl
      | some number => simp only [Option.bind_some, Value.toInt?, number.integer?]

/-- Two respellings of a record have the same time, and decode to the same. -/
theorem record_of_respelled {tree other : Json}
    (respelled : Respelled .protoLog (.record .protoLog) tree other) :
    Decoder.stamp? tree.exactValue = Decoder.stamp? other.exactValue ∧
      forall state : Decoder, state.decode tree.exactValue = state.decode other.exactValue := by
  have same : SameMessage tree.exactValue other.exactValue := sameMessage_of_respelled respelled
  exact ⟨stamp?_of_same same, fun state => decode_of_same state same⟩

end TraceView.ProtoLog
