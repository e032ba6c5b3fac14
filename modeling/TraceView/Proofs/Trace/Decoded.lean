import TraceView.Proofs.ProtoLog.Entries
import TraceView.Proofs.ProtoLog.Overflow
import TraceView.Proofs.Transition.Respelling
import TraceView.Trace.Decoder

namespace TraceView

/-!
# What decoding a record gives

The fields of a decoded record hold what the record holds, integers that have been read from its
texts, and what stands in the configuration of the decoder.  A record comes from a document, where
every integer can be written; a configuration may be given from elsewhere, and its integers may be
of any size.
-/

namespace ProtoLog

/-- The scalars that a configuration may give to a message. -/
def ViewerConfig.scalars (config : ViewerConfig) : List Value :=
  Value.fieldScalars config.messages ++ config.groups.flatMap fun entry => entry.2.scalars

namespace Decoder

variable {state : Decoder} {item : Value}

theorem mem_known {name : String} {fields : List (String × Value)}
    (member : item ∈ (known name fields).scalars) :
    item = .string unknownField ∨ item ∈ Value.fieldScalars fields := by
  unfold known at member
  cases found : fields.lookup name with
  | none =>
      rw [found] at member
      exact Or.inl (List.mem_singleton.mp member)
  | some value =>
      rw [found] at member
      exact Or.inr (Value.mem_fieldScalars_of_lookup found member)

theorem mem_properties {text : String} {tag level place : Value}
    (member : item ∈ Value.fieldScalars (properties text tag level place)) :
    item = .string text ∨ item ∈ tag.scalars ∨ item ∈ level.scalars ∨ item ∈ place.scalars := by
  simpa only [properties, Value.fieldScalars, Value.scalars, List.mem_append, List.mem_singleton,
    List.not_mem_nil, or_false] using member

/-- The group of a message is one of the configuration, or empty. -/
theorem mem_group {config : ViewerConfig} {key : Value}
    (member : item ∈ (config.group key).scalars) :
    item ∈ config.groups.flatMap fun entry => entry.2.scalars := by
  unfold ViewerConfig.group at member
  cases found : config.groups.find? fun entry => entry.1.sameKey key with
  | none =>
      rw [found] at member
      exact absurd member List.not_mem_nil
  | some entry =>
      rw [found] at member
      exact List.mem_flatMap.mpr ⟨entry, List.mem_of_find?_eq_some found, member⟩

/-- A property of a message is a text, or it stands in the configuration. -/
theorem mem_of_resolved {entry : Value} {all : Parameters} {fields : List (String × Value)}
    (resolved : state.resolved entry all = .ok fields)
    (member : item ∈ Value.fieldScalars fields) :
    (Exists fun text : String => item = .string text) ∨ item ∈ entry.scalars ∨
      item ∈ state.config.groups.flatMap fun entry => entry.2.scalars := by
  unfold Decoder.resolved at resolved
  rcases bind_eq_ok_iff.mp resolved with ⟨members, mapping, resolved⟩
  rw [fields_eq_ok mapping]
  dsimp only at resolved
  split at resolved
  · cases resolved
  · split at resolved
    · rcases bind_eq_ok_iff.mp resolved with ⟨text, _, resolved⟩
      rcases bind_eq_ok_iff.mp resolved with ⟨group, grouped, resolved⟩
      cases resolved
      rcases mem_properties member with same | tagged | levelled | placed
      · exact Or.inl ⟨text, same⟩
      · rcases mem_known tagged with same | within
        · exact Or.inl ⟨_, same⟩
        · refine Or.inr (Or.inr (@mem_group _ _ ((members.lookup "group").getD .null) ?_))
          rw [fields_eq_ok grouped]
          exact within
      · rcases mem_known levelled with same | within
        · exact Or.inl ⟨_, same⟩
        · exact Or.inr (Or.inl within)
      · rcases mem_known placed with same | within
        · exact Or.inl ⟨_, same⟩
        · exact Or.inr (Or.inl within)
    · cases resolved

theorem mem_of_decode {record : Value} {fields : List (String × Value)}
    (decoded : state.decode record = .ok fields) (member : item ∈ Value.fieldScalars fields) :
    (Exists fun text : String => item = .string text) ∨ item ∈ state.config.scalars := by
  unfold decode at decoded
  rcases bind_eq_ok_iff.mp decoded with ⟨names, _, decoded⟩
  rcases bind_eq_ok_iff.mp decoded with ⟨hash, _, decoded⟩
  rcases bind_eq_ok_iff.mp decoded with ⟨all, _, decoded⟩
  split at decoded
  · rcases bind_eq_ok_iff.mp decoded with ⟨text, _, decoded⟩
    cases decoded
    have texts : item = .string text ∨ item ∈ [Value.string unknownField] ∨
        item ∈ [Value.string unknownField] ∨ item ∈ [Value.string unknownField] :=
      mem_properties member
    simp only [List.mem_singleton, or_self] at texts
    rcases texts with same | same <;> exact Or.inl ⟨_, same⟩
  · rename_i present
    rcases mem_of_resolved decoded member with text | own | grouped
    · exact Or.inl text
    · refine Or.inr (List.mem_append_left _ ?_)
      cases found : state.config.messages.lookup hash with
      | none =>
          rw [found] at present
          exact absurd rfl present
      | some entry =>
          rw [found] at own
          exact Value.mem_fieldScalars_of_lookup found own
    · exact Or.inr (List.mem_append_right _ grouped)

end Decoder

end ProtoLog

namespace Transition

/-! ## Transitions -/

/-- A kind of values to which every integer belongs that is read from a text. -/
def HasRead (holds : Value -> Prop) : Prop :=
  forall (text : String) (n : Int), Numeral.read text = some n -> holds (.int n)

variable {holds : Value -> Prop}

mutual

/-- Reading the texts of integers adds integers that have been read. -/
theorem scalars_normalise (read : HasRead holds) (name : String) :
    forall value : Value, (forall item, item ∈ value.scalars -> holds item) ->
      forall item, item ∈ (normalise name value).scalars -> holds item
  | .map fields, held => scalars_normaliseFields read fields held
  | .list items, held => scalars_normaliseItems read name items held
  | .string text, held => by
      change forall item, item ∈ (normaliseText name text).scalars -> holds item
      unfold normaliseText
      split
      · split
        · rename_i found
          exact List.forall_mem_singleton.mpr (read text _ found)
        · exact held
      · exact held
  | .null, held => held
  | .bool _, held => held
  | .int _, held => held
  | .double _, held => held
  | .undefined, held => held
  | .decimal _, held => held
  | .constant _, held => held

theorem scalars_normaliseFields (read : HasRead holds) :
    forall fields : List (String × Value),
      (forall item, item ∈ Value.fieldScalars fields -> holds item) ->
        forall item, item ∈ Value.fieldScalars (normaliseFields fields) -> holds item
  | [], held => held
  | (name, value) :: rest, held => by
      rcases List.forall_mem_append.mp held with ⟨first, others⟩
      exact List.forall_mem_append.mpr
        ⟨scalars_normalise read name value first, scalars_normaliseFields read rest others⟩

theorem scalars_normaliseItems (read : HasRead holds) (name : String) :
    forall items : List Value,
      (forall item, item ∈ Value.itemScalars items -> holds item) ->
        forall item, item ∈ Value.itemScalars (normaliseItems name items) -> holds item
  | [], held => held
  | value :: rest, held => by
      rcases List.forall_mem_append.mp held with ⟨first, others⟩
      exact List.forall_mem_append.mpr
        ⟨scalars_normalise read name value first, scalars_normaliseItems read name rest others⟩

end

/-- Changing a name adds no value. -/
theorem mem_rename {item : Value} {fields : List (String × Value)} {names : String × String}
    (member : item ∈ Value.fieldScalars (rename fields names)) :
    item ∈ Value.fieldScalars fields := by
  unfold rename at member
  cases found : fields.lookup names.1 with
  | none =>
      rw [found] at member
      exact member
  | some value =>
      rw [found] at member
      rcases Value.mem_fieldScalars.mp member with ⟨field, listed, within⟩
      rcases Fields.mem_put listed with here | earlier
      · rw [here] at within
        exact Value.mem_fieldScalars_of_lookup found within
      · exact Value.mem_fieldScalars.mpr ⟨field, (List.mem_filter.mp earlier).1, within⟩

theorem mem_foldl_rename {item : Value} {changes : List (String × String)}
    {fields : List (String × Value)}
    (member : item ∈ Value.fieldScalars (changes.foldl rename fields)) :
    item ∈ Value.fieldScalars fields := by
  induction changes generalizing fields with
  | nil => exact member
  | cons names rest inductionHypothesis => exact mem_rename (inductionHypothesis member)

end Transition

/-! ## Either format -/

namespace Decoder

/-- The scalars that a decoder may give to an entry from its configuration. -/
def scalars : Decoder -> List Value
  | .protoLog state => state.config.scalars
  | .transition => []

variable {decoder : Decoder} {names fields : List (String × Value)}

/-- An object is decoded to a mapping. -/
theorem eq_map_of_decode {decoded : Value} (opened : decoder.decode (.map names) = .ok decoded) :
    Exists fun fields : List (String × Value) => decoded = .map fields := by
  cases decoder with
  | protoLog state =>
      change (state.decode (.map names)).map Value.map = _ at opened
      rcases succeeds_map_iff.mp ⟨decoded, opened⟩ with ⟨found, taken⟩
      rw [taken] at opened
      exact ⟨found, (Except.ok.inj opened).symm⟩
  | transition => exact ⟨_, (Except.ok.inj opened).symm⟩

/-- What a decoded object holds is of a kind to which texts belong and integers that have been read,
if the same is true of the object, or it stands in the configuration. -/
theorem holds_of_decode {holds : Value -> Prop} (texts : forall text, holds (.string text))
    (read : Transition.HasRead holds)
    (held : forall item, item ∈ Value.fieldScalars names -> holds item)
    (opened : decoder.decode (.map names) = .ok (.map fields)) :
    forall item, item ∈ Value.fieldScalars fields -> holds item ∨ item ∈ decoder.scalars := by
  intro item member
  cases decoder with
  | protoLog state =>
      rcases ProtoLog.Decoder.mem_of_decode (Trace.decode_of_log opened) member with
        ⟨text, same⟩ | configured
      · rw [same]
        exact Or.inl (texts text)
      · exact Or.inr configured
  | transition =>
      cases opened
      exact Or.inl (Transition.scalars_normaliseFields read names held item
        (Transition.mem_foldl_rename member))

/-- What a decoded object of a document holds is a number as documents have them, or no number, or
it stands in the configuration. -/
theorem scalars_of_decode (regular : forall item, item ∈ Value.fieldScalars names -> item.IsRegular)
    (opened : decoder.decode (.map names) = .ok (.map fields)) :
    forall item, item ∈ Value.fieldScalars fields -> item.IsRegular ∨ item ∈ decoder.scalars :=
  holds_of_decode (fun _ => trivial) (fun _ _ => Numeral.fits_of_read) regular opened

/-- A message that takes a number beyond the largest double for a double. -/
def Overflows (decoder : Decoder) (record : Value) : Prop :=
  decoder.kind = .protoLog ∧ ProtoLog.Decoder.HoldsBeyond record

/-- The faults of decoding a record of a document. -/
theorem contained_decode {record : Value}
    (regular : forall item, item ∈ record.scalars -> item.IsRegular) :
    FailsOnly (Fault.Contained (decoder.Overflows record)) (decoder.decode record) := by
  cases decoder with
  | protoLog state =>
      apply failsOnly_map
      intro fault failed large
      exact ⟨rfl, ProtoLog.Decoder.contained_decode state regular fault failed large⟩
  | transition =>
      change FailsOnly _ (Transition.decode record)
      unfold Transition.decode
      split
      · exact failsOnly_ok _
      · split
        · exact failsOnly_error (Fault.contained_of_ne (by decide))
        · exact failsOnly_ok _

end Decoder

end TraceView
