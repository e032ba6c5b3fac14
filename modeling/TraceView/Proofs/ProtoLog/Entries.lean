import TraceView.Proofs.Trace.Opened

namespace TraceView

/-!
# Entries of logs

A message is decoded to four properties, and none of them has the name of the timestamp.  A log has
nothing to calculate either, so the tree of an entry is the tree of its message with the timestamp
at the end.  What two decoders of logs say of an entry is the same exactly when the trees of the
message are.
-/

/-! ## Decoded messages -/

namespace ProtoLog.Decoder

variable {state : Decoder} {record : Value} {fields : List (String × Value)}

/-- A message that the configuration knows has its four properties and nothing else. -/
theorem properties_of_resolved {entry : Value} {parameters : Parameters}
    (resolved : state.resolved entry parameters = .ok fields) :
    Exists fun text : String => Exists fun tag : Value => Exists fun level : Value =>
      Exists fun place : Value => fields = properties text tag level place := by
  unfold Decoder.resolved at resolved
  simp only [bind_eq_ok_iff] at resolved
  rcases resolved with ⟨members, _, resolved⟩
  split at resolved
  · cases resolved
  · split at resolved
    · simp only [bind_eq_ok_iff] at resolved
      rcases resolved with ⟨text, _, group, _, resolved⟩
      cases resolved
      exact ⟨_, _, _, _, rfl⟩
    · cases resolved

/-- So has every message. -/
theorem properties_of_decode (decoded : state.decode record = .ok fields) :
    Exists fun text : String => Exists fun tag : Value => Exists fun level : Value =>
      Exists fun place : Value => fields = properties text tag level place := by
  unfold decode at decoded
  simp only [bind_eq_ok_iff] at decoded
  rcases decoded with ⟨names, _, hash, _, parameters, _, decoded⟩
  generalize (state.config.messages.lookup hash).getD .null = entry at decoded
  cases entry with
  | null =>
      simp only [bind_eq_ok_iff] at decoded
      rcases decoded with ⟨text, _, decoded⟩
      cases decoded
      exact ⟨_, _, _, _, rfl⟩
  | _ => exact properties_of_resolved decoded

/-- What is shown of a message that is not resolved: its hash and its parameters. -/
def Unresolved (record : Value) (fields : List (String × Value)) : Prop :=
  Exists fun names : List (String × Value) => Exists fun hash : String =>
    Exists fun all : Parameters => Exists fun text : String =>
      record = .map names ∧ ((names.lookup "messageHash").getD .null).text = .ok hash ∧
        parameters names = .ok all ∧ unresolved hash all = .ok text ∧
        fields = properties text (.string unknownField) (.string unknownField)
          (.string unknownField)

/-- A decoder without a configuration resolves no message. -/
theorem unresolved_of_fresh (decoded : fresh.decode record = .ok fields) :
    Unresolved record fields := by
  unfold decode at decoded
  simp only [bind_eq_ok_iff] at decoded
  rcases decoded with ⟨names, mapping, hash, written, all, read, decoded⟩
  rcases bind_eq_ok_iff.mp decoded with ⟨text, shown, decoded⟩
  cases record with
  | map members =>
      cases mapping
      cases decoded
      exact ⟨_, _, _, _, rfl, written, read, shown, rfl⟩
  | _ => cases mapping

end ProtoLog.Decoder

/-! ## Entries of logs -/

namespace Trace

variable {trace : Trace}

/-- The tree of an entry without its timestamp. -/
def bareEntry (trace : Trace) (decoder : Decoder) (place : Fin trace.length) :
    Except EntryError Node := do
  let fields <- trace.decodeEntry decoder place
  match Node.ofFields trace.kind.rootId trace.kind.entryName fields with
  | .ok tree => .ok tree
  | .error (.tree cause) => .error (.malformed trace.kind place cause)
  | .error (.name cause) => .error (.fault cause)

/-- A tree with a timestamp at its end. -/
def stampTree (stamp : Timestamp) (tree : Node) : Node :=
  { tree with
    children := tree.children ++ [Node.leaf (tree.id ++ ".timestamp") "timestamp"
      (.int stamp.nanoseconds) .raw (some stamp.domain.formatter)] }

/-- Trees with one timestamp are the same only if they are without it. -/
theorem stampTree_injective (stamp : Timestamp) : Function.Injective (stampTree stamp) := by
  intro first second same
  cases first
  cases second
  simp only [stampTree, Node.mk.injEq] at same ⊢
  rcases same with ⟨sameId, sameName, sameValue, sameSource, sameFormatter, sameRoot, sameRootId,
    sameMark, sameChildren⟩
  exact ⟨sameId, sameName, sameValue, sameSource, sameFormatter, sameRoot, sameRootId, sameMark,
    (List.append_inj' sameChildren rfl).1⟩

theorem decode_of_log {state : ProtoLog.Decoder} {record : Value} {fields : List (String × Value)}
    (decoded : (Decoder.protoLog state).decode record = .ok (.map fields)) :
    state.decode record = .ok fields := by
  change (state.decode record).map Value.map = (Except.ok fields).map Value.map at decoded
  exact map_injective_of_injective (fun _ _ same => Value.map.inj same) decoded

/-- The untouched entry is its tree with the timestamp, if no field has the name of this. -/
theorem rawEntry_of_free {decoder : Decoder} {index : Value} {place : Fin trace.length}
    {domain : Domain} {stamp : Timestamp} (found : trace.position index = .ok place)
    (stamped : trace.timestamp place domain = .ok stamp)
    (free : forall fields, trace.decodeEntry decoder place = .ok fields ->
      fields.lookup "timestamp" = none) :
    trace.rawEntry decoder index domain =
      (trace.bareEntry decoder place).map (stampTree stamp) := by
  simp only [rawEntry, bareEntry, found, stamped, bind, Except.bind]
  cases decoded : trace.decodeEntry decoder place with
  | error cause => rfl
  | ok fields =>
      cases built : Node.ofFields trace.kind.rootId trace.kind.entryName fields with
      | error cause =>
          simp only [buildEntry, built]
          cases cause <;> rfl
      | ok bare =>
          have missing : "timestamp" ∉ bare.childNames :=
            (Node.ofFields_eq_ok built).2.2 "timestamp" (free fields decoded)
          have attached : Spec.attach bare (Node.leaf (bare.id ++ ".timestamp") "timestamp"
              (.int stamp.nanoseconds) .raw (some stamp.domain.formatter)) =
                .ok (stampTree stamp bare) :=
            Spec.attach_eq_ok_iff.mpr ⟨rfl, missing, rfl⟩
          simp only [buildEntry, built, attached]
          rfl

/-- No message has a property in the place of the timestamp. -/
theorem rawEntry_of_log {state : ProtoLog.Decoder} {index : Value} {place : Fin trace.length}
    {domain : Domain} {stamp : Timestamp} (found : trace.position index = .ok place)
    (stamped : trace.timestamp place domain = .ok stamp) :
    trace.rawEntry (.protoLog state) index domain =
      (trace.bareEntry (.protoLog state) place).map (stampTree stamp) := by
  apply rawEntry_of_free found stamped
  intro fields decoded
  rcases ProtoLog.Decoder.properties_of_decode (decode_of_log (decodeEntry_eq_ok decoded)) with
    ⟨_, _, _, _, same⟩
  rw [same]
  rfl

/-- The trace of what loading has found in a log. -/
def ofLog (loaded : Loaded) : Trace :=
  ⟨.protoLog, loaded.records, loaded.elapsed, loaded.offset, [], []⟩

/-- Such a trace can always be made, and has nothing to calculate. -/
theorem ofLoaded_log (loaded : Loaded) (applyOperations : Bool) (issue : Nat) :
    ofLoaded .protoLog loaded applyOperations none issue = .ok (ofLog loaded) := by
  cases applyOperations <;> rfl

theorem pipeline_ofLog (loaded : Loaded) (domain : Domain) : (ofLog loaded).pipeline domain = [] := by
  cases domain <;> rfl

/-- An entry without anything to calculate is its untouched tree. -/
theorem value_entry_of_plain {domain : Domain} (plain : trace.pipeline domain = [])
    (decoder : Decoder) (index : Value) :
    (trace.entry decoder index domain).value = trace.rawEntry decoder index domain := by
  rw [value_entry, plain]
  cases trace.rawEntry decoder index domain <;> rfl

/-- Two decoders give one answer exactly when the entry that is asked for is the same without its
timestamp.  If no entry is asked for, or one without a timestamp, the answers are the same. -/
theorem entry_of_log_eq_iff {domain : Domain} (plain : trace.pipeline domain = [])
    (first second : ProtoLog.Decoder) (index : Value) :
    (trace.entry (.protoLog first) index domain).value =
        (trace.entry (.protoLog second) index domain).value ↔
      forall (place : Fin trace.length) (stamp : Timestamp), index = .int place.val ->
        trace.timestamp place domain = .ok stamp ->
          trace.bareEntry (.protoLog first) place = trace.bareEntry (.protoLog second) place := by
  rw [value_entry_of_plain plain, value_entry_of_plain plain]
  constructor
  · intro same place stamp asked stamped
    subst asked
    have found := position_of_fin trace place
    rw [rawEntry_of_log found stamped, rawEntry_of_log found stamped] at same
    exact map_injective_of_injective (stampTree_injective stamp) same
  · intro same
    cases found : trace.position index with
    | error cause => simp only [rawEntry, found, bind, Except.bind]
    | ok place =>
        cases stamped : trace.timestamp place domain with
        | error cause => simp only [rawEntry, found, stamped, bind, Except.bind]
        | ok stamp =>
            rw [rawEntry_of_log found stamped, rawEntry_of_log found stamped,
              same place stamp (position_eq_ok found) stamped]

end Trace

/-! ## Traces of logs -/

/-- A log is loaded in two steps: its configuration is found, which may fail, and then its messages
are, which cannot. -/
theorem ProtoLog.Decoder.value_load (state : Decoder) (document : Json) (header : Json.Header)
    (settings : Settings) (files : Files) :
    (state.load document header settings files).value =
      ((state.configure document settings files).value.1,
        (state.configure document settings files).value.2.map fun _ =>
          (read document header settings).value) := by
  rw [load, Noted.value_andThen]
  rcases (state.configure document settings files).value with ⟨after, outcome⟩
  cases outcome <;> rfl

/-- What a load comes to when a decoder of logs takes the document. -/
theorem load_log_of_chosen {decoders : List Decoder} {bytes : List UInt8} {header : Json.Header}
    {document : Json} {place : Nat} {state : ProtoLog.Decoder}
    (read : Json.readTrace bytes = .ok (header, document))
    (chosen : choose decoders header.names = some (place, .protoLog state)) (settings : Settings)
    (files : Files) (issue : Nat) :
    (load decoders bytes settings files issue).value =
      .taken place (.protoLog (state.configure document settings files).value.1)
        ((state.configure document settings files).value.2.map fun _ =>
          Trace.ofLog (ProtoLog.Decoder.read document header settings).value) := by
  have loaded := state.value_load document header settings files
  rw [load_of_chosen read chosen]
  simp only [Decoder.load, Noted.value_andThen, Noted.value_quiet, loaded, Decoder.kind,
    Trace.ofLoaded_log]
  cases (state.configure document settings files).value.2 <;> rfl

/-- A trace of a log has nothing to calculate. -/
theorem pipeline_of_load {decoders : List Decoder} {bytes : List UInt8} {settings : Settings}
    {files : Files} {issue place : Nat} {left : ProtoLog.Decoder} {trace : Trace}
    (opened : (load decoders bytes settings files issue).value =
      .taken place (.protoLog left) (.ok trace)) (domain : Domain) :
    trace.pipeline domain = [] := by
  rcases load_eq_opened_iff.mp opened with ⟨header, document, decoder, loaded, _, _, taken, made⟩
  have kind := decoder.kind_load document header settings files
  rw [taken] at kind
  rw [← kind, show (Decoder.protoLog left).kind = .protoLog from rfl, Trace.ofLoaded_log] at made
  cases made
  exact Trace.pipeline_ofLog loaded domain

end TraceView
