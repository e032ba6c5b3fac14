import Mathlib.Data.Int.Order.Basic
import TraceView.Proofs.Outcome
import TraceView.Proofs.Sorting.Stability
import TraceView.Proofs.Tree.Building
import TraceView.Trace.Load

namespace TraceView

/-!
# Traces that are opened from documents

Opening a trace takes three steps: the bytes are read, a decoder finds the records, and the trace
is made of the records with its pipelines.  A decoder always stamps the records and puts them in
order, so the records and the elapsed times of an opened trace are two lists of one length, and
the times ascend.  What is said of opened traces below says so of every decoder, because all
decoders find records in this way.
-/

/-! ## Sorting by time -/

namespace Stamped

theorem sorts_sorted (stamped : Stamped) : Sorting.Sorts Prod.fst stamped stamped.sorted :=
  Sorting.sorts_mergeSort Prod.fst stamped

/-- Sorted records ascend in time. -/
theorem sorted_ascends (stamped : Stamped) : stamped.sorted.Pairwise fun a b => a.1 ≤ b.1 :=
  stamped.sorts_sorted.ascends

/-- Records of one time keep their order when they are sorted. -/
theorem filter_sorted (stamped : Stamped) (ns : Int) :
    stamped.sorted.filter (fun pair => pair.1 = ns) = stamped.filter fun pair => pair.1 = ns :=
  (stamped.sorts_sorted.similar ns).symm

end Stamped

/-! ## Loading -/

/-- Loading does not change the format of a decoder. -/
theorem Decoder.kind_load (decoder : Decoder) (document : Json) (header : Json.Header)
    (settings : Settings) (files : Files) :
    (decoder.load document header settings files).value.1.kind = decoder.kind := by
  cases decoder <;> rfl

/-- A decoder that finds records has stamped them and put them in order. -/
theorem Decoder.load_ofStamped {decoder left : Decoder} {document : Json} {header : Json.Header}
    {settings : Settings} {files : Files} {loaded : Loaded}
    (taken : (decoder.load document header settings files).value = (left, .ok loaded)) :
    Exists fun stamped : Stamped => Exists fun offset : Option Int =>
      loaded = Loaded.ofStamped stamped offset := by
  cases decoder with
  | protoLog state =>
      simp only [Decoder.load, ProtoLog.Decoder.load, Noted.value_andThen, Noted.value_quiet] at taken
      rcases configured : (state.configure document settings files).value with ⟨after, outcome⟩
      rw [configured] at taken
      cases outcome with
      | error cause => cases (Prod.mk.inj taken).2
      | ok done =>
          cases (Prod.mk.inj taken).2
          exact ⟨_, _, rfl⟩
  | transition =>
      simp only [Decoder.load, Noted.value_andThen, Noted.value_quiet] at taken
      cases (Prod.mk.inj taken).2
      exact ⟨_, _, rfl⟩

/-- What a load comes to when a decoder takes the document: the decoder is left as its own load
leaves it, and the trace is made of what it finds. -/
theorem load_of_chosen {decoders : List Decoder} {bytes : List UInt8} {header : Json.Header}
    {document : Json} {place : Nat} {decoder : Decoder}
    (read : Json.readTrace bytes = .ok (header, document))
    (chosen : choose decoders header.names = some (place, decoder)) (settings : Settings)
    (files : Files) (issue : Nat) :
    (load decoders bytes settings files issue).value =
      .taken place (decoder.load document header settings files).value.1
        ((decoder.load document header settings files).value.2.bind fun loaded =>
          (Trace.ofLoaded decoder.kind loaded settings.applyOperations none issue).mapError
            .fault) := by
  simp only [load, read, chosen, Noted.value_andThen]
  rcases (decoder.load document header settings files).value with ⟨left, outcome⟩
  cases outcome <;> rfl

/-- Exactly when a load opens a trace: the bytes are a document with a header, a decoder is chosen
by the header and finds records, and the trace can be made of them. -/
theorem load_eq_opened_iff {decoders : List Decoder} {bytes : List UInt8} {settings : Settings}
    {files : Files} {issue place : Nat} {left : Decoder} {trace : Trace} :
    (load decoders bytes settings files issue).value = .taken place left (.ok trace) ↔
      Exists fun header : Json.Header => Exists fun document : Json =>
        Exists fun decoder : Decoder => Exists fun loaded : Loaded =>
          Json.readTrace bytes = .ok (header, document) ∧
          choose decoders header.names = some (place, decoder) ∧
          (decoder.load document header settings files).value = (left, .ok loaded) ∧
          Trace.ofLoaded decoder.kind loaded settings.applyOperations none issue = .ok trace := by
  constructor
  · intro opened
    cases read : Json.readTrace bytes with
    | error cause =>
        simp only [load, read, Noted.value_quiet, reduceCtorEq] at opened
    | ok pair =>
        rcases pair with ⟨header, document⟩
        cases chosen : choose decoders header.names with
        | none => simp only [load, read, chosen, Noted.value_quiet, reduceCtorEq] at opened
        | some found =>
            rcases found with ⟨position, decoder⟩
            rw [load_of_chosen read chosen, LoadAttempt.taken.injEq] at opened
            rcases opened with ⟨samePlace, sameLeft, made⟩
            subst samePlace sameLeft
            rcases bind_eq_ok_iff.mp made with ⟨loaded, found, made⟩
            exact ⟨header, document, decoder, loaded, rfl, chosen, Prod.ext rfl found,
              mapError_eq_ok_iff.mp made⟩
  · rintro ⟨header, document, decoder, loaded, read, chosen, taken, made⟩
    rw [load_of_chosen read chosen, taken]
    simp only [Except.bind, made, Except.mapError]

/-! ## A capture of one transition

The smallest capture with something to calculate serves as an example of an opened trace. -/

/-- A capture of a transition that was played. -/
def playedText : List UInt8 :=
  ("\x7b\"transitions\":[\x7b\"wmData\":" ++
    "\x7b\"sendTimeNs\":7,\"finishTimeNs\":9\x7d\x7d]\x7d").toUTF8.toList

def played : Json :=
  .object [("transitions", .array [.object [("wmData",
    .object [("sendTimeNs", .integer 7), ("finishTimeNs", .integer 9)])]])]

def playedRecord : Value :=
  .map [("wmData", .map [("sendTimeNs", .int 7), ("finishTimeNs", .int 9)])]

theorem read_playedText : Json.read .trace playedText = .whole played := by
  with_unfolding_all rfl

theorem readTrace_playedText : Json.readTrace playedText = .ok (⟨["transitions"], []⟩, played) := by
  rw [Json.readTrace, read_playedText]
  rfl

/-- A capture of one transition that records no offset. -/
theorem load_single {document : Json} {header : Json.Header} {fields : List (String × Value)}
    {ns : Int}
    (found : (Json.partsAt "transitions.item" [] document).map Json.exactValue = [.map fields])
    (stamp : Transition.stamp? fields = some ns) (unknown : Transition.recordedOffset header = none)
    (settings : Settings) (files : Files) :
    (Decoder.transition.load document header settings files).value =
      (.transition, .ok ⟨[.map fields], [ns], settings.offset⟩) := by
  simp only [Decoder.load, Transition.load, found, Transition.stampAll, Transition.stampRecord, stamp,
    Noted.value_andThen, Noted.value_quiet, unknown, Option.or_none, Loaded.ofStamped, Stamped.sorted,
    List.mergeSort_singleton, List.map_cons, List.map_nil]

/-- A log of one message that records no offset. -/
theorem load_message {document : Json} {header : Json.Header} {record : Value} {ns : Int}
    {state after : ProtoLog.Decoder}
    (found : (Json.partsAt "log.item" [] document).map Json.exactValue = [record])
    (stamp : ProtoLog.Decoder.stamp? record = some ns)
    (unknown : ProtoLog.Decoder.recordedOffset header = none) {settings : Settings} {files : Files}
    (configured : (state.configure document settings files).value = (after, .ok ())) :
    ((Decoder.protoLog state).load document header settings files).value =
      (.protoLog after, .ok ⟨[record], [ns], settings.offset⟩) := by
  have stamped : ProtoLog.Decoder.messages document = ([(ns, record)], 0) := by
    simp only [ProtoLog.Decoder.messages, found, List.filterMap_cons, stamp, Option.map_some,
      List.filterMap_nil, List.length_cons, List.length_nil, Nat.sub_self]
  simp only [Decoder.load, ProtoLog.Decoder.load, Noted.value_andThen, Noted.value_quiet, configured,
    ProtoLog.Decoder.read, stamped, unknown, Option.or_none, Loaded.ofStamped, Stamped.sorted,
    List.mergeSort_singleton, List.map_cons, List.map_nil]

theorem load_played (settings : Settings) (files : Files) :
    (Decoder.transition.load played ⟨["transitions"], []⟩ settings files).value =
      (.transition, .ok ⟨[playedRecord], [7], settings.offset⟩) :=
  load_single rfl rfl rfl settings files

namespace Trace

/-- What it means that a trace is opened from bytes: a decoder finds the records of the document
that the bytes spell, and each entry goes through the pipeline that is given for the trace, or
through the one that the settings ask for if none is given. -/
inductive OpenedFrom (bytes : List UInt8) (settings : Settings) (files : Files)
    (given : Option Pipeline) : Trace -> Prop where
  | intro {header : Json.Header} {document : Json} {decoder left : Decoder} {loaded : Loaded}
      {issue : Nat} {trace : Trace}
      (read : Json.readTrace bytes = .ok (header, document))
      (taken : (decoder.load document header settings files).value = (left, .ok loaded))
      (made : ofLoaded decoder.kind loaded settings.applyOperations given issue = .ok trace) :
      OpenedFrom bytes settings files given trace

/-- The trace of the played transition as it is opened without anything else being asked for. -/
def playedTrace : Trace :=
  ⟨.transition, [playedRecord], [7], none,
    [.formatters .standard, .duration .standard, .status "status"],
    [.formatters .standard, .duration .standard, .status "status"]⟩

theorem openedFrom_of_load {decoders : List Decoder} {bytes : List UInt8} {settings : Settings}
    {files : Files} {issue place : Nat} {left : Decoder} {trace : Trace}
    (opened : (load decoders bytes settings files issue).value = .taken place left (.ok trace)) :
    OpenedFrom bytes settings files none trace := by
  rcases load_eq_opened_iff.mp opened with ⟨header, document, decoder, loaded, read, _, taken, made⟩
  exact .intro read taken made

theorem load_playedText : (load Decoder.standard playedText .standard .nowhere 0).value =
    .taken 1 .transition (.ok playedTrace) :=
  load_eq_opened_iff.mpr
    ⟨_, _, _, _, readTrace_playedText, rfl, load_played .standard .nowhere, rfl⟩

/-- A trace holds what loading has found; only its pipelines depend on anything else. -/
theorem ofLoaded_fields {kind : TraceKind} {loaded : Loaded} {applyOperations : Bool}
    {given : Option Pipeline} {issue : Nat} {trace : Trace}
    (made : ofLoaded kind loaded applyOperations given issue = .ok trace) :
    trace.kind = kind ∧ trace.records = loaded.records ∧ trace.elapsed = loaded.elapsed ∧
      trace.offset = loaded.offset := by
  unfold ofLoaded at made
  cases given with
  | some pipeline =>
      cases made
      exact ⟨rfl, rfl, rfl, rfl⟩
  | none =>
      cases applyOperations with
      | false =>
          cases made
          exact ⟨rfl, rfl, rfl, rfl⟩
      | true =>
          simp only [if_true, bind_eq_ok_iff] at made
          rcases made with ⟨elapsed, _, real, _, made⟩
          cases made
          exact ⟨rfl, rfl, rfl, rfl⟩

/-- The records and the times of an opened trace come from one list of stamped records. -/
theorem OpenedFrom.stamped {bytes : List UInt8} {settings : Settings} {files : Files}
    {given : Option Pipeline} {trace : Trace} (opened : OpenedFrom bytes settings files given trace) :
    Exists fun stamped : Stamped =>
      trace.records = stamped.sorted.map (·.2) ∧ trace.elapsed = stamped.sorted.map (·.1) := by
  rcases opened with @⟨header, document, decoder, left, loaded, issue, _, read, taken, made⟩
  rcases Decoder.load_ofStamped taken with ⟨stamped, offset, found⟩
  rcases ofLoaded_fields made with ⟨_, records, elapsed, _⟩
  rw [found] at records elapsed
  exact ⟨stamped, records, elapsed⟩

/-- Every entry of an opened trace has one elapsed time. -/
theorem OpenedFrom.length_elapsed {bytes : List UInt8} {settings : Settings} {files : Files}
    {given : Option Pipeline} {trace : Trace} (opened : OpenedFrom bytes settings files given trace) :
    trace.elapsed.length = trace.length := by
  rcases opened.stamped with ⟨stamped, records, elapsed⟩
  rw [length, records, elapsed, List.length_map, List.length_map]

/-- The elapsed times of an opened trace ascend. -/
theorem OpenedFrom.elapsed_ascends {bytes : List UInt8} {settings : Settings} {files : Files}
    {given : Option Pipeline} {trace : Trace} (opened : OpenedFrom bytes settings files given trace) :
    trace.elapsed.Pairwise (· ≤ ·) := by
  rcases opened.stamped with ⟨stamped, _, elapsed⟩
  rw [elapsed, List.pairwise_map]
  exact stamped.sorted_ascends

/-! ## Entries -/

/-- An entry is its untouched tree with the pipeline of its clock applied. -/
theorem value_entry (trace : Trace) (decoder : Decoder) (index : Value) (domain : Domain) :
    (trace.entry decoder index domain).value =
      (trace.rawEntry decoder index domain).map fun tree =>
        ((trace.pipeline domain).steps tree).value := by
  unfold entry
  cases trace.rawEntry decoder index domain <;> rfl

/-- The number of an entry of the trace asks for this entry. -/
theorem position_of_fin (trace : Trace) (place : Fin trace.length) :
    trace.position (.int place.val) = .ok place := by
  have inside : 0 ≤ (place.val : Int) ∧ (place.val : Int).toNat < trace.length :=
    ⟨Int.natCast_nonneg _, by simpa only [Int.toNat_natCast] using place.isLt⟩
  exact dif_pos inside

/-- Only the number of an entry asks for it. -/
theorem position_eq_ok {trace : Trace} {index : Value} {place : Fin trace.length}
    (found : trace.position index = .ok place) : index = .int place.val := by
  unfold position at found
  cases index with
  | int n =>
      simp only at found
      split at found
      · rename_i inside
        cases found
        exact congrArg Value.int (Int.toNat_of_nonneg inside.1).symm
      · cases found
  | _ => cases found

/-- A value that is the number of no entry asks for none.  The refusal shows the value, and there
is only the fault of its text if it has no text. -/
theorem position_of_outside (trace : Trace) {index : Value}
    (outside : forall place : Fin trace.length, index ≠ .int place.val) :
    trace.position index = .error (match index.text with
      | .ok text => EntryError.outOfRange text trace.length
      | .error cause => .fault cause) := by
  unfold position
  cases index with
  | int n =>
      have refused : ¬ (0 ≤ n ∧ n.toNat < trace.length) := by
        rintro ⟨positive, small⟩
        exact outside ⟨n.toNat, small⟩ (congrArg Value.int (Int.toNat_of_nonneg positive).symm)
      exact dif_neg refused
  | _ => rfl

/-- An index that is the number of no entry is refused on either clock, before anything else is
looked at. -/
theorem rawEntry_of_outside {trace : Trace} {index : Value}
    (outside : forall place : Fin trace.length, index ≠ .int place.val)
    (decoder : Decoder) (domain : Domain) :
    trace.rawEntry decoder index domain = .error (match index.text with
      | .ok text => EntryError.outOfRange text trace.length
      | .error cause => .fault cause) := by
  rw [rawEntry, position_of_outside trace outside]
  rfl

/-- What an untouched entry is made of. -/
theorem rawEntry_eq_ok {trace : Trace} {decoder : Decoder} {index : Value} {domain : Domain}
    {tree : Node} (found : trace.rawEntry decoder index domain = .ok tree) :
    Exists fun place : Fin trace.length => Exists fun stamp : Timestamp =>
      Exists fun fields : List (String × Value) =>
        trace.position index = .ok place ∧ trace.timestamp place domain = .ok stamp ∧
        trace.decodeEntry decoder place = .ok fields ∧
        buildEntry trace.kind fields stamp = .ok tree := by
  unfold rawEntry at found
  simp only [bind_eq_ok_iff] at found
  rcases found with ⟨place, atPlace, stamp, stamped, fields, decoded, built⟩
  refine ⟨place, stamp, fields, atPlace, stamped, decoded, ?_⟩
  cases outcome : buildEntry trace.kind fields stamp with
  | ok grown =>
      rw [outcome] at built
      cases built
      rfl
  | error cause =>
      rw [outcome] at built
      cases cause <;> cases built

/-- A tree of an entry is the tree of its fields, which has no child with the name of the
timestamp, with the timestamp at the end. -/
theorem buildEntry_eq_ok {kind : TraceKind} {fields : List (String × Value)} {stamp : Timestamp}
    {tree : Node} (built : buildEntry kind fields stamp = .ok tree) :
    Exists fun bare : Node =>
      Node.ofFields kind.rootId kind.entryName fields = .ok bare ∧
        "timestamp" ∉ bare.childNames ∧
        tree = { bare with
          children := bare.children ++ [Node.leaf (bare.id ++ ".timestamp") "timestamp"
            (.int stamp.nanoseconds) .raw (some stamp.domain.formatter)] } := by
  unfold buildEntry at built
  cases outcome : Node.ofFields kind.rootId kind.entryName fields with
  | error cause =>
      rw [outcome] at built
      cases built
  | ok bare =>
      rw [outcome] at built
      rcases Spec.attach_eq_ok_iff.mp built with ⟨_, free, grown⟩
      exact ⟨bare, rfl, free, grown⟩

/-- The fields of an entry are those of its decoded record. -/
theorem decodeEntry_eq_ok {trace : Trace} {decoder : Decoder} {place : Fin trace.length}
    {fields : List (String × Value)} (decoded : trace.decodeEntry decoder place = .ok fields) :
    decoder.decode (trace.record place) = .ok (.map fields) := by
  unfold decodeEntry at decoded
  cases outcome : decoder.decode (trace.record place) with
  | error cause =>
      rw [outcome] at decoded
      cases cause <;> cases decoded
  | ok value =>
      rw [outcome] at decoded
      cases value with
      | map found =>
          cases decoded
          rfl
      | _ => cases decoded

/-- What the tree of an entry is made of: the decoded fields, the timestamp and the pipeline. -/
theorem entry_eq_ok {trace : Trace} {decoder : Decoder} {place : Fin trace.length} {domain : Domain}
    {tree : Node} (shown : (trace.entry decoder (.int place.val) domain).value = .ok tree) :
    Exists fun stamp : Timestamp => Exists fun fields : List (String × Value) =>
      Exists fun raw : Node =>
        trace.timestamp place domain = .ok stamp ∧
        decoder.decode (trace.record place) = .ok (.map fields) ∧
        buildEntry trace.kind fields stamp = .ok raw ∧
        tree = ((trace.pipeline domain).steps raw).value := by
  rw [value_entry] at shown
  cases found : trace.rawEntry decoder (.int place.val) domain with
  | error cause =>
      rw [found] at shown
      cases shown
  | ok raw =>
      rw [found] at shown
      rcases rawEntry_eq_ok found with ⟨other, stamp, fields, atPlace, stamped, decoded, built⟩
      rw [position_of_fin] at atPlace
      cases atPlace
      exact ⟨stamp, fields, raw, stamped, decodeEntry_eq_ok decoded, built,
        (Except.ok.inj shown).symm⟩

end Trace

end TraceView
