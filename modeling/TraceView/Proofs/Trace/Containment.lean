import TraceView.Proofs.Trace.Decoded
import TraceView.Proofs.Trace.Records
import TraceView.Proofs.Tree.Contents

namespace TraceView

/-!
# Errors of entries

Whatever a record holds, an entry that is asked for either is refused as one that cannot be decoded,
or becomes a tree that can be shown and served.  Two things stand against this.

A number beyond the largest double is reported as a failure of its own when a message takes it for
a double.  And an integer is shown and served by its text, which an integer with too many digits
does not have.  Integers of a document have a text; the ones that may have none are the times that
are calculated from the document and the integers of a configuration that has been given to the
decoder.
-/

/-- A value with a text, or one that the decoder has in its configuration. -/
def Decoder.Vouches (decoder : Decoder) (value : Value) : Prop :=
  value.IsScalar ∧ (value.Fits ∨ value ∈ decoder.scalars)

theorem Decoder.vouches_null (decoder : Decoder) : decoder.Vouches .null :=
  ⟨trivial, Or.inl fun _ impossible => nomatch impossible⟩

/-- What a node holds of a decoded scalar. -/
theorem Decoder.vouches_scalar {decoder : Decoder} {item : Value} (single : item.IsScalar)
    (known : item.IsRegular ∨ item ∈ decoder.scalars) : decoder.Vouches (Spec.scalar item) := by
  cases item with
  | int n =>
      refine ⟨trivial, ?_⟩
      rcases known with regular | configured
      · exact Or.inl (Value.fits_int_iff.mpr regular)
      · exact Or.inr configured
  | list items => exact single.elim
  | map fields => exact single.elim
  | _ => exact ⟨trivial, Or.inl fun _ impossible => nomatch impossible⟩

/-- An error that says of an entry that it cannot be decoded. -/
def EntryError.IsDecodeError (kind : TraceKind) (index : Nat) : EntryError -> Prop
  | .undecodable format place _ => format = kind ∧ place = index
  | .malformed format place _ => format = kind ∧ place = index
  | _ => False

/-- How a fault of decoding is reported of an entry. -/
def EntryError.ofFault (kind : TraceKind) (index : Nat) : Fault -> EntryError
  | .tooLarge => .fault .tooLarge
  | cause => .undecodable kind index cause

theorem EntryError.ofFault_injective (kind : TraceKind) (index : Nat) :
    Function.Injective (ofFault kind index) := by
  intro first second same
  cases first <;> cases second <;> first | rfl | cases same

namespace Trace

/-- Why an entry may be refused: its record cannot be decoded, or it has a number that is too large
for a double. -/
def Refuses (trace : Trace) (decoder : Decoder) (place : Fin trace.length) (error : EntryError) :
    Prop :=
  error.IsDecodeError trace.kind place ∨
    (error = .fault .tooLarge ∧ decoder.Overflows (trace.record place))

variable {bytes : List UInt8} {settings : Settings} {files : Files} {given : Option Pipeline}
  {trace : Trace} {decoder : Decoder} {place : Fin trace.length}

/-- A record of an opened trace is an object with scalars of a document. -/
theorem OpenedFrom.spelled_record (opened : OpenedFrom bytes settings files given trace)
    (place : Fin trace.length) : Exists fun names : List (String × Value) =>
      trace.record place = .map names ∧
        forall item, item ∈ Value.fieldScalars names -> item.IsSpelled := by
  rcases opened.record place with ⟨document, part, ns, read, listed, same, stamped, _⟩
  rcases TraceKind.map_of_stamp? stamped with ⟨names, mapping⟩
  have regular := (Json.regular_read read).partsAt _ _ part listed
  refine ⟨names, mapping, ?_⟩
  have values := regular.exactValue
  rw [same, mapping] at values
  exact values

theorem OpenedFrom.regular_record (opened : OpenedFrom bytes settings files given trace)
    (place : Fin trace.length) : Exists fun names : List (String × Value) =>
      trace.record place = .map names ∧
        forall item, item ∈ Value.fieldScalars names -> item.IsRegular := by
  rcases opened.spelled_record place with ⟨names, mapping, spelled⟩
  exact ⟨names, mapping, fun item member => (spelled item member).isRegular⟩

/-- The timestamp of an entry on a clock that the trace has timestamps on. -/
theorem OpenedFrom.timestamp_carried (opened : OpenedFrom bytes settings files given trace)
    (place : Fin trace.length) {domain : Domain} {shift : Int}
    (carried : trace.shift? domain = some shift) :
    Exists fun stamp : Timestamp => trace.timestamp place domain = .ok stamp := by
  have inside : place.val < trace.elapsed.length := by
    rw [opened.length_elapsed]
    exact place.isLt
  simp only [timestamp, List.getElem?_eq_getElem inside, carried]
  exact ⟨_, rfl⟩

theorem decodeEntry_of_error {cause : Fault}
    (failed : decoder.decode (trace.record place) = .error cause) :
    trace.decodeEntry decoder place = .error (.ofFault trace.kind place cause) := by
  unfold decodeEntry
  rw [failed]
  cases cause <;> rfl

theorem decodeEntry_of_ok {names : List (String × Value)} {value : Value}
    (record : trace.record place = .map names)
    (decoded : decoder.decode (trace.record place) = .ok value) :
    Exists fun fields : List (String × Value) => trace.decodeEntry decoder place = .ok fields := by
  have mapping := decoded
  rw [record] at mapping
  rcases Decoder.eq_map_of_decode mapping with ⟨fields, same⟩
  refine ⟨fields, ?_⟩
  unfold decodeEntry
  rw [decoded, same]

/-- A record is decoded, or the entry is at fault, or a number is too large. -/
theorem decodeEntry_failsOnly {names : List (String × Value)}
    (record : trace.record place = .map names)
    (regular : forall item, item ∈ Value.fieldScalars names -> item.IsRegular) :
    FailsOnly (trace.Refuses decoder place) (trace.decodeEntry decoder place) := by
  have contained : FailsOnly (Fault.Contained (decoder.Overflows (trace.record place)))
      (decoder.decode (trace.record place)) := by
    apply Decoder.contained_decode
    rw [record]
    exact regular
  cases outcome : decoder.decode (trace.record place) with
  | ok value =>
      rcases decodeEntry_of_ok record outcome with ⟨fields, decoded⟩
      rw [decoded]
      exact failsOnly_ok _
  | error fault =>
      rw [decodeEntry_of_error outcome]
      apply failsOnly_error
      cases fault with
      | tooLarge => exact Or.inr ⟨rfl, contained .tooLarge outcome rfl⟩
      | _ => exact Or.inl ⟨rfl, rfl⟩

/-- The tree of decoded fields is built, or breaks a rule on trees. -/
theorem buildEntry_failsOnly (kind : TraceKind) (fields : List (String × Value))
    (stamp : Timestamp) :
    FailsOnly (fun error : BuildError => Exists fun cause : TreeError => error = .tree cause)
      (buildEntry kind fields stamp) := by
  have yields := @Node.yields_ofFields (fun _ => True) trivial fields (fun _ _ => trivial)
    kind.rootId kind.entryName
  unfold buildEntry
  cases built : Node.ofFields kind.rootId kind.entryName fields with
  | error cause =>
      rw [built] at yields
      cases cause with
      | tree cause => exact failsOnly_error ⟨cause, rfl⟩
      | name fault => exact yields.elim
  | ok bare =>
      dsimp only
      unfold Spec.attach
      split
      · exact failsOnly_ok _
      · exact failsOnly_error ⟨_, rfl⟩

/-- Why an entry may be refused. -/
theorem OpenedFrom.rawEntry_failsOnly (opened : OpenedFrom bytes settings files given trace)
    (decoder : Decoder) (place : Fin trace.length) {domain : Domain} {shift : Int}
    (carried : trace.shift? domain = some shift) :
    FailsOnly (trace.Refuses decoder place) (trace.rawEntry decoder (.int place.val) domain) := by
  rcases opened.regular_record place with ⟨names, record, regular⟩
  rcases opened.timestamp_carried place carried with ⟨stamp, stamped⟩
  have decoded : FailsOnly (trace.Refuses decoder place) (trace.decodeEntry decoder place) :=
    decodeEntry_failsOnly record regular
  rw [rawEntry, position_of_fin]
  simp only [bind, Except.bind, stamped]
  refine failsOnly_bind decoded ?_
  intro fields _
  cases outcome : buildEntry trace.kind fields stamp with
  | ok tree => exact failsOnly_ok _
  | error cause =>
      rcases buildEntry_failsOnly trace.kind fields stamp cause outcome with ⟨broken, same⟩
      rw [same]
      exact failsOnly_error (Or.inl ⟨rfl, rfl⟩)

/-- A fault of decoding is what is reported of the entry. -/
theorem entry_of_error {domain : Domain} {stamp : Timestamp}
    (stamped : trace.timestamp place domain = .ok stamp) {cause : Fault}
    (failed : decoder.decode (trace.record place) = .error cause) :
    (trace.entry decoder (.int place.val) domain).value =
      .error (.ofFault trace.kind place cause) := by
  rw [value_entry, rawEntry, position_of_fin]
  simp only [bind, Except.bind, stamped, decodeEntry_of_error failed, Except.map]

/-- A fault is reported only if decoding has come to it. -/
theorem OpenedFrom.entry_ofFault_iff (opened : OpenedFrom bytes settings files given trace)
    (decoder : Decoder) (place : Fin trace.length) {domain : Domain} {shift : Int}
    (carried : trace.shift? domain = some shift) (cause : Fault) :
    (trace.entry decoder (.int place.val) domain).value =
        .error (.ofFault trace.kind place cause) ↔
      decoder.decode (trace.record place) = .error cause := by
  rcases opened.timestamp_carried place carried with ⟨stamp, stamped⟩
  constructor
  · intro refused
    cases outcome : decoder.decode (trace.record place) with
    | error other =>
        rw [entry_of_error stamped outcome] at refused
        rw [EntryError.ofFault_injective _ _ (Except.error.inj refused)]
    | ok value =>
        rcases opened.regular_record place with ⟨names, record, _⟩
        rcases decodeEntry_of_ok record outcome with ⟨fields, decoded⟩
        rw [value_entry, rawEntry, position_of_fin] at refused
        simp only [bind, Except.bind, stamped, decoded] at refused
        cases built : buildEntry trace.kind fields stamp with
        | ok tree =>
            rw [built] at refused
            cases refused
        | error broken =>
            rcases buildEntry_failsOnly trace.kind fields stamp broken built with ⟨reason, same⟩
            rw [built, same] at refused
            cases cause <;> cases refused
  · exact entry_of_error stamped

/-- What an entry holds: values of its record and of the configuration, the timestamp and calculated
properties. -/
theorem OpenedFrom.contains_entry (opened : OpenedFrom bytes settings files given trace)
    {domain : Domain} {tree : Node}
    (shown : (trace.entry decoder (.int place.val) domain).value = .ok tree) :
    tree.Contains decoder.Vouches := by
  rcases entry_eq_ok shown with ⟨stamp, fields, raw, _, opens, built, same⟩
  rcases opened.regular_record place with ⟨names, record, regular⟩
  rw [record] at opens
  have known := Decoder.scalars_of_decode regular opens
  rcases buildEntry_eq_ok built with ⟨bare, fromFields, _, grown⟩
  have yields : Spec.Yields decoder.Vouches (.ok bare) := by
    rw [← fromFields]
    apply Node.yields_ofFields decoder.vouches_null
    intro item member
    exact Decoder.vouches_scalar (Value.isScalar_of_mem_fields fields item member)
      (known item member)
  have single : (Value.int stamp.nanoseconds).IsScalar := trivial
  rw [same]
  apply Pipeline.contains_steps
  rw [grown]
  exact (Node.Everywhere.contains yields).append ⟨rfl, single, Or.inl rfl⟩

/-! ## All of it -/

/-- An entry of an opened trace, on a clock that the trace has timestamps on, whatever its record
holds and whatever state the decoder is in.

A fault of decoding is what is reported of the entry.  An entry that is refused is refused as one
that cannot be decoded, or one of its parameters for doubles is an integer beyond the largest
double.  A tree that is returned can be shown and served exactly if every integer in it can be
written, and only three kinds of integers may have too many digits: the timestamp, a calculated
property, and what stands in the configuration of the decoder.  The timestamps of the trace can be
served exactly if they can be written. -/
theorem entry_contained (opened : OpenedFrom bytes settings files given trace) (decoder : Decoder)
    (place : Fin trace.length) {domain : Domain} {shift : Int}
    (carried : trace.shift? domain = some shift) :
    (forall cause : Fault,
      (trace.entry decoder (.int place.val) domain).value =
          .error (.ofFault trace.kind place cause) ↔
        decoder.decode (trace.record place) = .error cause) ∧
    (forall error : EntryError,
      (trace.entry decoder (.int place.val) domain).value = .error error ->
        error.IsDecodeError trace.kind place ∨
          (error = .fault .tooLarge ∧ decoder.Overflows (trace.record place))) ∧
    (forall tree : Node, (trace.entry decoder (.int place.val) domain).value = .ok tree ->
      (((forall node, node ∈ tree.walk -> Succeeds node.text) ∧ Succeeds (Web.servedTree tree)) ↔
        tree.Everywhere Value.Fits) ∧
      forall node, node ∈ tree.walk -> ¬ node.value.Fits ->
        (node ∈ tree.children ∧ (node.name = "timestamp" ∨ node.source = .calculated)) ∨
          node.value ∈ decoder.scalars) ∧
    (Succeeds (Web.servedTimestamps (trace.timestamps? domain)) ↔
      forall ns, ns ∈ trace.elapsed -> Numeral.Fits (ns + shift)) := by
  refine ⟨opened.entry_ofFault_iff decoder place carried, ?_, ?_, ?_⟩
  · intro error refused
    rw [value_entry] at refused
    cases outcome : trace.rawEntry decoder (.int place.val) domain with
    | error cause =>
        rw [outcome] at refused
        cases refused
        exact opened.rawEntry_failsOnly decoder place carried error outcome
    | ok raw =>
        rw [outcome] at refused
        cases refused
  · intro tree shown
    have contains := opened.contains_entry shown
    refine ⟨Web.shown_iff_fits ?_, ?_⟩
    · intro node member
      rcases contains.cases_value member with vouched | ⟨_, added⟩
      · exact vouched.1
      · exact added.scalar
    · intro node member unwritable
      rcases contains.cases_value member with ⟨_, fits | configured⟩ | ⟨child, added⟩
      · exact absurd fits unwritable
      · exact Or.inr configured
      · exact Or.inl ⟨child, added.added⟩
  · rw [timestamps?, carried, Option.map_some, Web.succeeds_servedTimestamps_iff,
      List.forall_mem_map]

/-- The entry of the played transition is returned, and it can be shown and served with the
timestamps of the trace. -/
theorem played_entry_contained :
    Exists fun tree : Node => (playedTrace.entry .transition (.int 0) .elapsed).value = .ok tree ∧
      (forall node, node ∈ tree.walk -> Succeeds node.text) ∧ Succeeds (Web.servedTree tree) ∧
      Succeeds (Web.servedTimestamps (playedTrace.timestamps? .elapsed)) := by
  have returned : Exists fun tree : Node =>
      (playedTrace.entry .transition (.int 0) .elapsed).value = .ok tree ∧
        tree.walk.map Node.value =
          [.null, .null, .int 7, .int 9, .int 7, .int 2, .string "PLAYED"] := ⟨_, rfl, rfl⟩
  rcases returned with ⟨tree, returned, values⟩
  have shift : playedTrace.shift? .elapsed = some 0 := rfl
  rcases entry_contained (openedFrom_of_load load_playedText) .transition ⟨0, Nat.zero_lt_one⟩ shift
    with ⟨_, _, trees, stamps⟩
  rcases trees tree returned with ⟨shown, _⟩
  have small : forall n : Int, n.natAbs ≤ 9 -> Numeral.Fits n :=
    fun n bound => Nat.lt_of_le_of_lt bound (Nat.lt_of_lt_of_le (by decide : 9 < 10 ^ 1)
      (Nat.pow_le_pow_right (by decide) Numeral.digitLimit_pos))
  have fits : tree.Everywhere Value.Fits := by
    intro node member n same
    have listed := List.mem_map_of_mem (f := Node.value) member
    rw [values, same] at listed
    simp only [List.mem_cons, Value.int.injEq, reduceCtorEq, List.not_mem_nil, or_false,
      false_or] at listed
    exact small n (by omega)
  have served : forall ns, ns ∈ playedTrace.elapsed -> Numeral.Fits (ns + 0) :=
    List.forall_mem_singleton.mpr (small 7 (by decide))
  rcases shown.mpr fits with ⟨texts, tree⟩
  exact ⟨_, returned, texts, tree, stamps.mpr served⟩

/-! ## A number beyond the doubles -/

/-- A log of one message, which takes a power of ten for a double. -/
def powerText (count : Nat) : List UInt8 :=
  ("\x7b\"log\":[\x7b\"messageHash\":1,\"elapsedRealtimeNanos\":5,\"doubleParams\":[1"
    ).toUTF8.toList ++
    (List.replicate count 48 ++ 93 ::
      ("\x7d],\"viewerConfig\":\x7b\"messages\":\x7b\"1\":\x7b\"message\":\"%f\"\x7d\x7d\x7d\x7d"
        ).toUTF8.toList)

def powerLog (n : Int) : Json :=
  .object [("log", .array [.object [("messageHash", .integer 1),
      ("elapsedRealtimeNanos", .integer 5), ("doubleParams", .array [.integer n])]]),
    ("viewerConfig", .object [("messages", .object [("1", .object [("message", .string "%f")])])])]

/-- The decoder that such a log leaves. -/
def powerDecoder : ProtoLog.Decoder :=
  ⟨false, ⟨[("1", .map [("message", .string "%f")])], []⟩⟩

def powerRecord (n : Int) : Value :=
  .map [("messageHash", .int 1), ("elapsedRealtimeNanos", .int 5), ("doubleParams", .list [.int n])]

def powerTrace (n : Int) : Trace :=
  ⟨.protoLog, [powerRecord n], [5], none, [], []⟩

theorem read_powerText {count : Nat} (short : count < Numeral.digitLimit) :
    Json.read .trace (powerText count) = .whole (powerLog ((10 ^ count : Nat) : Int)) := by
  have value := Numeral.read_pow short
  rw [← Json.Dialect.integer_trace] at value
  refine Json.read_power ⟨[.array [], .object [("elapsedRealtimeNanos", .integer 5),
    ("messageHash", .integer 1)] "doubleParams", .array [], .object [] "log"], .firstItem, none⟩
    powerLog value ?_ (fun _ => rfl) ?_
  · intro rest
    with_unfolding_all rfl
  · intro n
    with_unfolding_all rfl

theorem load_powerText {count : Nat} (short : count < Numeral.digitLimit) :
    (load Decoder.standard (powerText count) .standard .nowhere 0).value =
      .taken 0 (.protoLog powerDecoder) (.ok (powerTrace ((10 ^ count : Nat) : Int))) := by
  have read : Json.readTrace (powerText count) =
      .ok (⟨["log", "viewerConfig"], []⟩, powerLog ((10 ^ count : Nat) : Int)) := by
    rw [Json.readTrace, read_powerText short]
    rfl
  have configured : (ProtoLog.Decoder.fresh.configure (powerLog ((10 ^ count : Nat) : Int))
      .standard .nowhere).value = (powerDecoder, .ok ()) := rfl
  exact load_eq_opened_iff.mpr
    ⟨_, _, _, _, read, rfl, load_message rfl rfl rfl configured, rfl⟩

/-- The message cannot be decoded if the number is beyond the doubles. -/
theorem decode_powerRecord {n : Int} (large : Double.ofInt n = .error .tooLarge) :
    (Decoder.protoLog powerDecoder).decode (powerRecord n) = .error .tooLarge := by
  have shown : ProtoLog.directiveText (.double .positional) ⟨[], [], [.int n], []⟩ =
      .error .tooLarge := by
    change (Double.ofInt n).map (Double.sixDigits .positional) = _
    rw [large]
    rfl
  have text : ProtoLog.messageText "%f" ⟨[], [], [.int n], []⟩ = .error .tooLarge := by
    change (ProtoLog.fill ['%', 'f'] ⟨[], [], [.int n], []⟩).map String.ofList = _
    simp only [ProtoLog.fill, ProtoLog.Directive.named?, shown]
    rfl
  have resolved : powerDecoder.resolved (.map [("message", .string "%f")])
      ⟨[], [], [.int n], []⟩ = .error .tooLarge := by
    change (ProtoLog.messageText "%f" ⟨[], [], [.int n], []⟩ >>= fun text => _) = _
    rw [text]
    rfl
  change (powerDecoder.resolved (.map [("message", .string "%f")])
    ⟨[], [], [.int n], []⟩).map Value.map = _
  rw [resolved]
  rfl

/-- The smallest power of ten beyond the doubles is not reported as a fault of the entry: the answer
for a valid index and a clock of the trace is neither a tree nor an error of decoding. -/
theorem power_entry_faults :
    (load Decoder.standard (powerText 309) .standard .nowhere 0).value =
        .taken 0 (.protoLog powerDecoder) (.ok (powerTrace ((10 ^ 309 : Nat) : Int))) ∧
      ((powerTrace ((10 ^ 309 : Nat) : Int)).entry (.protoLog powerDecoder) (.int 0)
        .elapsed).value = .error (.fault .tooLarge) ∧
      ¬ (EntryError.fault .tooLarge).IsDecodeError .protoLog 0 := by
  have large : Double.ofInt ((10 ^ 309 : Nat) : Int) = .error .tooLarge := by decide +kernel
  refine ⟨load_powerText (by decide), ?_, id⟩
  exact @entry_of_error (powerTrace _) (.protoLog powerDecoder) ⟨0, Nat.zero_lt_one⟩ .elapsed _ rfl
    .tooLarge (decode_powerRecord large)

end Trace

end TraceView
