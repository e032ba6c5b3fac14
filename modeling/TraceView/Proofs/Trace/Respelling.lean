import TraceView.Proofs.ProtoLog.Respelling
import TraceView.Proofs.Trace.Failures
import TraceView.Proofs.Transition.Respelling

namespace TraceView

/-!
# Traces that spell 64-bit integers in two ways

A trace keeps the records as they are written, so two respellings of a document do not open as one
trace.  No question tells the traces apart, though: a record shows itself only through its time and
through what a decoder of the format makes of it, and both are the same in either spelling.  Sorting
looks at the times alone, so it moves the records of both documents alike.
-/

open Json

/-- What the decoders of a format make of a record. -/
def Decoder.view (kind : TraceKind) (record : Value)
    (decoder : { decoder : Decoder // decoder.kind = kind }) : Except Fault Value :=
  decoder.val.decode record

/-- Loaded records that no decoder of a format can tell apart. -/
structure Loaded.Same (kind : TraceKind) (loaded other : Loaded) : Prop where
  records : loaded.records.map (Decoder.view kind) = other.records.map (Decoder.view kind)
  elapsed : loaded.elapsed = other.elapsed
  offset : loaded.offset = other.offset

/-- Two traces that give the same answers: they have one length and the same timestamps, and every
entry is the same tree or the same error, whatever decoder of the format decodes it. -/
structure Trace.Same (trace other : Trace) : Prop where
  kind : trace.kind = other.kind
  length : trace.length = other.length
  timestamps : forall domain, trace.timestamps? domain = other.timestamps? domain
  entries : forall decoder : Decoder, decoder.kind = trace.kind -> forall index domain,
    trace.entry decoder index domain = other.entry decoder index domain

/-- Two attempts to load that have one outcome: the same refusal, or the same decoder in the same
state with the same error or with traces that give the same answers. -/
inductive LoadAttempt.Same : LoadAttempt -> LoadAttempt -> Prop where
  | refused (error : LoadError) : Same (.refused error) (.refused error)
  | failed (place : Nat) (left : Decoder) (error : LoadError) :
      Same (.taken place left (.error error)) (.taken place left (.error error))
  | opened (place : Nat) (left : Decoder) {trace other : Trace} (same : trace.Same other) :
      Same (.taken place left (.ok trace)) (.taken place left (.ok other))

/-! ## Loaded records -/

namespace Stamped

variable {kind : TraceKind}

/-- A stamped record as far as the decoders of a format can tell. -/
def view (kind : TraceKind) (record : Int × Value) :
    Int × ({ decoder : Decoder // decoder.kind = kind } -> Except Fault Value) :=
  (record.1, Decoder.view kind record.2)

/-- Sorting treats records alike that no decoder can tell apart. -/
theorem sorted_same {stamped others : Stamped}
    (same : stamped.map (view kind) = others.map (view kind)) :
    stamped.sorted.map (view kind) = others.sorted.map (view kind) := by
  have byTime : forall records : Stamped, records.sorted.map (view kind) =
      (records.map (view kind)).mergeSort fun a b => decide (a.1 ≤ b.1) := by
    intro records
    exact List.map_mergeSort fun a _ b _ => rfl
  rw [byTime, byTime, same]

/-- Stamping treats records alike that have one time and that no decoder can tell apart. -/
theorem filterMap_same {time : Value -> Option Int} {records others : List Value}
    (same : List.Forall₂ (fun record other =>
      time record = time other ∧ Decoder.view kind record = Decoder.view kind other) records others) :
    (records.filterMap fun record => (time record).map fun ns => (ns, record)).map (view kind) =
      (others.filterMap fun record => (time record).map fun ns => (ns, record)).map (view kind) := by
  induction same with
  | nil => rfl
  | @cons record other _ _ first _ inductionHypothesis =>
      rcases first with ⟨times, views⟩
      rw [List.filterMap_cons, List.filterMap_cons, times]
      cases time other with
      | none => exact inductionHypothesis
      | some ns =>
          simp only [Option.map_some, List.map_cons, inductionHypothesis]
          rw [view, view, views]

end Stamped

theorem Loaded.ofStamped_same {kind : TraceKind} {stamped others : Stamped}
    (same : stamped.map (Stamped.view kind) = others.map (Stamped.view kind))
    (offset : Option Int) : (ofStamped stamped offset).Same kind (ofStamped others offset) := by
  have sorted := Stamped.sorted_same same
  refine ⟨?_, ?_, rfl⟩
  · have views := congrArg (List.map Prod.snd) sorted
    rw [List.map_map, List.map_map] at views
    rw [ofStamped, ofStamped, List.map_map, List.map_map]
    exact views
  · have times := congrArg (List.map Prod.fst) sorted
    rwa [List.map_map, List.map_map] at times

/-! ## Traces -/

namespace Trace

variable {trace other : Trace}

/-- A decoder makes the same of the records at one number. -/
theorem decode_record_same {decoder : Decoder} {kind : TraceKind} (known : decoder.kind = kind)
    (records : trace.records.map (Decoder.view kind) = other.records.map (Decoder.view kind))
    (place : Fin trace.length) (inside : place.val < other.length) :
    decoder.decode (trace.record place) = decoder.decode (other.record ⟨place.val, inside⟩) := by
  have here := congrArg (fun views => views[place.val]?) records
  have first : trace.records[place.val]? = some (trace.record place) :=
    List.getElem?_eq_getElem place.isLt
  have second : other.records[place.val]? = some (other.record ⟨place.val, inside⟩) :=
    List.getElem?_eq_getElem inside
  simp only [List.getElem?_map, first, second, Option.map_some, Option.some.injEq] at here
  exact congrFun here ⟨decoder, known⟩

theorem length_same {kind : TraceKind}
    (records : trace.records.map (Decoder.view kind) = other.records.map (Decoder.view kind)) :
    trace.length = other.length := by
  have lengths := congrArg List.length records
  rwa [List.length_map, List.length_map] at lengths

theorem shift_same (offset : trace.offset = other.offset) (domain : Domain) :
    trace.shift? domain = other.shift? domain := by
  cases domain with
  | elapsed => rfl
  | real => exact offset

/-- Untouched entries of traces that differ only in records which the decoder cannot tell apart. -/
theorem rawEntry_same {decoder : Decoder} (known : decoder.kind = trace.kind)
    (kind : trace.kind = other.kind) (elapsed : trace.elapsed = other.elapsed)
    (offset : trace.offset = other.offset)
    (records : trace.records.map (Decoder.view trace.kind) =
      other.records.map (Decoder.view trace.kind)) (index : Value) (domain : Domain) :
    trace.rawEntry decoder index domain = other.rawEntry decoder index domain := by
  have length := length_same records
  have shift := shift_same offset domain
  by_cases entry : Exists fun place : Fin trace.length => index = .int place.val
  · rcases entry with ⟨place, same⟩
    have inside : place.val < other.length := length ▸ place.isLt
    have atPlace : other.position (.int place.val) = .ok ⟨place.val, inside⟩ :=
      position_of_fin other ⟨place.val, inside⟩
    have stamps : trace.timestamp place domain = other.timestamp ⟨place.val, inside⟩ domain := by
      rw [timestamp, timestamp, elapsed, shift, kind]
    have decoded : trace.decodeEntry decoder place =
        other.decodeEntry decoder ⟨place.val, inside⟩ := by
      rw [decodeEntry, decodeEntry, decode_record_same known records place inside, kind]
    rw [same, rawEntry, rawEntry, position_of_fin, atPlace]
    simp only [bind, Except.bind, stamps, decoded, kind]
  · have outside : forall place : Fin trace.length, index ≠ .int place.val :=
      fun place same => entry ⟨place, same⟩
    have otherOutside : forall place : Fin other.length, index ≠ .int place.val :=
      fun place same => entry ⟨⟨place.val, Nat.lt_of_lt_of_eq place.isLt length.symm⟩, same⟩
    rw [rawEntry_of_outside outside, rawEntry_of_outside otherOutside, length]

/-- Traces with the same times, offset and pipelines, whose records no decoder of the format can
tell apart, give the same answers. -/
theorem same_of_records (kind : trace.kind = other.kind) (elapsed : trace.elapsed = other.elapsed)
    (offset : trace.offset = other.offset) (pipelines : trace.pipeline = other.pipeline)
    (records : trace.records.map (Decoder.view trace.kind) =
      other.records.map (Decoder.view trace.kind)) : trace.Same other := by
  refine ⟨kind, length_same records, ?_, ?_⟩
  · intro domain
    rw [timestamps?, timestamps?, elapsed, shift_same offset]
  · intro decoder known index domain
    rw [entry, entry, rawEntry_same known kind elapsed offset records, pipelines]

/-- Loaded records that no decoder can tell apart make traces that give the same answers, or
fail to make one for the same reason. -/
theorem ofLoaded_same {kind : TraceKind} {loaded others : Loaded} (same : loaded.Same kind others)
    (applyOperations : Bool) (given : Option Pipeline) (issue : Nat) :
    (Exists fun cause : Fault =>
      ofLoaded kind loaded applyOperations given issue = .error cause ∧
        ofLoaded kind others applyOperations given issue = .error cause) ∨
    Exists fun trace : Trace => Exists fun other : Trace =>
      ofLoaded kind loaded applyOperations given issue = .ok trace ∧
        ofLoaded kind others applyOperations given issue = .ok other ∧ trace.Same other := by
  rcases same with ⟨records, elapsed, offset⟩
  have pair : forall onElapsed onReal : Pipeline,
      (Trace.mk kind loaded.records loaded.elapsed loaded.offset onElapsed onReal).Same
        (Trace.mk kind others.records others.elapsed others.offset onElapsed onReal) := by
    intro onElapsed onReal
    refine same_of_records rfl elapsed offset ?_ records
    funext domain
    cases domain <;> rfl
  unfold ofLoaded
  cases given with
  | some pipeline => exact Or.inr ⟨_, _, rfl, rfl, pair _ _⟩
  | none =>
      cases applyOperations with
      | false => exact Or.inr ⟨_, _, rfl, rfl, pair _ _⟩
      | true =>
          simp only [if_true, offset] at pair ⊢
          cases Pipeline.forTrace kind .elapsed others.offset issue with
          | error cause => exact Or.inl ⟨cause, rfl, rfl⟩
          | ok onElapsed =>
              cases Pipeline.forTrace kind .real others.offset issue with
              | error cause => exact Or.inl ⟨cause, rfl, rfl⟩
              | ok onReal => exact Or.inr ⟨_, _, rfl, rfl, pair onElapsed onReal⟩

end Trace

/-! ## Loading -/

/-- Two respellings of a record look the same to every decoder of the format. -/
theorem Decoder.view_of_respelled {kind : TraceKind} {tree respelling : Json}
    (respelled : Respelled kind (.record kind) tree respelling) :
    view kind tree.exactValue = view kind respelling.exactValue := by
  funext decoder
  rcases decoder with ⟨decoder, known⟩
  cases decoder with
  | protoLog state =>
      cases known
      have decoded := (ProtoLog.record_of_respelled respelled).2 state
      simp only [view, Decoder.decode, decoded]
  | transition =>
      cases known
      exact (Transition.record_of_respelled respelled).2

/-- The records that two respellings hold have the same times and look the same, one by one. -/
theorem Decoder.records_of_respelled {kind : TraceKind} {time : Value -> Option Int}
    (times : forall tree other : Json, Respelled kind (.record kind) tree other ->
      time tree.exactValue = time other.exactValue)
    {tree respelling : Json} (respelled : Respelled kind (.outside []) tree respelling) :
    List.Forall₂ (fun record other =>
        time record = time other ∧ Decoder.view kind record = Decoder.view kind other)
      ((partsAt kind.recordAddress [] tree).map exactValue)
      ((partsAt kind.recordAddress [] respelling).map exactValue) := by
  rw [List.forall₂_map_left_iff, List.forall₂_map_right_iff]
  refine (respelled.records Spot.ofPlace_root.symm).imp ?_
  intro first second each
  exact ⟨times first second each, view_of_respelled each⟩

theorem Transition.load_same {tree respelling : Json} {header other : Json.Header}
    (alike : header.Alike other)
    (respelled : Respelled .transition (.outside []) tree respelling) (settings : Settings) :
    (load tree header settings).value.Same .transition (load respelling other settings).value := by
  have offsets : recordedOffset header = recordedOffset other :=
    alike.integers "realToElapsedTimeOffsetNanos"
  have records := Decoder.records_of_respelled
    (fun _ _ each => (record_of_respelled each).1) respelled
  have stamps := Stamped.filterMap_same records
  rw [← stampAll_value, ← stampAll_value] at stamps
  simp only [load, Noted.value_andThen, offsets]
  exact Loaded.ofStamped_same stamps _

namespace ProtoLog.Decoder

variable {tree respelling : Json} (respelled : Respelled .protoLog (.outside []) tree respelling)

include respelled

theorem configure_same (state : Decoder) (settings : Settings) (files : Files) :
    state.configure tree settings files = state.configure respelling settings files := by
  have configurations : embedded tree = embedded respelling := by
    rw [embedded, embedded, respelled.viewerConfigs]
  rw [configure, configure, configurations]

theorem read_same {header other : Json.Header} (alike : header.Alike other) (settings : Settings) :
    (read tree header settings).value.Same .protoLog (read respelling other settings).value := by
  have offsets : recordedOffset header = recordedOffset other :=
    congrArg (Option.map (· * 1000000)) (alike.integers "realTimeToElapsedTimeOffsetMillis")
  have records := TraceView.Decoder.records_of_respelled
    (fun _ _ each => (record_of_respelled each).1) respelled
  have stamps := Stamped.filterMap_same records
  simp only [read, messages, offsets]
  exact Loaded.ofStamped_same stamps _

end ProtoLog.Decoder

/-- A decoder treats two respellings alike: it is left in one state, and the load fails with one
error or finds records that no decoder of the format can tell apart. -/
theorem Decoder.load_same {decoder : Decoder} {tree respelling : Json} {header other : Json.Header}
    (alike : header.Alike other)
    (respelled : Respelled decoder.kind (.outside []) tree respelling)
    (settings : Settings) (files : Files) :
    (Exists fun left : Decoder => Exists fun error : LoadError =>
      (decoder.load tree header settings files).value = (left, .error error) ∧
        (decoder.load respelling other settings files).value = (left, .error error)) ∨
    Exists fun left : Decoder => Exists fun loaded : Loaded => Exists fun others : Loaded =>
      (decoder.load tree header settings files).value = (left, .ok loaded) ∧
        (decoder.load respelling other settings files).value = (left, .ok others) ∧
        loaded.Same decoder.kind others := by
  cases decoder with
  | transition =>
      exact Or.inr ⟨.transition, _, _, rfl, rfl, Transition.load_same alike respelled settings⟩
  | protoLog state =>
      have configurations := ProtoLog.Decoder.configure_same respelled state settings files
      simp only [Decoder.load, ProtoLog.Decoder.load, Noted.value_andThen, Noted.value_quiet,
        configurations]
      rcases (state.configure respelling settings files).value with ⟨after, outcome⟩
      cases outcome with
      | error cause => exact Or.inl ⟨.protoLog after, cause, rfl, rfl⟩
      | ok done =>
          exact Or.inr ⟨.protoLog after, _, _, rfl, rfl,
            ProtoLog.Decoder.read_same respelled alike settings⟩

/-- Two respellings of a document have one outcome when they are loaded, and what they open as
gives the same answers.  The integers that are spelled as texts are ones that can be written.

The documents are respellings for one format, and this has to be the format of the decoder that
takes the document, because each format has wide integers of its own. -/
theorem load_respelled {kind : TraceKind} {bytes others : List UInt8}
    (respelled : Reading.Respelled kind (Json.read .trace bytes) (Json.read .trace others))
    (decoders : List Decoder) (settings : Settings) (files : Files) (issue : Nat)
    (known : forall place left result,
      (load decoders bytes settings files issue).value = .taken place left result ->
        left.kind = kind) :
    (load decoders bytes settings files issue).value.Same
      (load decoders others settings files issue).value := by
  rcases readTrace_respelled respelled with
    ⟨error, first, second⟩ | ⟨header, other, tree, respelling, first, second, alike, respelled⟩
  · simp only [load, first, second]
    exact .refused _
  · cases chosen : choose decoders header.names with
    | none =>
        have otherChosen : choose decoders other.names = none := alike.names ▸ chosen
        simp only [load, first, second, otherChosen, Header.sortedNames, alike.names]
        exact .refused _
    | some found =>
        rcases found with ⟨place, decoder⟩
        have otherChosen : choose decoders other.names = some (place, decoder) :=
          alike.names ▸ chosen
        have taken := load_of_chosen first chosen settings files issue
        have format : decoder.kind = kind :=
          (decoder.kind_load tree header settings files).symm.trans (known _ _ _ taken)
        subst format
        rw [taken, load_of_chosen second otherChosen]
        rcases Decoder.load_same alike respelled settings files with
          ⟨left, error, failed, otherFailed⟩ | ⟨left, loaded, otherLoaded, found, otherFound, same⟩
        · rw [failed, otherFailed]
          exact .failed place left error
        · rw [found, otherFound]
          rcases Trace.ofLoaded_same same settings.applyOperations none issue with
            ⟨cause, failed, otherFailed⟩ | ⟨trace, otherTrace, made, otherMade, same⟩
          · simp only [Except.bind, failed, otherFailed, Except.mapError]
            exact .failed place left _
          · simp only [Except.bind, made, otherMade, Except.mapError]
            exact .opened place left same

/-- The smallest capture with its send time as a text. -/
def respelledText : List UInt8 :=
  ("\x7b\"transitions\":[\x7b\"wmData\":" ++
    "\x7b\"sendTimeNs\":\"7\",\"finishTimeNs\":9\x7d\x7d]\x7d").toUTF8.toList

/-- The two spellings of the capture open as traces that give the same answers. -/
theorem playedText_respelled_same :
    (load Decoder.standard playedText .standard .nowhere 0).value.Same
      (load Decoder.standard respelledText .standard .nowhere 0).value := by
  have read : Json.read .trace respelledText = .whole (.object [("transitions",
      .array [.object [("wmData", .object [("sendTimeNs", .string "7"),
        ("finishTimeNs", .integer 9)])]])]) := by
    with_unfolding_all rfl
  have respelled : Reading.Respelled .transition (Json.read .trace playedText)
      (Json.read .trace respelledText) := by
    rw [read_playedText, read]
    refine .whole (.object (.cons (.array (.cons ?_ .nil)) .nil))
    refine .object (.cons (.object (.cons ?_ (.cons (.same rfl) .nil))) .nil)
    exact .text (show Transition.isWide "sendTimeNs" = true by decide)
      (show Numeral.Fits 7 by decide +kernel)
  refine load_respelled respelled Decoder.standard .standard .nowhere 0 ?_
  intro place left result taken
  rw [Trace.load_playedText] at taken
  cases taken
  rfl

/-! ## An integer that cannot be written

Its number is not read from a document, but its text is. -/

/-- The document of a transition with an identifier in a list. -/
def identified (identifier : Json) : Json :=
  .object [("transitions", .array [.object [("wmData", .object [("sendTimeNs", .integer 7)]),
    ("layerId", .array [identifier])]])]

/-- The identifier as a number: the least integer that cannot be written. -/
def numberedText : List UInt8 :=
  ("\x7b\"transitions\":[\x7b\"wmData\":\x7b\"sendTimeNs\":7\x7d,\"layerId\":[1").toUTF8.toList ++
    (List.replicate Numeral.digitLimit 48 ++ 93 :: "\x7d]\x7d".toUTF8.toList)

/-- The identifier as a text. -/
def spelledText : List UInt8 :=
  ("\x7b\"transitions\":[\x7b\"wmData\":\x7b\"sendTimeNs\":7\x7d,\"layerId\":[\"1").toUTF8.toList ++
    (List.replicate Numeral.digitLimit 48 ++ 34 :: "]\x7d]\x7d".toUTF8.toList)

theorem read_numberedText : Json.read Dialect.trace.unlimited numberedText =
    .whole (identified (.integer ((10 ^ Numeral.digitLimit : Nat) : Int))) := by
  refine read_power ⟨[.array [], .object [("wmData", .object [("sendTimeNs", .integer 7)])] "layerId",
    .array [], .object [] "transitions"], .firstItem, none⟩ (fun n => identified (.integer n))
    (Dialect.trace.unlimited_power Numeral.digitLimit) ?_ (fun _ => rfl) ?_
  · intro rest
    with_unfolding_all rfl
  · intro n
    with_unfolding_all rfl

theorem read_spelledText : Json.read .trace spelledText =
    .whole (identified (.string (Numeral.full ((10 ^ Numeral.digitLimit : Nat) : Int)))) := by
  have before : forall rest, Reading.run .trace .between .empty
      (("\x7b\"transitions\":[\x7b\"wmData\":\x7b\"sendTimeNs\":7\x7d,\"layerId\":[\"1").toUTF8.toList ++
        rest) =
      Reading.run .trace (.text ⟨[49], none, .plain⟩)
        ⟨[.array [], .object [("wmData", .object [("sendTimeNs", .integer 7)])] "layerId", .array [],
          .object [] "transitions"], .firstItem, none⟩ rest := by
    intro rest
    with_unfolding_all rfl
  rw [Numeral.full_pow, Json.read, spelledText, before, Reading.run_digits rfl]
  generalize String.ofList ('1' :: List.replicate Numeral.digitLimit '0') = text
  with_unfolding_all rfl

/-- An identifier of this length stands where integers are wide, but the two spellings of it are not
loaded alike: one is refused and the other one is opened. -/
theorem long_identifier_differs :
    Json.read Dialect.trace.unlimited numberedText =
        .whole (identified (.integer ((10 ^ Numeral.digitLimit : Nat) : Int))) ∧
      Json.read Dialect.trace.unlimited spelledText =
        .whole (identified (.string (Numeral.full ((10 ^ Numeral.digitLimit : Nat) : Int)))) ∧
      Transition.isWide "layerId" = true ∧
      (load Decoder.standard numberedText .standard .nowhere 0).value.IsUndecodable ∧
      Exists fun trace : Trace =>
        (load Decoder.standard spelledText .standard .nowhere 0).value.result = .ok trace := by
  refine ⟨read_numberedText, ((read_eq_whole_iff rfl).mp read_spelledText).1, by decide, ?_, ?_⟩
  · refine load_of_long read_numberedText ?_ Decoder.standard .standard .nowhere 0
    intro fits
    have records := fits_object_iff.mp fits _ List.mem_cons_self
    have record := fits_array_iff.mp records _ List.mem_cons_self
    exact not_fits_power
      (fits_object_iff.mp record _ (List.mem_cons_of_mem _ List.mem_cons_self))
  · have read := read_spelledText
    generalize Numeral.full ((10 ^ Numeral.digitLimit : Nat) : Int) = text at read
    have whole : Json.readTrace spelledText = .ok (⟨["transitions"], []⟩, _) :=
      readTrace_eq_ok_iff.mpr ⟨read, rfl⟩
    exact ⟨_, congrArg LoadAttempt.result (load_eq_opened_iff.mpr
      ⟨_, _, _, _, whole, rfl, load_single rfl rfl rfl .standard .nowhere, rfl⟩)⟩

end TraceView
