import TraceView.Proofs.Json.Scanning
import TraceView.Proofs.Trace.Failures
import TraceView.Proofs.Trace.Sections

namespace TraceView

/-!
# What loading promises of a document

A load with the standard decoders opens a trace or says that the document cannot be decoded, with two
exceptions.  An exponent out of range and an offset that is too long are errors of their own, although
they are about the document as well.

A trace is opened only of an object that has the name of a format.  Its bytes are a document in the
strict sense unless they hold a vertical tab or a form feed as a blank, or end in a text that has only
begun.
-/

open Json

/-- A decimal stands after some tokens whose exponent is out of range. -/
def HoldsVast (bytes : List UInt8) : Prop :=
  Exists fun tokens : List Token => Exists fun before : List UInt8 =>
    Exists fun number : List UInt8 => Exists fun after : List UInt8 =>
      bytes = before ++ (number ++ after) ∧ Lexed traceBlanks tokens before ∧
        Lexeme (.faultyNumber .outOfRange) number

/-- The reading stops at an exponent out of range, and what has been read before does not show that
the document is no object. -/
def StopsAtVast (bytes : List UInt8) : Prop :=
  Exists fun soFar : Option Json =>
    read .trace bytes = .stopped soFar .outOfRange ∧ soFar.map Header.ofTree? ≠ some none

/-- The bytes are transitions whose properties are to be calculated, with an offset that has too many
digits. -/
def HasLongOffset (bytes : List UInt8) (settings : Settings) : Prop :=
  Exists fun header : Header => Exists fun document : Json => Exists fun ns : Int =>
    readTrace bytes = .ok (header, document) ∧ "log" ∉ header.names ∧
      "transitions" ∈ header.names ∧ settings.applyOperations = true ∧
      settings.offset.or (Transition.recordedOffset header) = some ns ∧ ¬ Numeral.Fits ns

/-- The bytes are an object that has the name of a format, and perhaps a text that has only begun. -/
def IsTraceDocument (bytes : List UInt8) : Prop :=
  Exists fun document : List UInt8 => Exists fun tail : List UInt8 =>
    Exists fun members : List (String × Json) => Exists fun header : Header =>
      bytes = document ++ tail ∧ (tail = [] ∨ Unfinished tail) ∧
        Lexed traceBlanks (Json.object members).tokens document ∧
        (11 ∉ document -> 12 ∉ document -> Lexed blanks (Json.object members).tokens document) ∧
        Header.ofTree? (.object members) = some header ∧
        ("log" ∈ header.names ∨ "transitions" ∈ header.names)

/-- The bytes of an object end with its brace or with a blank. -/
theorem Json.Lexed.last_of_object {spaces bytes : List UInt8} {members : List (String × Json)}
    {byte : UInt8} (lexed : Lexed spaces (Json.object members).tokens bytes)
    (last : bytes.getLast? = some byte) : byte = 125 ∨ byte ∈ spaces := by
  generalize same : (Json.object members).tokens = tokens at lexed
  cases lexed with
  | nothing =>
      rw [Json.tokens] at same
      cases same
  | blank before member =>
      rw [List.getLast?_concat] at last
      exact .inr (Option.some.inj last ▸ member)
  | @token _ front lexeme token before lexical =>
      rw [Json.tokens, ← List.cons_append] at same
      have brace : Token.closeBrace = token := List.singleton_inj.mp (List.append_inj' same rfl).2
      rw [← brace] at lexical
      cases lexical with
      | @fixed _ text _ listed spelled =>
          have only : text = "\x7d" := by
            simpa [fixedLexemes] using listed
          rw [only] at spelled
          rcases List.map_eq_singleton_iff.mp spelled with ⟨other, single, letter⟩
          rw [single, List.getLast?_concat] at last
          exact .inl (Option.some.inj last ▸ letter_injective letter)

variable {bytes : List UInt8} {settings : Settings} {files : Files} {issue : Nat}

theorem Json.Header.isObject_of_ofTree? {tree : Json} {header : Header}
    (found : ofTree? tree = some header) :
    Exists fun members : List (String × Json) => tree = .object members := by
  cases tree with
  | object members => exact ⟨members, rfl⟩
  | _ => cases found

/-- A problem is reported unless what has been read before is no object. -/
theorem readTrace_of_stopped {soFar : Option Json} {problem : Problem}
    (stopped : read .trace bytes = .stopped soFar problem) :
    soFar.map Header.ofTree? = some none ∧ readTrace bytes = .error .notAnObject ∨
      soFar.map Header.ofTree? ≠ some none ∧ readTrace bytes = .error (.problem problem) := by
  unfold readTrace
  rw [stopped]
  cases shown : soFar.map Header.ofTree? with
  | none => exact .inr ⟨(Option.some_ne_none _).symm, by simp only [shown]⟩
  | some header =>
      cases header with
      | none => exact .inl ⟨rfl, by simp only [shown]⟩
      | some found => exact .inr ⟨(by cases ·), by simp only [shown]⟩

/-- Reading a trace stops at an exponent out of range exactly if this is its first problem. -/
theorem readTrace_vast_iff :
    readTrace bytes = .error (.problem .outOfRange) ↔ StopsAtVast bytes := by
  constructor
  · intro failed
    cases outcome : read .trace bytes with
    | whole tree =>
        rw [readTrace, outcome] at failed
        cases found : Header.ofTree? tree <;> simp only [found] at failed <;> cases failed
    | stopped soFar problem =>
        rcases readTrace_of_stopped outcome with ⟨_, refused⟩ | ⟨unshown, refused⟩
        · cases failed.symm.trans refused
        · cases failed.symm.trans refused
          exact ⟨soFar, outcome, unshown⟩
  · rintro ⟨soFar, stopped, unshown⟩
    rcases readTrace_of_stopped stopped with ⟨shown, _⟩ | ⟨_, refused⟩
    · exact absurd shown unshown
    · exact refused

/-- If it stops there, such a decimal is in the document. -/
theorem holdsVast_of_stops (stops : StopsAtVast bytes) : HoldsVast bytes := by
  rcases stops with ⟨soFar, stopped, _⟩
  have shown := shows_read bytes
  rw [stopped] at shown
  exact shown rfl

/-- A trace is opened only of the bytes of a document. -/
theorem isTraceDocument_of_read {header : Header} {document : Json}
    (whole : readTrace bytes = .ok (header, document))
    (named : "log" ∈ header.names ∨ "transitions" ∈ header.names) : IsTraceDocument bytes := by
  rcases readTrace_eq_ok_iff.mp whole with ⟨complete, found⟩
  rcases Header.isObject_of_ofTree? found with ⟨members, same⟩
  have shown := shows_read bytes
  rw [complete, same] at shown
  rw [same] at found
  rcases shown with ⟨front, tail, split, lexed, ends⟩
  exact ⟨front, tail, members, header, split, ends, lexed, lexed.of_traceBlanks, found, named⟩

/-- A load is refused because the document cannot be decoded, or for one of the two other problems. -/
theorem Refusal.cases {error : LoadError}
    (readable : forall path, settings.viewerConfigPath = some path ->
      Exists fun file : List UInt8 => files path = .ok file)
    (refusal : Refusal bytes settings files error) :
    error.IsDecodeError ∨ error = .fault .exponentOutOfRange ∧ StopsAtVast bytes ∨
      error = .fault .tooManyDigits ∧ HasLongOffset bytes settings := by
  cases refusal with
  | @headless cause read =>
      cases cause with
      | notAnObject => exact .inl trivial
      | problem problem =>
          cases problem with
          | broken => exact .inl trivial
          | undecodable => exact .inl trivial
          | outOfRange => exact .inr (.inl ⟨rfl, readTrace_vast_iff.mp read⟩)
  | unrecognised => exact .inl trivial
  | @configuration header document _ read log unusable =>
      exact .inl (ProtoLog.Decoder.configure_fails .fresh document readable error unusable)
  | offset read log transitions calculated known long =>
      exact .inr (.inr ⟨rfl, _, _, _, read, log, transitions, calculated, known, long⟩)

/-- What a load with the standard decoders promises, whatever the bytes are.  If the viewer
configuration is in no file or in one that can be read, the load opens a trace or says that the
document cannot be decoded, except for an exponent out of range and an offset that is too long.  A
trace is opened only of the bytes of a document. -/
theorem load_contained
    (readable : forall path, settings.viewerConfigPath = some path ->
      Exists fun file : List UInt8 => files path = .ok file) :
    (forall error, (load Decoder.standard bytes settings files issue).value.result = .error error ->
      error.IsDecodeError ∨ error = .fault .exponentOutOfRange ∧ HoldsVast bytes ∨
        error = .fault .tooManyDigits) ∧
    ((load Decoder.standard bytes settings files issue).value.result =
      .error (.fault .exponentOutOfRange) ↔ StopsAtVast bytes) ∧
    ((load Decoder.standard bytes settings files issue).value.result =
      .error (.fault .tooManyDigits) ↔ HasLongOffset bytes settings) ∧
    forall trace, (load Decoder.standard bytes settings files issue).value.result = .ok trace ->
      IsTraceDocument bytes := by
  simp only [load_eq_error_iff]
  refine ⟨?_, ⟨?_, ?_⟩, ⟨?_, ?_⟩, ?_⟩
  · intro error refusal
    exact (refusal.cases readable).imp_right (Or.imp (And.imp_right holdsVast_of_stops) And.left)
  · intro refusal
    rcases refusal.cases readable with decodes | ⟨_, stops⟩ | ⟨other, _⟩
    · exact decodes.elim
    · exact stops
    · cases other
  · exact fun stops => .headless (readTrace_vast_iff.mpr stops)
  · intro refusal
    rcases refusal.cases readable with decodes | ⟨other, _⟩ | ⟨_, long⟩
    · exact decodes.elim
    · cases other
    · exact long
  · rintro ⟨header, document, ns, read, log, transitions, calculated, known, long⟩
    exact .offset read log transitions calculated known long
  · intro trace opened
    have unrefused : forall error, ¬ Refusal bytes settings files error := by
      intro error refusal
      cases opened.symm.trans (load_eq_error_iff.mpr refusal)
    cases read : readTrace bytes with
    | error cause => exact absurd (.headless read) (unrefused _)
    | ok pair =>
        rcases pair with ⟨header, document⟩
        refine isTraceDocument_of_read read ?_
        by_cases log : "log" ∈ header.names
        · exact .inl log
        · by_cases transitions : "transitions" ∈ header.names
          · exact .inr transitions
          · exact absurd (.unrecognised read log transitions) (unrefused _)

/-- A transition is opened; a log without records is refused if its configuration is in a file that is
no document.  Neither has one of the two other problems. -/
theorem loads_contained :
    IsTraceDocument playedText ∧ ¬ StopsAtVast nullText ∧
      ¬ HasLongOffset nullText ⟨some "viewer.json", true, none⟩ := by
  have opened : (load Decoder.standard playedText .standard .nowhere 0).value.result =
      .ok Trace.playedTrace := by
    rw [Trace.load_playedText, LoadAttempt.result]
  have whole : readTrace nullText = .ok (⟨["log"], []⟩, .object [("log", .null)]) := by
    with_unfolding_all rfl
  have refused : (load Decoder.standard nullText ⟨some "viewer.json", true, none⟩
      (.only "viewer.json" (.ok [])) 0).value.result =
        .error (.malformedDocument .viewerConfigFile) :=
    (load_log whole (by decide)).mpr rfl
  rcases @load_contained playedText .standard .nowhere 0 (fun path named => by cases named) with
    ⟨_, _, _, document⟩
  rcases @load_contained nullText ⟨some "viewer.json", true, none⟩ (.only "viewer.json" (.ok [])) 0
    (fun path named => ⟨[], by cases named; rfl⟩) with ⟨_, vast, long, _⟩
  refine ⟨document _ opened, ?_, ?_⟩
  · intro stops
    cases refused.symm.trans (vast.mpr stops)
  · intro tooLong
    cases refused.symm.trans (long.mpr tooLong)

theorem longOffset_power (names : List String) {exponent : Nat}
    (long : Numeral.digitLimit ≤ exponent) :
    Exists fun ns : Int =>
      Settings.standard.offset.or (Transition.recordedOffset ⟨names,
        [("realToElapsedTimeOffsetNanos", .decimal (.finite false 1 exponent))]⟩) = some ns ∧
          ¬ Numeral.Fits ns := by
  have natural : 0 ≤ (exponent : Int) := Int.natCast_nonneg exponent
  have scaled : Decimal.scaled? 1 exponent = some (Nat.pow 10 exponent) := by
    simp only [Decimal.scaled?, Nat.one_ne_zero, if_false, natural, if_true, Int.toNat_natCast,
      Nat.one_mul]
  have value : (Value.decimal (.finite false 1 exponent)).toInt? =
      some (Nat.pow 10 exponent : Nat) := by
    simp only [Value.toInt?, Value.integer?, Decimal.integer?, scaled]
    rfl
  refine ⟨_, value, ?_⟩
  rw [Numeral.Fits, Int.natAbs_natCast, Nat.not_lt]
  exact Nat.pow_le_pow_right (by decide) long

/-- A log with an exponent out of range. -/
def vastText : List UInt8 :=
  "\x7b\"log\":[1e1000000000000000000]\x7d".toUTF8.toList

/-- Transitions with an offset of many digits. -/
def longOffsetText : List UInt8 :=
  "\x7b\"transitions\":[],\"realToElapsedTimeOffsetNanos\":1e5000\x7d".toUTF8.toList

/-- A log with a text that has only begun after it. -/
def openTailText : List UInt8 :=
  "\x7b\"log\":[]\x7d \"".toUTF8.toList

/-- A log with a vertical tab after it. -/
def verticalTabText : List UInt8 :=
  "\x7b\"log\":[]\x7d\x0b".toUTF8.toList

/-- The two other errors, and two traces that are opened although their bytes are no document. -/
theorem loads_uncontained :
    (load Decoder.standard vastText .standard .nowhere 0).value.result =
        .error (.fault .exponentOutOfRange) ∧
      (load Decoder.standard longOffsetText .standard .nowhere 0).value.result =
        .error (.fault .tooManyDigits) ∧
      (load Decoder.standard openTailText .standard .nowhere 0).value.result = .ok recordlessLog ∧
      (load Decoder.standard verticalTabText .standard .nowhere 0).value.result = .ok recordlessLog ∧
      forall members : List (String × Json),
        ¬ Lexed blanks (Json.object members).tokens openTailText ∧
          ¬ Lexed blanks (Json.object members).tokens verticalTabText := by
  have opens : forall {bytes : List UInt8},
      read .trace bytes = .whole (.object [("log", .array [])]) ->
      (load Decoder.standard bytes .standard .nowhere 0).value.result = .ok recordlessLog := by
    intro bytes whole
    rw [load_recordlessLog (readTrace_eq_ok_iff.mpr ⟨whole, rfl⟩) rfl, LoadAttempt.result]
  refine ⟨?_, ?_, ?_, ?_, ?_⟩
  · have stopped : read .trace vastText =
        .stopped (some (.object [("log", .array [])])) .outOfRange := by
      with_unfolding_all rfl
    have failed : readTrace vastText = .error (.problem .outOfRange) := by
      rw [readTrace, stopped]
      rfl
    exact load_eq_error_iff.mpr (.headless failed)
  · have whole : read .trace longOffsetText = .whole (.object [("transitions", .array []),
        ("realToElapsedTimeOffsetNanos", .decimal (.finite false 1 5000))]) := by
      with_unfolding_all rfl
    have read : readTrace longOffsetText =
        .ok (⟨["transitions", "realToElapsedTimeOffsetNanos"],
          [("realToElapsedTimeOffsetNanos", .decimal (.finite false 1 5000))]⟩, _) :=
      readTrace_eq_ok_iff.mpr ⟨whole, rfl⟩
    exact (load_transitions read (by decide) (by decide)).mpr
      ⟨rfl, rfl, longOffset_power _ (by decide)⟩
  · exact opens (by with_unfolding_all rfl)
  · exact opens (by with_unfolding_all rfl)
  · intro members
    constructor
    · intro lexed
      exact absurd (@Lexed.last_of_object _ _ _ 34 lexed (by decide +kernel)) (by decide)
    · intro lexed
      exact absurd (@Lexed.last_of_object _ _ _ 11 lexed (by decide +kernel)) (by decide)

end TraceView
