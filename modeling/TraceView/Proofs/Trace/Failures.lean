import TraceView.Proofs.Formatter
import TraceView.Proofs.Json.Limit
import TraceView.Proofs.ProtoLog.Entries
import TraceView.Proofs.Trace.Erasure
import TraceView.Proofs.Trace.Structure

namespace TraceView

/-!
# Documents that are not opened

With the standard decoders a load fails in one of four ways.  The bytes may give no header, the
header may show the names of no format, the viewer configuration of a log may be unusable, and the
offset between the clocks may have no text to name a formatter of transitions by.  Which of these it
is depends on the header and on the settings; the records of a document have no part in it, since
finding them cannot fail.

Most errors say that the document cannot be decoded.  Two do not, although they are about the
document: a decimal with an exponent that decimals do not have, and an offset that is too long.
-/

open Json

/-- The errors that say of a document that it cannot be decoded. -/
def LoadError.IsDecodeError : LoadError -> Prop
  | .unreadableFile _ _ => False
  | .fault _ => False
  | _ => True

/-- A load that opens no trace because the document cannot be decoded. -/
def LoadAttempt.IsUndecodable (attempt : LoadAttempt) : Prop :=
  Exists fun error : LoadError => attempt.result = .error error ∧ error.IsDecodeError

/-- A document with an integer that cannot be written is not opened, whatever the decoders are. -/
theorem load_of_long {bytes : List UInt8} {tree : Json}
    (found : Json.read Dialect.trace.unlimited bytes = .whole tree) (long : ¬ tree.Fits)
    (decoders : List Decoder) (settings : Settings) (files : Files) (issue : Nat) :
    (load decoders bytes settings files issue).value.IsUndecodable := by
  rcases Json.read_of_long rfl found long with ⟨soFar, stopped⟩
  have headless : readTrace bytes = .error .notAnObject ∨
      readTrace bytes = .error (.problem .long) := by
    rw [readTrace, stopped]
    dsimp only
    split
    · exact .inl rfl
    · exact .inr rfl
  rcases headless with failed | failed
  · exact ⟨.notAnObject, by rw [load, failed]; rfl, trivial⟩
  · exact ⟨.malformedDocument (.undecodable .integer), by rw [load, failed]; rfl, trivial⟩

/-! ## The configuration of a log -/

namespace ProtoLog.Decoder

theorem install_fails (decoder : Decoder) (config : Value) :
    FailsOnly LoadError.IsDecodeError (decoder.install config).2 := by
  unfold install
  rcases decoder.config.install config with ⟨installed, outcome⟩
  cases outcome with
  | ok done => exact failsOnly_ok _
  | error fault =>
      exact @failsOnly_error _ _ LoadError.IsDecodeError
        (.malformedDocument (.viewerConfig fault)) trivial

/-- A file that can be read is not the reason why its configuration is unusable. -/
theorem installFile_fails (decoder : Decoder) {files : Files} {path : String} {file : List UInt8}
    (there : files path = .ok file) :
    FailsOnly LoadError.IsDecodeError (decoder.installFile files path).2 := by
  simp only [installFile, there]
  cases Json.read .settings file with
  | stopped soFar problem =>
      exact @failsOnly_error _ _ LoadError.IsDecodeError
        (.malformedDocument (.ofFile problem)) trivial
  | whole tree => exact decoder.install_fails tree.roundedValue

/-- If the file that is named can be read, an unusable configuration makes the document
undecodable. -/
theorem configure_fails (decoder : Decoder) (document : Json) {settings : Settings} {files : Files}
    (readable : forall path, settings.viewerConfigPath = some path ->
      Exists fun file : List UInt8 => files path = .ok file) :
    FailsOnly LoadError.IsDecodeError (decoder.configure document settings files).value.2 := by
  unfold configure
  by_cases fixed : decoder.fixed = true
  · rw [if_pos fixed]
    exact failsOnly_ok _
  · rw [if_neg fixed]
    split
    · exact failsOnly_ok _
    · rename_i named
      cases given : settings.viewerConfigPath with
      | none =>
          rw [given] at named
          exact absurd rfl named
      | some path =>
          rcases readable path given with ⟨file, there⟩
          exact decoder.installFile_fails there
    · exact decoder.install_fails _

end ProtoLog.Decoder

/-! ## The offset between the clocks -/

/-- A trace can be made of what loading has found, unless it is one of transitions whose properties
are to be calculated and whose offset is too long. -/
theorem Trace.ofLoaded_eq_error_iff {kind : TraceKind} {loaded : Loaded} {applyOperations : Bool}
    {issue : Nat} {cause : Fault} :
    ofLoaded kind loaded applyOperations none issue = .error cause ↔
      kind = .transition ∧ applyOperations = true ∧ cause = .tooManyDigits ∧
        Exists fun ns : Int => loaded.offset = some ns ∧ ¬ Numeral.Fits ns := by
  cases kind with
  | protoLog =>
      rw [ofLoaded_log]
      simp only [reduceCtorEq, false_and]
  | transition =>
      cases applyOperations with
      | false => simp only [ofLoaded, Bool.false_eq_true, if_false, reduceCtorEq, false_and, and_false]
      | true =>
          by_cases fits : forall ns, loaded.offset = some ns -> Numeral.Fits ns
          · rcases @ofLoaded_transition_of_writable loaded issue
              fun ns known => Formatter.shift_of_fits (fits ns known) issue with ⟨full, made⟩
            rw [made]
            refine iff_of_false (fun impossible => by cases impossible) ?_
            rintro ⟨_, _, _, ns, known, long⟩
            exact long (fits ns known)
          · simp only [not_forall] at fits
            rcases fits with ⟨ns, known, long⟩
            have refused : ofLoaded .transition loaded true none issue = .error .tooManyDigits := by
              simp only [ofLoaded, if_true, Pipeline.forTrace, Pipeline.suffixRules, known,
                Formatter.shift_of_long long]
              rfl
            rw [refused]
            constructor
            · intro same
              cases same
              exact ⟨rfl, rfl, rfl, ns, known, long⟩
            · rintro ⟨_, _, same, _⟩
              rw [same]

/-! ## Loading -/

/-- Why the standard decoders open no trace. -/
inductive Refusal (bytes : List UInt8) (settings : Settings) (files : Files) : LoadError -> Prop where
  /-- There is no header. -/
  | headless {error : HeaderError} (read : readTrace bytes = .error error) :
      Refusal bytes settings files (.ofHeader error)
  /-- The header has the names of no format. -/
  | unrecognised {header : Header} {document : Json}
      (read : readTrace bytes = .ok (header, document)) (log : "log" ∉ header.names)
      (transitions : "transitions" ∉ header.names) :
      Refusal bytes settings files (.unrecognised header.sortedNames)
  /-- The viewer configuration of a log is unusable. -/
  | configuration {header : Header} {document : Json} {error : LoadError}
      (read : readTrace bytes = .ok (header, document)) (log : "log" ∈ header.names)
      (unusable : (ProtoLog.Decoder.fresh.configure document settings files).value.2 =
        .error error) :
      Refusal bytes settings files error
  /-- The offset of transitions is too long. -/
  | offset {header : Header} {document : Json} {ns : Int}
      (read : readTrace bytes = .ok (header, document)) (log : "log" ∉ header.names)
      (transitions : "transitions" ∈ header.names) (calculated : settings.applyOperations = true)
      (known : settings.offset.or (Transition.recordedOffset header) = some ns)
      (long : ¬ Numeral.Fits ns) :
      Refusal bytes settings files (.fault .tooManyDigits)

variable {bytes : List UInt8} {settings : Settings} {files : Files} {issue : Nat}
  {header : Header} {document : Json} {error : LoadError}

/-- Loading a log fails exactly if its configuration is unusable. -/
theorem load_log (read : readTrace bytes = .ok (header, document)) (log : "log" ∈ header.names) :
    (load Decoder.standard bytes settings files issue).value.result = .error error ↔
      (ProtoLog.Decoder.fresh.configure document settings files).value.2 = .error error := by
  have chosen : choose Decoder.standard header.names = some (0, .protoLog .fresh) := by
    rw [choose_standard, if_pos log]
  rw [load_log_of_chosen read chosen, LoadAttempt.result]
  cases (ProtoLog.Decoder.fresh.configure document settings files).value.2 with
  | ok done => simp only [Except.map, reduceCtorEq]
  | error cause => simp only [Except.map, Except.error.injEq]

/-- Loading transitions fails exactly if their offset is too long. -/
theorem load_transitions (read : readTrace bytes = .ok (header, document))
    (log : "log" ∉ header.names) (transitions : "transitions" ∈ header.names) :
    (load Decoder.standard bytes settings files issue).value.result = .error error ↔
      error = .fault .tooManyDigits ∧ settings.applyOperations = true ∧
        Exists fun ns : Int =>
          settings.offset.or (Transition.recordedOffset header) = some ns ∧
            ¬ Numeral.Fits ns := by
  have chosen : choose Decoder.standard header.names = some (1, .transition) := by
    rw [choose_standard, if_neg log, if_pos transitions]
  have made := @Trace.ofLoaded_eq_error_iff .transition
    (Transition.load document header settings).value settings.applyOperations issue
  have offset : (Transition.load document header settings).value.offset =
      settings.offset.or (Transition.recordedOffset header) := rfl
  rw [offset] at made
  rw [load_of_chosen read chosen, LoadAttempt.result]
  simp only [Decoder.load, Decoder.kind, Noted.value_andThen, Noted.value_quiet, Except.bind]
  cases outcome : Trace.ofLoaded .transition (Transition.load document header settings).value
      settings.applyOperations none issue with
  | ok trace =>
      refine iff_of_false (fun impossible => by cases impossible) ?_
      rintro ⟨_, calculated, long⟩
      have refused := (@made .tooManyDigits).mpr ⟨rfl, calculated, rfl, long⟩
      cases outcome.symm.trans refused
  | error cause =>
      rcases made.mp outcome with ⟨_, calculated, same, long⟩
      subst same
      simp only [Except.mapError, Except.error.injEq]
      constructor
      · intro same
        exact ⟨same.symm, calculated, long⟩
      · rintro ⟨same, _⟩
        exact same.symm

/-- A load with the standard decoders fails exactly for one of these reasons. -/
theorem load_eq_error_iff :
    (load Decoder.standard bytes settings files issue).value.result = .error error ↔
      Refusal bytes settings files error := by
  constructor
  · intro failed
    cases read : readTrace bytes with
    | error cause =>
        simp only [load, read, Noted.value_quiet, LoadAttempt.result, Except.error.injEq] at failed
        rw [← failed]
        exact .headless read
    | ok pair =>
        rcases pair with ⟨header, document⟩
        by_cases log : "log" ∈ header.names
        · exact .configuration read log ((load_log read log).mp failed)
        · by_cases transitions : "transitions" ∈ header.names
          · rcases (load_transitions read log transitions).mp failed with
              ⟨same, calculated, ns, known, long⟩
            rw [same]
            exact .offset read log transitions calculated known long
          · have none : choose Decoder.standard header.names = none := by
              rw [choose_standard, if_neg log, if_neg transitions]
            simp only [load, read, none, Noted.value_quiet, LoadAttempt.result,
              Except.error.injEq] at failed
            rw [← failed]
            exact .unrecognised read log transitions
  · intro refusal
    cases refusal with
    | headless read => simp only [load, read, Noted.value_quiet, LoadAttempt.result]
    | @unrecognised header document read log transitions =>
        have none : choose Decoder.standard header.names = none := by
          rw [choose_standard, if_neg log, if_neg transitions]
        simp only [load, read, none, Noted.value_quiet, LoadAttempt.result]
    | configuration read log unusable => exact (load_log read log).mpr unusable
    | offset read log transitions calculated known long =>
        exact (load_transitions read log transitions).mpr ⟨rfl, calculated, _, known, long⟩

end TraceView
