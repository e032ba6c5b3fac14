import TraceView.Proofs.Operation.Completion
import TraceView.Proofs.Trace.Opened
import TraceView.Proofs.Transition.Renaming

namespace TraceView

/-!
# Transitions with and without calculated properties

One document can be opened twice, once with calculated properties and once without.  What was
captured is the same in both traces: an entry that fails in one fails in the other with the same
error, and otherwise its tree without calculated properties is found unchanged in the other one.

The reason is that the record of a transition cannot hold a property that the pipeline would put
another one in place of.  Decoding frees the names of the calculated properties, building makes no
children but those of the fields, and the timestamp has a name of its own.
-/

/-- What a decoder finds does not depend on whether properties are calculated later. -/
theorem Decoder.load_applyOperations (decoder : Decoder) (document : Json) (header : Json.Header)
    (path : Option String) (offset : Option Int) (files : Files) (first second : Bool) :
    decoder.load document header ⟨path, first, offset⟩ files =
      decoder.load document header ⟨path, second, offset⟩ files := by
  cases decoder <;> rfl

/-- Loading leaves the decoder of transitions as it is, because it has no state. -/
theorem Decoder.load_transition {decoder left : Decoder} {document : Json} {header : Json.Header}
    {settings : Settings} {files : Files} {outcome : Except LoadError Loaded}
    (known : decoder.kind = .transition)
    (taken : (decoder.load document header settings files).value = (left, outcome)) :
    left = .transition := by
  cases decoder with
  | protoLog state => cases known
  | transition =>
      cases (Prod.mk.inj taken).1
      rfl

namespace Trace

/-- An entry without calculated properties, and the same entry with them: one fails if the other
does, for the same reason, and otherwise one tree completes the other. -/
inductive EntryCompleted (clock : Formatter) :
    Except EntryError Node -> Except EntryError Node -> Prop where
  | failed (cause : EntryError) : EntryCompleted clock (.error cause) (.error cause)
  | shown {bare full : Node} (completed : bare.Completed clock full) :
      EntryCompleted clock (.ok bare) (.ok full)

/-- The untouched tree of a transition has room for the calculated properties. -/
theorem uncalculated_rawEntry {trace : Trace} {index : Value} {domain : Domain} {tree : Node}
    (found : trace.rawEntry .transition index domain = .ok tree) : tree.Uncalculated := by
  rcases rawEntry_eq_ok found with ⟨place, stamp, fields, _, _, decoded, built⟩
  have unnamed := @Transition.lookup_decode _ _ (decodeEntry_eq_ok decoded)
  rcases buildEntry_eq_ok built with ⟨bare, fromFields, free, grown⟩
  rcases Node.ofFields_eq_ok fromFields with ⟨noValue, distinct, missing⟩
  have names : tree.childNames = bare.childNames ++ ["timestamp"] := by
    rw [grown]
    exact List.map_append
  have others : forall name, fields.lookup name = none -> name ≠ "timestamp" ->
      name ∉ tree.childNames := by
    intro name unclaimed different
    rw [names, List.mem_append, List.mem_singleton]
    rintro (listed | same)
    · exact missing name unclaimed listed
    · exact different same
  refine ⟨?_, ?_, ?_, ?_⟩
  · rw [grown]
    exact noValue
  · rw [grown]
    exact Node.nodup_append distinct free
  · exact others _ (@unnamed ("duration", "rawDuration") (by decide)) (by decide)
  · exact others _ (@unnamed ("status", "rawStatus") (by decide)) (by decide)

/-- Applying the pipeline of transitions to an entry of a transition completes it. -/
theorem entry_completed (bare full : Trace) (clock : Formatter) (index : Value) (domain : Domain)
    (same : full.rawEntry .transition index domain = bare.rawEntry .transition index domain)
    (nothing : bare.pipeline domain = [])
    (all : full.pipeline domain = .ofTransition clock) :
    EntryCompleted clock (bare.entry .transition index domain).value
      (full.entry .transition index domain).value := by
  rw [value_entry, value_entry, same, nothing, all]
  cases found : bare.rawEntry .transition index domain with
  | error cause => exact .failed cause
  | ok tree =>
      exact .shown (Pipeline.completed_steps clock (uncalculated_rawEntry found))

/-- A trace of transitions has the pipeline of transitions on either clock. -/
theorem ofLoaded_transition {loaded : Loaded} {issue : Nat} {full : Trace}
    (made : ofLoaded .transition loaded true none issue = .ok full) :
    Exists fun clocks : Domain -> Formatter =>
      clocks .elapsed = .elapsed ∧
      (forall ns, loaded.offset = some ns -> Formatter.shift ns issue = .ok (clocks .real)) ∧
      full = ⟨.transition, loaded.records, loaded.elapsed, loaded.offset,
        .ofTransition (clocks .elapsed), .ofTransition (clocks .real)⟩ := by
  simp only [ofLoaded, if_true, bind_eq_ok_iff] at made
  rcases made with ⟨elapsed, onElapsed, real, onReal, made⟩
  cases elapsedRules : Pipeline.suffixRules .elapsed loaded.offset issue with
  | error cause => cases elapsedRules
  | ok first =>
      cases realRules : Pipeline.suffixRules .real loaded.offset issue with
      | error cause =>
          rw [Pipeline.forTrace, realRules] at onReal
          cases onReal
      | ok second =>
          rw [Pipeline.forTrace, elapsedRules] at onElapsed
          rw [Pipeline.forTrace, realRules] at onReal
          cases onElapsed
          cases onReal
          cases made
          rcases Pipeline.suffixRules_eq_ok elapsedRules with ⟨early, sameEarly, ofElapsed, _⟩
          rcases Pipeline.suffixRules_eq_ok realRules with ⟨late, sameLate, _, ofReal⟩
          subst sameEarly sameLate
          exact ⟨fun domain => Domain.casesOn domain early late, ofElapsed rfl, ofReal rfl, rfl⟩

/-- A trace of transitions can be made if the offset between the clocks has a text. -/
theorem ofLoaded_transition_of_writable {loaded : Loaded} {issue : Nat}
    (writable : forall ns, loaded.offset = some ns ->
      Exists fun clock : Formatter => Formatter.shift ns issue = .ok clock) :
    Exists fun full : Trace => ofLoaded .transition loaded true none issue = .ok full := by
  have rules : Exists fun rules : Operation.SuffixRules =>
      Pipeline.suffixRules .real loaded.offset issue = .ok rules := by
    cases known : loaded.offset with
    | none => exact ⟨_, rfl⟩
    | some ns =>
        rcases writable ns known with ⟨clock, shifted⟩
        exact ⟨[("TimeNs", clock)], by simp only [Pipeline.suffixRules, shifted, Except.map]⟩
  rcases rules with ⟨rules, onReal⟩
  simp only [ofLoaded, if_true, Pipeline.forTrace, onReal]
  exact ⟨_, rfl⟩

/-- A document of transitions that opens with calculated properties opens without them as well, and
the entries of the two traces correspond on either clock, for every index. -/
theorem entries_completed {decoders : List Decoder} {bytes : List UInt8} {path : Option String}
    {offset : Option Int} {files : Files} {issue other place : Nat} {left : Decoder} {full : Trace}
    (opened : (load decoders bytes ⟨path, true, offset⟩ files issue).value =
      .taken place left (.ok full))
    (transitions : full.kind = .transition) :
    Exists fun bare : Trace => Exists fun clocks : Domain -> Formatter =>
      (load decoders bytes ⟨path, false, offset⟩ files other).value =
        .taken place left (.ok bare) ∧
      clocks .elapsed = .elapsed ∧
      (forall ns, full.offset = some ns -> Formatter.shift ns issue = .ok (clocks .real)) ∧
      forall index domain,
        EntryCompleted (clocks domain) (bare.entry left index domain).value
          (full.entry left index domain).value := by
  rcases load_eq_opened_iff.mp opened with
    ⟨header, document, decoder, loaded, read, chosen, taken, made⟩
  have known : decoder.kind = .transition := (ofLoaded_fields made).1.symm.trans transitions
  have stateless := Decoder.load_transition known taken
  subst stateless
  rw [known] at made
  rcases ofLoaded_transition made with ⟨clocks, onElapsed, onReal, same⟩
  subst same
  rw [Decoder.load_applyOperations _ _ _ _ _ _ true false] at taken
  refine ⟨⟨.transition, loaded.records, loaded.elapsed, loaded.offset, [], []⟩, clocks,
    load_eq_opened_iff.mpr ⟨header, document, decoder, loaded, read, chosen, taken, ?_⟩,
    onElapsed, onReal, ?_⟩
  · rw [known]
    rfl
  · intro index domain
    cases domain <;> exact entry_completed _ _ _ _ _ rfl rfl rfl

/-- The transition of the smallest capture is completed by its duration and its status. -/
theorem played_entry_completed :
    Exists fun bare : Trace =>
      (load Decoder.standard playedText ⟨none, false, none⟩ .nowhere 0).value =
        .taken 1 .transition (.ok bare) ∧
      EntryCompleted .elapsed (bare.entry .transition (.int 0) .elapsed).value
        (playedTrace.entry .transition (.int 0) .elapsed).value := by
  rcases @entries_completed _ _ _ _ _ _ 0 _ _ _ load_playedText rfl with
    ⟨bare, clocks, opened, onElapsed, _, completed⟩
  refine ⟨bare, opened, ?_⟩
  rw [← onElapsed]
  exact completed (.int 0) .elapsed

example : (playedTrace.entry .transition (.int 0) .elapsed).value.map Node.childNames =
    .ok ["wmData", "timestamp", "duration", "status"] := by
  rfl

/-- A document of transitions that opens without calculated properties opens with them as well,
unless the offset between the clocks has no text to name a formatter by. -/
theorem opens_with_operations_iff {decoders : List Decoder} {bytes : List UInt8}
    {path : Option String} {offset : Option Int} {files : Files} {issue other place : Nat}
    {left : Decoder} {bare : Trace}
    (opened : (load decoders bytes ⟨path, false, offset⟩ files other).value =
      .taken place left (.ok bare))
    (transitions : bare.kind = .transition) :
    (Exists fun full : Trace =>
      (load decoders bytes ⟨path, true, offset⟩ files issue).value =
        .taken place left (.ok full)) ↔
      forall ns, bare.offset = some ns ->
        Exists fun clock : Formatter => Formatter.shift ns issue = .ok clock := by
  rcases load_eq_opened_iff.mp opened with
    ⟨header, document, decoder, loaded, read, chosen, taken, made⟩
  rcases ofLoaded_fields made with ⟨sameKind, _, _, sameOffset⟩
  have known : decoder.kind = .transition := sameKind.symm.trans transitions
  rw [Decoder.load_applyOperations _ _ _ _ _ _ false true] at taken
  rw [sameOffset]
  constructor
  · rintro ⟨full, openedFull⟩ ns offsetKnown
    rcases load_eq_opened_iff.mp openedFull with
      ⟨otherHeader, otherDocument, otherDecoder, otherLoaded, readAgain, chosenAgain, takenAgain,
        madeFull⟩
    cases read.symm.trans readAgain
    cases chosen.symm.trans chosenAgain
    cases taken.symm.trans takenAgain
    rw [known] at madeFull
    rcases ofLoaded_transition madeFull with ⟨clocks, _, onReal, _⟩
    exact ⟨clocks .real, onReal ns offsetKnown⟩
  · intro writable
    have madeFull := ofLoaded_transition_of_writable writable
    rw [← known] at madeFull
    rcases madeFull with ⟨full, madeFull⟩
    exact ⟨full, load_eq_opened_iff.mpr
      ⟨header, document, decoder, loaded, read, chosen, taken, madeFull⟩⟩

end Trace

end TraceView
