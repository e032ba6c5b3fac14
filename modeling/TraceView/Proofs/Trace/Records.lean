import TraceView.Proofs.Fields.Names
import TraceView.Proofs.Trace.Opened
import TraceView.Proofs.Transition.Respelling

namespace TraceView

/-!
# Where the records of a trace come from

Each decoder looks for records at the address of its format and keeps a part of the document
there exactly if it is an object with a time.  Sorting moves the records together with their
times.  So a record of an opened trace is the value of a part of the document, and its elapsed time
is the one that the decoder has found in it.
-/

open Json

/-- The time with which a record of a format is loaded, if it is. -/
def TraceKind.stamp? : TraceKind -> Value -> Option Int
  | .protoLog => ProtoLog.Decoder.stamp?
  | .transition => Transition.recordStamp?

/-- The values of parts of a document with their times.  Parts without a time are left out. -/
def TraceKind.stamped (kind : TraceKind) (parts : List Json) : Stamped :=
  parts.filterMap fun part => (kind.stamp? part.exactValue).map fun ns => (ns, part.exactValue)

/-- Only an object can have a time. -/
theorem TraceKind.map_of_stamp? {kind : TraceKind} {value : Value} {ns : Int}
    (stamped : kind.stamp? value = some ns) :
    Exists fun fields : List (String × Value) => value = .map fields := by
  cases value with
  | map fields => exact ⟨fields, rfl⟩
  | _ => cases kind <;> cases stamped

theorem TraceKind.mem_stamped {kind : TraceKind} {parts : List Json} {ns : Int} {record : Value} :
    (ns, record) ∈ kind.stamped parts ↔
      Exists fun part : Json => part ∈ parts ∧ part.exactValue = record ∧
        kind.stamp? record = some ns := by
  unfold stamped
  rw [List.mem_filterMap]
  constructor
  · rintro ⟨part, listed, found⟩
    rcases Option.map_eq_some_iff.mp found with ⟨time, stamped, same⟩
    cases same
    exact ⟨part, listed, rfl, stamped⟩
  · rintro ⟨part, listed, same, stamped⟩
    rw [← same] at stamped ⊢
    exact ⟨part, listed, by rw [stamped, Option.map_some]⟩

/-- A document that is read is complete and has a header. -/
theorem Json.readTrace_eq_ok_iff {bytes : List UInt8} {header : Header} {document : Json} :
    readTrace bytes = .ok (header, document) ↔
      read .trace bytes = .whole document ∧ Header.ofTree? document = some header := by
  unfold readTrace
  cases read .trace bytes with
  | whole tree =>
      cases scanned : Header.ofTree? tree with
      | none =>
          simp only [scanned, reduceCtorEq, Reading.whole.injEq, false_iff, not_and]
          rintro same
          rw [← same, scanned]
          exact Option.some_ne_none header ∘ Eq.symm
      | some found =>
          simp only [scanned, Except.ok.injEq, Prod.mk.injEq, Reading.whole.injEq]
          constructor
          · rintro ⟨sameHeader, same⟩
            exact ⟨same, by rw [← same, scanned, sameHeader]⟩
          · rintro ⟨same, found⟩
            rw [← same, scanned] at found
            exact ⟨Option.some.inj found, same⟩
  | stopped soFar problem =>
      simp only [reduceCtorEq, false_and, iff_false]
      split <;> simp only [reduceCtorEq, not_false_eq_true]

/-- What a decoder finds: the parts at the address of its format, with their times. -/
theorem Decoder.load_stamped {decoder left : Decoder} {document : Json} {header : Json.Header}
    {settings : Settings} {files : Files} {loaded : Loaded}
    (taken : (decoder.load document header settings files).value = (left, .ok loaded)) :
    Exists fun offset : Option Int => loaded = Loaded.ofStamped
      (decoder.kind.stamped (partsAt decoder.kind.recordAddress [] document)) offset := by
  cases decoder with
  | protoLog state =>
      simp only [Decoder.load, ProtoLog.Decoder.load, Noted.value_andThen, Noted.value_quiet] at taken
      rcases configured : (state.configure document settings files).value with ⟨after, outcome⟩
      rw [configured] at taken
      cases outcome with
      | error cause => cases (Prod.mk.inj taken).2
      | ok done =>
          cases (Prod.mk.inj taken).2
          refine ⟨settings.offset.or (ProtoLog.Decoder.recordedOffset header), ?_⟩
          simp only [ProtoLog.Decoder.read, ProtoLog.Decoder.messages, List.filterMap_map]
          rfl
  | transition =>
      simp only [Decoder.load, Noted.value_andThen, Noted.value_quiet] at taken
      cases (Prod.mk.inj taken).2
      refine ⟨settings.offset.or (Transition.recordedOffset header), ?_⟩
      simp only [Transition.load, Noted.value_andThen, Transition.stampAll_value,
        List.filterMap_map]
      rfl

namespace Trace

variable {bytes : List UInt8} {settings : Settings} {files : Files} {given : Option Pipeline}
  {trace : Trace}

/-- A record of an opened trace is the value of a part of the document, and its time is the one
found in it. -/
theorem OpenedFrom.record (opened : OpenedFrom bytes settings files given trace)
    (place : Fin trace.length) :
    Exists fun document : Json => Exists fun part : Json => Exists fun ns : Int =>
      read .trace bytes = .whole document ∧
      part ∈ partsAt trace.kind.recordAddress [] document ∧
      part.exactValue = trace.record place ∧
      trace.kind.stamp? (trace.record place) = some ns ∧
      trace.elapsed[place.val]? = some ns := by
  rcases opened with @⟨header, document, decoder, left, loaded, issue, _, read, taken, made⟩
  rcases Decoder.load_stamped taken with ⟨offset, found⟩
  rcases ofLoaded_fields made with ⟨kind, records, elapsed, _⟩
  rw [found] at records elapsed
  rw [← kind] at records elapsed
  have here : trace.records[place.val]? = some (trace.record place) :=
    List.getElem?_eq_getElem place.isLt
  rw [records, Loaded.ofStamped, List.getElem?_map] at here
  rcases Option.map_eq_some_iff.mp here with ⟨⟨ns, record⟩, sorted, same⟩
  have listed : (ns, record) ∈ trace.kind.stamped (partsAt trace.kind.recordAddress [] document) :=
    (List.mergeSort_perm _ _).mem_iff.mp (List.mem_of_getElem? sorted)
  rcases TraceKind.mem_stamped.mp listed with ⟨part, given, value, stamped⟩
  have sameRecord : record = trace.record place := same
  rw [sameRecord] at value stamped
  refine ⟨document, part, ns, (readTrace_eq_ok_iff.mp read).1, given, value, stamped, ?_⟩
  rw [elapsed, Loaded.ofStamped, List.getElem?_map, sorted, Option.map_some]

end Trace

end TraceView
