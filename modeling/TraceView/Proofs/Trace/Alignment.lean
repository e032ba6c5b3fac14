import Mathlib.Algebra.Group.Int.Defs
import TraceView.Proofs.Operation.Lookup
import TraceView.Proofs.Trace.Opened
import TraceView.Web.Serve

namespace TraceView

/-!
# Entries and their timestamps

The timestamps of a trace are asked for in three ways: as a list, as a part of the description,
and as the property of an entry.  Each way computes them anew from the elapsed times, and an entry
goes through a pipeline after its timestamp has been attached.  The three agree all the same.

What carries an entry through its pipeline is that the timestamp is present.  An operation that
is told to add a property under its name finds it there and adds nothing, every other calculated
property has another name, and a formatter is only set where there is none.

An index that is the number of no entry is refused with a message that shows it.  The refusal is
only as good as this text: an integer with more digits than a text may have is refused with the
fault of its text.
-/

/-! ## Trees that bear a timestamp -/

/-- What an operation has to preserve: the timestamp is the child that a look-up finds under its
name, as it was attached. -/
def Node.Bears (tree : Node) (stamp : Timestamp) : Prop :=
  Exists fun node : Node => tree.child? "timestamp" = some node ∧ node.source = .raw ∧
    node.value = .int stamp.nanoseconds ∧ node.formatter = some stamp.domain.formatter

/-- What a reader of a tree sees of a timestamp: a present property of the record, its integer and
its text. -/
def Node.Shows (tree : Node) (stamp : Timestamp) : Prop :=
  Exists fun node : Node => tree.child? "timestamp" = some node ∧ node.source = .raw ∧
    node.int? = some stamp.nanoseconds ∧ node.text = stamp.text

namespace Node

variable {tree : Node} {stamp : Timestamp}

theorem Bears.shows (bears : tree.Bears stamp) : tree.Shows stamp := by
  rcases bears with ⟨node, found, source, value, formatter⟩
  refine ⟨node, found, source, ?_, ?_⟩
  · rw [int?, value, Value.asInt?]
  · simp only [text, value, Value.isNull, formatter, Bool.false_eq_true, if_false, Timestamp.text]

/-- One operation: a calculated property takes a name that no present child has, so it is not the
one of the timestamp. -/
theorem Bears.apply (bears : tree.Bears stamp) (operation : Operation) :
    (operation.apply tree).value.Bears stamp := by
  rcases bears with ⟨node, found, source, value, formatter⟩
  rcases Operation.apply_cases operation tree with unchanged | ⟨rules, dressed⟩ | ⟨added, missing, grown⟩
  · rw [unchanged]
    exact ⟨node, found, source, value, formatter⟩
  · rw [dressed]
    refine ⟨Operation.setFormatters rules node, ?_, ?_, ?_, ?_⟩
    · rw [Operation.child?_setFormatters, found, Option.map_some]
    · rw [Operation.source_setFormatters, source]
    · rw [Operation.value_setFormatters, value]
    · exact Operation.formatter_setFormatters_of_some rules formatter
  · have different : "timestamp" ≠ added.1 := by
      intro same
      rw [same, missing] at found
      cases found
    rw [grown]
    refine ⟨node, ?_, source, value, formatter⟩
    rw [Operation.child?_addCalculated_of_ne different, found]

/-- A whole pipeline, one operation after the other. -/
theorem Bears.steps (bears : tree.Bears stamp) (pipeline : Pipeline) :
    (pipeline.steps tree).value.Bears stamp := by
  induction pipeline generalizing tree with
  | nil => exact bears
  | cons operation rest inductionHypothesis => exact inductionHypothesis (bears.apply operation)

end Node

/-! ## The three ways to a timestamp -/

/-- The words for clocks that the description of a trace lists. -/
def Web.listedDomains : Value -> Option Value
  | .map fields => fields.lookup "timestamp_types"
  | _ => none

/-- An integer with more digits than a text may have has no text. -/
theorem Value.text_int_of_long {n : Int}
    (long : ¬ (Nat.toDigits 10 n.natAbs).length ≤ Numeral.digitLimit) :
    (Value.int n).text = .error .tooManyDigits :=
  if_neg long

namespace Trace

variable {trace : Trace}

/-- The timestamp of an entry stands in the list at the place of the entry. -/
theorem timestamp_listed {place : Fin trace.length} {domain : Domain} {stamp : Timestamp}
    (stamped : trace.timestamp place domain = .ok stamp) :
    Exists fun stamps : List Timestamp =>
      trace.timestamps? domain = some stamps ∧ stamps[place.val]? = some stamp := by
  unfold timestamp at stamped
  cases elapsed : trace.elapsed[place.val]? with
  | none =>
      rw [elapsed] at stamped
      cases stamped
  | some ns =>
      cases ahead : trace.shift? domain with
      | none =>
          rw [elapsed, ahead] at stamped
          cases stamped
      | some shift =>
          rw [elapsed, ahead] at stamped
          cases stamped
          refine ⟨_, by rw [timestamps?, ahead, Option.map_some], ?_⟩
          rw [List.getElem?_map, elapsed, Option.map_some]

/-- The tree of an entry bears the timestamp that was attached to it. -/
theorem buildEntry_bears {kind : TraceKind} {fields : List (String × Value)} {stamp : Timestamp}
    {tree : Node} (built : buildEntry kind fields stamp = .ok tree) : tree.Bears stamp := by
  rcases buildEntry_eq_ok built with ⟨bare, _, free, grown⟩
  rw [grown]
  exact ⟨_, Node.child?_append free rfl, rfl, rfl, rfl⟩

/-- Every tree of an entry shows the timestamp that the list has for it, whatever the pipeline
is. -/
theorem entry_shows {decoder : Decoder} {place : Fin trace.length} {domain : Domain} {tree : Node}
    (shown : (trace.entry decoder (.int place.val) domain).value = .ok tree) :
    Exists fun stamps : List Timestamp => Exists fun stamp : Timestamp =>
      trace.timestamps? domain = some stamps ∧ stamps[place.val]? = some stamp ∧
        tree.Shows stamp := by
  rcases entry_eq_ok shown with ⟨stamp, fields, raw, stamped, _, built, same⟩
  rcases timestamp_listed stamped with ⟨stamps, listed, here⟩
  rw [same]
  exact ⟨stamps, stamp, listed, here, ((buildEntry_bears built).steps _).shows⟩

/-- An entry has no wall-clock timestamp if the offset between the clocks is not known. -/
theorem entry_missing_domain (place : Fin trace.length)
    (stamped : trace.elapsed.length = trace.length) (unknown : trace.offset = none)
    (decoder : Decoder) :
    (trace.entry decoder (.int place.val) .real).value =
      .error (.missingDomain trace.kind .real) := by
  have inside : place.val < trace.elapsed.length := by
    rw [stamped]
    exact place.isLt
  have refused : trace.timestamp place .real = .error (.missingDomain trace.kind .real) := by
    simp only [timestamp, List.getElem?_eq_getElem inside, shift?, unknown]
  rw [value_entry, rawEntry, position_of_fin]
  simp only [bind, Except.bind, refused, Except.map]

theorem entry_of_outside {index : Value}
    (outside : forall place : Fin trace.length, index ≠ .int place.val)
    (decoder : Decoder) (domain : Domain) :
    (trace.entry decoder index domain).value = .error (match index.text with
      | .ok text => EntryError.outOfRange text trace.length
      | .error cause => .fault cause) := by
  rw [value_entry, rawEntry_of_outside outside]
  rfl

/-- The list of elapsed timestamps ascends in the order of timestamps. -/
theorem elapsed_stamps_ascend (ascending : trace.elapsed.Pairwise (· ≤ ·)) (shift : Int) :
    (trace.elapsed.map fun ns => (⟨.elapsed, ns + shift⟩ : Timestamp)).Pairwise
      fun a b => a.le b = .ok true := by
  rw [List.pairwise_map]
  apply ascending.imp
  intro first second before
  simp only [Timestamp.le, Timestamp.lt, Timestamp.together, if_true, Except.map,
    Except.ok.injEq, Bool.or_eq_true, decide_eq_true_eq, Timestamp.mk.injEq, true_and]
  omega

/-! ## All of it -/

/-- The timestamps of a trace that is opened with any pipeline.

There is one elapsed timestamp for each entry, and they ascend.  The wall-clock ones are the
elapsed ones moved by the offset, and they are there, and in the description, exactly if the offset
is known; otherwise every entry is refused on that clock.  Each tree of an entry shows the
timestamp that stands at its place in the list.  An index that is the number of no entry is out of
range exactly as far as it can be shown: the refusal has the text of the index. -/
theorem timestamps_align {bytes : List UInt8} {settings : Settings} {files : Files}
    {given : Option Pipeline} (opened : OpenedFrom bytes settings files given trace) :
    (Exists fun elapsed : List Timestamp =>
      trace.timestamps? .elapsed = some elapsed ∧ elapsed.length = trace.length ∧
        elapsed.Pairwise (fun a b => a.le b = .ok true) ∧
        forall offset, trace.offset = some offset ->
          trace.timestamps? .real = some (elapsed.map fun stamp =>
            ⟨.real, stamp.nanoseconds + offset⟩)) ∧
    (forall offset, trace.offset = some offset -> forall id filename,
      Web.listedDomains (Web.description id filename trace) =
        some (.list [.string "elapsed", .string "real"])) ∧
    (trace.offset = none ->
      trace.timestamps? .real = none ∧
      (forall id filename, Web.listedDomains (Web.description id filename trace) =
        some (.list [.string "elapsed"])) ∧
      forall (decoder : Decoder) (place : Fin trace.length),
        (trace.entry decoder (.int place.val) .real).value =
          .error (.missingDomain trace.kind .real)) ∧
    (forall (decoder : Decoder) (place : Fin trace.length) (domain : Domain) (tree : Node),
      (trace.entry decoder (.int place.val) domain).value = .ok tree ->
      Exists fun stamps : List Timestamp => Exists fun stamp : Timestamp =>
        trace.timestamps? domain = some stamps ∧ stamps[place.val]? = some stamp ∧
          tree.Shows stamp) ∧
    (forall (decoder : Decoder) (index : Value) (domain : Domain),
      (forall place : Fin trace.length, index ≠ .int place.val) ->
      forall text, (trace.entry decoder index domain).value = .error (.outOfRange text trace.length) ↔
        index.text = .ok text) := by
  refine ⟨⟨_, rfl, ?_, elapsed_stamps_ascend opened.elapsed_ascends 0, ?_⟩, ?_, ?_, ?_, ?_⟩
  · rw [List.length_map, opened.length_elapsed]
  · intro offset known
    simp only [timestamps?, shift?, known, Option.map_some, List.map_map, Function.comp_def,
      Int.add_zero]
  · intro offset known id filename
    simp only [Web.description, domains, Domain.all, timestamps?, shift?, known]
    rfl
  · intro unknown
    refine ⟨?_, ?_, ?_⟩
    · simp only [timestamps?, shift?, unknown, Option.map_none]
    · intro id filename
      simp only [Web.description, domains, Domain.all, timestamps?, shift?, unknown]
      rfl
    · intro decoder place
      exact entry_missing_domain place opened.length_elapsed unknown decoder
  · intro decoder place domain tree shown
    exact entry_shows shown
  · intro decoder index domain outside text
    rw [entry_of_outside outside]
    cases index.text with
    | ok shown => simp only [Except.error.injEq, EntryError.outOfRange.injEq, and_true, Except.ok.injEq]
    | error cause => simp only [Except.error.injEq, reduceCtorEq]

/-- A pipeline that is told to calculate properties under the name of the timestamp, and to show
it in another way. -/
def intrusive : Pipeline :=
  [.formatters [("timestamp", .standard)], .status "timestamp",
    .duration ⟨["wmData"], "sendTimeNs", "finishTimeNs", "timestamp"⟩]

/-- The timestamp of an entry survives such a pipeline. -/
theorem intrusive_entry_shows :
    Exists fun trace : Trace =>
      OpenedFrom playedText ⟨none, true, some 5⟩ .nowhere (some intrusive) trace ∧
        trace.timestamps? .real = some [⟨.real, 12⟩] ∧
        forall tree : Node, (trace.entry .transition (.int 0) .real).value = .ok tree ->
          tree.Shows ⟨.real, 12⟩ := by
  have opened : OpenedFrom playedText ⟨none, true, some 5⟩ .nowhere (some intrusive)
      ⟨.transition, [playedRecord], [7], some 5, intrusive, intrusive⟩ :=
    @OpenedFrom.intro _ _ _ _ _ _ _ _ _ 0 _ readTrace_playedText (load_played _ _) rfl
  refine ⟨_, opened, rfl, ?_⟩
  intro tree shown
  rcases timestamps_align opened with ⟨_, _, _, entries, _⟩
  rcases entries .transition ⟨0, Nat.zero_lt_one⟩ .real tree shown with
    ⟨stamps, stamp, listed, here, shows⟩
  cases listed
  cases here
  exact shows

/-- An index without a text is not refused as out of range: what is reported is that it cannot be
written. -/
theorem unwritable_index_faults :
    OpenedFrom playedText .standard .nowhere none playedTrace ∧
      (forall place : Fin playedTrace.length, Value.int (10 ^ 4300) ≠ .int place.val) ∧
      (playedTrace.entry .transition (.int (10 ^ 4300)) .elapsed).value =
        .error (.fault .tooManyDigits) := by
  have outside : forall place : Fin playedTrace.length, Value.int (10 ^ 4300) ≠ .int place.val := by
    intro place same
    have large : ¬ (10 : Int) ^ 4300 < 1 := by decide +kernel
    rw [Value.int.inj same] at large
    exact large (Int.ofNat_lt.mpr place.isLt)
  refine ⟨openedFrom_of_load load_playedText, outside, ?_⟩
  rw [entry_of_outside outside, Value.text_int_of_long]
  decide +kernel

end Trace

end TraceView
