import TraceView.Proofs.Json.TopLevel
import TraceView.Proofs.Trace.Records

namespace TraceView

/-!
# Loading by structure

Loading looks for names, for records and for a viewer configuration by address, in one pass each.
For a document whose members can be told apart by addresses this is the same as looking at the
members: the header shows their names and values, and the records are items of the member that
the format is recognised by.  So nothing that a trace answers depends on the order of the members.
-/

open Json

namespace TraceKind

/-- The name of the member that holds the records of a format. -/
def sectionName : TraceKind -> String
  | .protoLog => "log"
  | .transition => "transitions"

/-- The format as which the standard decoders load a document with these members. -/
def selected (members : List (String × Json)) : TraceKind :=
  if "log" ∈ members.map Prod.fst then .protoLog else .transition

end TraceKind

/-! ## Sections -/

theorem TraceKind.plain_sectionName (kind : TraceKind) : IsPlain kind.sectionName := by
  cases kind <;> exact ⟨by decide, by decide⟩

theorem TraceKind.named_recordAddress (kind : TraceKind) : kind.recordAddress ≠ "" := by
  cases kind <;> decide

theorem TraceKind.recordAddress_eq (kind : TraceKind) :
    kind.recordAddress = Place.address [kind.sectionName, itemName] := by
  cases kind <;> decide

namespace Json

variable {kind : TraceKind} {members : List (String × Json)} {value : Json}

/-- The parts of a section that are looked at as records.  They are the items of an array, and also the
members of an object that have the name of an item. -/
def sectionParts : Json -> List Json
  | .array items => items
  | .object members => (members.filter fun member => member.1 = itemName).map (·.2)
  | _ => []

/-- A member of a section leads to a record only by the word for items. -/
theorem apart_of_other {name : String} (other : name ≠ itemName) :
    Place.Apart [kind.sectionName, name] kind.recordAddress := by
  intro below same
  rw [TraceKind.recordAddress_eq, List.cons_append, List.cons_append, List.nil_append,
    Place.address_cons (List.cons_ne_nil _ _), Place.address_cons (List.cons_ne_nil _ _)] at same
  have rest : Place.address (name :: below) = itemName :=
    String.append_right_inj _ |>.mp same
  by_cases last : below = []
  · rw [last] at rest
    exact other rest
  · have pointed : '.' ∈ (Place.address (name :: below)).toList := by
      rw [Place.address_cons last, String.toList_append, String.toList_append]
      exact List.mem_append_left _ (List.mem_append_right _ List.mem_cons_self)
    rw [rest] at pointed
    revert pointed
    decide

theorem memberPartsAt_section (members : List (String × Json)) :
    memberPartsAt kind.recordAddress [kind.sectionName] members =
      (Json.object members).sectionParts := by
  induction members with
  | nil => rfl
  | cons first rest inductionHypothesis =>
      rcases first with ⟨name, member⟩
      rw [memberPartsAt, inductionHypothesis, List.singleton_append, sectionParts, sectionParts]
      by_cases item : name = itemName
      · subst item
        rw [partsAt_here (TraceKind.recordAddress_eq kind).symm, List.filter_cons_of_pos (by simp)]
        rfl
      · rw [partsAt_of_apart (apart_of_other item), List.filter_cons_of_neg (by simpa using item)]
        rfl

/-- What is found in a section, whatever its shape. -/
theorem partsAt_section (kind : TraceKind) (value : Json) :
    partsAt kind.recordAddress [kind.sectionName] value = value.sectionParts := by
  have above : Place.address [kind.sectionName] ≠ kind.recordAddress := by cases kind <;> decide
  cases value with
  | array items => exact partsAt_items (TraceKind.recordAddress_eq kind).symm above items
  | object members =>
      rw [partsAt, if_neg above]
      exact memberPartsAt_section members
  | _ => exact partsAt_scalar above rfl

/-- The parts at the address of the records of a format are those of the member with its name. -/
theorem partsAt_records (level : TopLevel members)
    (held : members.lookup kind.sectionName = some value) :
    partsAt kind.recordAddress [] (.object members) = value.sectionParts := by
  have into : top kind.recordAddress = kind.sectionName := by cases kind <;> decide
  rw [partsAt_object level kind.named_recordAddress, into, held, Option.map_some, Option.getD_some,
    partsAt_section]

end Json

variable {members others : List (String × Json)} {value : Json}

/-! ## Recognition -/

/-- A log is preferred to transitions. -/
theorem choose_standard (names : List String) :
    choose Decoder.standard names =
      if "log" ∈ names then some (0, .protoLog .fresh)
      else if "transitions" ∈ names then some (1, .transition)
      else none := by
  have first : (Decoder.protoLog .fresh).accepts names = decide ("log" ∈ names) :=
    List.contains_eq_mem _ _
  have second : Decoder.transition.accepts names = decide ("transitions" ∈ names) :=
    List.contains_eq_mem _ _
  simp only [choose, Decoder.standard, List.zipIdx_cons, List.zipIdx_nil, List.find?_cons,
    List.find?_nil, first, second]
  by_cases log : "log" ∈ names
  · rw [if_pos log, decide_eq_true log]
    rfl
  · rw [if_neg log, decide_eq_false log]
    by_cases transitions : "transitions" ∈ names
    · rw [if_pos transitions, decide_eq_true transitions]
      rfl
    · rw [if_neg transitions, decide_eq_false transitions]
      rfl

/-- Which decoder the standard ones choose, by the names of a document. -/
theorem kind_of_choose {names : List String} {place : Nat} {decoder : Decoder}
    (chosen : choose Decoder.standard names = some (place, decoder)) :
    decoder.kind = if "log" ∈ names then .protoLog else .transition := by
  rw [choose_standard] at chosen
  by_cases log : "log" ∈ names
  · rw [if_pos log] at chosen ⊢
    cases chosen
    rfl
  · rw [if_neg log] at chosen ⊢
    by_cases transitions : "transitions" ∈ names
    · rw [if_pos transitions] at chosen
      cases chosen
      rfl
    · rw [if_neg transitions] at chosen
      cases chosen

theorem choose_of_perm (decoders : List Decoder) {names otherNames : List String}
    (same : names.Perm otherNames) : choose decoders names = choose decoders otherNames := by
  have alike : forall decoder : Decoder, decoder.accepts names = decoder.accepts otherNames := by
    intro decoder
    cases decoder <;> exact same.contains_eq
  simp only [choose, alike]

/-- Names are shown in one order, in whatever order they are given. -/
theorem Json.Header.sortedNames_of_perm {header other : Header}
    (same : header.names.Perm other.names) : header.sortedNames = other.sortedNames := by
  have trans : forall first second third : String, (!decide (second < first)) = true ->
      (!decide (third < second)) = true -> (!decide (third < first)) = true := by
    intro first second third before after
    simp only [Bool.not_eq_true', decide_eq_false_iff_not, String.not_lt] at before after ⊢
    exact String.le_trans before after
  have total : forall first second : String,
      (!decide (second < first) || !decide (first < second)) = true := by
    intro first second
    simp only [Bool.or_eq_true, Bool.not_eq_true', decide_eq_false_iff_not, String.not_lt]
    exact String.le_total first second
  have sorted := List.pairwise_mergeSort trans total
  refine List.Perm.eq_of_pairwise ?_ (sorted header.names) (sorted other.names)
    ((List.mergeSort_perm _ _).trans (same.trans (List.mergeSort_perm _ _).symm))
  intro first second _ _ before after
  simp only [Bool.not_eq_true', decide_eq_false_iff_not, String.not_lt] at before after
  exact String.le_antisymm before after

/-! ## Order of the members -/

/-- What a decoder finds depends on the parts of the document at the addresses of configurations and
of records, and on the offset between the clocks in its header. -/
theorem Decoder.load_congr {document other : Json} {header otherHeader : Header}
    (config : partsAt "viewerConfig" [] document = partsAt "viewerConfig" [] other)
    (records : forall kind : TraceKind,
      partsAt kind.recordAddress [] document = partsAt kind.recordAddress [] other)
    (offset : forall kind : TraceKind,
      header.scalars.lookup kind.offsetName = otherHeader.scalars.lookup kind.offsetName)
    (decoder : Decoder) (settings : Settings) (files : Files) :
    decoder.load document header settings files = decoder.load other otherHeader settings files := by
  cases decoder with
  | protoLog state =>
      have configured : state.configure document settings files =
          state.configure other settings files := by
        simp only [ProtoLog.Decoder.configure, ProtoLog.Decoder.embedded, config]
      have messages : ProtoLog.Decoder.messages document = ProtoLog.Decoder.messages other := by
        rw [ProtoLog.Decoder.messages, show partsAt "log.item" [] document = _ from records .protoLog]
        rfl
      have recorded : ProtoLog.Decoder.recordedOffset header =
          ProtoLog.Decoder.recordedOffset otherHeader :=
        congrArg (fun found => (found.bind Value.toInt?).map (· * 1000000)) (offset .protoLog)
      simp only [Decoder.load, ProtoLog.Decoder.load, ProtoLog.Decoder.read, configured, messages,
        recorded]
  | transition =>
      have items : partsAt "transitions.item" [] document = partsAt "transitions.item" [] other :=
        records .transition
      have recorded : Transition.recordedOffset header = Transition.recordedOffset otherHeader :=
        congrArg (fun found => found.bind Value.toInt?) (offset .transition)
      simp only [Decoder.load, Transition.load, items, recorded]

/-! ## Loading -/

variable {bytes otherBytes : List UInt8} {settings : Settings} {files : Files} {issue : Nat}

theorem Json.readTrace_object (read : Json.read .trace bytes = .whole (.object members))
    (level : TopLevel members) :
    readTrace bytes = .ok (⟨members.map Prod.fst, atoms members⟩, .object members) :=
  readTrace_eq_ok_iff.mpr ⟨read, Header.ofTree?_object level⟩

/-- The records that are loaded from a section are those of its parts that have a time.  They ascend
in time, and those of one time keep their order. -/
theorem Trace.records_of_section (read : Json.read .trace bytes = .whole (.object members))
    (level : TopLevel members) {place : Nat} {left : Decoder} {trace : Trace}
    (opened : (load Decoder.standard bytes settings files issue).value =
      .taken place left (.ok trace))
    (held : members.lookup (TraceKind.selected members).sectionName = some value) :
    trace.kind = .selected members ∧
      Exists fun pairs : Stamped =>
        trace.records = pairs.map (·.2) ∧ trace.elapsed = pairs.map (·.1) ∧
          pairs.Perm (trace.kind.stamped value.sectionParts) ∧
          pairs.Pairwise (fun a b => a.1 ≤ b.1) ∧
          forall ns, pairs.filter (fun pair => pair.1 = ns) =
            (trace.kind.stamped value.sectionParts).filter fun pair => pair.1 = ns := by
  rcases load_eq_opened_iff.mp opened with
    ⟨header, document, decoder, loaded, whole, chosen, taken, made⟩
  cases (Json.readTrace_object read level).symm.trans whole
  rcases ofLoaded_fields made with ⟨kind, records, elapsed, _⟩
  rcases Decoder.load_stamped taken with ⟨offset, found⟩
  have format : decoder.kind = .selected members := kind_of_choose chosen
  rw [← format] at held
  rw [Json.partsAt_records level held] at found
  rw [found] at records elapsed
  rw [kind]
  exact ⟨format, (decoder.kind.stamped value.sectionParts).sorted, records, elapsed,
    List.mergeSort_perm _ _,
    Stamped.sorted_ascends _, Stamped.filter_sorted _⟩

/-- Documents with the same members in another order are loaded alike. -/
theorem load_of_perm (read : Json.read .trace bytes = .whole (.object members))
    (level : TopLevel members) (otherRead : Json.read .trace otherBytes = .whole (.object others))
    (same : members.Perm others) (decoders : List Decoder) :
    load decoders bytes settings files issue = load decoders otherBytes settings files issue := by
  have names := same.map Prod.fst
  have scalars : forall name, (atoms members).lookup name = (atoms others).lookup name :=
    Fields.lookup_of_perm (level.distinct.sublist (names_atoms members)) (same.filterMap _)
  have parts : forall address, address ≠ "" ->
      partsAt address [] (.object members) = partsAt address [] (.object others) :=
    fun address named => partsAt_of_perm level same named
  have shown : Header.sortedNames ⟨members.map Prod.fst, atoms members⟩ =
      Header.sortedNames ⟨others.map Prod.fst, atoms others⟩ :=
    Json.Header.sortedNames_of_perm names
  have found : forall decoder : Decoder,
      decoder.load (.object members) ⟨members.map Prod.fst, atoms members⟩ settings files =
        decoder.load (.object others) ⟨others.map Prod.fst, atoms others⟩ settings files :=
    fun decoder => Decoder.load_congr (parts "viewerConfig" (by decide))
      (fun kind => parts kind.recordAddress (by cases kind <;> decide))
      (fun kind => scalars kind.offsetName) decoder settings files
  unfold load
  rw [Json.readTrace_object read level, Json.readTrace_object otherRead (level.of_perm same)]
  simp only [choose_of_perm decoders names, found, shown]

/-- A document whose members can be told apart by addresses is loaded by its structure.

Its header has the names of the members and the values of those that are texts, numbers or truth
values.  If the member that the standard decoders recognise the document by is an array, the records
of the trace are the objects in it in which the decoder finds a time, each with this time, sorted by
time without any other change of order.  And the order of the members matters to no load. -/
theorem load_by_structure (read : Json.read .trace bytes = .whole (.object members))
    (level : TopLevel members) :
    readTrace bytes = .ok (⟨members.map Prod.fst, atoms members⟩, .object members) ∧
      (forall (place : Nat) (left : Decoder) (trace : Trace) (items : List Json),
        (load Decoder.standard bytes settings files issue).value =
          .taken place left (.ok trace) ->
        members.lookup (TraceKind.selected members).sectionName = some (.array items) ->
        trace.kind = .selected members ∧
          (forall record, record ∈ trace.records -> Exists fun inner : List (String × Json) =>
            Json.object inner ∈ items ∧ record = (Json.object inner).exactValue) ∧
          Exists fun pairs : Stamped =>
            trace.records = pairs.map (·.2) ∧ trace.elapsed = pairs.map (·.1) ∧
              pairs.Perm (trace.kind.stamped items) ∧ pairs.Pairwise (fun a b => a.1 ≤ b.1) ∧
              forall ns, pairs.filter (fun pair => pair.1 = ns) =
                (trace.kind.stamped items).filter fun pair => pair.1 = ns) ∧
      forall (decoders : List Decoder) (otherBytes : List UInt8) (others : List (String × Json)),
        Json.read .trace otherBytes = .whole (.object others) -> members.Perm others ->
        load decoders bytes settings files issue = load decoders otherBytes settings files issue := by
  refine ⟨Json.readTrace_object read level, ?_, ?_⟩
  · intro place left trace items opened held
    rcases Trace.records_of_section read level opened held with
      ⟨kind, pairs, records, elapsed, same, rest⟩
    refine ⟨kind, ?_, pairs, records, elapsed, same, rest⟩
    intro record listed
    rw [records] at listed
    rcases List.mem_map.mp listed with ⟨⟨ns, value⟩, paired, rfl⟩
    rcases TraceKind.mem_stamped.mp (same.mem_iff.mp paired) with ⟨part, given, held, stamped⟩
    rcases TraceKind.map_of_stamp? stamped with ⟨fields, mapping⟩
    rcases Json.eq_object_of_exactValue (held.trans mapping) with ⟨inner, object⟩
    rw [object] at given held
    exact ⟨inner, given, held.symm⟩
  · intro decoders otherBytes others otherRead same
    exact load_of_perm read level otherRead same decoders

/-- A capture in which names of the top occur further down as well. -/
def nestedText : List UInt8 :=
  ("\x7b\"transitions\":[\x7b\"log\":[\x7b\"\":1\x7d]," ++
    "\"wmData\":\x7b\"sendTimeNs\":7\x7d\x7d],\"item\":2\x7d").toUTF8.toList

/-- The same capture with the members in the other order. -/
def swappedText : List UInt8 :=
  ("\x7b\"item\":2,\"transitions\":[\x7b\"log\":[\x7b\"\":1\x7d]," ++
    "\"wmData\":\x7b\"sendTimeNs\":7\x7d\x7d]\x7d").toUTF8.toList

def nestedItem : Json :=
  .object [("log", .array [.object [("", .integer 1)]]),
    ("wmData", .object [("sendTimeNs", .integer 7)])]

def nestedMembers : List (String × Json) :=
  [("transitions", .array [nestedItem]), ("item", .integer 2)]

def nestedTrace : Trace :=
  { Trace.playedTrace with records := [nestedItem.exactValue] }

/-- The capture shows the names at its top only, and opens as a trace of its one transition, also
with the members in the other order. -/
theorem nestedText_loads :
    Json.readTrace nestedText =
        .ok (⟨["transitions", "item"], [("item", .int 2)]⟩, .object nestedMembers) ∧
      (load Decoder.standard swappedText .standard .nowhere 0).value =
        .taken 1 .transition (.ok nestedTrace) ∧
      nestedTrace.records.Perm [nestedItem.exactValue] ∧ nestedTrace.elapsed.Perm [7] := by
  have spelled : Json.read .trace nestedText = .whole (.object nestedMembers) := by
    with_unfolding_all rfl
  have swapped : Json.read .trace swappedText = .whole (.object nestedMembers.reverse) := by
    with_unfolding_all rfl
  have level : TopLevel nestedMembers := by
    refine ⟨List.nodup_iff_pairwise_ne.mpr (by decide), ?_⟩
    intro name listed
    rcases List.mem_pair.mp listed with here | here <;> rw [here] <;>
      exact ⟨by decide, by decide⟩
  rcases @load_by_structure _ _ .standard .nowhere 0 spelled level with
    ⟨header, sections, permuted⟩
  have opened : (load Decoder.standard nestedText .standard .nowhere 0).value =
      .taken 1 .transition (.ok nestedTrace) :=
    load_eq_opened_iff.mpr ⟨_, _, _, _, header, rfl, load_single rfl rfl rfl .standard .nowhere, rfl⟩
  refine ⟨header, ?_, ?_⟩
  · rw [← permuted _ _ _ swapped (List.reverse_perm _).symm]
    exact opened
  · rcases sections _ _ _ _ opened rfl with ⟨_, _, pairs, records, elapsed, same, _⟩
    rw [records, elapsed]
    exact ⟨same.map _, same.map _⟩

end TraceView
