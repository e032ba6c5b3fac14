import TraceView.Proofs.Json.Inserted
import TraceView.Proofs.Trace.Failures
import TraceView.Proofs.Trace.Structure

namespace TraceView

/-!
# Sections of any shape

The records of a trace are looked for below the name of a section, and nothing looks at the section
itself.  What is found there has an address that ends in the word `item`: the items of an array, but
also the members with this name if the section is an object, and nothing if it is a scalar.  So a
section of any shape is loaded as the array of these parts, and a document is not refused for the
shape of its section.  It may still be refused for its configuration or for its header.
-/

open Json

variable {kind : TraceKind} {front back : List (String × Json)} {value : Json}

/-! ## Parts -/

namespace Json

/-- If the parts at an address in one member are the same, so are those in the document. -/
theorem partsAt_replace {name address : String} {value other : Json} (named : address ≠ "")
    (same : partsAt address [name] value = partsAt address [name] other)
    (front back : List (String × Json)) :
    partsAt address [] (.object (front ++ (name, value) :: back)) =
      partsAt address [] (.object (front ++ (name, other) :: back)) := by
  have root : Place.address [] ≠ address := named.symm
  rw [partsAt, partsAt, if_neg root, if_neg root, memberPartsAt_append, memberPartsAt_append,
    memberPartsAt, memberPartsAt, List.nil_append, same]

/-! ## Headers -/

namespace Header

variable {header : Header}

theorem names_addName (header : Header) (name : String) :
    header.names ⊆ (header.addName name).names ∧ name ∈ (header.addName name).names := by
  unfold addName
  by_cases seen : header.names.contains name = true
  · rw [if_pos seen]
    exact ⟨List.Subset.refl _, List.contains_iff_mem.mp seen⟩
  · rw [if_neg seen]
    exact ⟨List.subset_append_left _ _, List.mem_append_right _ List.mem_cons_self⟩

mutual

/-- Names that have been seen stay seen. -/
theorem names_scan {place : Place} {tree : Json} {header next : Header}
    (scanned : header.scan place tree = some next) : header.names ⊆ next.names := by
  cases tree with
  | array items =>
      rw [scan] at scanned
      by_cases root : place.address = ""
      · rw [if_pos root] at scanned
        cases scanned
      · rw [if_neg root] at scanned
        exact names_scanItems scanned
  | object members =>
      rw [scan] at scanned
      exact names_scanMembers scanned
  | _ =>
      rw [scan_scalar place header rfl] at scanned
      by_cases root : place.address = ""
      · rw [if_pos root] at scanned
        cases scanned
      · rw [if_neg root] at scanned
        rw [← Option.some.inj scanned, names_addScalar]
        exact List.Subset.refl _

theorem names_scanItems {place : Place} {items : List Json} {header next : Header}
    (scanned : header.scanItems place items = some next) : header.names ⊆ next.names := by
  cases items with
  | nil =>
      cases scanned
      exact List.Subset.refl _
  | cons item rest =>
      rw [scanItems] at scanned
      rcases Option.bind_eq_some_iff.mp scanned with ⟨between, first, others⟩
      exact List.Subset.trans (names_scan first) (names_scanItems others)

theorem names_scanMembers {place : Place} {members : List (String × Json)} {header next : Header}
    (scanned : header.scanMembers place members = some next) : header.names ⊆ next.names := by
  cases members with
  | nil =>
      cases scanned
      exact List.Subset.refl _
  | cons member rest =>
      rw [scanMembers] at scanned
      rcases Option.bind_eq_some_iff.mp scanned with ⟨between, first, others⟩
      refine List.Subset.trans ?_ (List.Subset.trans (names_scan first) (names_scanMembers others))
      by_cases root : place.address = ""
      · rw [if_pos root]
        exact (names_addName header member.1).1
      · rw [if_neg root]
        exact List.Subset.refl _

end

/-- The header shows the name of every member at the top. -/
theorem mem_names_ofTree? {name : String} {front back : List (String × Json)} {value : Json}
    (found : ofTree? (.object (front ++ (name, value) :: back)) = some header) :
    name ∈ header.names := by
  rw [ofTree?, scan, scanMembers_append] at found
  rcases Option.bind_eq_some_iff.mp found with ⟨before, _, rest⟩
  rw [scanMembers, if_pos (show Place.address [] = "" from rfl)] at rest
  rcases Option.bind_eq_some_iff.mp rest with ⟨within, inside, after⟩
  exact names_scanMembers after (names_scan inside (names_addName before name).2)

theorem AgreeOutside.join {name : String} {first second common : Header}
    (left : first.AgreeOutside name common) (right : second.AgreeOutside name common) :
    first.AgreeOutside name second where
  names outer different := (left.names outer different).trans (right.names outer different).symm
  scalars outer outside := (left.scalars outer outside).trans (right.scalars outer outside).symm

/-- The value of a member matters to the header only in the scalars at addresses inside the member. -/
theorem ofTree?_replace {name : String} (plain : IsPlain name) (front back : List (String × Json))
    (value other : Json) :
    Option.Rel (AgreeOutside name) (ofTree? (.object (front ++ (name, value) :: back)))
      (ofTree? (.object (front ++ (name, other) :: back))) := by
  rw [ofTree?, ofTree?, scan, scan, scanMembers_append, scanMembers_append]
  cases scanMembers [] empty front with
  | none => exact .none
  | some before =>
      have refl := AgreeOutside.refl name (before.addName name)
      rcases refl.scan_left plain [] value with ⟨first, inFirst, ofFirst⟩
      rcases refl.scan_left plain [] other with ⟨second, inSecond, ofSecond⟩
      rw [Option.bind_some, Option.bind_some, scanMembers, scanMembers,
        if_pos (show Place.address [] = "" from rfl), List.nil_append, inFirst, inSecond,
        Option.bind_some, Option.bind_some]
      exact (ofFirst.join ofSecond).scanMembers plain [] back

end Header

end Json

/-! ## Loading -/

/-- A document with a member that has the name of the section of a format. -/
def Json.withSection (kind : TraceKind) (front back : List (String × Json)) (value : Json) : Json :=
  .object (front ++ (kind.sectionName, value) :: back)

variable {bytes : List UInt8} {settings : Settings} {files : Files} {issue : Nat}

/-- A decoder finds in a section of any shape what it finds in the array of its parts. -/
theorem Decoder.load_section (kind : TraceKind) (front back : List (String × Json)) (value : Json)
    {header other : Header} (agree : header.AgreeOutside kind.sectionName other) (decoder : Decoder)
    (settings : Settings) (files : Files) :
    decoder.load (withSection kind front back value) header settings files =
      decoder.load (withSection kind front back (.array value.sectionParts)) other settings
        files := by
  have outside : forall address, top address ≠ kind.sectionName ->
      partsAt address [kind.sectionName] value =
        partsAt address [kind.sectionName] (.array value.sectionParts) := by
    intro address elsewhere
    have apart := Place.apart_of_top kind.plain_sectionName elsewhere.symm
    rw [partsAt_of_apart apart, partsAt_of_apart apart]
  apply Decoder.load_congr
  · exact partsAt_replace (by decide) (outside _ (by cases kind <;> decide)) front back
  · intro format
    apply partsAt_replace format.named_recordAddress
    by_cases same : format = kind
    · rw [same, partsAt_section, partsAt_section]
      rfl
    · apply outside
      cases kind <;> cases format <;> first | exact absurd rfl same | decide
  · intro format
    apply agree.scalars
    cases kind <;> cases format <;> decide

/-- A section of any shape is loaded like the array of its parts. -/
theorem load_section (read : Json.read .trace bytes = .whole (withSection kind front back value))
    {otherBytes : List UInt8}
    (otherRead : Json.read .trace otherBytes =
      .whole (withSection kind front back (.array value.sectionParts))) :
    load Decoder.standard bytes settings files issue =
      load Decoder.standard otherBytes settings files issue := by
  have related : Option.Rel (Header.AgreeOutside kind.sectionName)
      (Header.ofTree? (withSection kind front back value))
      (Header.ofTree? (withSection kind front back (.array value.sectionParts))) :=
    Header.ofTree?_replace kind.plain_sectionName front back value (.array value.sectionParts)
  unfold load readTrace
  simp only [read, otherRead]
  generalize found : Header.ofTree? (withSection kind front back value) = first at related ⊢
  generalize otherFound :
    Header.ofTree? (withSection kind front back (.array value.sectionParts)) = second at related ⊢
  cases related with
  | none => rfl
  | @some header other agree =>
      have listed := Header.mem_names_ofTree? found
      have otherListed := Header.mem_names_ofTree? otherFound
      have names : forall format : TraceKind,
          format.sectionName ∈ header.names ↔ format.sectionName ∈ other.names := by
        intro format
        by_cases same : format = kind
        · rw [same]
          exact iff_of_true listed otherListed
        · rw [← List.contains_iff_mem, ← List.contains_iff_mem, agree.names]
          cases kind <;> cases format <;> first | exact absurd rfl same | decide
      have log : "log" ∈ header.names ↔ "log" ∈ other.names := names .protoLog
      have transitions : "transitions" ∈ header.names ↔ "transitions" ∈ other.names :=
        names .transition
      simp only [choose_standard, log, transitions, Decoder.load_section kind front back value agree]
      -- a decoder is chosen, so the names are not shown
      by_cases inLog : "log" ∈ other.names
      · rw [if_pos inLog]
      · have inTransitions : "transitions" ∈ other.names := by
          cases kind with
          | protoLog => exact absurd otherListed inLog
          | transition => exact otherListed
        rw [if_neg inLog, if_pos inTransitions]

/-- A document with a section is refused for its header or for its configuration, but not for the
section. -/
theorem load_section_refused_iff
    (read : Json.read .trace bytes = .whole (withSection kind front back value)) :
    (Exists fun error : LoadError =>
        (load Decoder.standard bytes settings files issue).value.result = .error error ∧
          error.IsDecodeError) ↔
      Header.ofTree? (withSection kind front back value) = none ∨
        Exists fun header : Header => Exists fun error : LoadError =>
          Header.ofTree? (withSection kind front back value) = some header ∧
            "log" ∈ header.names ∧
            (ProtoLog.Decoder.fresh.configure (withSection kind front back value) settings
              files).value.2 = .error error ∧
            error.IsDecodeError := by
  constructor
  · rintro ⟨error, failed, decodes⟩
    cases load_eq_error_iff.mp failed with
    | headless headless =>
        cases found : Header.ofTree? (withSection kind front back value) with
        | none => exact .inl rfl
        | some header =>
            cases headless.symm.trans (readTrace_eq_ok_iff.mpr ⟨read, found⟩)
    | unrecognised whole log transitions =>
        rcases readTrace_eq_ok_iff.mp whole with ⟨again, found⟩
        cases read.symm.trans again
        have listed := Header.mem_names_ofTree? found
        cases kind with
        | protoLog => exact absurd listed log
        | transition => exact absurd listed transitions
    | configuration whole log unusable =>
        rcases readTrace_eq_ok_iff.mp whole with ⟨again, found⟩
        cases read.symm.trans again
        exact .inr ⟨_, _, found, log, unusable, decodes⟩
    | offset => exact absurd decodes id
  · rintro (headless | ⟨header, error, found, log, unusable, decodes⟩)
    · have refused : readTrace bytes = .error .notAnObject := by
        rw [readTrace, read]
        simp only [headless]
      exact ⟨.notAnObject, load_eq_error_iff.mpr (.headless refused), trivial⟩
    · exact ⟨error, load_eq_error_iff.mpr
        (.configuration (readTrace_eq_ok_iff.mpr ⟨read, found⟩) log unusable), decodes⟩

/-- What becomes of a section of any shape, which may be an array or something else.

The document is refused exactly if it has no header or if it is a log with an unusable configuration,
neither of which depends on the section.  It is loaded like the document that has the array of the
parts there: the items of an array, the members of an object that are named like items, and no
parts of anything else.  If the members can be told apart by addresses and the section is the one
of the chosen format, the records of an opened trace are those of these parts that have a time. -/
theorem load_any_section
    (read : Json.read .trace bytes = .whole (withSection kind front back value)) :
    ((Exists fun error : LoadError =>
        (load Decoder.standard bytes settings files issue).value.result = .error error ∧
          error.IsDecodeError) ↔
      Header.ofTree? (withSection kind front back value) = none ∨
        Exists fun header : Header => Exists fun error : LoadError =>
          Header.ofTree? (withSection kind front back value) = some header ∧
            "log" ∈ header.names ∧
            (ProtoLog.Decoder.fresh.configure (withSection kind front back value) settings
              files).value.2 = .error error ∧
            error.IsDecodeError) ∧
      (forall otherBytes : List UInt8,
        Json.read .trace otherBytes =
          .whole (withSection kind front back (.array value.sectionParts)) ->
        load Decoder.standard bytes settings files issue =
          load Decoder.standard otherBytes settings files issue) ∧
      (TopLevel (front ++ (kind.sectionName, value) :: back) ->
        kind = .selected (front ++ (kind.sectionName, value) :: back) ->
        forall (place : Nat) (left : Decoder) (trace : Trace),
          (load Decoder.standard bytes settings files issue).value =
            .taken place left (.ok trace) ->
          trace.kind = kind ∧
            Exists fun pairs : Stamped =>
              trace.records = pairs.map (·.2) ∧ trace.elapsed = pairs.map (·.1) ∧
                pairs.Perm (kind.stamped value.sectionParts) ∧
                pairs.Pairwise fun a b => a.1 ≤ b.1) := by
  refine ⟨load_section_refused_iff read, fun otherBytes => load_section read, ?_⟩
  intro level selected place left trace opened
  have held : (front ++ (kind.sectionName, value) :: back).lookup
      (TraceKind.selected (front ++ (kind.sectionName, value) :: back)).sectionName =
        some value := by
    rw [← selected]
    exact (Fields.lookup_eq_some_iff_mem level.distinct).mpr
      (List.mem_append_right _ List.mem_cons_self)
  rcases Trace.records_of_section read level opened held with
    ⟨format, pairs, records, elapsed, same, ascends, _⟩
  rw [← selected] at format
  rw [format] at same
  exact ⟨format, pairs, records, elapsed, same, ascends⟩

/-- A log whose section is an object, with one member that is named like an item. -/
def itemText : List UInt8 :=
  "\x7b\"log\":\x7b\"item\":\x7b\"elapsedRealtimeNanos\":5\x7d\x7d\x7d".toUTF8.toList

/-- The log whose section is the array of this item. -/
def itemArrayText : List UInt8 :=
  "\x7b\"log\":[\x7b\"elapsedRealtimeNanos\":5\x7d]\x7d".toUTF8.toList

def timedItem : Json := .object [("elapsedRealtimeNanos", .integer 5)]

def nullText : List UInt8 :=
  "\x7b\"log\":null\x7d".toUTF8.toList

theorem read_itemText : Json.read .trace itemText =
    .whole (withSection .protoLog [] [] (.object [(itemName, timedItem)])) := by
  with_unfolding_all rfl

/-- The log with the object is not refused, and it is loaded like the one with the array. -/
theorem itemText_loads :
    (¬ Exists fun error : LoadError =>
      (load Decoder.standard itemText .standard .nowhere 0).value.result = .error error ∧
        error.IsDecodeError) ∧
      load Decoder.standard itemText .standard .nowhere 0 =
        load Decoder.standard itemArrayText .standard .nowhere 0 := by
  have arrayRead : Json.read .trace itemArrayText =
      .whole (withSection .protoLog [] [] (.array [timedItem])) := by
    with_unfolding_all rfl
  have found : Header.ofTree? (withSection .protoLog [] [] (.object [(itemName, timedItem)])) =
      some ⟨["log"], []⟩ := rfl
  rcases @load_any_section _ _ _ _ itemText .standard .nowhere 0 read_itemText with
    ⟨refused, alike, _⟩
  refine ⟨?_, alike itemArrayText arrayRead⟩
  intro failed
  rcases refused.mp failed with headless | ⟨_, error, _, _, unusable, _⟩
  · cases found.symm.trans headless
  · cases unusable

def recordlessLog : Trace := ⟨.protoLog, [], [], none, [], []⟩

theorem load_recordlessLog {document : Json}
    (read : Json.readTrace bytes = .ok (⟨["log"], []⟩, document))
    (found : ((Decoder.protoLog .fresh).load document ⟨["log"], []⟩ .standard .nowhere).value =
      (.protoLog .fresh, .ok (.ofStamped [] none))) :
    (load Decoder.standard bytes .standard .nowhere 0).value =
      .taken 0 (.protoLog .fresh) (.ok recordlessLog) := by
  refine load_eq_opened_iff.mpr ⟨_, _, _, _, read, rfl, found, ?_⟩
  have nothing : Loaded.ofStamped [] none = ⟨[], [], none⟩ := by
    simp only [Loaded.ofStamped, Stamped.sorted, List.mergeSort_nil, List.map_nil]
  rw [nothing]
  rfl

/-- Sections that are null or objects are accepted: the log with null opens as an empty trace, and the
one with the object as a trace of one record. -/
theorem shapeless_sections_open :
    Json.read .trace nullText = .whole (.object [("log", .null)]) ∧
      (load Decoder.standard nullText .standard .nowhere 0).value =
        .taken 0 (.protoLog .fresh) (.ok recordlessLog) ∧
      Json.read .trace itemText =
        .whole (.object [("log", .object [("item", timedItem)])]) ∧
      (load Decoder.standard itemText .standard .nowhere 0).value =
        .taken 0 (.protoLog .fresh)
          (.ok { recordlessLog with records := [timedItem.exactValue], elapsed := [5] }) := by
  have nullRead : Json.read .trace nullText = .whole (.object [("log", .null)]) := by
    with_unfolding_all rfl
  refine ⟨nullRead, ?_, read_itemText, ?_⟩
  · exact load_recordlessLog (readTrace_eq_ok_iff.mpr ⟨nullRead, rfl⟩) rfl
  · have whole := readTrace_eq_ok_iff.mpr ⟨read_itemText, rfl⟩
    exact load_eq_opened_iff.mpr
      ⟨_, _, _, _, whole, rfl, load_message rfl rfl rfl rfl, rfl⟩

end TraceView
