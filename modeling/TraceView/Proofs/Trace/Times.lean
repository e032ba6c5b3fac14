import TraceView.Proofs.Trace.Records
import TraceView.Proofs.Transition.Renaming
import TraceView.Proofs.Tree.Leaves

namespace TraceView

/-!
# Times of a record and times of its tree

The times of a transition are read twice.  Loading reads them in the record, to stamp it; the
calculated properties read them in the tree of the entry, after decoding and building.  Both ways
take an integer, and the text of one, for the time that it is, and neither takes a truth value or
a fraction for a time.

They part at a whole number that is written with a point or an exponent.  Loading counts it as the
integer it equals, but decoding leaves it as it is and building makes a double of it.  So such a
time can stamp an entry whose tree shows no time there, and whose duration and status do not take
it into account.
-/

namespace Transition

/-- Where a transition carries its times: those that may stamp it, and those that only say how it
ended. -/
def timePlaces : List (String × String) :=
  stampPlaces ++
    [("shellData", "mergeTimeNs"), ("wmData", "finishTimeNs"), ("wmData", "abortTimeNs")]

/-- What a record holds at a place, if the section is an object. -/
def valueAt? (record : List (String × Value)) (place : String × String) : Option Value :=
  match record.lookup place.1 with
  | some (.map times) => times.lookup place.2
  | _ => none

/-- A record holds a number with a point or an exponent at a place. -/
def HoldsDecimal (record : List (String × Value)) (place : String × String) : Prop :=
  Exists fun d : Decimal => valueAt? record place = some (.decimal d)

variable {fields decoded : List (String × Value)}

theorem not_holdsDecimal_of_int {record : List (String × Value)} {place : String × String} {n : Int}
    (held : valueAt? record place = some (.int n)) : ¬ HoldsDecimal record place := by
  rintro ⟨d, written⟩
  rw [held] at written
  cases written

theorem timeAt?_eq_bind (record : List (String × Value)) (place : String × String) :
    timeAt? record place = (valueAt? record place).bind Value.toInt? := by
  unfold timeAt? valueAt?
  cases record.lookup place.1 with
  | none => rfl
  | some part => cases part <;> rfl

/-! ## Decoding -/

theorem lookup_rename_of_ne {names : String × String} {name : String} (old : name ≠ names.1)
    (new : name ≠ names.2) (fields : List (String × Value)) :
    (rename fields names).lookup name = fields.lookup name := by
  unfold rename
  cases fields.lookup names.1 with
  | none => rfl
  | some value =>
      change (Fields.put names.2 value (Fields.erase names.1 fields)).lookup name = _
      rw [Fields.lookup_put_of_ne new, Fields.lookup_erase_of_ne old]

theorem lookup_foldl_rename_of_ne {changes : List (String × String)} {name : String}
    (untouched : forall names, names ∈ changes -> name ≠ names.1 ∧ name ≠ names.2)
    (fields : List (String × Value)) :
    (changes.foldl rename fields).lookup name = fields.lookup name := by
  induction changes generalizing fields with
  | nil => rfl
  | cons names rest inductionHypothesis =>
      rcases untouched names List.mem_cons_self with ⟨old, new⟩
      rw [List.foldl_cons, inductionHypothesis
        (fun later listed => untouched later (List.mem_cons_of_mem _ listed)),
        lookup_rename_of_ne old new]

theorem distinct_rename (distinct : Fields.Distinct fields) (names : String × String) :
    Fields.Distinct (rename fields names) := by
  unfold rename
  cases fields.lookup names.1 with
  | none => exact distinct
  | some value => exact (distinct.erase names.1).put names.2 value

theorem names_normaliseFields (fields : List (String × Value)) :
    (normaliseFields fields).map Prod.fst = fields.map Prod.fst := by
  induction fields with
  | nil => rfl
  | cons field rest inductionHypothesis =>
      rw [normaliseFields, List.map_cons, List.map_cons, inductionHypothesis]

theorem distinct_normaliseFields (distinct : Fields.Distinct fields) :
    Fields.Distinct (normaliseFields fields) := by
  rw [Fields.Distinct, names_normaliseFields]
  exact distinct

/-- Decoding a record keeps its names different, and gives a section that it does not rename the
normal form of what it holds. -/
theorem decode_eq_ok (opened : decode (.map fields) = .ok (.map decoded)) :
    (Fields.Distinct fields -> Fields.Distinct decoded) ∧
      forall name, (forall names, names ∈ reserved -> name ≠ names.1 ∧ name ≠ names.2) ->
        decoded.lookup name = (fields.lookup name).map (normalise name) := by
  have same : reserved.foldl rename (normaliseFields fields) = decoded :=
    Value.map.inj (Except.ok.inj opened)
  rw [← same]
  constructor
  · intro distinct
    exact List.foldlRecOn (motive := Fields.Distinct) reserved rename
      (distinct_normaliseFields distinct) fun _ distinct names _ => distinct_rename distinct names
  · intro name untouched
    rw [lookup_foldl_rename_of_ne untouched, lookup_normaliseFields]

/-- The normal form of a value below a name of integers is an integer exactly if the value stands for
it and is no decimal. -/
theorem asInt?_normalise {name : String} (wide : isWide name = true) (value : Value) (n : Int) :
    (normalise name value).asInt? = some n ↔
      value.toInt? = some n ∧ forall d, value ≠ .decimal d := by
  cases value with
  | string text =>
      have normal : normalise name (.string text) = normaliseText name text := rfl
      have integer : (Value.string text).toInt? = Numeral.read text := rfl
      rw [normal, integer, normaliseText, if_pos wide]
      cases Numeral.read text with
      | none => simp only [Value.asInt?, reduceCtorEq, false_and]
      | some m => simp only [Value.asInt?, ne_eq, reduceCtorEq, not_false_eq_true, implies_true,
          and_true]
  | decimal d =>
      constructor
      · intro impossible
        cases impossible
      · rintro ⟨_, different⟩
        exact absurd rfl (different d)
  | int m =>
      simp only [normalise, Value.asInt?, Value.toInt?, Value.integer?, Except.toOption,
        Option.join_some, ne_eq, reduceCtorEq, not_false_eq_true, implies_true, and_true]
  | _ =>
      constructor
      · intro impossible
        cases impossible
      · rintro ⟨impossible, _⟩
        cases impossible

/-- The normal form of a section holds the normal forms of what the section holds. -/
theorem intAt?_normalise (section_ field : String) (value : Value) :
    (normalise section_ value).intAt? field =
      match value with
      | .map times => ((times.lookup field).map (normalise field)).bind Value.asInt?
      | _ => none := by
  cases value with
  | map times => exact congrArg (Option.bind · Value.asInt?) (lookup_normaliseFields field times)
  | string text =>
      have normal : normalise section_ (.string text) = normaliseText section_ text := rfl
      rcases normaliseText_cases section_ text with same | ⟨n, same, _⟩ <;> rw [normal, same] <;> rfl
  | _ => rfl

/-- Only a mapping has a mapping as its normal form. -/
theorem normalise_eq_map {name : String} {value : Value} {normal : List (String × Value)}
    (same : normalise name value = .map normal) :
    Exists fun times : List (String × Value) =>
      value = .map times ∧ normal = normaliseFields times := by
  cases value with
  | map times => exact ⟨times, rfl, (Value.map.inj same).symm⟩
  | string text =>
      change normaliseText name text = _ at same
      rcases normaliseText_cases name text with kept | ⟨m, kept, _⟩ <;> rw [kept] at same <;>
        cases same
  | _ => cases same

theorem timePlaces_spec : forall place, place ∈ timePlaces ->
    isWide place.2 = true ∧ 'N' ∈ place.2.toList ∧ place.1 ≠ "timestamp" ∧
      forall names, names ∈ reserved -> place.1 ≠ names.1 ∧ place.1 ≠ names.2 := by
  decide

/-- The name of a time is no position in a list. -/
theorem unnumbered_of_mem {place : String × String} (listed : place ∈ timePlaces) (position : Nat) :
    place.2 ≠ toString position := by
  intro same
  have digits : 'N' ∈ Nat.toDigits 10 position := by
    have letter := (timePlaces_spec place listed).2.1
    rw [same, Nat.toString_eq_repr, Nat.repr, String.toList_ofList] at letter
    exact letter
  exact absurd (Numeral.isDigit_of_mem digits) (by decide)

/-- The tree that is built from a decoded record shows a time exactly if the record holds it and
does not write it as a decimal. -/
theorem timeAt?_ofFields {part : Json} (held : part.exactValue = .map fields)
    (opened : decode (.map fields) = .ok (.map decoded)) {rootId name : String} {tree : Node}
    (built : Node.ofFields rootId name decoded = .ok tree) {place : String × String}
    (listed : place ∈ timePlaces) (n : Int) :
    tree.timeAt? place = some n ↔ timeAt? fields place = some n ∧ ¬ HoldsDecimal fields place := by
  rcases timePlaces_spec place listed with ⟨wide, _, _, untouched⟩
  rcases Json.exactValue_eq_map held with ⟨distinct, parts⟩
  rcases decode_eq_ok opened with ⟨keeps, sections⟩
  -- a section of the decoded record is the normal form of an object of the document
  have inner : forall normal, decoded.lookup place.1 = some (.map normal) ->
      Fields.Distinct normal := by
    intro normal found
    rw [sections place.1 untouched] at found
    rcases Option.map_eq_some_iff.mp found with ⟨value, given, same⟩
    rcases parts place.1 value given with ⟨member, exactly⟩
    rcases normalise_eq_map same with ⟨times, mapping, normalised⟩
    rw [normalised]
    exact distinct_normaliseFields (Json.exactValue_eq_map (exactly.symm.trans mapping)).1
  rw [Node.timeAt?_ofFields built (keeps distinct) inner (unnumbered_of_mem listed),
    sections place.1 untouched, timeAt?_eq_bind]
  unfold HoldsDecimal valueAt?
  cases fields.lookup place.1 with
  | none => simp only [Option.map_none, Option.bind_none, reduceCtorEq, false_and]
  | some part =>
      rw [Option.map_some, Option.bind_some, intAt?_normalise]
      cases part with
      | map times =>
          dsimp only
          cases times.lookup place.2 with
          | none => simp only [Option.map_none, Option.bind_none, reduceCtorEq, false_and]
          | some value =>
              simp only [Option.map_some, Option.bind_some, asInt?_normalise wide, Option.some.injEq,
                not_exists]
      | _ => simp only [Option.bind_none, reduceCtorEq, false_and]

/-- Each time that decides the status of a transition is at one of the places. -/
theorem statusRules_places : forall rule, rule ∈ Operation.statusRules ->
    Exists fun place : String × String => place ∈ timePlaces ∧ rule.2 = [place.1, place.2] := by
  decide

end Transition

open Transition

namespace Trace

variable {bytes : List UInt8} {settings : Settings} {files : Files} {given : Option Pipeline}
  {trace : Trace}

/-- The timestamp at the end of a tree is in no section. -/
theorem timeAt?_buildEntry {fields : List (String × Value)} {stamp : Timestamp} {tree : Node}
    (built : buildEntry .transition fields stamp = .ok tree) {place : String × String}
    (different : place.1 ≠ "timestamp") :
    Exists fun bare : Node =>
      Node.ofFields TraceKind.transition.rootId TraceKind.transition.entryName fields = .ok bare ∧
        tree.timeAt? place = bare.timeAt? place := by
  rcases buildEntry_eq_ok built with ⟨bare, fromFields, _, grown⟩
  refine ⟨bare, fromFields, ?_⟩
  rw [grown]
  exact Node.timeAt?_append_of_ne different

/-- The times that the tree of an entry shows, after any pipeline. -/
theorem timeAt?_entry {place : Fin trace.length} {domain : Domain} {tree : Node}
    (shown : (trace.entry .transition (.int place.val) domain).value = .ok tree)
    (known : trace.kind = .transition) {part : Json} {fields : List (String × Value)}
    (held : part.exactValue = .map fields) (record : trace.record place = .map fields)
    {spot : String × String} (listed : spot ∈ timePlaces) (n : Int) :
    tree.timeAt? spot = some n ↔ timeAt? fields spot = some n ∧ ¬ HoldsDecimal fields spot := by
  rcases entry_eq_ok shown with ⟨stamp, decoded, raw, _, decodes, built, final⟩
  rw [record] at decodes
  rw [known] at built
  rcases timeAt?_buildEntry built (timePlaces_spec spot listed).2.2.1 with ⟨bare, fromFields, same⟩
  rw [final, Pipeline.timeAt?_steps, same]
  exact timeAt?_ofFields held decodes fromFields listed n

/-- The times of an opened transition in its record and in the tree of its entry, whatever pipeline
the entry goes through.

The tree shows a time at a place exactly if the record holds it there and does not write it with a
point or an exponent.  The entry is stamped with the first time that its record holds, before
which the tree shows none, and the tree shows this one exactly if it is not written so.  The
duration and the status take the same times into account as the tree shows. -/
theorem times_shown (opened : OpenedFrom bytes settings files given trace)
    (known : trace.kind = .transition) {place : Fin trace.length} {domain : Domain} {tree : Node}
    (shown : (trace.entry .transition (.int place.val) domain).value = .ok tree) :
    Exists fun fields : List (String × Value) => trace.record place = .map fields ∧
      (forall spot, spot ∈ timePlaces -> forall n,
        tree.timeAt? spot = some n ↔
          timeAt? fields spot = some n ∧ ¬ HoldsDecimal fields spot) ∧
      (Exists fun before : List (String × String) => Exists fun first : String × String =>
        Exists fun after : List (String × String) => Exists fun ns : Int =>
          stampPlaces = before ++ first :: after ∧ trace.elapsed[place.val]? = some ns ∧
            timeAt? fields first = some ns ∧
            (forall spot, spot ∈ before ->
              timeAt? fields spot = none ∧ tree.timeAt? spot = none) ∧
            (tree.timeAt? first = some ns ↔ ¬ HoldsDecimal fields first)) ∧
      (forall send finish,
        Operation.DurationRule.standard.times? tree = some (send, finish) ↔
          (timeAt? fields ("wmData", "sendTimeNs") = some send ∧
            ¬ HoldsDecimal fields ("wmData", "sendTimeNs")) ∧
          timeAt? fields ("wmData", "finishTimeNs") = some finish ∧
            ¬ HoldsDecimal fields ("wmData", "finishTimeNs")) ∧
      forall rule, rule ∈ Operation.statusRules ->
        Exists fun spot : String × String => rule.2 = [spot.1, spot.2] ∧
          (Operation.carries tree rule.2 = true ↔
            Exists fun n : Int => timeAt? fields spot = some n ∧ ¬ HoldsDecimal fields spot) := by
  rcases opened.record place with ⟨document, part, ns, _, _, held, stamped, elapsed⟩
  rcases TraceKind.map_of_stamp? stamped with ⟨fields, record⟩
  have exactly : forall spot, spot ∈ timePlaces -> forall n,
      tree.timeAt? spot = some n ↔ timeAt? fields spot = some n ∧ ¬ HoldsDecimal fields spot :=
    fun spot listed n => timeAt?_entry shown known (held.trans record) record listed n
  refine ⟨fields, record, exactly, ?_, ?_, ?_⟩
  · have stamp : stamp? fields = some ns := by
      rw [known, record] at stamped
      exact stamped
    rcases List.findSome?_eq_some_iff.mp stamp with ⟨before, first, after, places, here, none⟩
    have listed : forall spot, spot ∈ before ++ first :: after -> spot ∈ timePlaces := by
      intro spot member
      rw [← places] at member
      exact List.mem_append_left _ member
    refine ⟨before, first, after, ns, places, elapsed, here, ?_, ?_⟩
    · intro spot member
      refine ⟨none spot member, ?_⟩
      apply Option.eq_none_iff_forall_ne_some.mpr
      intro n found
      have early := (exactly spot (listed spot (List.mem_append_left _ member)) n).mp found
      rw [none spot member] at early
      cases early.1
    · rw [exactly first (listed first (List.mem_append_right _ List.mem_cons_self)), here]
      simp only [true_and]
  · intro send finish
    rw [Operation.times?_standard, exactly _ (by decide), exactly _ (by decide)]
  · intro rule listed
    rcases statusRules_places rule listed with ⟨spot, member, path⟩
    refine ⟨spot, path, ?_⟩
    rw [path]
    change (tree.timeAt? spot).isSome = true ↔ _
    rw [Option.isSome_iff_exists]
    exact exists_congr (exactly spot member)

/-- The tree of the played transition shows both times, and its duration is taken from them. -/
theorem played_entry_shows_times :
    Exists fun tree : Node => (playedTrace.entry .transition (.int 0) .elapsed).value = .ok tree ∧
      tree.timeAt? ("wmData", "sendTimeNs") = some 7 ∧
      Operation.DurationRule.standard.times? tree = some (7, 9) := by
  refine ⟨_, rfl, ?_⟩
  rcases @times_shown _ _ _ _ _ (openedFrom_of_load load_playedText) rfl ⟨0, Nat.zero_lt_one⟩
    .elapsed _ rfl with ⟨fields, record, shows, _, spans, _⟩
  cases record
  have send : ¬ HoldsDecimal [("wmData", .map [("sendTimeNs", .int 7), ("finishTimeNs", .int 9)])]
      ("wmData", "sendTimeNs") := not_holdsDecimal_of_int rfl
  have finish : ¬ HoldsDecimal
      [("wmData", .map [("sendTimeNs", .int 7), ("finishTimeNs", .int 9)])]
      ("wmData", "finishTimeNs") := not_holdsDecimal_of_int rfl
  exact ⟨(shows _ (by decide) 7).mpr ⟨rfl, send⟩, (spans 7 9).mpr ⟨⟨rfl, send⟩, rfl, finish⟩⟩

/-- A capture of a transition whose first time is written with a point. -/
def pointedText : List UInt8 :=
  ("\x7b\"transitions\":[\x7b\"wmData\":" ++
    "\x7b\"sendTimeNs\":7.0,\"finishTimeNs\":9\x7d\x7d]\x7d").toUTF8.toList

def pointed : Json :=
  .object [("transitions", .array [.object [("wmData", .object
    [("sendTimeNs", .decimal (.finite false 70 (-1))), ("finishTimeNs", .integer 9)])]])]

def pointedFields : List (String × Value) :=
  [("wmData", .map [("sendTimeNs", .decimal (.finite false 70 (-1))), ("finishTimeNs", .int 9)])]

/-- The trace of the capture, as it is opened without anything else being asked for. -/
def pointedTrace : Trace :=
  { playedTrace with records := [.map pointedFields] }

/-- The time that is written with a point stamps the entry and stands in its record, but the tree of
the entry does not show it and has no duration. -/
theorem pointed_time_hidden :
    (load Decoder.standard pointedText .standard .nowhere 0).value =
        .taken 1 .transition (.ok pointedTrace) ∧
      timeAt? pointedFields ("wmData", "sendTimeNs") = some 7 ∧ pointedTrace.elapsed = [7] ∧
      Exists fun tree : Node =>
        (pointedTrace.entry .transition (.int 0) .elapsed).value = .ok tree ∧
          tree.timeAt? ("wmData", "sendTimeNs") = none ∧
          Operation.DurationRule.standard.times? tree = none ∧
          tree.childNames = ["wmData", "timestamp", "status"] := by
  have spelled : Json.read .trace pointedText = .whole pointed := by
    with_unfolding_all rfl
  have read : Json.readTrace pointedText = .ok (⟨["transitions"], []⟩, pointed) := by
    rw [Json.readTrace, spelled]
    rfl
  have stamp : stamp? pointedFields = some 7 := by decide +kernel
  have stamped : timeAt? pointedFields ("wmData", "sendTimeNs") = some 7 := by decide +kernel
  exact ⟨load_eq_opened_iff.mpr ⟨_, _, _, _, read, rfl,
    load_single rfl stamp rfl .standard .nowhere, rfl⟩, stamped, rfl, _, rfl, rfl, rfl,
    rfl⟩

end Trace

end TraceView
