import TraceView.Proofs.Trace.Containment
import TraceView.Proofs.Trace.Erasure
import TraceView.Proofs.Trace.Structure
import TraceView.Proofs.Trace.Times
import TraceView.Proofs.Tree.Fields

namespace TraceView

/-!
# Transitions with nameless fields

An entry of a trace of transitions is shown unless its decoded record has a field without a name that
is not null.  Nothing else is in the way.  Names are different in every mapping of a document, and
decoding and the changes of names keep them so; the name of the timestamp is free; and a calculated
property is never refused.  So building gets as far as the first nameless field, however deep it lies.
-/

/-! ## Values of documents -/

namespace Json

mutual

/-- The values of a document are tidy, because a repeated name settles on one value. -/
theorem tidy_exactValue : forall tree : Json, tree.exactValue.Tidy
  | .object members =>
      .intro (Fields.distinct_settle _) fun field listed =>
        tidy_memberValues members field (Fields.mem_settle listed)
  | .array items => Value.tidy_list (tidy_itemValues items)
  | .null => Value.tidy_of_isScalar trivial
  | .bool _ => Value.tidy_of_isScalar trivial
  | .integer _ => Value.tidy_of_isScalar trivial
  | .decimal _ => Value.tidy_of_isScalar trivial
  | .string _ => Value.tidy_of_isScalar trivial

theorem tidy_memberValues : forall members : List (String × Json),
    forall field, field ∈ memberValues .decimal members -> field.2.Tidy
  | [] => fun _ impossible => nomatch impossible
  | (_, member) :: rest =>
      List.forall_mem_cons.mpr ⟨tidy_exactValue member, tidy_memberValues rest⟩

theorem tidy_itemValues : forall items : List Json,
    forall item, item ∈ itemValues .decimal items -> item.Tidy
  | [] => fun _ impossible => nomatch impossible
  | item :: rest => List.forall_mem_cons.mpr ⟨tidy_exactValue item, tidy_itemValues rest⟩

end

end Json

/-! ## Decoded transitions -/

namespace Transition

variable {fields : List (String × Value)}

theorem mem_normaliseFields {field : String × Value} (listed : field ∈ normaliseFields fields) :
    Exists fun old : String × Value => old ∈ fields ∧ field = (old.1, normalise old.1 old.2) := by
  induction fields with
  | nil => cases listed
  | cons first rest inductionHypothesis =>
      rcases first with ⟨name, value⟩
      rcases List.mem_cons.mp listed with here | later
      · exact ⟨(name, value), List.mem_cons_self, here⟩
      · rcases inductionHypothesis later with ⟨old, held, same⟩
        exact ⟨old, List.mem_cons_of_mem _ held, same⟩

theorem mem_normaliseItems {name : String} {items : List Value} {item : Value}
    (listed : item ∈ normaliseItems name items) :
    Exists fun old : Value => old ∈ items ∧ item = normalise name old := by
  induction items with
  | nil => cases listed
  | cons first rest inductionHypothesis =>
      rcases List.mem_cons.mp listed with here | later
      · exact ⟨first, List.mem_cons_self, here⟩
      · rcases inductionHypothesis later with ⟨old, held, same⟩
        exact ⟨old, List.mem_cons_of_mem _ held, same⟩

/-- Normal forms of tidy values are tidy. -/
theorem tidy_normalise (value : Value) : value.Tidy -> forall name, (normalise name value).Tidy := by
  induction value using Value.induction_on_members with
  | step value inductionHypothesis =>
      intro tidy name
      cases value with
      | map fields =>
          refine .intro (distinct_normaliseFields tidy.distinct) fun field listed => ?_
          rcases mem_normaliseFields listed with ⟨old, held, same⟩
          rw [same]
          exact inductionHypothesis old held (tidy.member held) old.1
      | list items =>
          refine Value.tidy_list fun item listed => ?_
          rcases mem_normaliseItems listed with ⟨old, held, same⟩
          rcases Value.exists_member_of_item held with ⟨member, inside, rfl⟩
          rw [same]
          exact inductionHypothesis member inside (tidy.member inside) name
      | string text =>
          rcases normaliseText_cases name text with same | ⟨n, same, _⟩ <;>
            rw [normalise, same] <;> exact Value.tidy_of_isScalar trivial
      | _ => exact tidy

/-- A change of a name leaves tidy fields tidy. -/
theorem tidy_rename (tidy : (Value.map fields).Tidy) (names : String × String) :
    (Value.map (rename fields names)).Tidy := by
  refine .intro (distinct_rename tidy.distinct names) fun field listed => ?_
  change field ∈ rename fields names at listed
  unfold rename at listed
  cases held : fields.lookup names.1 with
  | none =>
      rw [held] at listed
      exact tidy.member listed
  | some value =>
      rw [held] at listed
      rcases Fields.mem_put listed with here | kept
      · rw [here]
        exact @Value.Tidy.member _ tidy (names.1, value) (Fields.mem_of_lookup held)
      · exact tidy.member (List.mem_of_mem_filter kept)

theorem tidy_decode (tidy : (Value.map fields).Tidy) :
    (Value.map (reserved.foldl rename (normaliseFields fields))).Tidy :=
  List.foldlRecOn (motive := fun fields => (Value.map fields).Tidy) reserved rename
    (tidy_normalise (.map fields) tidy "") fun _ tidy names _ => tidy_rename tidy names

end Transition

/-! ## Entries -/

namespace Trace

variable {bytes : List UInt8} {settings : Settings} {files : Files} {given : Option Pipeline}
  {trace : Trace}

/-- A transition of an opened trace is decoded to tidy fields, which leave the names free that the tree
of an entry uses itself. -/
theorem OpenedFrom.decode_transition (opened : OpenedFrom bytes settings files given trace)
    (place : Fin trace.length) :
    Exists fun fields : List (String × Value) =>
      Transition.decode (trace.record place) = .ok (.map fields) ∧ (Value.map fields).Tidy ∧
        fields.lookup "timestamp" = none := by
  rcases opened.record place with ⟨document, part, ns, _, _, same, stamped, _⟩
  rcases TraceKind.map_of_stamp? stamped with ⟨names, mapping⟩
  have tidy := part.tidy_exactValue
  rw [same, mapping] at tidy
  have decoded : Transition.decode (trace.record place) =
      .ok (.map (Transition.reserved.foldl Transition.rename (Transition.normaliseFields names))) := by
    rw [mapping]
    rfl
  have free := @Transition.lookup_decode _ _ decoded ("timestamp", "rawTimestamp") (by decide)
  exact ⟨_, decoded, Transition.tidy_decode tidy, free⟩

/-- The timestamp takes its place in the tree of an entry, if its name is free. -/
theorem buildEntry_outcome {fields : List (String × Value)} (tidy : (Value.map fields).Tidy)
    (free : fields.lookup "timestamp" = none) (kind : TraceKind) (stamp : Timestamp) :
    FailsOnly BuildError.IsNameless (buildEntry kind fields stamp) ∧
      (Succeeds (buildEntry kind fields stamp) ↔ ¬ (Value.map fields).HasNameless) := by
  have root : kind.rootId ≠ "" := by cases kind <;> decide
  have named : kind.entryName ≠ "" := by cases kind <;> decide
  rcases Node.ofFields_outcome tidy root named with ⟨fails, succeeds⟩
  unfold buildEntry
  cases outcome : Node.ofFields kind.rootId kind.entryName fields with
  | error cause =>
      rw [outcome] at fails succeeds
      exact ⟨failsOnly_error (fails cause rfl),
        iff_of_false not_succeeds_error (mt succeeds.mpr not_succeeds_error)⟩
  | ok tree =>
      rw [outcome] at succeeds
      have unnamed := (Node.ofFields_eq_ok outcome).2.2 "timestamp" free
      have attached := Spec.attach_eq_ok_iff.mpr (⟨rfl, unnamed, rfl⟩ :
        (Node.leaf (tree.id ++ ".timestamp") "timestamp" (.int stamp.nanoseconds) .raw
          (some stamp.domain.formatter)).isRoot = false ∧ _)
      simp only [attached]
      exact ⟨failsOnly_ok _, iff_of_true (succeeds_ok _) (succeeds.mp (succeeds_ok tree))⟩

/-- What becomes of an entry whose record has been decoded. -/
theorem rawEntry_of_decoded {decoder : Decoder} {place : Fin trace.length} {domain : Domain}
    {stamp : Timestamp} {fields : List (String × Value)}
    (stamped : trace.timestamp place domain = .ok stamp)
    (decoded : decoder.decode (trace.record place) = .ok (.map fields)) :
    trace.rawEntry decoder (.int place.val) domain =
      match buildEntry trace.kind fields stamp with
      | .ok tree => .ok tree
      | .error (.tree cause) => .error (.malformed trace.kind place cause)
      | .error (.name cause) => .error (.fault cause) := by
  have taken : trace.decodeEntry decoder place = .ok fields := by
    unfold decodeEntry
    rw [decoded]
  unfold rawEntry
  rw [position_of_fin]
  cases built : buildEntry trace.kind fields stamp with
  | ok tree => simp only [bind, Except.bind, stamped, taken, built]
  | error cause => cases cause <;> simp only [bind, Except.bind, stamped, taken, built]

/-- The message for an entry with a nameless field. -/
theorem message_nameless (place : Nat) (parent : String) :
    (EntryError.malformed .transition place (.nameless parent)).message =
      "Malformed TRANSITION entry " ++ toString place ++ ": Child of '" ++ parent ++
        "' has no name" := by
  have front : "Malformed " ++ "TRANSITION" ++ " entry " = "Malformed TRANSITION entry " := by decide
  have middle : ": " ++ "Child of '" = ": Child of '" := by decide
  change "Malformed " ++ "TRANSITION" ++ " entry " ++ toString place ++ ": " ++
    ("Child of '" ++ parent ++ "' has no name") = _
  rw [front, ← middle]
  simp only [String.append_assoc]

/-- A transition is shown, on a clock that the trace has timestamps on, exactly if no field of its
decoded record is without a name and not null, at any depth and in lists as well.  Otherwise the entry is
malformed, and the message says below which node the name is missing. -/
theorem transition_shown_iff {issue position : Nat} {left : Decoder}
    (opened : (load Decoder.standard bytes settings files issue).value =
      .taken position left (.ok trace))
    (transition : trace.kind = .transition) (place : Fin trace.length) {domain : Domain} {shift : Int}
    (carried : trace.shift? domain = some shift) :
    Exists fun fields : List (String × Value) =>
      left.decode (trace.record place) = .ok (.map fields) ∧
      (Succeeds (trace.entry left (.int place.val) domain).value ↔ ¬ (Value.map fields).HasNameless) ∧
      ((Value.map fields).HasNameless -> Exists fun parent : String =>
        (trace.entry left (.int place.val) domain).value =
            .error (.malformed .transition place (.nameless parent)) ∧
          (EntryError.malformed .transition place (.nameless parent)).message =
            "Malformed TRANSITION entry " ++ toString place.val ++ ": Child of '" ++ parent ++
              "' has no name") := by
  have decoder : left = .transition := by
    rcases load_eq_opened_iff.mp opened with
      ⟨header, document, decoder, loaded, read, _, taken, made⟩
    exact Decoder.load_transition ((ofLoaded_fields made).1.symm.trans transition) taken
  have source := openedFrom_of_load opened
  rcases source.timestamp_carried place carried with ⟨stamp, stamped⟩
  rcases source.decode_transition place with ⟨fields, decoded, tidy, free⟩
  rcases buildEntry_outcome tidy free trace.kind stamp with ⟨fails, succeeds⟩
  subst decoder
  have raw := @rawEntry_of_decoded trace .transition place domain stamp fields stamped decoded
  have shown : ¬ (Value.map fields).HasNameless ->
      Succeeds (trace.entry .transition (.int place.val) domain).value := by
    intro named
    rcases succeeds.mpr named with ⟨tree, built⟩
    rw [value_entry, raw, built]
    exact succeeds_ok _
  have refused : (Value.map fields).HasNameless -> Exists fun parent : String =>
      (trace.entry .transition (.int place.val) domain).value =
        .error (.malformed .transition place (.nameless parent)) := by
    intro nameless
    cases outcome : buildEntry trace.kind fields stamp with
    | ok tree => exact absurd nameless (succeeds.mp ⟨tree, outcome⟩)
    | error cause =>
        rcases fails cause outcome with ⟨parent, same⟩
        refine ⟨parent, ?_⟩
        rw [value_entry, raw, outcome, same, transition]
        rfl
  refine ⟨fields, decoded, ⟨?_, shown⟩, ?_⟩
  · intro success nameless
    rcases refused nameless with ⟨parent, failed⟩
    rw [failed] at success
    exact not_succeeds_error success
  · intro nameless
    rcases refused nameless with ⟨parent, failed⟩
    exact ⟨parent, failed, message_nameless place parent⟩

/-- The played transition has no nameless field and is shown.  A field without a name that is not null
makes an entry malformed from inside a list. -/
theorem played_entry_shown :
    Succeeds (playedTrace.entry .transition (.int 0) .elapsed).value ∧
      Exists fun parent : String => (nestedTrace.entry .transition (.int 0) .elapsed).value =
        .error (.malformed .transition 0 (.nameless parent)) := by
  constructor
  · rcases @transition_shown_iff _ _ _ _ _ _ _ load_playedText rfl ⟨0, Nat.zero_lt_one⟩ .elapsed _ rfl
      with ⟨fields, decoded, shown, _⟩
    cases decoded
    exact shown.mpr (by decide)
  · have spelled : Json.read .trace nestedText = .whole (.object nestedMembers) := by
      with_unfolding_all rfl
    have read : Json.readTrace nestedText =
        .ok (⟨["transitions", "item"], [("item", .int 2)]⟩, .object nestedMembers) := by
      rw [Json.readTrace, spelled]
      rfl
    have opened : (load Decoder.standard nestedText .standard .nowhere 0).value =
        .taken 1 .transition (.ok nestedTrace) :=
      load_eq_opened_iff.mpr
        ⟨_, _, _, _, read, rfl, load_single rfl rfl rfl .standard .nowhere, rfl⟩
    rcases @transition_shown_iff _ _ _ _ _ _ _ opened rfl ⟨0, Nat.zero_lt_one⟩ .elapsed _ rfl
      with ⟨fields, decoded, _, refused⟩
    cases decoded
    rcases refused (by decide) with ⟨parent, failed, _⟩
    exact ⟨parent, failed⟩

end Trace

end TraceView
