import TraceView.Proofs.Formatter
import TraceView.Proofs.ProtoLog.Entries
import TraceView.Proofs.Trace.Erasure
import TraceView.Proofs.Trace.Times

namespace TraceView

/-!
# One entry on two clocks

A transition can be shown on the elapsed clock and on the wall clock.  Each clock has a pipeline of
its own, and the two pipelines differ in the formatter of times only.  They are run on trees that
differ in the timestamp only.  So what is calculated is the same, and the trees agree but for the
texts of times: on the wall clock these are those of the same integers, moved by the offset between
the clocks.

A time of the record has no formatter when the pipeline meets it, because building sets none.  The
timestamp and the duration come with formatters of their own, and neither of them has the name of a
time, so the offset reaches every time of the record and nothing else.
-/

namespace Node

/-- Whether a node is one for a time of the record: it has a value, and the name of a time. -/
def IsTime (node : Node) : Prop :=
  node.value.isNull = false ∧ "TimeNs".toList <:+ node.name.toList

/-- A property of the record on the elapsed clock and on the wall clock.  The two hold the same, and
they have one text unless they are for a time.  An integer is shown by either clock in its way, and
any other value as an unknown time by both. -/
inductive OnBothClocks (offset : Int) : Node -> Node -> Prop where
  | intro {elapsed real : Node}
      (id : real.id = elapsed.id) (name : real.name = elapsed.name)
      (value : real.value = elapsed.value) (source : real.source = elapsed.source)
      (isRoot : real.isRoot = elapsed.isRoot) (rootId : real.rootId = elapsed.rootId)
      (raw : elapsed.source = .raw)
      (plain : ¬ elapsed.IsTime -> real.text = elapsed.text)
      (time : elapsed.IsTime -> forall ns, elapsed.value = .int ns ->
        elapsed.text = Time.elapsedText ns ∧ real.text = .ok (Time.realText (ns + offset)))
      (other : elapsed.IsTime -> (forall ns, elapsed.value ≠ .int ns) ->
        elapsed.text = .ok Time.unknown ∧ real.text = .ok Time.unknown)
      (children : List.Forall₂ (OnBothClocks offset) elapsed.children real.children) :
      OnBothClocks offset elapsed real

/-- The timestamp of an entry as a child of its root. -/
def timestampLeaf (root : String) (stamp : Timestamp) : Node :=
  leaf (root ++ ".timestamp") "timestamp" (.int stamp.nanoseconds) .raw (some stamp.domain.formatter)

/-- A calculated property of a transition: a duration, shown as an elapsed time, or a status. -/
def IsCalculated (node : Node) : Prop :=
  node.source = .calculated ∧
    ((node.name = "duration" ∧
        Exists fun ns : Int => node.value = .int ns ∧ node.text = Time.elapsedText ns) ∨
      (node.name = "status" ∧
        Exists fun outcome : Operation.Outcome => node.value = .string outcome.text))

/-- The tree of an entry on the elapsed clock and on the wall clock.  The roots hold the same and
have one text.  Their children are those of the record in one order, then the timestamps, which
differ by the offset, and then the same calculated properties.  No two children have one name. -/
structure SameEntry (offset : Int) (elapsed real : Node) : Prop where
  id : real.id = elapsed.id
  name : real.name = elapsed.name
  value : real.value = elapsed.value
  source : real.source = elapsed.source
  isRoot : real.isRoot = elapsed.isRoot
  rootId : real.rootId = elapsed.rootId
  text : real.text = elapsed.text
  children : Exists fun onElapsed : List Node => Exists fun onReal : List Node =>
    Exists fun ns : Int => Exists fun calculated : List Node =>
      List.Forall₂ (OnBothClocks offset) onElapsed onReal ∧
        elapsed.children = onElapsed ++ timestampLeaf elapsed.id ⟨.elapsed, ns⟩ :: calculated ∧
        real.children = onReal ++ timestampLeaf real.id ⟨.real, ns + offset⟩ :: calculated ∧
        forall node, node ∈ calculated -> node.IsCalculated
  distinct : elapsed.childNames.Nodup

end Node

/-! ## Texts of times -/

namespace Operation

variable {node : Node}

/-- The formatters of times go to the times of a plain tree, and to nothing else. -/
theorem formatter_setFormatters_of_plain (clock : Formatter) (unset : node.formatter = none) :
    (node.IsTime -> (setFormatters [("TimeNs", clock)] node).formatter = some clock) ∧
      (¬ node.IsTime -> (setFormatters [("TimeNs", clock)] node).formatter = none) := by
  rcases formatterFor_times clock node with ⟨awaiting, contented⟩
  rw [setFormatters_eq]
  constructor
  · rintro ⟨present, ending⟩
    exact awaiting ⟨present, unset, ending⟩
  · intro other
    refine (contented ?_).trans unset
    rintro ⟨present, _, ending⟩
    exact other ⟨present, ending⟩

theorem text_setFormatters_of_time (clock : Formatter) (unset : node.formatter = none)
    (time : node.IsTime) :
    (setFormatters [("TimeNs", clock)] node).text = clock.text node.value := by
  have carried := (formatter_setFormatters_of_plain clock unset).1 time
  simp only [Node.text, value_setFormatters, time.1, carried, Bool.false_eq_true, if_false]

theorem text_setFormatters_of_other (clock : Formatter) (unset : node.formatter = none)
    (other : ¬ node.IsTime) :
    (setFormatters [("TimeNs", clock)] node).text = node.text := by
  have carried := (formatter_setFormatters_of_plain clock unset).2 other
  simp only [Node.text, value_setFormatters, carried, unset]

theorem isTime_setFormatters (rules : SuffixRules) (node : Node) :
    (setFormatters rules node).IsTime ↔ node.IsTime := by
  rw [Node.IsTime, value_setFormatters, name_setFormatters, Node.IsTime]

/-- A plain tree, with its times shown on either clock. -/
theorem onBothClocks_setFormatters (label : String) (offset : Int) (issue : Nat)
    (plain : node.IsPlain) :
    Node.OnBothClocks offset (setFormatters [("TimeNs", .elapsed)] node)
      (setFormatters [("TimeNs", .shifted label offset issue)] node) := by
  induction plain with
  | @intro node source unset children inductionHypothesis =>
      have onElapsed := setFormatters_eq [("TimeNs", .elapsed)] node
      have onReal := setFormatters_eq [("TimeNs", .shifted label offset issue)] node
      refine .intro ?_ ?_ ?_ ?_ ?_ ?_ ?_ ?_ ?_ ?_ ?_
      · rw [onElapsed, onReal]
      · rw [onElapsed, onReal]
      · rw [onElapsed, onReal]
      · rw [onElapsed, onReal]
      · rw [onElapsed, onReal]
      · rw [onElapsed, onReal]
      · rw [source_setFormatters, source]
      · rw [isTime_setFormatters]
        intro other
        rw [text_setFormatters_of_other _ unset other, text_setFormatters_of_other _ unset other]
      · rw [isTime_setFormatters, value_setFormatters]
        intro time ns integer
        rw [text_setFormatters_of_time _ unset time, text_setFormatters_of_time _ unset time, integer]
        exact ⟨rfl, rfl⟩
      · rw [isTime_setFormatters, value_setFormatters]
        intro time noInteger
        rw [text_setFormatters_of_time _ unset time, text_setFormatters_of_time _ unset time]
        cases held : node.value with
        | int ns => exact absurd held (noInteger ns)
        | _ => exact ⟨rfl, rfl⟩
      · rw [onElapsed, onReal]
        simp only [List.forall₂_map_left_iff, List.forall₂_map_right_iff, List.forall₂_same]
        exact inductionHypothesis

/-! ## Calculated properties -/

/-- The duration that a rule finds in a tree, unless it ends before it begins. -/
def DurationRule.span? (rule : DurationRule) (tree : Node) : Option Int :=
  (rule.times? tree).bind fun (send, finish) =>
    if finish < send then none else some (finish - send)

def calculated (tree : Node) : List Node :=
  ((DurationRule.standard.span? tree).map fun ns =>
    Node.leaf (tree.id ++ "." ++ "duration") "duration" (.int ns) .calculated (some .elapsed)).toList ++
  ((outcome? tree).map fun outcome =>
    Node.leaf (tree.id ++ "." ++ "status") "status" (.string outcome.text) .calculated none).toList

theorem isCalculated_of_mem {tree : Node} (listed : node ∈ calculated tree) :
    node.IsCalculated := by
  rcases List.mem_append.mp listed with duration | status
  · rcases Option.map_eq_some_iff.mp (Option.mem_toList.mp duration) with ⟨ns, _, same⟩
    subst same
    exact ⟨rfl, Or.inl ⟨rfl, ns, rfl, rfl⟩⟩
  · rcases Option.map_eq_some_iff.mp (Option.mem_toList.mp status) with ⟨outcome, _, same⟩
    subst same
    exact ⟨rfl, Or.inr ⟨rfl, outcome, rfl⟩⟩

variable {tree other : Node}

theorem addDuration_of_free {rule : DurationRule} (free : rule.name ∉ tree.childNames) :
    (addDuration rule tree).value =
      { tree with
        children := tree.children ++ ((rule.span? tree).map fun ns =>
          Node.leaf (tree.id ++ "." ++ rule.name) rule.name (.int ns) .calculated
            (some .elapsed)).toList } := by
  have missing : tree.child? rule.name = none := by
    rw [Node.child?, Node.stored?_eq_none_iff.mpr free, Option.filter_none]
  unfold addDuration DurationRule.span?
  rw [missing]
  cases rule.times? tree with
  | none =>
      simp only [Noted.value_quiet, Option.bind_none, Option.map_none, Option.toList_none,
        List.append_nil]
      cases tree
      rfl
  | some times =>
      simp only [Option.bind_some]
      by_cases negative : times.2 < times.1
      · simp only [if_pos negative, Option.map_none, Option.toList_none, List.append_nil]
        cases tree
        rfl
      · simp only [if_neg negative, Noted.value_quiet, addCalculated_of_free free, Option.map_some,
          Option.toList_some]

theorem addStatus_of_free {name : String} (free : name ∉ tree.childNames) :
    (addStatus name tree).value =
      { tree with
        children := tree.children ++ ((outcome? tree).map fun outcome =>
          Node.leaf (tree.id ++ "." ++ name) name (.string outcome.text) .calculated
            none).toList } := by
  have missing : tree.child? name = none := by
    rw [Node.child?, Node.stored?_eq_none_iff.mpr free, Option.filter_none]
  unfold addStatus
  rw [missing]
  cases outcome? tree with
  | none =>
      simp only [Noted.value_quiet, Option.map_none, Option.toList_none, List.append_nil]
      cases tree
      rfl
  | some outcome =>
      simp only [Noted.value_quiet, addCalculated_of_free free, Option.map_some, Option.toList_some]

/-- The duration depends on the times of the record only. -/
theorem span?_congr
    (same : forall place, place ∈ Transition.timePlaces -> tree.timeAt? place = other.timeAt? place) :
    DurationRule.standard.span? tree = DurationRule.standard.span? other := by
  have times : DurationRule.standard.times? tree = DurationRule.standard.times? other := by
    apply Option.ext
    rintro ⟨send, finish⟩
    rw [times?_standard, times?_standard, same _ (by decide), same _ (by decide)]
  rw [DurationRule.span?, times, DurationRule.span?]

/-- So does the status. -/
theorem outcome?_congr
    (same : forall place, place ∈ Transition.timePlaces -> tree.timeAt? place = other.timeAt? place) :
    outcome? tree = outcome? other := by
  have carried : forall rule, rule ∈ statusRules -> carries tree rule.2 = carries other rule.2 := by
    intro rule listed
    rcases Transition.statusRules_places rule listed with ⟨place, member, path⟩
    rw [path]
    exact congrArg Option.isSome (same place member)
  rw [outcome?, outcome?, ← List.head?_filter, ← List.head?_filter, List.filter_congr carried]

theorem calculated_congr (identified : tree.id = other.id)
    (same : forall place, place ∈ Transition.timePlaces -> tree.timeAt? place = other.timeAt? place) :
    calculated tree = calculated other := by
  rw [calculated, calculated, span?_congr same, outcome?_congr same, identified]

end Operation

/-- What the pipeline of transitions makes of a tree that has room for the calculated properties. -/
theorem Pipeline.value_steps_ofTransition (clock : Formatter) {tree : Node}
    (room : tree.Uncalculated) :
    ((Pipeline.ofTransition clock).steps tree).value =
      { tree with
        children := tree.children.map (Operation.setFormatters [("TimeNs", clock)]) ++
          Operation.calculated tree } := by
  rcases room with ⟨untimed, distinct, noDuration, noStatus⟩
  have dressed : Operation.setFormatters [("TimeNs", clock)] tree =
      { tree with
        children := tree.children.map (Operation.setFormatters [("TimeNs", clock)]) } := by
    rw [Operation.setFormatters_eq, Operation.formatterFor, untimed]
    rfl
  generalize firstIs : Operation.setFormatters [("TimeNs", clock)] tree = first at dressed
  generalize secondIs : (Operation.addDuration .standard first).value = second
  have whole : ((Pipeline.ofTransition clock).steps tree).value =
      (Operation.addStatus "status" second).value := by
    rw [← secondIs, ← firstIs]
    rfl
  have firstTimes : forall place, first.timeAt? place = tree.timeAt? place := by
    rw [← firstIs]
    exact Operation.timeAt?_apply (.formatters [("TimeNs", clock)]) tree
  have secondTimes : forall place, second.timeAt? place = tree.timeAt? place := by
    intro place
    rw [← firstTimes, ← secondIs]
    exact Operation.timeAt?_apply (.duration .standard) first place
  have firstNames : first.childNames = tree.childNames := by
    rw [← firstIs, Operation.childNames_setFormatters]
  rw [← firstNames] at distinct noDuration noStatus
  have gains := @Operation.gains_addDuration first .standard noDuration
  have grown := @Operation.addDuration_of_free first .standard noDuration
  rw [secondIs] at gains grown
  rw [Operation.span?_congr fun place _ => firstTimes place] at grown
  have secondFree : "status" ∉ second.childNames :=
    (gains.childNames noDuration distinct).2 "status" (by decide) noStatus
  have completed := Operation.addStatus_of_free secondFree
  rw [Operation.outcome?_congr fun place _ => secondTimes place] at completed
  rw [whole, completed, grown, dressed]
  simp only [Operation.calculated, List.append_assoc]
  rfl

/-! ## Entries -/

/-- A timestamp has a formatter already. -/
theorem Operation.setFormatters_timestampLeaf (rules : SuffixRules) (root : String)
    (stamp : Timestamp) :
    setFormatters rules (Node.timestampLeaf root stamp) = Node.timestampLeaf root stamp := by
  rw [setFormatters_eq, formatterFor]
  rfl

namespace Trace

variable {trace : Trace}

/-- The tree of an entry before it is stamped is plain. -/
theorem isPlain_bareEntry {decoder : Decoder} {place : Fin trace.length} {bare : Node}
    (built : trace.bareEntry decoder place = .ok bare) : bare.IsPlain := by
  simp only [bareEntry, bind_eq_ok_iff] at built
  rcases built with ⟨fields, _, built⟩
  cases outcome : Node.ofFields trace.kind.rootId trace.kind.entryName fields with
  | error cause =>
      rw [outcome] at built
      cases cause <;> cases built
  | ok tree =>
      rw [outcome] at built
      cases built
      exact Node.isPlain_ofFields outcome

theorem timeAt?_stampTree (stamp : Timestamp) (bare : Node) {place : String × String}
    (listed : place ∈ Transition.timePlaces) :
    (stampTree stamp bare).timeAt? place = bare.timeAt? place := by
  apply Node.timeAt?_append_of_ne
  exact (Transition.timePlaces_spec place listed).2.2.1

/-- What the pipeline of transitions makes of a stamped tree. -/
theorem value_steps_stampTree {stamp : Timestamp} {bare : Node}
    (room : (stampTree stamp bare).Uncalculated) (clock : Formatter) :
    ((Pipeline.ofTransition clock).steps (stampTree stamp bare)).value =
      { bare with
        children := bare.children.map (Operation.setFormatters [("TimeNs", clock)]) ++
          Node.timestampLeaf bare.id stamp :: Operation.calculated (stampTree stamp bare) } := by
  have stamped : (stampTree stamp bare).children =
      bare.children ++ [Node.timestampLeaf bare.id stamp] := rfl
  rw [Pipeline.value_steps_ofTransition clock room, stamped, List.map_append, List.map_singleton,
    Operation.setFormatters_timestampLeaf, List.append_assoc, List.singleton_append]
  rfl

/-- The tree of a transition, stamped and completed on either clock. -/
theorem sameEntry_stampTree {bare : Node} {offset ns : Int} (plain : bare.IsPlain)
    (early : (stampTree ⟨.elapsed, ns⟩ bare).Uncalculated)
    (late : (stampTree ⟨.real, ns + offset⟩ bare).Uncalculated) (label : String) (issue : Nat) :
    Node.SameEntry offset
      ((Pipeline.ofTransition .elapsed).steps (stampTree ⟨.elapsed, ns⟩ bare)).value
      ((Pipeline.ofTransition (.shifted label offset issue)).steps
        (stampTree ⟨.real, ns + offset⟩ bare)).value := by
  have calculated : Operation.calculated (stampTree ⟨.real, ns + offset⟩ bare) =
      Operation.calculated (stampTree ⟨.elapsed, ns⟩ bare) := by
    refine Operation.calculated_congr ?_ ?_
    · rfl
    intro place listed
    rw [timeAt?_stampTree _ _ listed, timeAt?_stampTree _ _ listed]
  have shown : List.Forall₂ (Node.OnBothClocks offset)
      (bare.children.map (Operation.setFormatters [("TimeNs", .elapsed)]))
      (bare.children.map (Operation.setFormatters [("TimeNs", .shifted label offset issue)])) := by
    rcases plain with ⟨_, _, children⟩
    simp only [List.forall₂_map_left_iff, List.forall₂_map_right_iff, List.forall₂_same]
    intro child listed
    exact Operation.onBothClocks_setFormatters label offset issue (children child listed)
  have distinct := (Pipeline.completed_steps .elapsed early).distinct
  rw [value_steps_stampTree early] at distinct
  rw [value_steps_stampTree early, value_steps_stampTree late, calculated]
  exact ⟨rfl, rfl, rfl, rfl, rfl, rfl, rfl,
    ⟨_, _, ns, _, shown, rfl, rfl, fun node => Operation.isCalculated_of_mem⟩, distinct⟩

/-- The answers for one index on the elapsed clock and on the wall clock: the same error, or one
entry. -/
inductive EntriesAgree (offset : Int) :
    Except EntryError Node -> Except EntryError Node -> Prop where
  | failed (cause : EntryError) : EntriesAgree offset (.error cause) (.error cause)
  | shown {elapsed real : Node} (same : Node.SameEntry offset elapsed real) :
      EntriesAgree offset (.ok elapsed) (.ok real)

theorem entriesAgree_of_pipelines {offset : Int} {label : String} {issue : Nat}
    (known : trace.offset = some offset)
    (onElapsed : trace.pipeline .elapsed = .ofTransition .elapsed)
    (onReal : trace.pipeline .real = .ofTransition (.shifted label offset issue))
    (index : Value) :
    EntriesAgree offset (trace.entry .transition index .elapsed).value
      (trace.entry .transition index .real).value := by
  rw [value_entry, value_entry, onElapsed, onReal]
  cases found : trace.position index with
  | error cause =>
      simp only [rawEntry, found, bind, Except.bind]
      exact .failed cause
  | ok place =>
      cases there : trace.elapsed[place.val]? with
      | none =>
          simp only [rawEntry, found, timestamp, there, bind, Except.bind]
          exact .failed _
      | some ns =>
          have early : trace.timestamp place .elapsed = .ok ⟨.elapsed, ns⟩ := by
            simp only [timestamp, there, shift?, Int.add_zero]
          have late : trace.timestamp place .real = .ok ⟨.real, ns + offset⟩ := by
            simp only [timestamp, there, shift?, known]
          have free : forall fields, trace.decodeEntry .transition place = .ok fields ->
              fields.lookup "timestamp" = none := by
            intro fields decoded
            exact @Transition.lookup_decode _ _ (decodeEntry_eq_ok decoded)
              ("timestamp", "rawTimestamp") (by decide)
          have rawEarly := rawEntry_of_free found early free
          have rawLate := rawEntry_of_free found late free
          cases built : trace.bareEntry .transition place with
          | error cause =>
              rw [rawEarly, rawLate, built]
              exact .failed cause
          | ok bare =>
              rw [built] at rawEarly rawLate
              rw [rawEarly, rawLate]
              exact .shown (sameEntry_stampTree (isPlain_bareEntry built)
                (uncalculated_rawEntry rawEarly) (uncalculated_rawEntry rawLate) label issue)

/-- An opened trace of transitions with a known offset, to which operations are applied.  For every
index, its answers on the elapsed clock and on the wall clock are the same error or one entry. -/
theorem entries_agree {decoders : List Decoder} {bytes : List UInt8} {settings : Settings}
    {files : Files} {issue place : Nat} {left : Decoder} {offset : Int}
    (opened : (load decoders bytes settings files issue).value = .taken place left (.ok trace))
    (applied : settings.applyOperations = true) (transitions : trace.kind = .transition)
    (known : trace.offset = some offset) (index : Value) :
    EntriesAgree offset (trace.entry left index .elapsed).value
      (trace.entry left index .real).value := by
  rcases load_eq_opened_iff.mp opened with
    ⟨header, document, decoder, loaded, read, chosen, taken, made⟩
  have kind : decoder.kind = .transition := (ofLoaded_fields made).1.symm.trans transitions
  have stateless := Decoder.load_transition kind taken
  have sameOffset : loaded.offset = some offset := (ofLoaded_fields made).2.2.2.symm.trans known
  rw [kind, applied] at made
  rcases ofLoaded_transition made with ⟨clocks, onElapsed, onReal, same⟩
  rcases Formatter.shift_eq_ok (onReal offset sameOffset) with ⟨label, shifted⟩
  rw [onElapsed, shifted] at same
  subst stateless same
  exact entriesAgree_of_pipelines sameOffset rfl rfl index

/-- The played transition with the wall clock ahead by a thousand nanoseconds. -/
def playedAhead : Trace :=
  { playedTrace with
    offset := some 1000
    realPipeline := [.formatters [("TimeNs", .shifted "real-timestamp+1000" 1000 0)],
      .duration .standard, .status "status"] }

/-- Its entry is one on both clocks, with a duration of two nanoseconds on either. -/
theorem playedAhead_entries_agree :
    Exists fun elapsed : Node => Exists fun real : Node =>
      (playedAhead.entry .transition (.int 0) .elapsed).value = .ok elapsed ∧
        (playedAhead.entry .transition (.int 0) .real).value = .ok real ∧
        Node.SameEntry 1000 elapsed real ∧
        (elapsed.child? "duration").map Node.value = some (.int 2) := by
  have opened : (load Decoder.standard playedText ⟨none, true, some 1000⟩ .nowhere 0).value =
      .taken 1 .transition (.ok playedAhead) :=
    load_eq_opened_iff.mpr ⟨_, _, _, _, readTrace_playedText, rfl, load_played _ .nowhere, rfl⟩
  have agree := entries_agree opened rfl rfl rfl (.int 0)
  refine ⟨_, _, rfl, rfl, ?_, rfl⟩
  cases agree with
  | shown same => exact same

end Trace

end TraceView
