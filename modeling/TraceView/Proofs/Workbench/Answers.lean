import TraceView.Proofs.ProtoLog.Entries
import TraceView.Proofs.Workbench.History

namespace TraceView

/-!
# Answers in a history

An entry is decoded when it is asked for, by the decoder as it is then.  For transitions this is of
no consequence, and neither is it for logs whose decoder was made with a configuration.  A decoder
of logs without one has the parts of the configurations that were brought to it last, from whatever
document, and all the traces that it has loaded are decoded with these.

An answer is therefore the one that the load gives alone exactly when the parts that the decoder
holds now show the entry as the parts of its own document do.
-/

open ProtoLog (Parts)

/-! ## Answers about a trace -/

namespace Session

variable {session : Session} {parser : Parser}

/-- What is answered about a trace, in terms of how its decoder was made and what it holds. -/
theorem Tracked.value_entry (tracked : session.Tracked) {make : Make}
    (there : session.makes[parser.opened.decoder]? = some make) (index : Value)
    (domain : Domain) :
    (session.bench.entry parser.opened index domain).value =
      (parser.opened.trace.entry make.now index domain).value := by
  have now : session.bench.decoder? parser.opened.decoder = some make.now := by
    rw [Workbench.decoder?, tracked.decoders, List.getElem?_map, there]
    rfl
  simp only [Workbench.entry, now]

/-- Two decoders that were made alike answer alike about a trace that one of them has loaded,
exactly when the entry that is asked for is the same without its timestamp. -/
theorem answer_hold_eq_iff {made : Decoder} {trace : Trace} {request : Request} {place : Nat}
    {brought : Parts}
    (alone : request.alone = .taken place (made.hold brought) (.ok trace)) (held : Parts)
    (index : Value) (domain : Domain) :
    (trace.entry (made.hold held) index domain).value =
        (trace.entry (made.hold brought) index domain).value ↔
      forall (entry : Fin trace.length) (stamp : Timestamp), index = .int entry.val ->
        trace.timestamp entry domain = .ok stamp ->
          trace.bareEntry (made.hold held) entry = trace.bareEntry (made.hold brought) entry := by
  cases made with
  | transition => exact iff_of_true rfl fun _ _ _ _ => rfl
  | protoLog state =>
      rcases state with ⟨fixed, config⟩
      cases fixed with
      | true => exact iff_of_true rfl fun _ _ _ _ => rfl
      | false => exact Trace.entry_of_log_eq_iff (pipeline_of_load alone domain) _ _ index

end Session

/-! ## Loads with decoders of their own -/

/-- A step that uses no decoder that is there already. -/
def Action.Own : Action -> Prop
  | .make _ => True
  | .load positions _ _ _ => positions = none

namespace Session

/-- The decoder of every trace holds what the load of this trace brought. -/
structure Unshared (session : Session) : Prop where
  tracked : session.Tracked
  held : forall parser, parser ∈ session.parsers ->
    forall make, session.makes[parser.opened.decoder]? = some make ->
      make.held = parser.request.brought

/-- A load without positions tries decoders that were not there before and hold nothing. -/
theorem new_of_candidate {session : Session} {place position : Nat} {make : Make}
    (candidate : (candidates (session.stocked none) (session.tried none))[place]? =
      some (position, make)) :
    session.makes.length ≤ position ∧ make.held = .nothing := by
  rcases candidate_there candidate with ⟨listed, there⟩
  have behind : session.makes.length ≤ position := by
    rcases List.mem_cons.mp listed with first | second
    · exact Nat.le_of_eq first.symm
    · rw [List.mem_singleton.mp second]
      exact Nat.le_succ _
  refine ⟨behind, ?_⟩
  rw [stocked, List.getElem?_append_right behind] at there
  rcases List.mem_map.mp (List.mem_of_getElem? there) with ⟨decoder, _, same⟩
  rw [← same]

/-- A step that uses no decoder again leaves the decoders of all traces alone. -/
theorem Unshared.step {session : Session} (unshared : session.Unshared) {action : Action}
    (own : action.Own) : (session.step action).Unshared := by
  have tracked := unshared.tracked
  refine ⟨tracked.step action, ?_⟩
  have inside : forall {parser : Parser}, parser ∈ session.parsers ->
      parser.opened.decoder < session.makes.length := by
    intro parser old
    rcases tracked.parsers parser old with ⟨make, _, there, _⟩
    exact (List.getElem?_eq_some_iff.mp there).1
  have kept : forall {parser : Parser}, parser ∈ session.parsers ->
      forall (new : List Make) (make : Make),
        (session.makes ++ new)[parser.opened.decoder]? = some make ->
          make.held = parser.request.brought := by
    intro parser old new make there
    rw [List.getElem?_append_left (inside old)] at there
    exact unshared.held parser old make there
  cases action with
  | make decoder => exact fun parser old => kept old _
  | load positions bytes settings files =>
      cases own
      rcases (step_load_cases tracked none bytes settings files).2 with ⟨makes, parsers⟩ |
        ⟨place, position, make, result, there, _, makes, parsers⟩
      · rw [makes, parsers]
        exact fun parser old => kept old _
      · rcases new_of_candidate there with ⟨behind, nothing⟩
        rw [makes]
        intro parser member now found
        rcases parsers parser member with old | ⟨trace, _, new⟩
        · rw [List.getElem?_set_ne (Nat.ne_of_gt (Nat.lt_of_lt_of_le (inside old) behind))] at found
          exact kept old _ now found
        · subst new
          rw [List.getElem?_set_self
            (List.getElem?_eq_some_iff.mp (candidate_there there).2).1] at found
          cases found
          change make.held.andThen _ = _
          rw [nothing, ProtoLog.Parts.nothing_andThen]

theorem unshared_run {history : List Action}
    (own : forall action, action ∈ history -> action.Own) : (run history).Unshared :=
  List.foldlRecOn history Session.step
    ⟨tracked_empty, fun _ impossible => (List.not_mem_nil impossible).elim⟩
    fun _ unshared action listed => unshared.step (own action listed)

/-- If every load has decoders of its own, all answers are those of the loads alone. -/
theorem answer_eq_alone_of_own {history : List Action}
    (own : forall action, action ∈ history -> action.Own) {parser : Parser}
    (member : parser ∈ (run history).parsers) (index : Value) (domain : Domain) :
    parser.request.answer index domain =
      some ((run history).bench.entry parser.opened index domain).value := by
  have unshared := unshared_run own
  rcases unshared.tracked.parsers parser member with ⟨make, place, there, alone⟩
  have held := unshared.held parser member make there
  rw [unshared.tracked.value_entry there, Make.now, held]
  rw [Request.answer, alone]

end Session

/-! ## A decoder that is used twice

A decoder without a configuration loads a log that brings one, and then a log of the same message
that brings none. -/

/-- A log with a message and the configuration that resolves it. -/
def resolvedText : List UInt8 :=
  ("\x7b\"log\":[\x7b\"messageHash\":1,\"elapsedRealtimeNanos\":5\x7d]," ++
    "\"viewerConfig\":\x7b\"messages\":\x7b\"1\":\x7b\"message\":\"first\"\x7d\x7d\x7d\x7d"
    ).toUTF8.toList

/-- A log with the message alone. -/
def bareText : List UInt8 :=
  "\x7b\"log\":[\x7b\"messageHash\":1,\"elapsedRealtimeNanos\":5\x7d]\x7d".toUTF8.toList

def loggedMessages : Json :=
  .array [.object [("messageHash", .integer 1), ("elapsedRealtimeNanos", .integer 5)]]

def resolvedLog : Json :=
  .object [("log", loggedMessages),
    ("viewerConfig", .object [("messages", .object [("1", .object [("message", .string "first")])])])]

def bareLog : Json := .object [("log", loggedMessages)]

def loggedRecord : Value :=
  .map [("messageHash", .int 1), ("elapsedRealtimeNanos", .int 5)]

/-- The trace of either log. -/
def loggedTrace : Trace := ⟨.protoLog, [loggedRecord], [5], none, [], []⟩

/-- The configuration of the first log. -/
def resolving : ProtoLog.ViewerConfig :=
  ⟨[("1", .map [("message", .string "first")])], []⟩

/-- The parts that the first log brings. -/
def resolvingParts : Parts := ⟨some resolving.messages, some resolving.groups⟩

set_option maxRecDepth 8000 in
theorem readTrace_resolvedText :
    Json.readTrace resolvedText = .ok (⟨["log", "viewerConfig"], []⟩, resolvedLog) := by
  have whole : Json.read .trace resolvedText = .whole resolvedLog := by
    with_unfolding_all rfl
  rw [Json.readTrace, whole]
  rfl

theorem readTrace_bareText : Json.readTrace bareText = .ok (⟨["log"], []⟩, bareLog) := by
  have whole : Json.read .trace bareText = .whole bareLog := by
    with_unfolding_all rfl
  rw [Json.readTrace, whole]
  rfl

theorem brought_resolvedText : Parts.ofBytes resolvedText .standard .nowhere = resolvingParts := by
  rw [Parts.ofBytes, readTrace_resolvedText]
  rfl

theorem brought_bareText : Parts.ofBytes bareText .standard .nowhere = .nothing := by
  rw [Parts.ofBytes, readTrace_bareText]
  rfl

/-- Loading a log of the message finds it, and leaves the decoder with what the log brings. -/
theorem load_logged {text : List UInt8} {names : List String} {document : Json}
    {config after : ProtoLog.ViewerConfig} (issue : Nat)
    (read : Json.readTrace text = .ok (⟨names, []⟩, document))
    (accepted : names.contains "log" = true)
    (found : (Json.partsAt "log.item" [] document).map Json.exactValue = [loggedRecord])
    (configured : ((ProtoLog.Decoder.mk false config).configure document .standard
      .nowhere).value = (⟨false, after⟩, .ok ())) :
    (load [.protoLog ⟨false, config⟩] text .standard .nowhere issue).value =
      .taken 0 (.protoLog ⟨false, after⟩) (.ok loggedTrace) := by
  have chosen : choose [.protoLog ⟨false, config⟩] names =
      some (0, .protoLog ⟨false, config⟩) := by
    simp only [choose, List.zipIdx_cons, List.find?_cons, Decoder.accepts,
      ProtoLog.Decoder.accepts, accepted]
    rfl
  have taken : ((Decoder.protoLog ⟨false, config⟩).load document ⟨names, []⟩ .standard
      .nowhere).value = (.protoLog ⟨false, after⟩, .ok ⟨[loggedRecord], [5], none⟩) :=
    load_message found rfl rfl configured
  exact load_eq_opened_iff.mpr ⟨_, _, _, _, read, chosen, taken, rfl⟩

theorem load_resolvedText (config : ProtoLog.ViewerConfig) (issue : Nat) :
    (load [.protoLog ⟨false, config⟩] resolvedText .standard .nowhere issue).value =
      .taken 0 (.protoLog ⟨false, resolving⟩) (.ok loggedTrace) :=
  load_logged issue readTrace_resolvedText rfl rfl rfl

theorem load_bareText (config : ProtoLog.ViewerConfig) (issue : Nat) :
    (load [.protoLog ⟨false, config⟩] bareText .standard .nowhere issue).value =
      .taken 0 (.protoLog ⟨false, config⟩) (.ok loggedTrace) :=
  load_logged issue readTrace_bareText rfl rfl rfl

namespace Session

/-- A load with the only decoder of a workbench. -/
theorem load_single {decoder left : Decoder} {shelf : Shelf} {issued : Nat} {bytes : List UInt8}
    {result : Except LoadError Trace}
    (loaded : (TraceView.load [decoder] bytes .standard .nowhere issued).value =
      .taken 0 left result) :
    ((Workbench.mk [decoder] shelf issued).load (some [0]) bytes .standard .nowhere).value =
      (⟨[left], shelf, issued + 1⟩, result.map fun trace => ⟨trace, 0⟩) := by
  have candidates : ([0].filterMap fun position =>
      ((Workbench.mk [decoder] shelf issued).decoder? position).map fun decoder =>
        (position, decoder)) = [(0, decoder)] := rfl
  simp only [Workbench.load, Workbench.loadWith, candidates, List.map_cons, List.map_nil,
    Noted.value_andThen, Workbench.issue, loaded]
  rfl

/-- Such a load as a step of a history, when it opens a trace. -/
theorem step_single {make : Make} {decoder left alone : Decoder} {shelf : Shelf} {issued : Nat}
    {parsers : List Parser} {bytes : List UInt8} {trace : Trace}
    (loaded : (TraceView.load [decoder] bytes .standard .nowhere issued).value =
      .taken 0 left (.ok trace))
    (loadedAlone : (TraceView.load [make.made] bytes .standard .nowhere issued).value =
      .taken 0 alone (.ok trace)) :
    step ⟨⟨[decoder], shelf, issued⟩, [make], parsers⟩ (.load (some [0]) bytes .standard .nowhere) =
      ⟨⟨[left], shelf, issued + 1⟩,
        [⟨make.made, make.held.andThen (.ofBytes bytes .standard .nowhere)⟩],
        parsers ++ [⟨⟨trace, 0⟩, ⟨[make.made], bytes, .standard, .nowhere, issued⟩⟩]⟩ := by
  have requested : (Session.mk ⟨[decoder], shelf, issued⟩ [make] parsers).request (some [0]) bytes
      .standard .nowhere = ⟨[make.made], bytes, .standard, .nowhere, issued⟩ := rfl
  have taken : (Request.mk [make.made] bytes .standard .nowhere issued).alone =
      .taken 0 alone (.ok trace) := loadedAlone
  simp only [step, requested, load_single loaded, makesAfter, taken]
  rfl

/-- What is shown as the text of a message. -/
def shownText (answer : Except EntryError Node) : Option Value :=
  answer.toOption.bind fun tree => (tree.child? "text").map Node.value

/-- A decoder that knows no messages shows the hash of the message, whatever groups it has. -/
theorem shownText_unknown (groups : List (Value × Value)) :
    shownText (loggedTrace.entry (.protoLog ⟨false, ⟨[], groups⟩⟩) (.int 0) .elapsed).value =
      some (.string "Unknown message hash 1 with params: ") := rfl

/-- A decoder that holds what the first log brings shows the message. -/
theorem shownText_resolving :
    shownText (loggedTrace.entry (.protoLog ⟨false, resolving⟩) (.int 0) .elapsed).value =
      some (.string "first") := by
  have decoded : loggedTrace.decodeEntry (.protoLog ⟨false, resolving⟩) ⟨0, Nat.zero_lt_one⟩ =
      .ok (ProtoLog.Decoder.properties "first" (.string ProtoLog.unknownField)
        (.string ProtoLog.unknownField) (.string ProtoLog.unknownField)) := rfl
  have found : loggedTrace.position (.int 0) = .ok ⟨0, Nat.zero_lt_one⟩ := rfl
  have stamped : loggedTrace.timestamp ⟨0, Nat.zero_lt_one⟩ .elapsed = .ok ⟨.elapsed, 5⟩ := rfl
  simp only [Trace.entry, Trace.rawEntry, found, stamped, decoded, bind, Except.bind]
  rfl

/-- The decoder is made, and loads the one log and then the other. -/
def reuse : List Action :=
  [.make (.protoLog .fresh), .load (some [0]) resolvedText .standard .nowhere,
    .load (some [0]) bareText .standard .nowhere]

def early : Parser :=
  ⟨⟨loggedTrace, 0⟩, ⟨[.protoLog .fresh], resolvedText, .standard, .nowhere, 0⟩⟩

def late : Parser :=
  ⟨⟨loggedTrace, 0⟩, ⟨[.protoLog .fresh], bareText, .standard, .nowhere, 1⟩⟩

/-- The decoder holds what the first log brought, and both traces are decoded with it. -/
theorem run_reuse : run reuse =
    ⟨⟨[.protoLog ⟨false, resolving⟩], .empty, 2⟩, [⟨.protoLog .fresh, resolvingParts⟩],
      [early, late]⟩ := by
  have first := @step_single ⟨.protoLog .fresh, .nothing⟩ _ _ _ .empty 0 [] resolvedText
    loggedTrace (load_resolvedText .empty 0) (load_resolvedText .empty 0)
  have second := @step_single ⟨.protoLog .fresh, resolvingParts⟩ _ _ _ .empty 1 [early] bareText
    loggedTrace (load_bareText resolving 1) (load_bareText .empty 1)
  rw [brought_resolvedText] at first
  rw [brought_bareText] at second
  exact (congrArg (step · (.load (some [0]) bareText .standard .nowhere)) first).trans second

/-! ## Answers after a history -/

/-- Answers in a history and answers of loads alone.  Every trace that was opened in a history is
opened by its load alone, with the decoder left as it was made but for the parts that this load
brought.  An answer in the history is the one of the load alone exactly when there is no entry with
a timestamp to be shown, or its tree is the same for the decoder as it is now and as the load alone
left it.  If the load alone warned that it found no configuration, and the decoder was made
without one, then what the load alone shows of a message resolves nothing. -/
theorem answer_eq_alone_iff (history : List Action) {parser : Parser}
    (member : parser ∈ (run history).parsers) :
    Exists fun make : Make => Exists fun place : Nat =>
      (run history).makes[parser.opened.decoder]? = some make ∧
        parser.request.alone =
          .taken place (make.made.hold parser.request.brought) (.ok parser.opened.trace) ∧
        (forall (index : Value) (domain : Domain),
          parser.request.answer index domain =
              some ((run history).bench.entry parser.opened index domain).value ↔
            forall (entry : Fin parser.opened.trace.length) (stamp : Timestamp),
              index = .int entry.val -> parser.opened.trace.timestamp entry domain = .ok stamp ->
                parser.opened.trace.bareEntry make.now entry =
                  parser.opened.trace.bareEntry (make.made.hold parser.request.brought) entry) ∧
        (parser.request.warns -> make.made = .protoLog .fresh ->
          forall (entry : Fin parser.opened.trace.length) (fields : List (String × Value)),
            parser.opened.trace.decodeEntry (make.made.hold parser.request.brought) entry =
                .ok fields ->
              ProtoLog.Decoder.Unresolved (parser.opened.trace.record entry) fields) := by
  have tracked := tracked_run history
  rcases tracked.parsers parser member with ⟨make, place, there, alone⟩
  refine ⟨make, place, there, alone, ?_, ?_⟩
  · intro index domain
    have answered : parser.request.answer index domain = some (parser.opened.trace.entry
        (make.made.hold parser.request.brought) index domain).value := by
      rw [Request.answer, alone]
    rw [answered, tracked.value_entry there, Option.some.injEq, eq_comm]
    exact answer_hold_eq_iff alone make.held index domain
  · intro warned fresh entry fields decoded
    rw [fresh] at alone decoded
    have brought : parser.request.brought = .nothing := brought_of_warning alone warned
    rw [brought, Decoder.hold_nothing] at decoded
    exact ProtoLog.Decoder.unresolved_of_fresh (Trace.decode_of_log (Trace.decodeEntry_eq_ok decoded))

/-- The first log is shown as if nothing had been loaded after it, because the second one brought
nothing. -/
theorem early_answer_kept :
    early ∈ (run reuse).parsers ∧
      early.request.answer (.int 0) .elapsed =
        some ((run reuse).bench.entry early.opened (.int 0) .elapsed).value := by
  have member : early ∈ (run reuse).parsers := by
    rw [run_reuse]
    exact .head _
  refine ⟨member, ?_⟩
  rcases answer_eq_alone_iff reuse member with ⟨make, _, there, _, exactly, _⟩
  apply (exactly (.int 0) .elapsed).mpr
  intro entry stamp asked stamped
  rw [run_reuse] at there
  cases there
  rw [show early.request.brought = resolvingParts from brought_resolvedText]
  rfl

/-- The second log is shown with what the first one brought.  Alone its load warns that messages
will not be resolved, and so they are not. -/
theorem late_answer_differs :
    late ∈ (run reuse).parsers ∧ late.request.warns ∧
      late.request.answer (.int 0) .elapsed ≠
        some ((run reuse).bench.entry late.opened (.int 0) .elapsed).value := by
  refine ⟨?_, ?_, ?_⟩
  · rw [run_reuse]
    exact .tail _ (.head _)
  · rw [Request.warns, Request.attempt, load]
    simp only [late, readTrace_bareText]
    exact .head _
  · intro same
    have alone : late.request.alone = .taken 0 (.protoLog .fresh) (.ok loggedTrace) :=
      load_bareText .empty 1
    rw [run_reuse, Request.answer, alone] at same
    have trees : (loggedTrace.entry (.protoLog .fresh) (.int 0) .elapsed).value =
        (loggedTrace.entry (.protoLog ⟨false, resolving⟩) (.int 0) .elapsed).value :=
      Option.some.inj same
    have unresolved : shownText (loggedTrace.entry (.protoLog .fresh) (.int 0) .elapsed).value =
        some (.string "Unknown message hash 1 with params: ") := shownText_unknown []
    rw [trees, shownText_resolving] at unresolved
    exact absurd (Value.string.inj (Option.some.inj unresolved)) (by decide)

end Session

end TraceView
