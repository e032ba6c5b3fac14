import TraceView.Proofs.Workbench.Answers

namespace TraceView

/-!
# Loads that fail

A load that fails opens no trace, but it may leave something behind.  The messages of a viewer
configuration are taken over before its groups are looked at.  If the groups turn out to be
unusable, the load fails and the decoder keeps the new messages together with the groups that it
had.  In every other failure no part of a configuration has been taken over yet, and the decoder is
as it was.
-/

open ProtoLog (Parts)

/-! ## What is brought by a load that fails -/

namespace ProtoLog

namespace Parts

/-- What a document may bring when its load fails with an error: nothing, or only the messages of a
configuration, whose groups are at fault. -/
def Unfinished (error : LoadError) (parts : Parts) : Prop :=
  parts = nothing ∨
    Exists fun messages : List (String × Value) => Exists fun fault : Fault =>
      parts = ⟨some messages, none⟩ ∧ error = .malformedDocument (.viewerConfig fault)

end Parts

namespace Decoder

variable {state left : Decoder} {error : LoadError}

/-- A configuration that cannot be taken over is unusable in its messages, and brings nothing, or in
its groups, and brings its messages. -/
theorem unfinished_of_install {config : Value}
    (failed : state.install config = (left, .error error)) :
    (Parts.ofConfig config).Unfinished error := by
  unfold install ViewerConfig.install at failed
  unfold Parts.ofConfig
  cases messages : ViewerConfig.readMessages config with
  | error fault => exact Or.inl rfl
  | ok found =>
      rw [messages] at failed
      cases groups : ViewerConfig.readGroups config with
      | error fault =>
          rw [groups] at failed
          exact Or.inr ⟨found, fault, rfl, (Except.error.inj (Prod.mk.inj failed).2).symm⟩
      | ok others =>
          rw [groups] at failed
          cases failed

theorem unfinished_of_installFile {files : Files} {path : String}
    (failed : state.installFile files path = (left, .error error)) :
    (Parts.ofFile files path).Unfinished error := by
  unfold installFile at failed
  unfold Parts.ofFile
  cases read : files path with
  | error cause => exact Or.inl rfl
  | ok bytes =>
      rw [read] at failed
      cases found : Json.read .settings bytes with
      | stopped soFar problem =>
          simp only [found, Json.Reading.tree?]
          exact Or.inl rfl
      | whole tree =>
          simp only [found, Json.Reading.tree?] at failed ⊢
          exact unfinished_of_install failed

theorem unfinished_of_configure {document : Json} {settings : Settings} {files : Files}
    (failed : (state.configure document settings files).value = (left, .error error)) :
    (Parts.ofDocument document settings files).Unfinished error := by
  unfold configure at failed
  unfold Parts.ofDocument
  split at failed
  · cases failed
  · generalize embedded document = given at failed ⊢
    generalize settings.viewerConfigPath.getD "" = path at failed ⊢
    cases given with
    | null =>
        by_cases empty : path = ""
        · subst empty
          cases failed
        · simp only [Noted.quiet] at failed ⊢
          exact unfinished_of_installFile failed
    | _ => exact unfinished_of_install failed

end Decoder

end ProtoLog

/-- A log fails to load only while its configuration is taken over. -/
theorem unfinished_of_load {decoders : List Decoder} {bytes : List UInt8} {settings : Settings}
    {files : Files} {issue place : Nat} {left : ProtoLog.Decoder} {error : LoadError}
    (failed : (load decoders bytes settings files issue).value =
      .taken place (.protoLog left) (.error error)) :
    (Parts.ofBytes bytes settings files).Unfinished error := by
  cases read : Json.readTrace bytes with
  | error cause => simp only [load, read, Noted.value_quiet, reduceCtorEq] at failed
  | ok pair =>
      rcases pair with ⟨header, document⟩
      cases chosen : choose decoders header.names with
      | none => simp only [load, read, chosen, Noted.value_quiet, reduceCtorEq] at failed
      | some found =>
          rcases found with ⟨position, decoder⟩
          have brought : Parts.ofBytes bytes settings files =
              Parts.ofDocument document settings files := by
            rw [Parts.ofBytes, read]
          cases decoder with
          | transition =>
              rw [load_of_chosen read chosen, LoadAttempt.taken.injEq] at failed
              cases failed.2.1
          | protoLog state =>
              rw [load_log_of_chosen read chosen, LoadAttempt.taken.injEq] at failed
              rcases configured : (state.configure document settings files).value with
                ⟨after, outcome⟩
              rw [configured] at failed
              cases outcome with
              | ok done => cases failed.2.2
              | error cause =>
                  cases failed.2.2
                  rw [brought]
                  exact ProtoLog.Decoder.unfinished_of_configure configured

/-! ## Decoders after a load -/

theorem Decoder.hold_andThen (made : Decoder) (earlier later : Parts) :
    made.hold (earlier.andThen later) = (made.hold earlier).hold later := by
  cases made with
  | transition => rfl
  | protoLog state =>
      rcases state with ⟨fixed, config⟩
      cases fixed with
      | true => rfl
      | false => simp only [hold, Parts.upon_andThen]

/-- Decoders that decode alike show every entry alike. -/
theorem Trace.entry_congr {first second : Decoder}
    (same : forall record, first.decode record = second.decode record) (trace : Trace)
    (index : Value) (domain : Domain) :
    trace.entry first index domain = trace.entry second index domain := by
  have decoded : trace.decodeEntry first = trace.decodeEntry second := by
    funext place
    simp only [decodeEntry, same]
  simp only [entry, rawEntry, decoded]

namespace Session

variable {session : Session} {positions : Option (List Nat)} {bytes : List UInt8}
  {settings : Settings} {files : Files} {error : LoadError}

/-- The position of the decoder that takes the document of a load, if one does. -/
def taker? (session : Session) (positions : Option (List Nat)) (request : Request) : Option Nat :=
  match request.alone with
  | .refused _ => none
  | .taken place _ _ =>
    ((candidates (session.stocked positions) (session.tried positions))[place]?).map (·.1)

/-- The decoders that are there when a load begins include all that were there before. -/
theorem Tracked.stocked_decoder (tracked : session.Tracked) {position : Nat} {decoder : Decoder}
    (there : session.bench.decoder? position = some decoder) (positions : Option (List Nat)) :
    ((session.stocked positions).map Make.now)[position]? = some decoder := by
  rw [Workbench.decoder?, tracked.decoders] at there
  cases positions with
  | some given => exact there
  | none =>
      rw [stocked, List.map_append]
      rw [List.getElem?_append_left (List.getElem?_eq_some_iff.mp there).1, there]

/-- A load is refused and changes no decoder, or one decoder takes the document and holds what this
brings after what it held. -/
theorem Tracked.load_cases (tracked : session.Tracked) (positions : Option (List Nat))
    (bytes : List UInt8) (settings : Settings) (files : Files) :
    let request := session.request positions bytes settings files
    let taker := session.taker? positions request
    let decoders := (session.stocked positions).map Make.now
    let loaded := (session.bench.load positions bytes settings files).value
    (taker = none ∧ loaded.1.decoders = decoders) ∨
      Exists fun place : Nat => Exists fun position : Nat => Exists fun make : Make =>
        Exists fun result : Except LoadError Trace =>
          taker = some position ∧ decoders[position]? = some make.now ∧
            request.alone = .taken place (make.made.hold (.ofBytes bytes settings files)) result ∧
            loaded.1.decoders =
              decoders.set position (make.now.hold (.ofBytes bytes settings files)) ∧
            loaded.2 = result.map fun trace => ⟨trace, position⟩ := by
  intro request taker decoders loaded
  rcases load_eq_loadWith tracked positions bytes settings files with ⟨begun, issued, stocked, same⟩
  have outcomes := loadWith_eq stocked (session.tried positions) bytes settings files
  rw [issued] at outcomes
  rcases outcomes with ⟨cause, alone, after⟩ |
    ⟨place, position, make, result, listed, alone, after⟩
  · have refused : request.alone = .refused cause := alone
    refine Or.inl ⟨by simp only [taker, taker?, refused], ?_⟩
    simp only [loaded, same, after]
    exact stocked
  · have taken : request.alone =
        .taken place (make.made.hold (.ofBytes bytes settings files)) result := alone
    refine Or.inr ⟨place, position, make, result, ?_, ?_, taken, ?_, ?_⟩
    · simp only [taker, taker?, taken, listed, Option.map_some]
    · rw [List.getElem?_map, (candidate_there listed).2, Option.map_some]
    · simp only [loaded, same, after, stocked, Make.now, Decoder.hold_andThen, decoders]
    · simp only [loaded, same, after]

/-- A load changes no decoder but the one that takes the document.  This one holds what the document
brings after what it held. -/
theorem Tracked.decoder?_load (tracked : session.Tracked) {position : Nat} {decoder : Decoder}
    (there : session.bench.decoder? position = some decoder) (positions : Option (List Nat))
    (bytes : List UInt8) (settings : Settings) (files : Files) :
    (session.step (.load positions bytes settings files)).bench.decoder? position =
      some (if session.taker? positions (session.request positions bytes settings files) =
          some position then decoder.hold (.ofBytes bytes settings files) else decoder) := by
  have stocked := tracked.stocked_decoder there positions
  change (session.bench.load positions bytes settings files).value.1.decoders[position]? = _
  rcases tracked.load_cases positions bytes settings files with
    ⟨none, decoders⟩ | ⟨_, taker, make, _, taken, found, _, decoders, _⟩
  · rw [none, if_neg (Option.some_ne_none position).symm, decoders, stocked]
  · rw [taken, decoders]
    by_cases here : taker = position
    · subst here
      rw [stocked] at found
      rw [if_pos rfl, Option.some.inj found,
        List.getElem?_set_self (List.getElem?_eq_some_iff.mp stocked).1]
    · rw [if_neg fun same => here (Option.some.inj same), List.getElem?_set_ne here, stocked]

/-- If the load fails and a decoder of logs takes the document, an unfinished configuration is all
that the document brings. -/
theorem Tracked.unfinished (tracked : session.Tracked)
    (failed : (session.bench.load positions bytes settings files).value.2 = .error error)
    {position : Nat} {state : ProtoLog.Decoder}
    (there : session.bench.decoder? position = some (.protoLog state))
    (taken : session.taker? positions (session.request positions bytes settings files) =
      some position) : (Parts.ofBytes bytes settings files).Unfinished error := by
  have stocked := tracked.stocked_decoder there positions
  rcases tracked.load_cases positions bytes settings files with
    ⟨none, _⟩ | ⟨_, taker, make, result, same, found, alone, _, loaded⟩
  · rw [none] at taken
    cases taken
  · rw [same] at taken
    cases taken
    rw [stocked] at found
    have outcome : result = .error error := by
      rw [loaded] at failed
      cases result with
      | ok trace => cases failed
      | error cause => exact congrArg Except.error (Except.error.inj failed)
    -- the decoder is one of logs as it was made, too
    have logs : (make.made.hold (.ofBytes bytes settings files)).kind = .protoLog := by
      rw [Decoder.kind_hold, ← Decoder.kind_hold make.made make.held]
      exact congrArg Decoder.kind (Option.some.inj found).symm
    cases left : make.made.hold (.ofBytes bytes settings files) with
    | transition =>
        rw [left] at logs
        cases logs
    | protoLog after =>
        rw [left, outcome] at alone
        exact unfinished_of_load alone

/-- What a load that fails can do to a decoder: nothing, or it gives a decoder of logs the messages
of a configuration whose groups are at fault. -/
theorem Tracked.decoder_after_failure (tracked : session.Tracked)
    (failed : (session.bench.load positions bytes settings files).value.2 = .error error)
    (position : Nat) (decoder : Decoder)
    (there : session.bench.decoder? position = some decoder) :
    (session.step (.load positions bytes settings files)).bench.decoder? position =
        some decoder ∨
      Exists fun config : ProtoLog.ViewerConfig =>
        Exists fun messages : List (String × Value) => Exists fun fault : Fault =>
          session.taker? positions (session.request positions bytes settings files) =
              some position ∧
            decoder = .protoLog ⟨false, config⟩ ∧
            Parts.ofBytes bytes settings files = ⟨some messages, none⟩ ∧
            error = .malformedDocument (.viewerConfig fault) ∧
            (session.step (.load positions bytes settings files)).bench.decoder? position =
              some (.protoLog ⟨false, ⟨messages, config.groups⟩⟩) := by
  have later := tracked.decoder?_load there positions bytes settings files
  by_cases taken : session.taker? positions (session.request positions bytes settings files) =
      some position
  · rw [if_pos taken] at later
    cases decoder with
    | transition => exact Or.inl later
    | protoLog state =>
        rcases state with ⟨fixed, config⟩
        cases fixed with
        | true => exact Or.inl later
        | false =>
            rcases tracked.unfinished failed there taken with nothing | ⟨messages, fault, torn, same⟩
            · rw [nothing, Decoder.hold_nothing] at later
              exact Or.inl later
            · rw [torn] at later
              exact Or.inr ⟨config, messages, fault, taken, rfl, torn, same, later⟩
  · rw [if_neg taken] at later
    exact Or.inl later

/-- Every decoder that was there decodes each record as it did, and every trace that was there
gives the answers that it gave. -/
structure Unchanged (before after : Session) : Prop where
  decoders : forall position decoder, before.bench.decoder? position = some decoder ->
    Exists fun later : Decoder => after.bench.decoder? position = some later ∧
      forall record, later.decode record = decoder.decode record
  answers : forall parser, parser ∈ before.parsers -> forall index domain,
    after.bench.entry parser.opened index domain = before.bench.entry parser.opened index domain

/-- A trace whose decoder decodes each record as it did gives the answers that it gave. -/
theorem Tracked.entry_of_decode (tracked : session.Tracked) {parser : Parser}
    (member : parser ∈ session.parsers) {after : Workbench}
    (same : forall decoder, session.bench.decoder? parser.opened.decoder = some decoder ->
      Exists fun later : Decoder => after.decoder? parser.opened.decoder = some later ∧
        forall record, later.decode record = decoder.decode record) (index : Value)
    (domain : Domain) :
    after.entry parser.opened index domain = session.bench.entry parser.opened index domain := by
  rcases tracked.parsers parser member with ⟨make, _, there, _⟩
  have now : session.bench.decoder? parser.opened.decoder = some make.now := by
    rw [Workbench.decoder?, tracked.decoders, List.getElem?_map, there, Option.map_some]
  rcases same make.now now with ⟨later, found, decodes⟩
  simp only [Workbench.entry, now, found]
  exact Trace.entry_congr decodes _ index domain

end Session

/-! ## A configuration with unusable groups

A decoder without a configuration has loaded a log with the configuration that resolves its
message, and then fails to load another one. -/

/-- An empty log whose configuration has unusable messages. -/
def pointlessText : List UInt8 :=
  "\x7b\"log\":[],\"viewerConfig\":\x7b\"messages\":5\x7d\x7d".toUTF8.toList

/-- An empty log whose configuration has no messages and unusable groups. -/
def groupsAmissText : List UInt8 :=
  "\x7b\"log\":[],\"viewerConfig\":\x7b\"messages\":\x7b\x7d,\"groups\":5\x7d\x7d".toUTF8.toList

/-- The document of an empty log with a configuration. -/
def emptyLog (config : List (String × Json)) : Json :=
  .object [("log", .array []), ("viewerConfig", .object config)]

theorem readTrace_pointlessText : Json.readTrace pointlessText =
    .ok (⟨["log", "viewerConfig"], []⟩, emptyLog [("messages", .integer 5)]) := by
  have whole : Json.read .trace pointlessText =
      .whole (emptyLog [("messages", .integer 5)]) := by
    with_unfolding_all rfl
  rw [Json.readTrace, whole]
  rfl

theorem readTrace_groupsAmissText : Json.readTrace groupsAmissText =
    .ok (⟨["log", "viewerConfig"], []⟩,
      emptyLog [("messages", .object []), ("groups", .integer 5)]) := by
  have whole : Json.read .trace groupsAmissText =
      .whole (emptyLog [("messages", .object []), ("groups", .integer 5)]) := by
    with_unfolding_all rfl
  rw [Json.readTrace, whole]
  rfl

/-- The load of an empty log fails if its configuration cannot be taken over. -/
theorem load_emptyLog {text : List UInt8} {config : List (String × Json)}
    {state left : ProtoLog.Decoder} {error : LoadError} (issue : Nat)
    (read : Json.readTrace text = .ok (⟨["log", "viewerConfig"], []⟩, emptyLog config))
    (configured : (state.configure (emptyLog config) .standard .nowhere).value =
      (left, .error error)) :
    (load [.protoLog state] text .standard .nowhere issue).value =
      .taken 0 (.protoLog left) (.error error) := by
  have chosen : choose [.protoLog state] ["log", "viewerConfig"] = some (0, .protoLog state) := rfl
  rw [load_log_of_chosen read chosen, configured]
  rfl

namespace Session

/-- The decoder is made and loads the log with the configuration that resolves its message. -/
def resolvedHistory : List Action :=
  [.make (.protoLog .fresh), .load (some [0]) resolvedText .standard .nowhere]

theorem run_resolvedHistory : run resolvedHistory =
    ⟨⟨[.protoLog ⟨false, resolving⟩], .empty, 1⟩, [⟨.protoLog .fresh, resolvingParts⟩],
      [early]⟩ := by
  have first := @step_single ⟨.protoLog .fresh, .nothing⟩ _ _ _ .empty 0 [] resolvedText
    loggedTrace (load_resolvedText .empty 0) (load_resolvedText .empty 0)
  rw [brought_resolvedText] at first
  exact first

/-! ## Failures in a history -/

/-- What a load that fails leaves changed, in a history.  Nothing is changed, unless the
configuration that is found has messages but unusable groups, and the decoder that takes the
document was made without a configuration.  Such a decoder has the new messages afterwards, and
then nothing is changed exactly when these show each record as the old ones did. -/
theorem unchanged_after_failure_iff (history : List Action) (positions : Option (List Nat))
    (bytes : List UInt8) (settings : Settings) (files : Files) {error : LoadError}
    (failed : ((run history).bench.load positions bytes settings files).value.2 = .error error) :
    let before := run history
    let after := run (history ++ [.load positions bytes settings files])
    let brought := Parts.ofBytes bytes settings files
    let taker := before.taker? positions (before.request positions bytes settings files)
    (before.Unchanged after ↔
      forall position config messages, taker = some position ->
        before.bench.decoder? position = some (.protoLog ⟨false, config⟩) ->
          brought.messages = some messages ->
            forall record, (ProtoLog.Decoder.mk false ⟨messages, config.groups⟩).decode record =
              (ProtoLog.Decoder.mk false config).decode record) ∧
    forall position decoder, before.bench.decoder? position = some decoder ->
      after.bench.decoder? position = some decoder ∨
        Exists fun config : ProtoLog.ViewerConfig =>
          Exists fun messages : List (String × Value) => Exists fun fault : Fault =>
            taker = some position ∧ decoder = .protoLog ⟨false, config⟩ ∧
              brought = ⟨some messages, none⟩ ∧
              error = .malformedDocument (.viewerConfig fault) ∧
              after.bench.decoder? position =
                some (.protoLog ⟨false, ⟨messages, config.groups⟩⟩) := by
  intro before after brought taker
  have tracked : before.Tracked := tracked_run history
  have stepped : after = before.step (.load positions bytes settings files) := by
    simp only [after, before, run, List.foldl_append, List.foldl_cons, List.foldl_nil]
  have outcomes := tracked.decoder_after_failure failed
  rw [← stepped] at outcomes
  refine ⟨⟨?_, ?_⟩, outcomes⟩
  · intro unchanged position config messages taken there found record
    have later := tracked.decoder?_load there positions bytes settings files
    rcases tracked.unfinished failed there taken with nothing | ⟨others, fault, torn, _⟩
    · rw [show brought = .nothing from nothing] at found
      cases found
    · rw [show brought = ⟨some others, none⟩ from torn] at found
      cases found
      rw [← stepped, if_pos taken, torn] at later
      rcases unchanged.decoders position _ there with ⟨kept, foundKept, same⟩
      rw [later] at foundKept
      cases foundKept
      exact map_injective_of_injective (fun _ _ equal => Value.map.inj equal) (same record)
  · intro harmless
    have decoders : forall position decoder, before.bench.decoder? position = some decoder ->
        Exists fun later : Decoder => after.bench.decoder? position = some later ∧
          forall record, later.decode record = decoder.decode record := by
      intro position decoder there
      rcases outcomes position decoder there with
        same | ⟨config, messages, fault, taken, old, torn, _, new⟩
      · exact ⟨decoder, same, fun _ => rfl⟩
      · subst old
        refine ⟨_, new, fun record => ?_⟩
        have found : brought.messages = some messages := by rw [show brought = _ from torn]
        exact congrArg (Except.map Value.map)
          (harmless position config messages taken there found record)
    exact ⟨decoders, fun parser member =>
      tracked.entry_of_decode member (decoders parser.opened.decoder)⟩

/-- Unusable messages change nothing. -/
theorem unchanged_by_pointlessText :
    ((run resolvedHistory).bench.load (some [0]) pointlessText .standard .nowhere).value.2 =
        .error (.malformedDocument (.viewerConfig .wrongKind)) ∧
      (run resolvedHistory).Unchanged
        (run (resolvedHistory ++ [.load (some [0]) pointlessText .standard .nowhere])) := by
  have failed : ((run resolvedHistory).bench.load (some [0]) pointlessText .standard
      .nowhere).value.2 = .error (.malformedDocument (.viewerConfig .wrongKind)) := by
    rw [run_resolvedHistory, load_single (load_emptyLog 1 readTrace_pointlessText rfl)]
    rfl
  refine ⟨failed, ?_⟩
  apply (unchanged_after_failure_iff resolvedHistory (some [0]) pointlessText .standard .nowhere
    failed).1.mpr
  intro position config messages taken there found
  rw [Parts.ofBytes, readTrace_pointlessText] at found
  cases found

/-- Unusable groups leave the decoder without the message that it knew, and the trace that was
loaded before shows its hash instead. -/
theorem changed_by_groupsAmissText :
    ((run resolvedHistory).bench.load (some [0]) groupsAmissText .standard .nowhere).value.2 =
        .error (.malformedDocument (.viewerConfig .wrongKind)) ∧
      Not ((run resolvedHistory).Unchanged
        (run (resolvedHistory ++ [.load (some [0]) groupsAmissText .standard .nowhere]))) := by
  have loaded : ((run resolvedHistory).bench.load (some [0]) groupsAmissText .standard
      .nowhere).value = (⟨[.protoLog ⟨false, ⟨[], []⟩⟩], .empty, 2⟩,
        .error (.malformedDocument (.viewerConfig .wrongKind))) := by
    rw [run_resolvedHistory, load_single (load_emptyLog 1 readTrace_groupsAmissText rfl)]
    rfl
  have bench : (run (resolvedHistory ++ [.load (some [0]) groupsAmissText .standard
      .nowhere])).bench = ⟨[.protoLog ⟨false, ⟨[], []⟩⟩], .empty, 2⟩ :=
    congrArg Prod.fst loaded
  refine ⟨congrArg Prod.snd loaded, fun unchanged => ?_⟩
  have member : early ∈ (run resolvedHistory).parsers := by
    rw [run_resolvedHistory]
    exact .head _
  have same := congrArg (fun answer => shownText answer.value)
    (unchanged.answers early member (.int 0) .elapsed)
  rw [bench, run_resolvedHistory] at same
  have lost : some (Value.string "Unknown message hash 1 with params: ") =
      some (Value.string "first") :=
    ((shownText_unknown []).symm.trans same).trans shownText_resolving
  exact absurd (Value.string.inj (Option.some.inj lost)) (by decide)

end Session

end TraceView
