import TraceView.Proofs.Json.Dialects
import TraceView.Proofs.Json.Inserted
import TraceView.Proofs.Trace.Failures
import TraceView.Proofs.Workbench.Answers

namespace TraceView

/-!
# Sources of a configuration

A viewer configuration can be given to the decoder of logs when it is made, stand in the document
or stand in a file.  The three ways meet in one place: a configuration is taken over by its messages
and its groups, and whatever was held before is given up when both are usable.  It is read by
different rules, but for a configuration without decimals the rules agree.  And a document with a
configuration as one member more has the same messages and records the same offset.

A configuration that is given to the decoder hides the others, and one that stands in the document
hides the one in the file, which is not even read then.

The three ways part where a configuration is read, because an integer that is read has a limited
number of digits and one that is given has not.  So documents and files are taken here as they are
without the limit, and it is said what becomes of them under it.  The texts of a configuration are
made of characters, and half of a pair of numbered characters is none, so what has such a half is no
configuration here.
-/

namespace ProtoLog

/-- A text that is a log without a configuration of its own, with integers of any length. -/
structure BareLog (bytes : List UInt8) (members : List (String × Json)) : Prop where
  read : Json.read Json.Dialect.trace.unlimited bytes = .whole (.object members)
  header : Exists fun header : Json.Header =>
    Json.Header.ofTree? (.object members) = some header ∧ header.names.contains "log" = true
  unconfigured : Json.partsAt "viewerConfig" [] (.object members) = []

/-- Such a text is read if all its integers can be written. -/
theorem BareLog.readTrace {bytes : List UInt8} {members : List (String × Json)}
    (log : BareLog bytes members) (fits : (Json.object members).Fits) :
    Exists fun header : Json.Header =>
      Json.readTrace bytes = .ok (header, .object members) ∧ header.names.contains "log" = true := by
  rcases log.header with ⟨header, found, known⟩
  exact ⟨header, Json.readTrace_eq_ok_iff.mpr
    ⟨(Json.read_eq_whole_iff rfl).mpr ⟨log.read, fits⟩, found⟩, known⟩

theorem plain_viewerConfig : Json.IsPlain "viewerConfig" := ⟨by decide, by decide⟩

namespace Decoder

/-! ## Taking over a configuration -/

/-- A decoder that can be made with a configuration holds what any other one takes over. -/
theorem install_of_withConfig {config : Value} {made : Decoder}
    (constructed : withConfig config = .ok made) :
    made.fixed = true ∧ forall held : ViewerConfig,
      (Decoder.mk false held).install config = (⟨false, made.config⟩, .ok ()) := by
  unfold withConfig at constructed
  unfold install
  unfold ViewerConfig.install at constructed ⊢
  cases messages : ViewerConfig.readMessages config with
  | error fault =>
      rw [messages] at constructed
      cases constructed
  | ok found =>
      cases groups : ViewerConfig.readGroups config with
      | error fault =>
          rw [messages, groups] at constructed
          cases constructed
      | ok others =>
          rw [messages, groups] at constructed
          cases constructed
          exact ⟨rfl, fun _ => rfl⟩

/-- If no decoder can be made with a configuration, none takes it over. -/
theorem install_of_withConfig_error {config : Value} {fault : Fault}
    (unusable : withConfig config = .error fault) (state : Decoder) :
    (state.install config).2 = .error (.malformedDocument (.viewerConfig fault)) := by
  unfold withConfig at unusable
  unfold install
  unfold ViewerConfig.install at unusable ⊢
  cases messages : ViewerConfig.readMessages config with
  | error cause =>
      rw [messages] at unusable
      cases unusable
      rfl
  | ok found =>
      cases groups : ViewerConfig.readGroups config with
      | error cause =>
          rw [messages, groups] at unusable
          cases unusable
          rfl
      | ok others =>
          rw [messages, groups] at unusable
          cases unusable

/-! ## Finding a configuration -/

variable {document : Json} {settings : Settings} {files : Files} {held : ViewerConfig}

theorem configure_of_fixed {state : Decoder} (fixed : state.fixed = true) :
    (state.configure document settings files).value = (state, .ok ()) := by
  rw [configure, if_pos fixed]
  rfl

/-- A configuration in the document is taken over, whatever file is named. -/
theorem configure_of_embedded (there : embedded document ≠ .null) :
    (Decoder.mk false held).configure document settings files =
      .quiet ((Decoder.mk false held).install (embedded document)) := by
  rw [configure, if_neg Bool.false_ne_true]
  generalize embedded document = config at there ⊢
  cases config with
  | null => exact absurd rfl there
  | _ => rfl

/-- The file is looked at if there is no configuration in the document. -/
theorem configure_of_file {path : String} (missing : embedded document = .null)
    (named : settings.viewerConfigPath = some path) (nonempty : path ≠ "") :
    (Decoder.mk false held).configure document settings files =
      .quiet ((Decoder.mk false held).installFile files path) := by
  rw [configure, if_neg Bool.false_ne_true, missing, named, Option.getD_some]
  split
  · exact absurd rfl nonempty
  · rfl
  · rename_i other _
    exact absurd rfl other

/-- A configuration in a file is taken over if all its integers can be written. -/
theorem installFile_of_fits {path : String} {file : List UInt8} {tree : Json}
    (there : files path = .ok file)
    (contains : Json.read Json.Dialect.settings.unlimited file = .whole tree) (fits : tree.Fits)
    (state : Decoder) : state.installFile files path = state.install tree.roundedValue := by
  simp only [installFile, there, (Json.read_eq_whole_iff rfl).mpr ⟨contains, fits⟩]

theorem installFile_of_long {path : String} {file : List UInt8} {tree : Json}
    (there : files path = .ok file)
    (contains : Json.read Json.Dialect.settings.unlimited file = .whole tree) (long : ¬ tree.Fits)
    (state : Decoder) :
    state.installFile files path = (state, .error (.malformedDocument (.undecodable .integer))) := by
  rcases Json.read_of_long rfl contains long with ⟨soFar, stopped⟩
  simp only [installFile, there, stopped]
  rfl

/-! ## Documents with and without a configuration -/

theorem embedded_insert {front back : List (String × Json)}
    (unconfigured : Json.partsAt "viewerConfig" [] (.object (front ++ back)) = []) (config : Json) :
    embedded (.object (front ++ ("viewerConfig", config) :: back)) = config.exactValue := by
  rw [embedded, Json.partsAt_insert_self plain_viewerConfig unconfigured]
  rfl

theorem embedded_of_unconfigured (unconfigured : Json.partsAt "viewerConfig" [] document = []) :
    embedded document = .null := by
  rw [embedded, unconfigured]
  rfl

/-- A configuration in the document changes nothing that is read of its messages. -/
theorem read_insert {header next : Json.Header} (agree : next.AgreeOutside "viewerConfig" header)
    (front back : List (String × Json)) (config : Json) (settings : Settings) :
    read (.object (front ++ ("viewerConfig", config) :: back)) next settings =
      read (.object (front ++ back)) header settings := by
  have items : Json.partsAt "log.item" [] (.object (front ++ ("viewerConfig", config) :: back)) =
      Json.partsAt "log.item" [] (.object (front ++ back)) :=
    Json.partsAt_insert_of_top plain_viewerConfig (by decide) (by decide) front back config
  have offset : recordedOffset next = recordedOffset header := by
    rw [recordedOffset, recordedOffset, agree.scalars _ (by decide)]
  have found : messages (.object (front ++ ("viewerConfig", config) :: back)) =
      messages (.object (front ++ back)) := by
    rw [messages, items, messages]
  rw [read, found, offset, read]

end Decoder

end ProtoLog

open ProtoLog (BareLog)

/-- A log without a configuration and a configuration for it, in the three ways in which it can be
given: as a value, as a member of the document and in a file. -/
structure Sources where
  front : List (String × Json)
  back : List (String × Json)
  config : List (String × Json)
  /-- The log. -/
  bytes : List UInt8
  /-- The log with the configuration as one member more, at any place. -/
  embedding : List UInt8
  file : List UInt8
  path : String
  files : Files
  log : BareLog bytes (front ++ back)
  embeds : Json.read Json.Dialect.trace.unlimited embedding =
    .whole (.object (front ++ ("viewerConfig", .object config) :: back))
  contains : Json.read Json.Dialect.settings.unlimited file = .whole (.object config)
  integral : (Json.object config).Integral
  nonempty : path ≠ ""
  there : files path = .ok file

/-- The first decoder takes a log, if it is one of logs. -/
theorem choose_log {names : List String} (log : names.contains "log" = true)
    (state : ProtoLog.Decoder) (others : List Decoder) :
    choose (.protoLog state :: others) names = some (0, .protoLog state) := by
  have accepted : (Decoder.protoLog state).accepts names = true := log
  simp only [choose, List.zipIdx_cons, List.find?_cons, accepted]
  rfl

namespace Sources

variable (sources : Sources)

def document : Json := .object (sources.front ++ sources.back)

/-- The document with the configuration. -/
def embedded : Json :=
  .object (sources.front ++ ("viewerConfig", .object sources.config) :: sources.back)

def value : Value := (Json.object sources.config).exactValue

/-- Settings that name the file. -/
def fromFile (settings : Settings) : Settings :=
  { settings with viewerConfigPath := some sources.path }

/-- That all integers of the log and of the configuration can be written. -/
def Fits : Prop := sources.document.Fits ∧ (Json.object sources.config).Fits

variable {sources} (settings : Settings) (others : List Decoder) (issue : Nat)

theorem embedded_fits_iff : sources.embedded.Fits ↔ sources.Fits := by
  simp only [Fits, embedded, document, Json.fits_object_iff, List.forall_mem_append,
    List.forall_mem_cons]
  exact and_left_comm.trans and_comm

/-- What loading comes to, without the member and with it.  Both depend on how the first decoder is
configured, and find the same messages, which depend on no more than an offset of the settings. -/
theorem exists_loaded (fits : sources.Fits) (offset : Option Int) :
    Exists fun found : Loaded =>
      forall {settings : Settings}, settings.offset = offset ->
        forall (state : ProtoLog.Decoder) (files : Files) (others : List Decoder) (issue : Nat),
          let bare := (state.configure sources.document settings files).value
          let full := (state.configure sources.embedded settings files).value
          (load (.protoLog state :: others) sources.bytes settings files issue).value =
              .taken 0 (.protoLog bare.1) (bare.2.map fun _ => Trace.ofLog found) ∧
            (load (.protoLog state :: others) sources.embedding settings files issue).value =
              .taken 0 (.protoLog full.1) (full.2.map fun _ => Trace.ofLog found) := by
  have whole := (Json.read_eq_whole_iff rfl).mpr ⟨sources.embeds, embedded_fits_iff.mpr fits⟩
  rcases sources.log.readTrace fits.1 with ⟨header, read, known⟩
  rcases Json.readTrace_insert ProtoLog.plain_viewerConfig read whole with ⟨next, readNext, agree⟩
  have knownNext : next.names.contains "log" = true := by
    rw [agree.names "log" (by decide)]
    exact known
  refine ⟨(ProtoLog.Decoder.read sources.document header ⟨none, true, offset⟩).value, ?_⟩
  rintro settings rfl state files others issue bare full
  have same := ProtoLog.Decoder.read_insert agree sources.front sources.back
    (.object sources.config) settings
  refine ⟨load_log_of_chosen read (choose_log known state others) settings files issue, ?_⟩
  rw [load_log_of_chosen readNext (choose_log knownNext state others) settings files issue, same]
  rfl

/-! ## One configuration -/

/-- The member is the configuration. -/
theorem embedded_eq_value : ProtoLog.Decoder.embedded sources.embedded = sources.value :=
  ProtoLog.Decoder.embedded_insert sources.log.unconfigured (.object sources.config)

/-- The member is taken over, whatever file is named. -/
theorem configure_embedded (held : ProtoLog.ViewerConfig) (settings : Settings) (files : Files) :
    ((ProtoLog.Decoder.mk false held).configure sources.embedded settings files).value =
      (ProtoLog.Decoder.mk false held).install sources.value := by
  have present : ProtoLog.Decoder.embedded sources.embedded ≠ .null := by
    rw [embedded_eq_value]
    exact fun impossible => nomatch impossible
  rw [ProtoLog.Decoder.configure_of_embedded present, embedded_eq_value]
  rfl

/-- The file is looked at if there is no member. -/
theorem configure_file (held : ProtoLog.ViewerConfig) :
    ((ProtoLog.Decoder.mk false held).configure sources.document (sources.fromFile settings)
      sources.files).value =
        (ProtoLog.Decoder.mk false held).installFile sources.files sources.path := by
  have missing := ProtoLog.Decoder.embedded_of_unconfigured sources.log.unconfigured
  rw [document, ProtoLog.Decoder.configure_of_file missing rfl sources.nonempty]
  rfl

/-- What is taken over from the file is the configuration, if all its integers can be written. -/
theorem installFile_eq (fits : (Json.object sources.config).Fits) (state : ProtoLog.Decoder) :
    state.installFile sources.files sources.path = state.install sources.value := by
  have rounded : (Json.object sources.config).roundedValue = sources.value :=
    sources.integral.value_eq _ _
  rw [ProtoLog.Decoder.installFile_of_fits sources.there sources.contains fits, rounded]

/-- The three ways open one trace if a decoder can be made with the configuration. -/
theorem opened_alike (fits : sources.Fits) {made : ProtoLog.Decoder}
    (constructed : ProtoLog.Decoder.withConfig sources.value = .ok made) :
    Exists fun trace : Trace =>
      (load (.protoLog made :: others) sources.bytes settings sources.files issue).value =
          .taken 0 (.protoLog made) (.ok trace) ∧
        (forall held,
          (load (.protoLog ⟨false, held⟩ :: others) sources.embedding settings sources.files
              issue).value = .taken 0 (.protoLog ⟨false, made.config⟩) (.ok trace) ∧
            (load (.protoLog ⟨false, held⟩ :: others) sources.bytes
              (sources.fromFile settings) sources.files issue).value =
                .taken 0 (.protoLog ⟨false, made.config⟩) (.ok trace)) ∧
        forall index domain,
          trace.entry (.protoLog ⟨false, made.config⟩) index domain =
            trace.entry (.protoLog made) index domain := by
  rcases sources.exists_loaded fits settings.offset with ⟨found, loads⟩
  rcases ProtoLog.Decoder.install_of_withConfig constructed with ⟨fixed, installed⟩
  refine ⟨Trace.ofLog found, ?_, fun held => ⟨?_, ?_⟩, fun index domain => rfl⟩
  · rw [(loads rfl made sources.files others issue).1, ProtoLog.Decoder.configure_of_fixed fixed]
    rfl
  · rw [(loads rfl _ sources.files others issue).2, configure_embedded, installed]
    rfl
  · rw [(@loads (sources.fromFile settings) rfl _ sources.files others issue).1, configure_file,
      installFile_eq fits.2, installed]
    rfl

/-- Neither the member nor the file opens a trace if no decoder can be made with the
configuration. -/
theorem refused_alike (fits : sources.Fits) {fault : Fault}
    (unusable : ProtoLog.Decoder.withConfig sources.value = .error fault)
    (held : ProtoLog.ViewerConfig) :
    (load (.protoLog ⟨false, held⟩ :: others) sources.embedding settings sources.files
        issue).value.result = .error (.malformedDocument (.viewerConfig fault)) ∧
      (load (.protoLog ⟨false, held⟩ :: others) sources.bytes (sources.fromFile settings)
        sources.files issue).value.result = .error (.malformedDocument (.viewerConfig fault)) := by
  rcases sources.exists_loaded fits settings.offset with ⟨found, loads⟩
  have refused := ProtoLog.Decoder.install_of_withConfig_error unusable ⟨false, held⟩
  constructor
  · rw [(loads rfl _ sources.files others issue).2, configure_embedded, refused]
    rfl
  · rw [(@loads (sources.fromFile settings) rfl _ sources.files others issue).1, configure_file,
      installFile_eq fits.2, refused]
    rfl

/-! ## Several sources -/

/-- A decoder that was made with a configuration makes nothing of the member and of files. -/
theorem load_of_fixed (fits : sources.Fits) {state : ProtoLog.Decoder} (fixed : state.fixed = true)
    (path : Option String) (files : Files) :
    let alone := (load (.protoLog state :: others) sources.bytes
      { settings with viewerConfigPath := none } .nowhere issue).value
    (load (.protoLog state :: others) sources.embedding
        { settings with viewerConfigPath := path } files issue).value = alone ∧
      (load (.protoLog state :: others) sources.bytes
        { settings with viewerConfigPath := path } files issue).value = alone := by
  rcases sources.exists_loaded fits settings.offset with ⟨found, loads⟩
  have bare := @loads { settings with viewerConfigPath := none } rfl state .nowhere others issue
  have full := @loads { settings with viewerConfigPath := path } rfl state files others issue
  simp only [ProtoLog.Decoder.configure_of_fixed fixed] at bare full
  exact ⟨full.2.trans bare.1.symm, full.1.trans bare.1.symm⟩

/-- Where there is the member nothing is made of files. -/
theorem load_of_embedded (fits : sources.Fits) (held : ProtoLog.ViewerConfig) (path : Option String)
    (files : Files) :
    (load (.protoLog ⟨false, held⟩ :: others) sources.embedding
        { settings with viewerConfigPath := path } files issue).value =
      (load (.protoLog ⟨false, held⟩ :: others) sources.embedding
        { settings with viewerConfigPath := none } .nowhere issue).value := by
  rcases sources.exists_loaded fits settings.offset with ⟨found, loads⟩
  have named := @loads { settings with viewerConfigPath := path } rfl ⟨false, held⟩ files others
    issue
  have alone := @loads { settings with viewerConfigPath := none } rfl ⟨false, held⟩ .nowhere others
    issue
  simp only [configure_embedded] at named alone
  exact named.2.trans alone.2.symm

/-! ## Integers that cannot be written -/

/-- A decoder that was made with a configuration opens a log whose integers can be written, whatever
the configuration is. -/
theorem opened_of_fixed (fits : sources.document.Fits) {state : ProtoLog.Decoder}
    (fixed : state.fixed = true) (files : Files) :
    Exists fun trace : Trace =>
      (load (.protoLog state :: others) sources.bytes settings files issue).value =
        .taken 0 (.protoLog state) (.ok trace) := by
  rcases sources.log.readTrace fits with ⟨header, read, known⟩
  rw [load_log_of_chosen read (choose_log known _ others), ProtoLog.Decoder.configure_of_fixed fixed]
  exact ⟨_, rfl⟩

/-- A log with such an integer is not opened, with the member or without it. -/
theorem undecodable_of_long_log (long : ¬ sources.document.Fits) (decoders : List Decoder)
    (files : Files) :
    (load decoders sources.bytes settings files issue).value.IsUndecodable ∧
      (load decoders sources.embedding settings files issue).value.IsUndecodable := by
  have longer : ¬ sources.embedded.Fits := fun fits => long (embedded_fits_iff.mp fits).1
  exact ⟨load_of_long sources.log.read long decoders settings files issue,
    load_of_long sources.embeds longer decoders settings files issue⟩

/-- Neither the member nor the file opens a trace if there is such an integer in the
configuration. -/
theorem undecodable_of_long_config (long : ¬ (Json.object sources.config).Fits)
    (held : ProtoLog.ViewerConfig) :
    (load (.protoLog ⟨false, held⟩ :: others) sources.embedding settings sources.files
        issue).value.IsUndecodable ∧
      (load (.protoLog ⟨false, held⟩ :: others) sources.bytes (sources.fromFile settings)
        sources.files issue).value.IsUndecodable := by
  have longer : ¬ sources.embedded.Fits := fun fits => long (embedded_fits_iff.mp fits).2
  refine ⟨load_of_long sources.embeds longer _ _ _ issue, ?_⟩
  by_cases fits : sources.document.Fits
  · rcases sources.log.readTrace fits with ⟨header, read, known⟩
    refine ⟨.malformedDocument (.undecodable .integer), ?_, trivial⟩
    have configured := sources.configure_file settings held
    rw [ProtoLog.Decoder.installFile_of_long sources.there sources.contains long] at configured
    rw [load_log_of_chosen read (choose_log known _ others)]
    rw [show Json.object (sources.front ++ sources.back) = sources.document from rfl, configured]
    rfl
  · exact load_of_long sources.log.read fits _ _ _ issue

end Sources

def resolvingText : List UInt8 :=
  "\x7b\"messages\":\x7b\"1\":\x7b\"message\":\"first\"\x7d\x7d\x7d".toUTF8.toList

def resolvingMembers : List (String × Json) :=
  [("messages", .object [("1", .object [("message", .string "first")])])]

theorem read_resolvingText :
    Json.read .settings resolvingText = .whole (.object resolvingMembers) := by
  with_unfolding_all rfl

theorem integral_resolvingMembers : (Json.object resolvingMembers).Integral := by
  have message : (Json.object [("message", .string "first")]).Integral :=
    .object (List.forall_mem_singleton.mpr (.string "first"))
  have messages : (Json.object [("1", .object [("message", .string "first")])]).Integral :=
    .object (List.forall_mem_singleton.mpr message)
  exact .object (List.forall_mem_singleton.mpr messages)

theorem bareLog_bareText : BareLog bareText ([("log", loggedMessages)] ++ []) := by
  rcases Json.readTrace_eq_ok_iff.mp readTrace_bareText with ⟨read, found⟩
  exact ⟨((Json.read_eq_whole_iff rfl).mp read).1, ⟨_, found, rfl⟩, rfl⟩

/-- The log of the message with this configuration. -/
def resolvingSources : Sources where
  front := [("log", loggedMessages)]
  back := []
  config := resolvingMembers
  bytes := bareText
  embedding := resolvedText
  file := resolvingText
  path := "viewer.json"
  files := .only "viewer.json" (.ok resolvingText)
  log := bareLog_bareText
  embeds :=
    ((Json.read_eq_whole_iff rfl).mp (Json.readTrace_eq_ok_iff.mp readTrace_resolvedText).1).1
  contains := ((Json.read_eq_whole_iff rfl).mp read_resolvingText).1
  integral := integral_resolvingMembers
  nonempty := by decide
  there := rfl

def longMembers : List (String × Json) :=
  [("x", .array [.integer ((10 ^ Numeral.digitLimit : Nat) : Int)])]

def longFile : List UInt8 :=
  "\x7b\"x\":[1".toUTF8.toList ++
    (List.replicate Numeral.digitLimit 48 ++ 93 :: "\x7d".toUTF8.toList)

/-- The log of the message with the configuration. -/
def longEmbedding : List UInt8 :=
  ("\x7b\"log\":[\x7b\"messageHash\":1,\"elapsedRealtimeNanos\":5\x7d]," ++
    "\"viewerConfig\":\x7b\"x\":[1").toUTF8.toList ++
    (List.replicate Numeral.digitLimit 48 ++ 93 :: "\x7d\x7d".toUTF8.toList)

theorem read_longFile :
    Json.read Json.Dialect.settings.unlimited longFile = .whole (.object longMembers) := by
  refine Json.read_power ⟨[.array [], .object [] "x"], .firstItem, none⟩
    (fun n => .object [("x", .array [.integer n])])
    (Json.Dialect.settings.unlimited_power Numeral.digitLimit) ?_ (fun _ => rfl) ?_
  · intro rest
    with_unfolding_all rfl
  · intro n
    with_unfolding_all rfl

theorem read_longEmbedding :
    Json.read Json.Dialect.trace.unlimited longEmbedding =
      .whole (.object [("log", loggedMessages), ("viewerConfig", .object longMembers)]) := by
  refine Json.read_power ⟨[.array [], .object [] "x",
    .object [("log", loggedMessages)] "viewerConfig"], .firstItem, none⟩
    (fun n => .object [("log", loggedMessages),
      ("viewerConfig", .object [("x", .array [.integer n])])])
    (Json.Dialect.trace.unlimited_power Numeral.digitLimit) ?_ (fun _ => rfl) ?_
  · intro rest
    with_unfolding_all rfl
  · intro n
    with_unfolding_all rfl

theorem integral_longMembers : (Json.object longMembers).Integral :=
  .object (List.forall_mem_singleton.mpr (.array (List.forall_mem_singleton.mpr (.integer _))))

theorem not_fits_longMembers : ¬ (Json.object longMembers).Fits := by
  intro fits
  exact Json.not_fits_power (Json.fits_object_iff.mp fits _ List.mem_cons_self)

/-- The log of the message with this configuration. -/
def longSources : Sources where
  front := [("log", loggedMessages)]
  back := []
  config := longMembers
  bytes := bareText
  embedding := longEmbedding
  file := longFile
  path := "viewer.json"
  files := .only "viewer.json" (.ok longFile)
  log := bareLog_bareText
  embeds := read_longEmbedding
  contains := read_longFile
  integral := integral_longMembers
  nonempty := by decide
  there := rfl

end TraceView
