import TraceView.Proofs.Trace.Opened

namespace TraceView

/-!
# What a load leaves in a decoder

A decoder of logs that was made without a configuration takes over the parts of a configuration
that a load brings, and keeps what it has of the others.  A configuration that is found brings both
parts, one with unusable groups its messages only, and one with unusable messages none; a document
without a configuration brings none either.

So a decoder is described by what it was made as and by the parts that were brought to it last.
Everything else about a load, its outcome and its notices, is the same for all decoders that were
made alike.
-/

namespace ProtoLog

/-- The parts of a configuration that loads bring. -/
structure Parts where
  messages : Option (List (String × Value))
  groups : Option (List (Value × Value))

namespace Parts

def nothing : Parts := ⟨none, none⟩

/-- Parts after other parts: the later ones count. -/
def andThen (earlier later : Parts) : Parts :=
  ⟨later.messages.or earlier.messages, later.groups.or earlier.groups⟩

/-- A configuration with parts taken over. -/
def upon (parts : Parts) (config : ViewerConfig) : ViewerConfig :=
  ⟨parts.messages.getD config.messages, parts.groups.getD config.groups⟩

def ofConfig (config : Value) : Parts :=
  match ViewerConfig.readMessages config with
  | .error _ => nothing
  | .ok messages => ⟨some messages, (ViewerConfig.readGroups config).toOption⟩

def ofFile (files : Files) (path : String) : Parts :=
  match files path with
  | .error _ => nothing
  | .ok bytes =>
    match (Json.read .settings bytes).tree? with
    | none => nothing
    | some tree => ofConfig tree.roundedValue

/-- The parts that loading a document brings. -/
def ofDocument (document : Json) (settings : Settings) (files : Files) : Parts :=
  match Decoder.embedded document, settings.viewerConfigPath.getD "" with
  | .null, "" => nothing
  | .null, path => ofFile files path
  | config, _ => ofConfig config

/-- The parts that loading the bytes of a document brings. -/
def ofBytes (bytes : List UInt8) (settings : Settings) (files : Files) : Parts :=
  match Json.readTrace bytes with
  | .error _ => nothing
  | .ok (_, document) => ofDocument document settings files

theorem upon_andThen (earlier later : Parts) (config : ViewerConfig) :
    (earlier.andThen later).upon config = later.upon (earlier.upon config) := by
  rcases earlier with ⟨messages, groups⟩
  rcases later with ⟨laterMessages, laterGroups⟩
  cases laterMessages <;> cases laterGroups <;> rfl

theorem nothing_andThen (parts : Parts) : nothing.andThen parts = parts := by
  rcases parts with ⟨messages, groups⟩
  cases messages <;> cases groups <;> rfl

end Parts

/-- Taking over a configuration is taking over its parts; whether it succeeds does not depend on
what was there. -/
theorem ViewerConfig.install_eq (current config : ViewerConfig) (given : Value) :
    current.install given = ((Parts.ofConfig given).upon current, (config.install given).2) := by
  unfold install Parts.ofConfig
  cases readMessages given with
  | error cause => rfl
  | ok messages =>
      cases readGroups given <;> rfl

namespace Decoder

theorem install_eq (state other : Decoder) (given : Value) :
    state.install given =
      ({ state with config := (Parts.ofConfig given).upon state.config },
        (other.install given).2) := by
  rw [install, ViewerConfig.install_eq state.config other.config]
  rfl

theorem installFile_eq (state other : Decoder) (files : Files) (path : String) :
    state.installFile files path =
      ({ state with config := (Parts.ofFile files path).upon state.config },
        (other.installFile files path).2) := by
  unfold installFile Parts.ofFile
  cases files path with
  | error cause => cases cause <;> rfl
  | ok bytes =>
      cases read : Json.read .settings bytes with
      | stopped soFar problem =>
          simp only [read, Json.Reading.tree?]
          rfl
      | whole tree =>
          simp only [read, Json.Reading.tree?]
          exact install_eq state other tree.roundedValue

/-- A decoder that was made without a configuration takes over the parts that the document brings;
the rest is the same for all such decoders. -/
theorem configure_eq (config other : ViewerConfig) (document : Json) (settings : Settings)
    (files : Files) :
    (Decoder.mk false config).configure document settings files =
      ⟨(⟨false, (Parts.ofDocument document settings files).upon config⟩,
        ((Decoder.mk false other).configure document settings files).value.2),
        ((Decoder.mk false other).configure document settings files).notices⟩ := by
  unfold configure Parts.ofDocument
  generalize embedded document = given
  generalize settings.viewerConfigPath.getD "" = path
  cases given with
  | null =>
      by_cases empty : path = ""
      · subst empty
        rfl
      · simp only [Bool.false_eq_true, if_false, Noted.quiet]
        rw [installFile_eq ⟨false, config⟩ ⟨false, other⟩]
  | _ =>
      simp only [Bool.false_eq_true, if_false, Noted.quiet]
      rw [install_eq ⟨false, config⟩ ⟨false, other⟩]

end Decoder

end ProtoLog

open ProtoLog (Parts)

namespace Decoder

/-- A decoder to which parts of configurations were brought after it was made.  Only a decoder of
logs that was made without a configuration takes them over. -/
def hold (made : Decoder) (parts : Parts) : Decoder :=
  match made with
  | .protoLog ⟨false, config⟩ => .protoLog ⟨false, parts.upon config⟩
  | other => other

theorem hold_nothing (made : Decoder) : made.hold .nothing = made := by
  cases made with
  | protoLog state =>
      rcases state with ⟨fixed, config⟩
      cases fixed <;> rfl
  | transition => rfl

@[simp] theorem kind_hold (made : Decoder) (parts : Parts) : (made.hold parts).kind = made.kind := by
  cases made with
  | protoLog state =>
      rcases state with ⟨fixed, config⟩
      cases fixed <;> rfl
  | transition => rfl

theorem accepts_hold (made : Decoder) (parts : Parts) (names : List String) :
    (made.hold parts).accepts names = made.accepts names := by
  cases made with
  | protoLog state =>
      rcases state with ⟨fixed, config⟩
      cases fixed <;> rfl
  | transition => rfl

/-- What a load does to a decoder that holds parts: it holds the parts of the document after them.
The outcome is the one for the decoder as it was made. -/
theorem load_hold (made : Decoder) (held : Parts) (document : Json) (header : Json.Header)
    (settings : Settings) (files : Files) :
    ((made.hold held).load document header settings files).value =
      (made.hold (held.andThen (Parts.ofDocument document settings files)),
        (made.load document header settings files).value.2) := by
  cases made with
  | transition => rfl
  | protoLog state =>
      rcases state with ⟨fixed, config⟩
      cases fixed with
      | true => rfl
      | false =>
          have configured := ProtoLog.Decoder.configure_eq (held.upon config) config document
            settings files
          simp only [hold, load, ProtoLog.Decoder.load, Noted.value_andThen, Noted.value_quiet,
            configured, Parts.upon_andThen]
          cases ((ProtoLog.Decoder.mk false config).configure document settings files).value.2 <;>
            rfl

end Decoder

/-! ## Loading with several decoders -/

/-- The choice of a decoder is a choice among what the decoders come from. -/
theorem choose_map {α : Type} (decoder : α -> Decoder) (sources : List α) (names : List String) :
    choose (sources.map decoder) names =
      (sources.zipIdx.find? fun source => (decoder source.1).accepts names).map fun found =>
        (found.2, decoder found.1) := by
  rw [choose, List.zipIdx_map, List.find?_map, Option.map_map]
  rfl

/-- A load with decoders to which parts were brought has the outcome that it has with the decoders
as they were made.  The decoder that takes the document then holds the parts of the document after
those that it held before. -/
theorem load_held {α : Type} (made : α -> Decoder) (held : α -> Parts) (sources : List α)
    (bytes : List UInt8) (settings : Settings) (files : Files) (issue : Nat) :
    (Exists fun error : LoadError =>
      (load (sources.map fun source => (made source).hold (held source)) bytes settings files
        issue).value = .refused error ∧
      (load (sources.map made) bytes settings files issue).value = .refused error) ∨
    Exists fun place : Nat => Exists fun source : α => Exists fun result : Except LoadError Trace =>
      sources[place]? = some source ∧
      (load (sources.map fun source => (made source).hold (held source)) bytes settings files
        issue).value = .taken place
          ((made source).hold ((held source).andThen (.ofBytes bytes settings files))) result ∧
      (load (sources.map made) bytes settings files issue).value = .taken place
        ((made source).hold (.ofBytes bytes settings files)) result := by
  cases read : Json.readTrace bytes with
  | error cause =>
      left
      exact ⟨.ofHeader cause, by simp only [load, read, Noted.value_quiet, and_self]⟩
  | ok pair =>
      rcases pair with ⟨header, document⟩
      have recognised : (fun source : α × Nat =>
          ((made source.1).hold (held source.1)).accepts header.names) =
          fun source => (made source.1).accepts header.names :=
        funext fun source => Decoder.accepts_hold _ _ _
      have heldChoice := choose_map (fun source => (made source).hold (held source)) sources
        header.names
      have madeChoice := choose_map made sources header.names
      rw [recognised] at heldChoice
      cases found : sources.zipIdx.find? fun source => (made source.1).accepts header.names with
      | none =>
          rw [found] at heldChoice madeChoice
          left
          refine ⟨.unrecognised header.sortedNames, ?_, ?_⟩
          · simp only [load, read, heldChoice, Option.map_none, Noted.value_quiet]
          · simp only [load, read, madeChoice, Option.map_none, Noted.value_quiet]
      | some source =>
          rcases source with ⟨source, place⟩
          rw [found] at heldChoice madeChoice
          right
          have brought : Parts.ofBytes bytes settings files =
              Parts.ofDocument document settings files := by
            rw [Parts.ofBytes, read]
          have alone := Decoder.load_hold (made source) .nothing document header settings files
          rw [Decoder.hold_nothing, Parts.nothing_andThen] at alone
          have heldTaken := load_of_chosen read heldChoice settings files issue
          have madeTaken := load_of_chosen read madeChoice settings files issue
          rw [Decoder.load_hold, Decoder.kind_hold, ← brought] at heldTaken
          rw [alone, ← brought] at madeTaken
          exact ⟨place, source, _, List.mem_zipIdx_iff_getElem?.mp (List.mem_of_find?_eq_some found),
            heldTaken, madeTaken⟩

/-! ## Loads that warn -/

namespace ProtoLog.Decoder

variable {state : Decoder} {document : Json} {header : Json.Header} {settings : Settings}
  {files : Files}

/-- A warning that there is no configuration is given only for a document that brings none. -/
theorem brought_of_configure_warns
    (warned : .noViewerConfig ∈ (state.configure document settings files).notices) :
    Parts.ofDocument document settings files = .nothing := by
  unfold configure at warned
  unfold Parts.ofDocument
  split at warned
  · cases warned
  · generalize embedded document = given at warned ⊢
    generalize settings.viewerConfigPath.getD "" = path at warned ⊢
    cases given with
    | null =>
        by_cases empty : path = ""
        · subst empty
          rfl
        · simp only [Noted.quiet] at warned
          cases warned
    | _ => cases warned

theorem read_warns_not : .noViewerConfig ∉ (read document header settings).notices := by
  intro warned
  unfold read at warned
  rcases List.mem_append.mp warned with skipped | loaded
  · split at skipped
    · cases skipped
    · cases List.mem_singleton.mp skipped
  · cases List.mem_singleton.mp loaded

/-- Nothing else in the load of a log gives this warning. -/
theorem configure_warns_of_load_warns
    (warned : .noViewerConfig ∈ (state.load document header settings files).notices) :
    .noViewerConfig ∈ (state.configure document settings files).notices := by
  unfold load at warned
  rw [Noted.notices_andThen] at warned
  rcases List.mem_append.mp warned with configured | later
  · exact configured
  · generalize (state.configure document settings files).value = left at later
    rcases left with ⟨after, outcome⟩
    cases outcome with
    | error cause => cases later
    | ok done =>
        simp only [Noted.notices_andThen, Noted.notices_quiet, List.append_nil] at later
        exact absurd later read_warns_not

end ProtoLog.Decoder

/-- A load gives the notices of the decoder that takes the document, and otherwise only says that
it has loaded it. -/
theorem notice_of_chosen {decoders : List Decoder} {bytes : List UInt8} {header : Json.Header}
    {document : Json} {place : Nat} {decoder : Decoder} {settings : Settings} {files : Files}
    {issue : Nat} {notice : Notice} (read : Json.readTrace bytes = .ok (header, document))
    (chosen : choose decoders header.names = some (place, decoder))
    (given : notice ∈ (load decoders bytes settings files issue).notices) :
    notice ∈ (decoder.load document header settings files).notices ∨
      Exists fun count : Nat => notice = .loadedTrace decoder.kind count := by
  simp only [load, read, chosen, Noted.notices_andThen] at given
  rcases List.mem_append.mp given with early | late
  · exact .inl early
  · generalize (decoder.load document header settings files).value = left at late
    rcases left with ⟨after, outcome⟩
    cases outcome with
    | error cause => cases late
    | ok loaded =>
        right
        exact ⟨_, List.mem_singleton.mp late⟩

/-- A document that a decoder of logs warns of has no configuration and brings none. -/
theorem brought_of_warning {decoders : List Decoder} {bytes : List UInt8} {settings : Settings}
    {files : Files} {issue place : Nat} {left : ProtoLog.Decoder} {result : Except LoadError Trace}
    (taken : (load decoders bytes settings files issue).value =
      .taken place (.protoLog left) result)
    (warned : .noViewerConfig ∈ (load decoders bytes settings files issue).notices) :
    Parts.ofBytes bytes settings files = .nothing := by
  unfold Parts.ofBytes
  cases read : Json.readTrace bytes with
  | error cause => rfl
  | ok pair =>
      rcases pair with ⟨header, document⟩
      cases chosen : choose decoders header.names with
      | none =>
          simp only [load, read, chosen, Noted.notices_quiet] at warned
          cases warned
      | some found =>
          rcases found with ⟨position, decoder⟩
          rw [load_of_chosen read chosen, LoadAttempt.taken.injEq] at taken
          have kind := decoder.kind_load document header settings files
          rw [taken.2.1] at kind
          rcases notice_of_chosen read chosen warned with here | ⟨count, impossible⟩
          · cases decoder with
            | transition => cases kind
            | protoLog state =>
                simp only [Decoder.load, Noted.notices_andThen, Noted.notices_quiet,
                  List.append_nil] at here
                exact ProtoLog.Decoder.brought_of_configure_warns
                  (ProtoLog.Decoder.configure_warns_of_load_warns here)
          · cases impossible

end TraceView
