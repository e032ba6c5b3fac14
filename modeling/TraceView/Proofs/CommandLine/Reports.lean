import Mathlib.Data.List.Forall2
import TraceView.Proofs.CommandLine.Rendering
import TraceView.Proofs.Number.Writable
import TraceView.Proofs.Trace.Opened
import TraceView.Proofs.Tree.Shown

namespace TraceView.CommandLine

/-!
# What the command line prints

A report names the format and the number of entries, and then shows the entries that are asked for, in
the order in which they are asked for and as often as they are.  Each is shown as it is served.  The
first one that cannot be shown ends the report with the reason, and nothing of it or of later ones is
printed; only a report without such an entry is complete.
-/

/-! ## The numbers of entries -/

/-- The numbers of entries that have been read so far have texts. -/
def Progress.Written (progress : Progress) : Prop :=
  forall indices, progress.indices = some indices -> forall index, index ∈ indices ->
    Succeeds index.text

namespace Progress

variable {progress further : Progress}

theorem written_addIndex (written : progress.Written) {index : Value} (text : Succeeds index.text) :
    (progress.addIndex index).Written := by
  intro indices same
  cases same
  refine List.forall_mem_append.mpr ⟨?_, List.forall_mem_singleton.mpr text⟩
  intro other listed
  cases before : progress.indices with
  | none =>
      rw [before] at listed
      cases listed
  | some others =>
      rw [before] at listed
      exact written others before other listed

theorem written_readFlags (written : progress.Written) {flags : List Flag}
    (read : progress.readFlags flags = .next further) : further.Written := by
  induction flags generalizing progress with
  | nil =>
      cases read
      exact written
  | cons flag rest inductionHypothesis =>
      cases flag with
      | help => cases read
      | noOperations => exact @inductionHypothesis { progress with applyOperations := false } written read
      | verbose => exact @inductionHypothesis { progress with verbose := true } written read

theorem written_readSetting (written : progress.Written) {setting : Setting} {value : String}
    (read : progress.readSetting setting value = .next further) : further.Written := by
  cases setting with
  | viewerConfig =>
      cases read
      exact written
  | domain =>
      simp only [readSetting] at read
      split at read
      · cases read
        exact written
      · cases read
  | index =>
      simp only [readSetting] at read
      split at read
      · next index found =>
          cases read
          exact written_addIndex written (Numeral.succeeds_write_iff.mpr (Numeral.fits_of_read found))
      · cases read

theorem written_readBlank (written : progress.Written) (setting : Setting) :
    (progress.readBlank setting).Written := by
  cases setting with
  | viewerConfig => exact written
  | domain => exact written
  | index => exact written_addIndex written (succeeds_ok "[]")

theorem written_readPlain (written : progress.Written) (text : String) :
    (progress.readPlain text).Written := by
  unfold readPlain
  split <;> exact written

/-- What one word is read for keeps the numbers written, so reading all words does. -/
theorem written_read {words : List Word} {arguments : Arguments} (written : progress.Written)
    (read : progress.read words = .run arguments) :
    forall indices, arguments.indices = some indices -> forall index, index ∈ indices ->
      Succeeds index.text := by
  fun_induction Progress.read progress words with
  | case1 progress =>
      unfold finish at read
      split at read
      · cases read
        exact written
      · cases read
  | case2 progress text rest inductionHypothesis =>
      exact inductionHypothesis (written_readPlain written text) read
  | case3 progress text rest different inductionHypothesis =>
      exact inductionHypothesis (written_readPlain written text) read
  | case4 progress rest inductionHypothesis => exact inductionHypothesis written read
  | case5 progress rest inductionHypothesis => exact inductionHypothesis written read
  | case7 progress flags rest further next inductionHypothesis =>
      exact inductionHypothesis (written_readFlags written next) read
  | case10 progress setting rest inductionHypothesis =>
      exact inductionHypothesis (written_readBlank written setting) read
  | case11 progress setting value rest different further next inductionHypothesis =>
      exact inductionHypothesis (written_readSetting written next) read
  | case14 progress setting value rest further next inductionHypothesis =>
      exact inductionHypothesis (written_readSetting written next) read
  | _ => cases read

end Progress

/-- The numbers of entries that are named on the command line have texts. -/
theorem written_of_parse {texts : List String} {arguments : Arguments}
    (parsed : parse texts = .run arguments) :
    forall indices, arguments.indices = some indices -> forall index, index ∈ indices ->
      Succeeds index.text := by
  have start : Progress.start.Written := fun _ impossible => nomatch impossible
  unfold parse at parsed
  split at parsed
  · cases parsed
  · exact Progress.written_read start parsed

/-! ## Entries one after the other -/

variable {opened : OpenTrace} {domain : Domain} {index : Value} {requested : List Value}

/-- If an entry cannot be shown, then there is a reason that is told. -/
structure Explained (opened : OpenTrace) (domain : Domain) (index : Value) : Prop where
  refused : forall error, (opened.entry index domain).value = .error error ->
    forall cause, error ≠ .fault cause
  shown : forall tree, (opened.entry index domain).value = .ok tree ->
    forall node, node ∈ tree.walk -> Succeeds node.text

/-- The lines of an entry: its number, and the rendering of its tree as an object, which is that of
the served object if the tree can be served. -/
def Shows (opened : OpenTrace) (domain : Domain) (index : Value) (lines : List String) : Prop :=
  Exists fun tree : Node => (opened.entry index domain).value = .ok tree ∧
    lines = indexLine index :: Web.rendering 1 (Web.depiction tree) ∧
    forall served, Web.servedTree tree = .ok served ->
      lines = indexLine index :: Web.rendering 1 served

theorem succeeds_of_shows {shown : List Value} {entries : List (List String)}
    (each : List.Forall₂ (Shows opened domain) shown entries) :
    forall index, index ∈ shown -> Succeeds (opened.entry index domain).value := by
  induction each with
  | nil => exact fun _ impossible => absurd impossible List.not_mem_nil
  | cons first _ inductionHypothesis =>
      rcases first with ⟨tree, returned, _⟩
      exact List.forall_mem_cons.mpr ⟨⟨tree, returned⟩, inductionHypothesis⟩

theorem entriesReport_of_error {error : EntryError} (explained : Explained opened domain index)
    (failed : (opened.entry index domain).value = .error error) (rest : List Value) :
    (entriesReport opened domain (index :: rest)).lines = [indexLine index] ∧
      (entriesReport opened domain (index :: rest)).ending = .failed error.message := by
  rw [entriesReport]
  simp only [failed]
  cases error with
  | fault cause => exact absurd rfl (explained.refused _ failed cause)
  | _ => exact ⟨rfl, rfl⟩

theorem entriesReport_of_ok {tree : Node} (explained : Explained opened domain index)
    (returned : (opened.entry index domain).value = .ok tree) (rest : List Value) :
    (entriesReport opened domain (index :: rest)).lines =
        indexLine index :: Web.rendering 1 (Web.depiction tree) ++
          (entriesReport opened domain rest).lines ∧
      (entriesReport opened domain (index :: rest)).ending =
        (entriesReport opened domain rest).ending := by
  rw [entriesReport]
  simp only [returned, treeLines_eq 1 tree (explained.shown tree returned)]
  exact ⟨rfl, rfl⟩

/-- The entries that are shown come first, and if one is left then it is one that cannot be shown. -/
theorem entriesReport_outcome
    (explained : forall index, index ∈ requested -> Explained opened domain index) :
    Exists fun shown : List Value => Exists fun rest : List Value =>
      Exists fun entries : List (List String) => requested = shown ++ rest ∧
        List.Forall₂ (Shows opened domain) shown entries ∧
        ((rest = [] ∧ (entriesReport opened domain requested).lines = entries.flatten ∧
            (entriesReport opened domain requested).ending = .complete) ∨
          Exists fun index : Value => Exists fun later : List Value =>
            Exists fun error : EntryError => rest = index :: later ∧
              (opened.entry index domain).value = .error error ∧
              (entriesReport opened domain requested).lines =
                entries.flatten ++ [indexLine index] ∧
              (entriesReport opened domain requested).ending = .failed error.message) := by
  induction requested with
  | nil => exact ⟨[], [], [], rfl, .nil, Or.inl ⟨rfl, rfl, rfl⟩⟩
  | cons index others inductionHypothesis =>
      rcases List.forall_mem_cons.mp explained with ⟨here, later⟩
      cases outcome : (opened.entry index domain).value with
      | error error =>
          rcases entriesReport_of_error here outcome others with ⟨lines, ending⟩
          exact ⟨[], index :: others, [], rfl, .nil,
            Or.inr ⟨index, others, error, rfl, outcome, lines, ending⟩⟩
      | ok tree =>
          rcases entriesReport_of_ok here outcome others with ⟨lines, ending⟩
          rcases inductionHypothesis later with ⟨shown, rest, entries, split, each, result⟩
          have first : Shows opened domain index
              (indexLine index :: Web.rendering 1 (Web.depiction tree)) := by
            refine ⟨tree, outcome, rfl, fun served given => ?_⟩
            rw [Web.rendering_servedTree 1 tree served given]
          refine ⟨index :: shown, rest, _ :: entries, by rw [split, List.cons_append],
            .cons first each, ?_⟩
          rw [lines, ending, List.flatten_cons]
          rcases result with ⟨ended, below, complete⟩ | ⟨failing, after, error, left, failed, below, reason⟩
          · exact Or.inl ⟨ended, by rw [below], complete⟩
          · refine Or.inr ⟨failing, after, error, left, failed, ?_, reason⟩
            rw [below, List.append_assoc]

/-! ## Reports -/

/-- Lines as they are printed. -/
def printed (lines : List String) : String :=
  String.join (lines.map (· ++ "\n"))

/-- The lines above the entries. -/
def heading (trace : Trace) : List String :=
  [trace.kind.name ++ ": " ++ toString trace.length ++ " entries", ""]

theorem report_of_load {arguments : Arguments} {files : Files} {bytes : List UInt8}
    (clock : arguments.domain = some domain) (found : files arguments.inputFile = .ok bytes)
    (loaded : (loadAlone bytes ⟨arguments.viewerConfig, arguments.applyOperations, none⟩ files 0).value =
      .ok opened) :
    (report arguments files).lines = heading opened.trace ++
        (entriesReport opened domain (requestedIndices arguments opened.trace)).lines ∧
      (report arguments files).ending =
        (entriesReport opened domain (requestedIndices arguments opened.trace)).ending := by
  unfold report
  simp only [clock, found, loaded]
  exact ⟨rfl, rfl⟩

theorem output_of_complete {result : Report} (complete : result.ending = .complete) :
    result.output = printed result.lines ∧ result.exitCode = 0 := by
  rw [Report.output, Report.exitCode, complete]
  exact ⟨rfl, if_pos rfl⟩

theorem output_of_failed {result : Report} {message : String}
    (failed : result.ending = .failed message) :
    result.output = printed (result.lines ++ ["Error: " ++ message]) ∧ result.exitCode = 1 := by
  rw [Report.output, Report.exitCode, failed]
  refine ⟨?_, if_neg (by simp only [reduceCtorEq, not_false_eq_true])⟩
  rw [printed, List.map_append, String.join_append, Report.printed]
  simp only [List.map_cons, List.map_nil, String.join_cons, String.join_nil, String.append_empty,
    String.append_assoc]

/-- The numbers that are asked for have texts, if each entry of the trace has a number with a text. -/
theorem text_of_requested {texts : List String} {arguments : Arguments} {trace : Trace}
    (parsed : parse texts = .run arguments)
    (numbered : arguments.indices = none -> Numeral.Fits trace.length) :
    forall index, index ∈ requestedIndices arguments trace -> Succeeds index.text := by
  intro index listed
  unfold requestedIndices at listed
  cases named : arguments.indices with
  | some indices =>
      rw [named] at listed
      exact written_of_parse parsed indices named index listed
  | none =>
      rw [named, Option.getD_none] at listed
      rcases List.mem_map.mp listed with ⟨number, inside, same⟩
      have below := List.mem_range.mp inside
      rw [← same]
      apply Numeral.succeeds_write_iff.mpr
      apply (numbered named).of_natAbs_le
      omega

/-- What is printed for arguments, if the trace that they name can be loaded and each entry that they
ask for is shown or refused with a reason.

The entries that are asked for are those that are named, in their order and with repetitions, or else
all of them.  Below the heading stands for each entry its number in brackets and the rendering of what
is served of it.  The report ends with the first entry that is refused, with its number and the
reason, or after the last entry.  The exit code tells which of them is the case: it is zero exactly if
no entry is refused. -/
theorem report_shows {texts : List String} {arguments : Arguments} {files : Files}
    {bytes : List UInt8} {domain : Domain} {opened : OpenTrace}
    (parsed : parse texts = .run arguments) (clock : arguments.domain = some domain)
    (found : files arguments.inputFile = .ok bytes)
    (loaded : (loadAlone bytes ⟨arguments.viewerConfig, arguments.applyOperations, none⟩ files 0).value =
      .ok opened)
    (explained : forall index, index ∈ requestedIndices arguments opened.trace ->
      Explained opened domain index) :
    let requested := requestedIndices arguments opened.trace
    (forall indices, arguments.indices = some indices -> requested = indices) ∧
    (arguments.indices = none ->
      requested = (List.range opened.trace.length).map fun number : Nat => .int number) ∧
    ((arguments.indices = none -> Numeral.Fits opened.trace.length) ->
      forall index, index ∈ requested -> Exists fun text : String =>
        index.text = .ok text ∧ indexLine index = "[" ++ text ++ "]") ∧
    (Exists fun shown : List Value => Exists fun rest : List Value =>
      Exists fun entries : List (List String) => requested = shown ++ rest ∧
        List.Forall₂ (Shows opened domain) shown entries ∧
        ((rest = [] ∧
            (report arguments files).output =
              printed (heading opened.trace ++ entries.flatten) ∧
            (report arguments files).exitCode = 0) ∨
          Exists fun index : Value => Exists fun later : List Value =>
            Exists fun error : EntryError => rest = index :: later ∧
              (opened.entry index domain).value = .error error ∧
              (report arguments files).output =
                printed (heading opened.trace ++ entries.flatten ++
                  [indexLine index, "Error: " ++ error.message]) ∧
              (report arguments files).exitCode = 1)) ∧
    ((report arguments files).exitCode = 0 ↔
      forall index, index ∈ requested -> Succeeds (opened.entry index domain).value) := by
  intro requested
  rcases report_of_load clock found loaded with ⟨lines, ending⟩
  rcases entriesReport_outcome explained with ⟨shown, rest, entries, split, each, result⟩
  refine ⟨?_, ?_, ?_, ⟨shown, rest, entries, split, each, ?_⟩, ?_⟩
  · intro indices named
    exact congrArg (Option.getD · _) named
  · intro none
    exact congrArg (Option.getD · _) none
  · intro numbered index listed
    rcases text_of_requested parsed numbered index listed with ⟨text, written⟩
    refine ⟨text, written, ?_⟩
    rw [indexLine, written]
    rfl
  · rcases result with ⟨ended, below, complete⟩ | ⟨index, later, error, left, failed, below, reason⟩
    · rcases output_of_complete (ending.trans complete) with ⟨output, code⟩
      rw [lines, below] at output
      exact Or.inl ⟨ended, output, code⟩
    · rcases output_of_failed (ending.trans reason) with ⟨output, code⟩
      rw [lines, below] at output
      refine Or.inr ⟨index, later, error, left, failed, ?_, code⟩
      rw [output]
      simp only [List.append_assoc, List.cons_append, List.nil_append]
  · rcases result with ⟨ended, _, complete⟩ | ⟨index, later, error, left, failed, _, reason⟩
    · refine iff_of_true (output_of_complete (ending.trans complete)).2 ?_
      rw [ended, List.append_nil] at split
      rw [show requested = shown from split]
      exact succeeds_of_shows each
    · rw [(output_of_failed (ending.trans reason)).2]
      refine iff_of_false (by decide) fun all => ?_
      have listed : index ∈ requested := by
        rw [show requested = shown ++ rest from split, left]
        exact List.mem_append_right _ List.mem_cons_self
      have succeeds := all index listed
      rw [failed] at succeeds
      exact not_succeeds_error succeeds

/-- One file with a capture of one transition. -/
def playedFiles : Files := fun path =>
  if path = "a.json" then .ok playedText else .error .missing

/-- Arguments that ask for an entry, for one that is not there, and for the first one again. -/
def playedArguments : Arguments :=
  ⟨"a.json", none, some .elapsed, some [.int 0, .int 5, .int 0], true, false⟩

/-- The lines of the entry that is there. -/
def playedLines : List String :=
  ["[0]", "  transition", "    wmData", "      sendTimeNs: 7ns", "      finishTimeNs: 9ns",
    "    timestamp: 7ns", "    duration *: 2ns", "    status *: PLAYED"]

/-- The report ends with the entry that is not there. -/
theorem playedReport_shows :
    parse ["a.json", "--index", "0", "--index=5", "--ind", "0"] = .run playedArguments ∧
      playedFiles "a.json" = .ok playedText ∧
      (Exists fun opened : OpenTrace =>
        (loadAlone playedText .standard playedFiles 0).value = .ok opened ∧
        (forall index, index ∈ requestedIndices playedArguments opened.trace ->
          Explained opened .elapsed index) ∧
        Shows opened .elapsed (.int 0) playedLines) ∧
      (report playedArguments playedFiles).output =
        printed (["TRANSITION: 1 entries", ""] ++ playedLines ++
          ["[5]", "Error: Entry index 5 out of range [0, 1)"]) ∧
      (report playedArguments playedFiles).exitCode = 1 := by
  have parsed : parse ["a.json", "--index", "0", "--index=5", "--ind", "0"] =
      .run playedArguments := by with_unfolding_all rfl
  have taken : (load Decoder.standard playedText .standard playedFiles 0).value =
      .taken 1 .transition (.ok Trace.playedTrace) :=
    load_eq_opened_iff.mpr
      ⟨_, _, _, _, readTrace_playedText, rfl, load_played .standard playedFiles, rfl⟩
  have loaded : (loadAlone playedText .standard playedFiles 0).value =
      .ok ⟨Trace.playedTrace, .transition⟩ := by
    simp only [loadAlone, Noted.value_andThen, Noted.value_quiet, taken]
    rfl
  have returned : Exists fun tree : Node => Exists fun served : Value =>
      (Trace.playedTrace.entry .transition (.int 0) .elapsed).value = .ok tree ∧
        Web.servedTree tree = .ok served ∧
        indexLine (.int 0) :: Web.rendering 1 served = playedLines :=
    ⟨_, _, rfl, rfl, by decide +kernel⟩
  rcases returned with ⟨tree, served, returned, emits, lines⟩
  have missing : (Trace.playedTrace.entry .transition (.int 5) .elapsed).value =
      .error (.outOfRange "5" 1) := by rfl
  have shown : Explained ⟨Trace.playedTrace, .transition⟩ .elapsed (.int 0) := by
    refine ⟨fun error failed => ?_, fun other same node member => ?_⟩
    · cases returned.symm.trans failed
    · cases returned.symm.trans same
      exact ((Web.succeeds_servedTree_iff tree).mp ⟨served, emits⟩ node member).1
  have refused : Explained ⟨Trace.playedTrace, .transition⟩ .elapsed (.int 5) := by
    refine ⟨fun error failed cause same => ?_, fun tree impossible => ?_⟩
    · rw [same] at failed
      cases missing.symm.trans failed
    · cases missing.symm.trans impossible
  have explained : forall index, index ∈ requestedIndices playedArguments Trace.playedTrace ->
      Explained ⟨Trace.playedTrace, .transition⟩ .elapsed index := by
    intro index listed
    rcases List.mem_cons.mp listed with same | listed
    · rw [same]
      exact shown
    · rcases List.mem_pair.mp listed with same | same <;> rw [same]
      · exact refused
      · exact shown
  have found : playedFiles "a.json" = .ok playedText := if_pos rfl
  have first : Shows ⟨Trace.playedTrace, .transition⟩ .elapsed (.int 0) playedLines := by
    refine ⟨tree, returned, ?_, fun other same => ?_⟩
    · rw [← Web.rendering_servedTree 1 tree served emits, lines]
    · cases emits.symm.trans same
      exact lines.symm
  refine ⟨parsed, found, ⟨_, loaded, explained, first⟩, ?_⟩
  rcases report_shows parsed rfl found loaded explained with
    ⟨_, _, _, ⟨front, rest, entries, split, each, result⟩, _⟩
  have asked : [Value.int 0, .int 5, .int 0] = front ++ rest := split
  cases each with
  | nil =>
      rcases result with ⟨ended, _⟩ | ⟨index, later, error, left, failed, _⟩
      · rw [ended] at asked
        cases asked
      · rw [left] at asked
        cases asked
        cases returned.symm.trans failed
  | cons here others =>
      cases others with
      | nil =>
          rcases here with ⟨other, same, _, shownLines⟩
          rcases result with ⟨ended, _⟩ | ⟨index, later, error, left, failed, output, code⟩
          · rw [ended] at asked
            cases asked
          · rw [left] at asked
            cases asked
            cases missing.symm.trans failed
            cases returned.symm.trans same
            rw [output, shownLines served emits, lines]
            exact ⟨rfl, code⟩
      | cons impossible _ =>
          have second := (List.cons.inj (List.cons.inj asked).2).1
          rcases impossible with ⟨other, same, _⟩
          rw [← second] at same
          cases missing.symm.trans same

end TraceView.CommandLine
