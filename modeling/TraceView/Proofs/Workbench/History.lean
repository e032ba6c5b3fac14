import TraceView.Proofs.ProtoLog.Holding
import TraceView.Workbench

namespace TraceView

/-!
# Histories of a workbench

In a history decoders are made and documents are loaded, with decoders that are there or with new
ones.  Beside the workbench a session keeps what a history leaves no trace of: how each decoder was
made, which parts of configurations were brought to it last, and how each trace was loaded.

The invariant says that this is all there is to know.  The decoders on the workbench are those that
were made, holding the parts that were brought; and each trace is the one that its load gives with
decoders as they were made.  One step keeps both, whatever is loaded with whatever decoders, so
they hold after every history.
-/

open ProtoLog (Parts)

/-- A step of a history.  Asking for an entry is none, because it changes nothing. -/
inductive Action where
  /-- A decoder is made. -/
  | make (decoder : Decoder)
  /-- A document is loaded with the decoders at positions, or with new ones. -/
  | load (positions : Option (List Nat)) (bytes : List UInt8) (settings : Settings) (files : Files)

/-- A load as it would be done alone, with decoders as they were made.  The formatters of its trace
have the number that the load in the history gives them. -/
structure Request where
  decoders : List Decoder
  bytes : List UInt8
  settings : Settings
  files : Files
  issue : Nat

namespace Request

/-- The load alone, with its notices. -/
def attempt (request : Request) : Noted LoadAttempt :=
  load request.decoders request.bytes request.settings request.files request.issue

/-- What the load comes to alone. -/
def alone (request : Request) : LoadAttempt :=
  request.attempt.value

/-- Whether the load alone warns that there is no viewer configuration. -/
def warns (request : Request) : Prop :=
  .noViewerConfig ∈ request.attempt.notices

/-- The answer of the trace that the load alone opens, if it opens one. -/
def answer (request : Request) (index : Value) (domain : Domain) :
    Option (Except EntryError Node) :=
  match request.alone with
  | .taken _ left (.ok trace) => some (trace.entry left index domain).value
  | _ => none

/-- The parts of a configuration that the load brings. -/
def brought (request : Request) : Parts :=
  .ofBytes request.bytes request.settings request.files

end Request

/-- A decoder as it was made, and the parts that were brought to it last. -/
structure Make where
  made : Decoder
  held : Parts

/-- The decoder as it is now. -/
def Make.now (make : Make) : Decoder :=
  make.made.hold make.held

/-- A trace that was loaded, and the load alone. -/
structure Parser where
  opened : BenchTrace
  request : Request

/-- A workbench with its history as far as it matters. -/
structure Session where
  bench : Workbench
  makes : List Make
  parsers : List Parser

namespace Session

def empty : Session := ⟨.empty, [], []⟩

/-- The decoders at positions, with their positions. -/
def candidates (makes : List Make) (positions : List Nat) : List (Nat × Make) :=
  positions.filterMap fun position => makes[position]?.map fun make => (position, make)

/-- The decoders that are there when a load begins: new ones are made if no positions are given. -/
def stocked (session : Session) : Option (List Nat) -> List Make
  | some _ => session.makes
  | none => session.makes ++ Decoder.standard.map fun decoder => ⟨decoder, .nothing⟩

/-- The positions of the decoders that a load tries. -/
def tried (session : Session) (positions : Option (List Nat)) : List Nat :=
  positions.getD [session.makes.length, session.makes.length + 1]

/-- A load of the session as it would be done alone. -/
def request (session : Session) (positions : Option (List Nat)) (bytes : List UInt8)
    (settings : Settings) (files : Files) : Request :=
  ⟨(candidates (session.stocked positions) (session.tried positions)).map fun candidate =>
    candidate.2.made, bytes, settings, files, session.bench.issued⟩

/-- The decoders after a load: the one that takes the document holds what the load brings. -/
def makesAfter (session : Session) (positions : Option (List Nat)) (request : Request) :
    List Make :=
  let stocked := session.stocked positions
  match request.alone with
  | .refused _ => stocked
  | .taken place _ _ =>
    match (candidates stocked (session.tried positions))[place]? with
    | none => stocked
    | some (position, make) =>
      stocked.set position ⟨make.made, make.held.andThen request.brought⟩

def step (session : Session) : Action -> Session
  | .make decoder =>
    ⟨(session.bench.addDecoders [decoder]).1, session.makes ++ [⟨decoder, .nothing⟩],
      session.parsers⟩
  | .load positions bytes settings files =>
    let request := session.request positions bytes settings files
    let (bench, outcome) := (session.bench.load positions bytes settings files).value
    let parsers := match outcome with
      | .error _ => session.parsers
      | .ok opened => session.parsers ++ [⟨opened, request⟩]
    ⟨bench, session.makesAfter positions request, parsers⟩

def run (history : List Action) : Session :=
  history.foldl step empty

/-- The invariant of a session. -/
structure Tracked (session : Session) : Prop where
  decoders : session.bench.decoders = session.makes.map Make.now
  parsers : forall parser, parser ∈ session.parsers ->
    Exists fun make : Make => Exists fun place : Nat =>
      session.makes[parser.opened.decoder]? = some make ∧
        parser.request.alone =
          .taken place (make.made.hold parser.request.brought) (.ok parser.opened.trace)

/-! ## A load on the workbench -/

theorem candidates_bench {bench : Workbench} {makes : List Make}
    (decoders : bench.decoders = makes.map Make.now) (positions : List Nat) :
    (positions.filterMap fun position =>
      (bench.decoder? position).map fun decoder => (position, decoder)) =
      (candidates makes positions).map fun candidate => (candidate.1, candidate.2.now) := by
  rw [candidates, List.map_filterMap]
  congr 1
  funext position
  rw [Workbench.decoder?, decoders, List.getElem?_map]
  cases makes[position]? <;> rfl

/-- A candidate is the decoder at one of the positions. -/
theorem candidate_there {makes : List Make} {positions : List Nat} {place position : Nat}
    {make : Make} (candidate : (candidates makes positions)[place]? = some (position, make)) :
    position ∈ positions ∧ makes[position]? = some make := by
  rcases List.mem_filterMap.mp (List.mem_of_getElem? candidate) with ⟨tried, listed, found⟩
  cases there : makes[tried]? with
  | none =>
      rw [there] at found
      cases found
  | some other =>
      rw [there] at found
      cases found
      exact ⟨listed, there⟩

/-- A load on the workbench has the outcome that it has alone, and the decoder that takes the
document holds what the load brings. -/
theorem loadWith_eq {bench : Workbench} {makes : List Make}
    (decoders : bench.decoders = makes.map Make.now) (positions : List Nat) (bytes : List UInt8)
    (settings : Settings) (files : Files) :
    let alone := (load ((candidates makes positions).map fun candidate => candidate.2.made) bytes
      settings files bench.issued).value
    let brought := Parts.ofBytes bytes settings files
    (Exists fun error : LoadError =>
      alone = .refused error ∧
        (bench.loadWith positions bytes settings files).value = (bench.issue.1, .error error)) ∨
    Exists fun place : Nat => Exists fun position : Nat => Exists fun make : Make =>
      Exists fun result : Except LoadError Trace =>
        (candidates makes positions)[place]? = some (position, make) ∧
        alone = .taken place (make.made.hold brought) result ∧
        (bench.loadWith positions bytes settings files).value =
          ({ bench.issue.1 with
            decoders := bench.decoders.set position (make.made.hold (make.held.andThen brought)) },
            result.map fun trace => ⟨trace, position⟩) := by
  have list := candidates_bench decoders positions
  have nowList : ((candidates makes positions).map fun candidate =>
      (candidate.1, candidate.2.now)).map (·.2) =
      (candidates makes positions).map fun candidate => candidate.2.made.hold candidate.2.held := by
    rw [List.map_map]
    rfl
  simp only [Workbench.loadWith, list, nowList, Noted.value_andThen, Noted.value_quiet]
  rcases load_held (fun candidate : Nat × Make => candidate.2.made)
    (fun candidate => candidate.2.held) (candidates makes positions) bytes settings files
    bench.issued with ⟨error, held, alone⟩ | ⟨place, ⟨position, make⟩, result, there, held, alone⟩
  · left
    refine ⟨error, alone, ?_⟩
    simp only [Workbench.issue, held]
  · right
    refine ⟨place, position, make, result, there, alone, ?_⟩
    have positionThere : (((candidates makes positions).map fun candidate =>
        (candidate.1, candidate.2.now)).map (·.1))[place]? = some position := by
      rw [List.map_map, List.getElem?_map, there]
      rfl
    simp only [Workbench.issue, held, positionThere, Option.getD_some]

/-- A load begins with the decoders that are there then. -/
theorem load_eq_loadWith {session : Session} (tracked : session.Tracked)
    (positions : Option (List Nat)) (bytes : List UInt8) (settings : Settings) (files : Files) :
    Exists fun bench : Workbench =>
      bench.issued = session.bench.issued ∧
      bench.decoders = (session.stocked positions).map Make.now ∧
      session.bench.load positions bytes settings files =
        bench.loadWith (session.tried positions) bytes settings files := by
  cases positions with
  | some given => exact ⟨session.bench, rfl, tracked.decoders, rfl⟩
  | none =>
      have length : session.bench.decoders.length = session.makes.length := by
        rw [tracked.decoders, List.length_map]
      refine ⟨(session.bench.addDecoders Decoder.standard).1, rfl, ?_, ?_⟩
      · have fresh : (Decoder.standard.map fun decoder => (⟨decoder, .nothing⟩ : Make)).map Make.now =
            Decoder.standard := by
          rw [List.map_map]
          exact (List.map_congr_left fun decoder _ => Decoder.hold_nothing decoder).trans
            (List.map_id _)
        rw [stocked, List.map_append, fresh, ← tracked.decoders]
        rfl
      · rw [tried, Option.getD_none, ← length]
        rfl

/-- All that a load does to a session.  If it is refused, at most new decoders are there.  Otherwise
one of the decoders holds what the load brings after what it held, and the trace is there if the
load opens one. -/
theorem step_load_cases {session : Session} (tracked : session.Tracked)
    (positions : Option (List Nat)) (bytes : List UInt8) (settings : Settings) (files : Files) :
    let request := session.request positions bytes settings files
    let stocked := session.stocked positions
    let after := session.step (.load positions bytes settings files)
    after.bench.decoders = after.makes.map Make.now ∧
      ((after.makes = stocked ∧ after.parsers = session.parsers) ∨
        Exists fun place : Nat => Exists fun position : Nat => Exists fun make : Make =>
          Exists fun result : Except LoadError Trace =>
            (candidates stocked (session.tried positions))[place]? = some (position, make) ∧
            request.alone = .taken place (make.made.hold request.brought) result ∧
            after.makes =
              stocked.set position ⟨make.made, make.held.andThen request.brought⟩ ∧
            forall parser, parser ∈ after.parsers -> parser ∈ session.parsers ∨
              Exists fun trace : Trace =>
                result = .ok trace ∧ parser = ⟨⟨trace, position⟩, request⟩) := by
  intro request stocked after
  rcases load_eq_loadWith tracked positions bytes settings files with
    ⟨bench, issued, decoders, begun⟩
  have outcomes := loadWith_eq decoders (session.tried positions) bytes settings files
  rw [issued] at outcomes
  rcases outcomes with ⟨error, alone, loaded⟩ |
    ⟨place, position, make, result, there, alone, loaded⟩
  · have refused : (session.request positions bytes settings files).alone = .refused error := alone
    have same : after = ⟨bench.issue.1, stocked, session.parsers⟩ := by
      simp only [after, step, begun, loaded, makesAfter, refused]
      rfl
    rw [same]
    exact ⟨decoders, .inl ⟨rfl, rfl⟩⟩
  · have taken : (session.request positions bytes settings files).alone =
        .taken place (make.made.hold request.brought) result := alone
    have makes : after.makes =
        stocked.set position ⟨make.made, make.held.andThen request.brought⟩ := by
      simp only [after, step, begun, loaded, makesAfter, taken, there]
      rfl
    refine ⟨?_, .inr ⟨place, position, make, result, there, alone, makes, ?_⟩⟩
    · rw [makes, List.map_set, ← decoders]
      simp only [after, step, begun, loaded]
      rfl
    · intro parser member
      simp only [after, step, begun, loaded] at member
      cases result with
      | error cause => exact .inl member
      | ok trace =>
          rcases List.mem_append.mp member with old | new
          · exact .inl old
          · exact .inr ⟨trace, rfl, List.mem_singleton.mp new⟩

/-! ## The invariant -/

/-- Decoders that are still there after a step, made as they were. -/
def Keeps (makes later : List Make) : Prop :=
  forall (position : Nat) (make : Make), makes[position]? = some make ->
    Exists fun after : Make => later[position]? = some after ∧ after.made = make.made

theorem keeps_append (makes new : List Make) : Keeps makes (makes ++ new) := by
  intro position make there
  refine ⟨make, ?_, rfl⟩
  rw [List.getElem?_append_left (List.getElem?_eq_some_iff.mp there).1, there]

theorem keeps_set {makes : List Make} {position : Nat} {make : Make}
    (there : makes[position]? = some make) (held : Parts) :
    Keeps makes (makes.set position ⟨make.made, held⟩) := by
  intro other old found
  by_cases same : position = other
  · subst same
    rw [there] at found
    cases found
    refine ⟨⟨make.made, held⟩, ?_, rfl⟩
    rw [List.getElem?_set_self (List.getElem?_eq_some_iff.mp there).1]
  · refine ⟨old, ?_, rfl⟩
    rw [List.getElem?_set_ne same, found]

theorem Keeps.trans {first second third : List Make} (early : Keeps first second)
    (late : Keeps second third) : Keeps first third := by
  intro position make there
  rcases early position make there with ⟨next, thereNext, sameNext⟩
  rcases late position next thereNext with ⟨last, thereLast, sameLast⟩
  exact ⟨last, thereLast, sameLast.trans sameNext⟩

/-- What is known of a trace stays true while decoders are kept. -/
theorem parsers_of_keeps {session : Session} (tracked : session.Tracked) {later : List Make}
    (keeps : Keeps session.makes later) {parser : Parser} (member : parser ∈ session.parsers) :
    Exists fun make : Make => Exists fun place : Nat =>
      later[parser.opened.decoder]? = some make ∧
        parser.request.alone =
          .taken place (make.made.hold parser.request.brought) (.ok parser.opened.trace) := by
  rcases tracked.parsers parser member with ⟨make, place, there, alone⟩
  rcases keeps _ make there with ⟨after, thereAfter, same⟩
  refine ⟨after, place, thereAfter, ?_⟩
  rw [same]
  exact alone

theorem keeps_stocked (session : Session) (positions : Option (List Nat)) :
    Keeps session.makes (session.stocked positions) := by
  cases positions with
  | some given => exact fun position make there => ⟨make, there, rfl⟩
  | none => exact keeps_append session.makes _

theorem tracked_empty : empty.Tracked :=
  ⟨rfl, fun parser impossible => by cases impossible⟩

/-- One step keeps the invariant. -/
theorem Tracked.step {session : Session} (tracked : session.Tracked) (action : Action) :
    (session.step action).Tracked := by
  cases action with
  | make decoder =>
      refine ⟨?_, fun parser => parsers_of_keeps tracked (keeps_append session.makes _)⟩
      change session.bench.decoders ++ [decoder] = _
      rw [tracked.decoders]
      simp only [Session.step, List.map_append, List.map_cons, List.map_nil, Make.now,
        Decoder.hold_nothing]
  | load positions bytes settings files =>
      rcases step_load_cases tracked positions bytes settings files with ⟨decoders, done⟩
      have keeps := keeps_stocked session positions
      refine ⟨decoders, ?_⟩
      rcases done with ⟨makes, parsers⟩ |
        ⟨place, position, make, result, there, alone, makes, parsers⟩
      · rw [makes, parsers]
        exact fun parser => parsers_of_keeps tracked keeps
      · have stockedThere := (candidate_there there).2
        rw [makes]
        intro parser member
        rcases parsers parser member with old | ⟨trace, opened, new⟩
        · exact parsers_of_keeps tracked (keeps.trans (keeps_set stockedThere _)) old
        · rw [new]
          refine ⟨_, place,
            List.getElem?_set_self (List.getElem?_eq_some_iff.mp stockedThere).1, ?_⟩
          rw [alone, opened]

/-- The invariant holds after every history. -/
theorem tracked_run (history : List Action) : (run history).Tracked :=
  List.foldlRecOn history step tracked_empty fun _ tracked action _ => tracked.step action

end Session

end TraceView
