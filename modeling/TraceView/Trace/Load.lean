import TraceView.Trace.Basic

namespace TraceView

/-!
# Loading traces

A document is scanned for its names first, and the first decoder that recognises them loads it.
What loading changes in that decoder remains, whether the load succeeds or not; the other
decoders are not touched.
-/

/-- What an attempt to load a document leaves behind. -/
inductive LoadAttempt where
  /-- No decoder was chosen. -/
  | refused (error : LoadError)
  /-- The decoder at a position was chosen; it is in a new state now. -/
  | taken (position : Nat) (decoder : Decoder) (result : Except LoadError Trace)

def LoadAttempt.result : LoadAttempt -> Except LoadError Trace
  | .refused error => .error error
  | .taken _ _ result => result

/-- The decoder among several that recognises a document by its names, with its position. -/
def choose (decoders : List Decoder) (names : List String) : Option (Nat × Decoder) :=
  (decoders.zipIdx.find? fun candidate => candidate.1.accepts names).map fun found =>
    (found.2, found.1)

/-- The trace of loaded records, noting that it has been loaded. -/
def openTrace (kind : TraceKind) (loaded : Loaded) (settings : Settings) (issue : Nat) :
    Noted (Except LoadError Trace) :=
  ⟨(Trace.ofLoaded kind loaded settings.applyOperations none issue).mapError .fault,
    [.loadedTrace kind loaded.records.length]⟩

def load (decoders : List Decoder) (bytes : List UInt8) (settings : Settings) (files : Files)
    (issue : Nat) : Noted LoadAttempt :=
  match Json.readTrace bytes with
  | .error error => .quiet (.refused (.ofHeader error))
  | .ok (header, document) =>
    match choose decoders header.names with
    | none => .quiet (.refused (.unrecognised header.sortedNames))
    | some (position, decoder) =>
      (decoder.load document header settings files).andThen fun (left, outcome) =>
        match outcome with
        | .error error => .quiet (.taken position left (.error error))
        | .ok loaded =>
          (openTrace decoder.kind loaded settings issue).andThen fun result =>
            .quiet (.taken position left result)

structure OpenTrace where
  trace : Trace
  decoder : Decoder

def OpenTrace.entry (opened : OpenTrace) (index : Value) (domain : Domain) :
    Noted (Except EntryError Node) :=
  opened.trace.entry opened.decoder index domain

def loadAlone (bytes : List UInt8) (settings : Settings) (files : Files) (issue : Nat) :
    Noted (Except LoadError OpenTrace) :=
  (load Decoder.standard bytes settings files issue).andThen fun attempt =>
    .quiet <|
      match attempt with
      | .refused error => .error error
      | .taken _ decoder result => result.map fun trace => ⟨trace, decoder⟩

end TraceView
