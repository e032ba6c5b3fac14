import TraceView.ProtoLog.Message
import TraceView.ProtoLog.ViewerConfig
import TraceView.Trace.Loaded

namespace TraceView.ProtoLog

/-!
# Reading logs

The decoder of logs holds the viewer configuration that resolves their hashes.  One that is given to
it stays for good; otherwise each capture that is loaded may bring its own, and the decoder keeps
the last one it was brought until it is brought another.
-/

/-- The state of a decoder of logs: the configuration in use, and whether it stays. -/
structure Decoder where
  fixed : Bool
  config : ViewerConfig

namespace Decoder

def fresh : Decoder := ⟨false, .empty⟩

/-- A decoder with a configuration that stays. -/
def withConfig (config : Value) : Except Fault Decoder :=
  match ViewerConfig.empty.install config with
  | (installed, .ok ()) => .ok ⟨true, installed⟩
  | (_, .error fault) => .error fault

def accepts (names : List String) : Bool := names.contains "log"

/-! ## Decoding a message -/

/-- The parameters of a family; a family that is left out has none. -/
def family (name : String) (record : List (String × Value)) : Except Fault (List Value) :=
  match record.lookup name with
  | none => .ok []
  | some value => ViewerConfig.elements value

def parameters (record : List (String × Value)) : Except Fault Parameters := do
  let texts <- family "strParams" record
  let integers <- family "sint64Params" record
  let doubles <- family "doubleParams" record
  let truths <- family "booleanParams" record
  .ok ⟨texts, integers, doubles, truths⟩

/-- The text of a message that the configuration does not know. -/
def unresolved (hash : String) (parameters : Parameters) : Except Fault String := do
  let all := parameters.texts ++ parameters.integers ++ parameters.doubles ++ parameters.truths
  let shown <- all.mapM Value.text
  .ok ("Unknown message hash " ++ hash ++ " with params: " ++ String.intercalate ", " shown)

def properties (text : String) (tag level place : Value) : List (String × Value) :=
  [("text", .string text), ("tag", tag), ("level", level), ("at", place)]

/-- What a mapping gives for a name, and the unknown field if it gives nothing. -/
def known (name : String) (fields : List (String × Value)) : Value :=
  (fields.lookup name).getD (.string unknownField)

def resolved (decoder : Decoder) (entry : Value) (parameters : Parameters) :
    Except Fault (List (String × Value)) := do
  let fields <- ViewerConfig.fields entry
  let key := (fields.lookup "group").getD .null
  if !key.isKey then .error .wrongKind
  else
    match (fields.lookup "message").getD (.string "") with
    | .string template => do
      let text <- messageText template parameters
      let group <- ViewerConfig.fields (decoder.config.group key)
      .ok (properties text (known "tag" group) (known "level" fields) (known "at" fields))
    | _ => .error .wrongKind

def decode (decoder : Decoder) (record : Value) : Except Fault (List (String × Value)) := do
  let fields <- ViewerConfig.fields record
  let hash <- ((fields.lookup "messageHash").getD .null).text
  let parameters <- parameters fields
  match (decoder.config.messages.lookup hash).getD .null with
  | .null => do
    let text <- unresolved hash parameters
    let unknown := Value.string unknownField
    .ok (properties text unknown unknown unknown)
  | entry => decoder.resolved entry parameters

/-! ## Loading a log -/

/-- Take over a configuration while a document is loaded. -/
def install (decoder : Decoder) (config : Value) : Decoder × Except LoadError Unit :=
  let (installed, outcome) := decoder.config.install config
  ({ decoder with config := installed },
    outcome.mapError fun fault => .malformedDocument (.viewerConfig fault))

def installFile (decoder : Decoder) (files : Files) (path : String) :
    Decoder × Except LoadError Unit :=
  match files path with
  | .error .unusableName => (decoder, .error (.malformedDocument .viewerConfigPath))
  | .error cause => (decoder, .error (.unreadableFile path cause))
  | .ok bytes =>
    match Json.read .settings bytes with
    | .stopped _ problem => (decoder, .error (.malformedDocument (.ofFile problem)))
    | .whole tree => decoder.install tree.roundedValue

def embedded (document : Json) : Value :=
  ((Json.partsAt "viewerConfig" [] document).head?.map Json.exactValue).getD .null

/-- Find the configuration for a document: the one that stays, the one in the document or the one
in the file that the settings name. -/
def configure (decoder : Decoder) (document : Json) (settings : Settings) (files : Files) :
    Noted (Decoder × Except LoadError Unit) :=
  if decoder.fixed then .quiet (decoder, .ok ())
  else
    match embedded document, settings.viewerConfigPath.getD "" with
    | .null, "" => ⟨(decoder, .ok ()), [.noViewerConfig]⟩
    | .null, path => .quiet (decoder.installFile files path)
    | config, _ => .quiet (decoder.install config)

def stamp? : Value -> Option Int
  | .map fields => (fields.lookup "elapsedRealtimeNanos").bind Value.toInt?
  | _ => none

def messages (document : Json) : Stamped × Nat :=
  let all := (Json.partsAt "log.item" [] document).map Json.exactValue
  let stamped := all.filterMap fun record => (stamp? record).map fun ns => (ns, record)
  (stamped, all.length - stamped.length)

/-- The offset between the clocks that a capture records, in milliseconds. -/
def recordedOffset (header : Json.Header) : Option Int :=
  ((header.scalars.lookup "realTimeToElapsedTimeOffsetMillis").bind Value.toInt?).map (· * 1000000)

def read (document : Json) (header : Json.Header) (settings : Settings) : Noted Loaded :=
  let (stamped, skipped) := messages document
  ⟨.ofStamped stamped (settings.offset.or (recordedOffset header)),
    (if skipped = 0 then [] else [.skippedMessages skipped]) ++ [.loadedMessages stamped.length]⟩

/-- Load a log.  The decoder comes back as the load has left it, also when the load fails. -/
def load (decoder : Decoder) (document : Json) (header : Json.Header) (settings : Settings)
    (files : Files) : Noted (Decoder × Except LoadError Loaded) :=
  (decoder.configure document settings files).andThen fun (configured, outcome) =>
    match outcome with
    | .error error => .quiet (configured, .error error)
    | .ok () =>
      (read document header settings).andThen fun loaded => .quiet (configured, .ok loaded)

end Decoder

end TraceView.ProtoLog
