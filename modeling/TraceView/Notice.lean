import TraceView.Value.Display

namespace TraceView

/-!
# Notices

Reading a trace and calculating properties may be worth a remark even when they succeed.  A notice
says what happened; its level, origin and text follow from that.
-/

inductive Level where
  | debug
  | info
  | warning
  deriving DecidableEq, Repr

def Level.name : Level -> String
  | .debug => "DEBUG"
  | .info => "INFO"
  | .warning => "WARNING"

/-- A remark on something that happened. -/
inductive Notice where
  /-- A log was read without a configuration that resolves its messages. -/
  | noViewerConfig
  | skippedMessages (count : Nat)
  | loadedMessages (count : Nat)
  | notAnObject (item : Value)
  | unstamped (id : Value)
  | loadedTransitions (count : Nat)
  | loadedTrace (kind : TraceKind) (count : Nat)
  | applied (count : Nat) (tree : String)
  /-- No duration was calculated because the record has a property of its name. -/
  | rawDuration (tree name : String)
  /-- No duration was calculated because the finish time precedes the send time. -/
  | negativeDuration (tree finishField : String) (finish : Int) (sendField : String) (send : Int)
  /-- No status was calculated because the record has a property of its name. -/
  | rawStatus (tree name : String)

namespace Notice

def level : Notice -> Level
  | .loadedMessages _ => .info
  | .loadedTransitions _ => .info
  | .loadedTrace _ _ => .info
  | .applied _ _ => .debug
  | _ => .warning

def origin : Notice -> String
  | .noViewerConfig => "trace_tree.decoders.protolog"
  | .skippedMessages _ => "trace_tree.decoders.protolog"
  | .loadedMessages _ => "trace_tree.decoders.protolog"
  | .notAnObject _ => "trace_tree.decoders.transitions"
  | .unstamped _ => "trace_tree.decoders.transitions"
  | .loadedTransitions _ => "trace_tree.decoders.transitions"
  | .loadedTrace _ _ => "trace_tree.parsers.loader"
  | .applied _ _ => "trace_tree.operations"
  | .rawDuration _ _ => "trace_tree.operations.add_duration"
  | .negativeDuration .. => "trace_tree.operations.add_duration"
  | .rawStatus _ _ => "trace_tree.operations.add_status"

def text : Notice -> Except Fault String
  | .noViewerConfig => .ok "No ProtoLog viewer config available; messages will not be resolved"
  | .skippedMessages count =>
    .ok ("Skipped " ++ toString count ++
      " malformed ProtoLog messages or messages without elapsedRealtimeNanos")
  | .loadedMessages count => .ok ("Loaded " ++ toString count ++ " ProtoLog messages")
  | .notAnObject item =>
    item.item.map fun shown => "Skipping transition that is not an object: " ++ shown
  | .unstamped id =>
    id.text.map fun shown => "Skipping transition " ++ shown ++ " without any timestamp"
  | .loadedTransitions count => .ok ("Loaded " ++ toString count ++ " transitions")
  | .loadedTrace kind count =>
    .ok ("Loaded " ++ kind.name ++ " trace with " ++ toString count ++ " entries")
  | .applied count tree => .ok ("Applied " ++ toString count ++ " operations to " ++ tree)
  | .rawDuration tree name =>
    .ok (tree ++ " already has a raw " ++ Text.quoted name ++
      " property; duration not calculated")
  | .negativeDuration tree finishField finish sendField send => do
    let late <- Numeral.write finish
    let early <- Numeral.write send
    .ok ("Negative duration in " ++ tree ++ ": " ++ finishField ++ "=" ++ late ++
      " precedes " ++ sendField ++ "=" ++ early ++ "; duration omitted")
  | .rawStatus tree name =>
    .ok (tree ++ " already has a raw " ++ Text.quoted name ++ " property; status not calculated")

/-- The line that a notice adds to the log, if its text can be written. -/
def line? (notice : Notice) : Option String :=
  notice.text.toOption.map fun text => notice.level.name ++ " " ++ notice.origin ++ ": " ++ text

end Notice

/-- A result with the notices that came up on the way to it, in order. -/
structure Noted (α : Type) where
  value : α
  notices : List Notice

namespace Noted

def quiet {α : Type} (value : α) : Noted α := ⟨value, []⟩

/-- Use a result, and note what comes up then as well. -/
def andThen {α β : Type} (first : Noted α) (next : α -> Noted β) : Noted β :=
  let second := next first.value
  ⟨second.value, first.notices ++ second.notices⟩

@[simp] theorem value_quiet {α : Type} (value : α) : (quiet value).value = value := rfl

@[simp] theorem notices_quiet {α : Type} (value : α) : (quiet value).notices = [] := rfl

@[simp] theorem value_andThen {α β : Type} (first : Noted α) (next : α -> Noted β) :
    (first.andThen next).value = (next first.value).value := rfl

@[simp] theorem notices_andThen {α β : Type} (first : Noted α) (next : α -> Noted β) :
    (first.andThen next).notices = first.notices ++ (next first.value).notices := rfl

end Noted

end TraceView
