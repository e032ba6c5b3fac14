import TraceView.ProtoLog.Decoder
import TraceView.Transition.Decoder

namespace TraceView

/-!
# Decoders

Each format of traces has a decoder, which recognises its documents by their names, finds the
records of a document when it is loaded, and decodes a record when an entry is asked for.  A
decoder of logs has a state, and loading may change it; a decoder of transitions has none.
-/

inductive Decoder where
  | protoLog (state : ProtoLog.Decoder)
  | transition

namespace Decoder

/-- The decoders that are tried when no others are given, in order. -/
def standard : List Decoder := [.protoLog .fresh, .transition]

def kind : Decoder -> TraceKind
  | .protoLog _ => .protoLog
  | .transition => .transition

def accepts (names : List String) : Decoder -> Bool
  | .protoLog _ => ProtoLog.Decoder.accepts names
  | .transition => Transition.accepts names

/-- Load a document.  The decoder comes back as the load has left it. -/
def load (decoder : Decoder) (document : Json) (header : Json.Header) (settings : Settings)
    (files : Files) : Noted (Decoder × Except LoadError Loaded) :=
  match decoder with
  | .protoLog state =>
    (state.load document header settings files).andThen fun (left, outcome) =>
      .quiet (.protoLog left, outcome)
  | .transition =>
    (Transition.load document header settings).andThen fun loaded =>
      .quiet (.transition, .ok loaded)

def decode (decoder : Decoder) (record : Value) : Except Fault Value :=
  match decoder with
  | .protoLog state => (state.decode record).map .map
  | .transition => Transition.decode record

end Decoder

end TraceView
