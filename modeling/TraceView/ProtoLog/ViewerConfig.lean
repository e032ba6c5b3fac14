import TraceView.Value.Equality
import TraceView.Fields

namespace TraceView.ProtoLog

/-!
# Viewer configurations

A capture holds the hashes of its messages, and the viewer configuration says what they stand for.
Groups may be given as a mapping or as a list of pairs, where a pair may itself be a list, a text of
two characters or a mapping with two fields.
-/

structure ViewerConfig where
  messages : List (String × Value)
  groups : List (Value × Value)

namespace ViewerConfig

def empty : ViewerConfig := ⟨[], []⟩

def fields : Value -> Except Fault (List (String × Value))
  | .map fields => .ok fields
  | _ => .error .wrongKind

/-- The part of a configuration with a name; a part that is left out is an empty mapping. -/
def part (name : String) (config : Value) : Except Fault Value :=
  (fields config).map fun all => (all.lookup name).getD (.map [])

def readMessages (config : Value) : Except Fault (List (String × Value)) :=
  (part "messages" config).bind fields

def characters (text : String) : List Value :=
  text.toList.map fun c => .string (String.singleton c)

/-- The elements that a value has when it is taken as a sequence: a mapping has its names. -/
def elements : Value -> Except Fault (List Value)
  | .list items => .ok items
  | .string text => .ok (characters text)
  | .map fields => .ok (fields.map fun field => .string field.1)
  | _ => .error .wrongKind

/-- Give a key a value, where equal keys are one key. -/
def putKey (key value : Value) : List (Value × Value) -> List (Value × Value)
  | [] => [(key, value)]
  | (other, old) :: rest =>
    if other.sameKey key then (other, value) :: rest else (other, old) :: putKey key value rest

/-- A key and its value from a sequence of two elements. -/
def pair (item : Value) : Except Fault (Value × Value) := do
  match <- elements item with
  | [key, value] => if key.isKey then .ok (key, value) else .error .wrongKind
  | _ => .error .wrongKind

def readPairs : List Value -> List (Value × Value) -> Except Fault (List (Value × Value))
  | [], read => .ok read
  | item :: rest, read => do
    let (key, value) <- pair item
    readPairs rest (putKey key value read)

def readGroups (config : Value) : Except Fault (List (Value × Value)) := do
  match <- part "groups" config with
  | .map fields => .ok (fields.map fun field => (.string field.1, field.2))
  | given => do readPairs (<- elements given) []

/-- Take over a configuration.  Its messages are taken over before its groups are looked at, so
they stay when the groups turn out to be unusable. -/
def install (current : ViewerConfig) (config : Value) : ViewerConfig × Except Fault Unit :=
  match readMessages config with
  | .error fault => (current, .error fault)
  | .ok messages =>
    match readGroups config with
    | .error fault => (⟨messages, current.groups⟩, .error fault)
    | .ok groups => (⟨messages, groups⟩, .ok ())

/-- The group with a key; an unknown group is an empty mapping. -/
def group (config : ViewerConfig) (key : Value) : Value :=
  ((config.groups.find? fun entry => entry.1.sameKey key).map (·.2)).getD (.map [])

end ViewerConfig

end TraceView.ProtoLog
