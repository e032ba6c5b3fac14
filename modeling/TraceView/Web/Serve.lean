import TraceView.Trace.Load

namespace TraceView.Web

/-!
# Served values

Traces and entries are served as plain values.  An integer of a tree is served as its decimal
text, because a nanosecond timestamp is beyond the integers that every reader can represent.
-/

def servedValue : Value -> Except Fault Value
  | .int n => (Numeral.write n).map .string
  | value => .ok value

def nodeFields (node : Node) (value : Value) (text : String) (children : List Value) :
    List (String × Value) :=
  let rootId := match node.rootId with
    | some id => Value.string id
    | none => .null
  [("id", .string node.id), ("name", .string node.name), ("value", value),
    ("formatted_value", .string text), ("source", .string node.source.word),
    ("children", .list children)] ++ if node.isRoot then [("root_id", rootId)] else []

mutual

def servedTree : Node -> Except Fault Value
  | node@⟨_, _, _, _, _, _, _, _, children⟩ => do
    let text <- node.text
    let value <- servedValue node.value
    let below <- servedTrees children
    .ok (.map (nodeFields node value text below))

def servedTrees : List Node -> Except Fault (List Value)
  | [] => .ok []
  | node :: rest => do
    let first <- servedTree node
    let others <- servedTrees rest
    .ok (first :: others)

end

def servedTimestamp (timestamp : Timestamp) : Except Fault Value := do
  let digits <- Numeral.write timestamp.nanoseconds
  let text <- timestamp.text
  .ok (.map [("value_ns", .string digits), ("formatted", .string text)])

/-- Timestamps as they are served, or null for a clock that a trace does not have. -/
def servedTimestamps : Option (List Timestamp) -> Except Fault Value
  | none => .ok .null
  | some timestamps => (timestamps.mapM servedTimestamp).map .list

def description (id filename : String) (trace : Trace) : Value :=
  .map [("trace_id", .string id), ("filename", .string filename),
    ("trace_type", .string trace.kind.word), ("length", .int trace.length),
    ("timestamp_types", .list (trace.domains.map fun domain => .string domain.word))]

end TraceView.Web
