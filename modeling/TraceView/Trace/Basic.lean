import TraceView.Operation.Pipeline
import TraceView.Time.Timestamp
import TraceView.Trace.Decoder
import TraceView.Tree.Spec

namespace TraceView

/-!
# Traces

A trace holds the records that loading has found, their elapsed times and what is to be done with
each entry on either clock.  An entry is decoded when it is asked for, by the decoder as it is at
that moment, and becomes a new tree every time.
-/

structure Trace where
  kind : TraceKind
  records : List Value
  elapsed : List Int
  offset : Option Int
  elapsedPipeline : Pipeline
  realPipeline : Pipeline

inductive EntryError where
  | outOfRange (index : String) (length : Nat)
  | unstamped (index : Nat)
  | missingDomain (kind : TraceKind) (domain : Domain)
  | undecodable (kind : TraceKind) (index : Nat) (cause : Fault)
  | malformed (kind : TraceKind) (index : Nat) (cause : TreeError)
  /-- A conversion failed in a way that says nothing about the record. -/
  | fault (cause : Fault)
  deriving DecidableEq, Repr

def EntryError.message : EntryError -> String
  | .outOfRange index length =>
    "Entry index " ++ index ++ " out of range [0, " ++ toString length ++ ")"
  | .unstamped index => "Entry " ++ toString index ++ " has no timestamp"
  | .missingDomain kind domain =>
    kind.name ++ " trace has no " ++ domain.name ++ " timestamps"
  | .undecodable kind index cause =>
    "Failed to decode " ++ kind.name ++ " entry " ++ toString index ++ ": " ++ cause.message
  | .malformed kind index cause =>
    "Malformed " ++ kind.name ++ " entry " ++ toString index ++ ": " ++ cause.message
  | .fault cause => cause.message

namespace Trace

/-- A trace from loaded records.  A pipeline that is given serves both clocks; otherwise each
clock has that of the format, or none if no properties are to be calculated. -/
def ofLoaded (kind : TraceKind) (loaded : Loaded) (applyOperations : Bool)
    (given : Option Pipeline) (issue : Nat) : Except Fault Trace :=
  let withPipelines := fun elapsed real : Pipeline =>
    Trace.mk kind loaded.records loaded.elapsed loaded.offset elapsed real
  match given with
  | some pipeline => .ok (withPipelines pipeline pipeline)
  | none =>
    if applyOperations then do
      let elapsed <- Pipeline.forTrace kind .elapsed loaded.offset issue
      let real <- Pipeline.forTrace kind .real loaded.offset issue
      .ok (withPipelines elapsed real)
    else .ok (withPipelines [] [])

def length (trace : Trace) : Nat := trace.records.length

def record (trace : Trace) (index : Fin trace.length) : Value :=
  trace.records.get index

def pipeline (trace : Trace) : Domain -> Pipeline
  | .elapsed => trace.elapsedPipeline
  | .real => trace.realPipeline

/-- How far a clock is ahead of the elapsed one, if the trace has timestamps on it. -/
def shift? (trace : Trace) : Domain -> Option Int
  | .elapsed => some 0
  | .real => trace.offset

def timestamps? (trace : Trace) (domain : Domain) : Option (List Timestamp) :=
  (trace.shift? domain).map fun shift =>
    trace.elapsed.map fun ns => ⟨domain, ns + shift⟩

def domains (trace : Trace) : List Domain :=
  Domain.all.filter fun domain => (trace.timestamps? domain).isSome

def position (trace : Trace) (index : Value) : Except EntryError (Fin trace.length) :=
  let refused := match index.text with
    | .ok text => EntryError.outOfRange text trace.length
    | .error cause => .fault cause
  match index with
  | .int n =>
    if inside : 0 ≤ n ∧ n.toNat < trace.length then .ok ⟨n.toNat, inside.2⟩ else .error refused
  | _ => .error refused

def timestamp (trace : Trace) (index : Fin trace.length) (domain : Domain) :
    Except EntryError Timestamp :=
  match trace.elapsed[index.val]?, trace.shift? domain with
  | none, _ => .error (.unstamped index)
  | some _, none => .error (.missingDomain trace.kind domain)
  | some ns, some shift => .ok ⟨domain, ns + shift⟩

/-- The tree of decoded fields with the timestamp of the entry. -/
def buildEntry (kind : TraceKind) (fields : List (String × Value)) (timestamp : Timestamp) :
    Except BuildError Node :=
  match Node.ofFields kind.rootId kind.entryName fields with
  | .error error => .error error
  | .ok tree =>
    Spec.attach tree
      (Node.leaf (tree.id ++ ".timestamp") "timestamp" (.int timestamp.nanoseconds) .raw
        (some timestamp.domain.formatter))

/-- The fields of a decoded record.  A record that cannot be decoded is an error of its entry; only
a number that is too large for a double is reported as such. -/
def decodeEntry (trace : Trace) (decoder : Decoder) (index : Fin trace.length) :
    Except EntryError (List (String × Value)) :=
  match decoder.decode (trace.record index) with
  | .ok (.map fields) => .ok fields
  | .ok _ => .error (.fault .wrongKind)
  | .error .tooLarge => .error (.fault .tooLarge)
  | .error cause => .error (.undecodable trace.kind index cause)

def rawEntry (trace : Trace) (decoder : Decoder) (index : Value) (domain : Domain) :
    Except EntryError Node := do
  let place <- trace.position index
  let timestamp <- trace.timestamp place domain
  let fields <- trace.decodeEntry decoder place
  match buildEntry trace.kind fields timestamp with
  | .ok tree => .ok tree
  | .error (.tree cause) => .error (.malformed trace.kind place cause)
  | .error (.name cause) => .error (.fault cause)

def entry (trace : Trace) (decoder : Decoder) (index : Value) (domain : Domain) :
    Noted (Except EntryError Node) :=
  match trace.rawEntry decoder index domain with
  | .error error => .quiet (.error error)
  | .ok tree =>
    ((trace.pipeline domain).apply tree).andThen fun result => .quiet (.ok result)

end Trace

end TraceView
