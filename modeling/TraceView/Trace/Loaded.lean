import TraceView.Files
import TraceView.Json.Address
import TraceView.Notice

namespace TraceView

/-!
# Loaded records

Loading a trace finds its records and stamps each with a time, and decodes nothing else.  The
records are put in ascending order of time and otherwise stay in the order of the document; from
then on the records and their times are two lists.
-/

abbrev Stamped := List (Int × Value)

/-- The records in ascending order of time.  Records of one time keep their order. -/
def Stamped.sorted (records : Stamped) : Stamped :=
  records.mergeSort fun a b => decide (a.1 ≤ b.1)

/-- What loading finds: the records, their elapsed times, and the offset from elapsed to wall-clock
time if it is known. -/
structure Loaded where
  records : List Value
  elapsed : List Int
  offset : Option Int

def Loaded.ofStamped (records : Stamped) (offset : Option Int) : Loaded :=
  ⟨records.sorted.map (·.2), records.sorted.map (·.1), offset⟩

structure Settings where
  viewerConfigPath : Option String
  applyOperations : Bool
  /-- The offset between the clocks, which takes precedence over that of the trace. -/
  offset : Option Int

def Settings.standard : Settings := ⟨none, true, none⟩

inductive Malformation where
  | undecodable (what : Json.Undecodable)
  | viewerConfig (fault : Fault)
  | viewerConfigFile
  | viewerConfigPath
  deriving DecidableEq, Repr

/-- What is wrong with the file that should hold a configuration. -/
def Malformation.ofFile : Json.Problem -> Malformation
  | @Json.Problem.undecodable what => .undecodable what
  | _ => .viewerConfigFile

def Malformation.message : Malformation -> String
  | .undecodable .text => "text is not UTF-8"
  | .undecodable .integer => "Exceeds the limit (4300 digits) for integer string conversion"
  | .viewerConfig fault => fault.message
  | .viewerConfigFile => "viewer config is not a JSON document"
  | .viewerConfigPath => "path of the viewer config has a null character"

inductive LoadError where
  | invalidDocument
  | malformedDocument (cause : Malformation)
  | notAnObject
  | unrecognised (names : List String)
  | unreadableFile (path : String) (cause : FileError)
  /-- A number of the document cannot be kept, or the offset between the clocks has no text. -/
  | fault (cause : Fault)
  deriving DecidableEq, Repr

namespace LoadError

/-- The names of a document in a message.  Names that show nothing are shown as none. -/
def shownNames (names : List String) : String :=
  let shown := String.intercalate ", " names
  if shown.isEmpty then "[none]" else shown

def message : LoadError -> String
  | .invalidDocument => "Invalid trace document: unexpected byte or end of document"
  | .malformedDocument cause => "Malformed trace document: " ++ cause.message
  | .notAnObject => "Trace document must be a JSON object"
  | .unrecognised names => "Unrecognised trace with top-level fields: " ++ shownNames names
  | .unreadableFile path .missing => "File '" ++ path ++ "' not found."
  | .unreadableFile path _ => "File '" ++ path ++ "' cannot be read."
  | .fault cause => cause.message

def ofHeader : Json.HeaderError -> LoadError
  | .notAnObject => .notAnObject
  | .problem .broken => .invalidDocument
  | .problem (@Json.Problem.undecodable what) => .malformedDocument (.undecodable what)
  | .problem .outOfRange => .fault .exponentOutOfRange

end LoadError

end TraceView
