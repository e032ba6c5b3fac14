import TraceView.Number.Numeral

namespace TraceView.Web

/-!
# Resources

A path names a resource: the collection of traces, one trace, its timestamps, one of its entries
or a file that belongs to the pages.  Each resource answers some methods.  A path that names
nothing may still be meant for a resource if slashes in a row count as one.
-/

inductive Resource where
  | traces
  | trace (id : String)
  | timestamps (id : String)
  /-- An entry by its number, unless the number has too many digits. -/
  | entry (id : String) (index : Option Nat)
  /-- A file of the pages.  There are none. -/
  | file
  deriving DecidableEq, Repr

namespace Resource

def digits? (text : String) : Option (List Nat) :=
  if text.isEmpty then none else text.toList.mapM Text.digit?

def index? (digits : List Nat) : Option Nat :=
  if digits.length ≤ Numeral.digitLimit then some (Numeral.ofDigits digits) else none

/-- Whether the rest of a path names a file: it begins with a character other than a slash, after
which no line break comes. -/
def namesFile (rest : List Char) : Bool :=
  match rest with
  | first :: more => first != '/' && !more.contains '\n'
  | [] => false

def ofPath? (path : String) : Option Resource :=
  match (path.toList.splitOn '/').map String.ofList with
  | ["", "api", "traces"] => some .traces
  | ["", "api", "traces", id] => if id.isEmpty then none else some (.trace id)
  | ["", "api", "traces", id, "timestamps"] => if id.isEmpty then none else some (.timestamps id)
  | ["", "api", "traces", id, "entries", number] =>
    if id.isEmpty then none
    else (digits? number).map fun digits => .entry id (index? digits)
  | "" :: "static" :: _ :: _ =>
    if namesFile (path.toList.drop "/static/".length) then some .file else none
  | _ => none

def reading : List String := ["GET", "HEAD", "OPTIONS"]

/-- The methods of each of the services that a resource has. -/
def services : Resource -> List (List String)
  | .traces => [["POST", "OPTIONS"]]
  | .trace _ => [reading, ["DELETE", "OPTIONS"]]
  | .timestamps _ => [reading]
  | .entry _ _ => [reading]
  | .file => [reading]

def answers (resource : Resource) (method : String) : Bool :=
  resource.services.any fun methods => methods.contains method

/-- Whether every service of a resource answers a method. -/
def fullyAnswers (resource : Resource) (method : String) : Bool :=
  resource.services.all fun methods => methods.contains method

/-- A path in which slashes in a row are one slash. -/
def mergeSlashes : List Char -> List Char
  | [] => []
  | c :: rest =>
    if c == '/' && rest.head? == some '/' then mergeSlashes rest else c :: mergeSlashes rest

/-- The resource that a path names when slashes in a row count as one. -/
def ofMergedPath? (path : String) : Option Resource :=
  ofPath? (String.ofList (mergeSlashes path.toList))

end Resource

end TraceView.Web
