import TraceView.Trace.Loaded

namespace TraceView.Transition

/-!
# Reading transitions

A transition is a record of the shell and the window manager, stamped with the first of three times
that it carries.  Fields that are to hold 64-bit integers may hold them as texts, which decoding
replaces.
-/

/-- Where the time of a transition is looked for: a section and a field, in order. -/
def stampPlaces : List (String × String) :=
  [("shellData", "dispatchTimeNs"), ("wmData", "sendTimeNs"), ("wmData", "createTimeNs")]

def timeAt? (record : List (String × Value)) (place : String × String) : Option Int :=
  match record.lookup place.1 with
  | some (.map times) => (times.lookup place.2).bind Value.toInt?
  | _ => none

def stamp? (record : List (String × Value)) : Option Int :=
  stampPlaces.findSome? (timeAt? record)

/-! ## Decoding a transition -/

/-- Whether the name of a field says that it holds 64-bit integers. -/
def isWide (name : String) : Bool :=
  "Ns".toList.isSuffixOf name.toList || "Id".toList.isSuffixOf name.toList

/-- A text of a field, as the integer it spells if the field holds integers. -/
def normaliseText (name text : String) : Value :=
  if isWide name then
    match Numeral.read text with
    | some n => .int n
    | none => .string text
  else .string text

mutual

/-- A value below a name, with the texts of integers replaced.  The items of a list are below the
name of the list. -/
def normalise (name : String) : Value -> Value
  | .map fields => .map (normaliseFields fields)
  | .list items => .list (normaliseItems name items)
  | .string text => normaliseText name text
  | value => value

def normaliseFields : List (String × Value) -> List (String × Value)
  | [] => []
  | (name, value) :: rest => (name, normalise name value) :: normaliseFields rest

def normaliseItems (name : String) : List Value -> List Value
  | [] => []
  | value :: rest => normalise name value :: normaliseItems name rest

end

/-- The names that the tree of an entry uses itself, with the names that replace them. -/
def reserved : List (String × String) :=
  [("timestamp", "rawTimestamp"), ("duration", "rawDuration"), ("status", "rawStatus")]

/-- Change the name of a field.  The field goes to the end, unless there is a field of the new
name already, which then gets its value. -/
def rename (fields : List (String × Value)) (names : String × String) : List (String × Value) :=
  match fields.lookup names.1 with
  | some value => Fields.put names.2 value (Fields.erase names.1 fields)
  | none => fields

def holds (part : List Char) : List Char -> Bool
  | [] => part.isEmpty
  | c :: rest => part.isPrefixOf (c :: rest) || holds part rest

/-- Whether a record that is no object mentions a reserved name. -/
def mentionsReserved : Value -> Bool
  | .list items => items.any fun
    | .string text => reserved.any (·.1 == text)
    | _ => false
  | .string text => reserved.any fun names => holds names.1.toList text.toList
  | _ => true

/-- Decode a record.  A record that is no object cannot be renamed: it is left as it is if it can
be searched for the reserved names and mentions none. -/
def decode (record : Value) : Except Fault Value :=
  match normalise "" record with
  | .map fields => .ok (.map (reserved.foldl rename fields))
  | other => if mentionsReserved other then .error .wrongKind else .ok other

/-! ## Loading transitions -/

def accepts (names : List String) : Bool := names.contains "transitions"

def stampRecord (record : Value) : Except Notice (Int × Value) :=
  match record with
  | .map fields =>
    match stamp? fields with
    | some ns => .ok (ns, record)
    | none => .error (.unstamped ((fields.lookup "id").getD .null))
  | other => .error (.notAnObject other)

def stampAll : List Value -> Noted Stamped
  | [] => .quiet []
  | record :: rest =>
    let others := stampAll rest
    match stampRecord record with
    | .ok stamped => { others with value := stamped :: others.value }
    | .error notice => { others with notices := notice :: others.notices }

/-- The offset between the clocks that a capture records, in nanoseconds. -/
def recordedOffset (header : Json.Header) : Option Int :=
  (header.scalars.lookup "realToElapsedTimeOffsetNanos").bind Value.toInt?

def load (document : Json) (header : Json.Header) (settings : Settings) : Noted Loaded :=
  let all := (Json.partsAt "transitions.item" [] document).map Json.exactValue
  (stampAll all).andThen fun stamped =>
    ⟨.ofStamped stamped (settings.offset.or (recordedOffset header)),
      [.loadedTransitions stamped.length]⟩

end TraceView.Transition
