import TraceView.Json.Token

namespace TraceView.Json

/-!
# Reading documents

A document is read in one pass, in which every token either continues the tree read so far or stops
the reading.  What had been read before is kept then, because it may show already that the document
is of the wrong shape.
-/

/-- An array or object that is not closed yet.  Its items or members come with the last one
first. -/
inductive Frame where
  | array (items : List Json)
  | object (members : List (String × Json)) (key : String)

inductive Expectation where
  | value
  /-- A value or the end of the array that has just begun. -/
  | firstItem
  /-- A name or the end of the object that has just begun. -/
  | firstName
  | name
  | colon
  /-- A comma or the end of the innermost array or object. -/
  | separator
  /-- Nothing: the document is complete. -/
  | nothing
  deriving DecidableEq, Repr

/-- The state between two tokens. -/
structure Reader where
  frames : List Frame
  expects : Expectation
  root : Option Json

namespace Reader

def empty : Reader := ⟨[], .value, none⟩

/-- Add a complete value to what is read. -/
def deliver (tree : Json) (frames : List Frame) : Reader :=
  match frames with
  | [] => ⟨[], .nothing, some tree⟩
  | .array items :: outer => ⟨.array (tree :: items) :: outer, .separator, none⟩
  | .object members key :: outer =>
    ⟨.object ((key, tree) :: members) key :: outer, .separator, none⟩

def closed : Frame -> Json
  | .array items => .array items.reverse
  | .object members _ => .object members.reverse

/-- Read a token where a value may begin. -/
def beginValue (reader : Reader) (token : Token) : Except Problem Reader :=
  match token with
  | .openBracket => .ok { reader with frames := .array [] :: reader.frames, expects := .firstItem }
  | .openBrace =>
    .ok { reader with frames := .object [] "" :: reader.frames, expects := .firstName }
  | .null => .ok (deliver .null reader.frames)
  | .bool flag => .ok (deliver (.bool flag) reader.frames)
  | .integer n => .ok (deliver (.integer n) reader.frames)
  | .decimal d => .ok (deliver (.decimal d) reader.frames)
  | .string text => .ok (deliver (.string text) reader.frames)
  | .faultyNumber problem => .error problem
  | .faultyString problem => .error problem
  | _ => .error .broken

/-- Read a token where the innermost array or object may end. -/
def endFrame (reader : Reader) (token : Token) : Option Reader :=
  match token, reader.frames with
  | .closeBracket, .array items :: outer => some (deliver (closed (.array items)) outer)
  | .closeBrace, .object members key :: outer => some (deliver (closed (.object members key)) outer)
  | _, _ => none

def beginMember (reader : Reader) (token : Token) : Except Problem Reader :=
  match token, reader.frames with
  | .string name, .object members _ :: outer =>
    .ok { reader with frames := .object members name :: outer, expects := .colon }
  | .faultyString problem, _ => .error problem
  | _, _ => .error .broken

def continueFrame (reader : Reader) (token : Token) : Except Problem Reader :=
  match token, reader.frames with
  | .comma, .array _ :: _ => .ok { reader with expects := .value }
  | .comma, .object _ _ :: _ => .ok { reader with expects := .name }
  | _, _ => .error .broken

/-- Read a token that ends the innermost array or object, or else goes on as it may. -/
def endOr (goOn : Reader -> Token -> Except Problem Reader) (reader : Reader) (token : Token) :
    Except Problem Reader :=
  match reader.endFrame token with
  | some ended => .ok ended
  | none => goOn reader token

def feed (reader : Reader) (token : Token) : Except Problem Reader :=
  match reader.expects with
  | .value => reader.beginValue token
  | .firstItem => endOr beginValue reader token
  | .firstName => endOr beginMember reader token
  | .name => reader.beginMember token
  | .colon =>
    match token with
    | .colon => .ok { reader with expects := .value }
    | _ => .error .broken
  | .separator => endOr continueFrame reader token
  | .nothing => .error .broken

/-- Read tokens up to the first one that stops the reading, and give its problem. -/
def feedAll (reader : Reader) : List Token -> Reader × Option Problem
  | [] => (reader, none)
  | token :: rest =>
    match reader.feed token with
    | .ok next => next.feedAll rest
    | .error problem => (reader, some problem)

/-- The tree of what has been read, as if every open array and object ended here. -/
def closeAll : Json -> List Frame -> Json
  | tree, [] => tree
  | tree, .array items :: outer => closeAll (closed (.array (tree :: items))) outer
  | tree, .object members key :: outer =>
    closeAll (closed (.object ((key, tree) :: members) key)) outer

/-- What has been read, unless it is nothing. -/
def soFar (reader : Reader) : Option Json :=
  match reader.frames with
  | [] => reader.root
  | inner :: outer => some (closeAll (closed inner) outer)

end Reader

inductive Reading where
  | whole (tree : Json)
  /-- What was read before the problem. -/
  | stopped (soFar : Option Json) (problem : Problem)

namespace Reading

def tree? : Reading -> Option Json
  | .whole tree => some tree
  | .stopped _ _ => none

/-- The end of the bytes.  A number that they end with is complete only now, and a text that they end
in is a problem unless the document is complete and may have an open tail. -/
def atEnd (dialect : Dialect) (scanner : Scanner) (reader : Reader) : Reading :=
  let (tokens, next) := scanner.step dialect 32
  match reader.feedAll tokens, next with
  | (last, some problem), _ => .stopped last.soFar problem
  | (last, none), .error problem => .stopped last.soFar problem
  | (last, none), .ok .between =>
    match last.root with
    | some tree => .whole tree
    | none => .stopped last.soFar .broken
  | (last, none), .ok (.text _) =>
    match last.root, dialect.openTail with
    | some tree, true => .whole tree
    | _, _ => .stopped last.soFar .broken
  | (last, none), .ok _ => .stopped last.soFar .broken

def run (dialect : Dialect) (scanner : Scanner) (reader : Reader) : List UInt8 -> Reading
  | [] => atEnd dialect scanner reader
  | byte :: rest =>
    let (tokens, next) := scanner.step dialect byte
    match reader.feedAll tokens, next with
    | (last, some problem), _ => .stopped last.soFar problem
    | (last, none), .error problem => .stopped last.soFar problem
    | (last, none), .ok further => run dialect further last rest

end Reading

def read (dialect : Dialect) (bytes : List UInt8) : Reading :=
  Reading.run dialect .between .empty bytes

end TraceView.Json
