import TraceView.Web.Parameters

namespace TraceView.Web

/-!
# Parts of a form

Each field of a form is sent as a part: a header with its names and then the bytes.  The names are
put between quotation marks as they are, so a quotation mark, a backslash or a line break in a name
may end it, add a parameter or even begin the bytes.
-/

/-- A part as it is received. -/
structure Part where
  name : Option String
  fileName : Option String
  bytes : List UInt8

namespace Part

/-- The header of a part as it is sent. -/
def header (name : String) (fileName : Option String) : List Char :=
  let named := "form-data; name=\"" ++ name ++ "\""
  match fileName with
  | some file => (named ++ "; filename=\"" ++ file ++ "\"").toList
  | none => named.toList

/-- A text before its first blank line, and what follows the blank line if there is one. -/
def splitBlankLine : List Char -> List Char × Option (List Char)
  | [] => ([], none)
  | '\r' :: '\n' :: '\r' :: '\n' :: rest => ([], some rest)
  | '\r' :: '\r' :: '\n' :: rest => ([], some rest)
  | '\r' :: '\r' :: rest => ([], some rest)
  | '\n' :: '\n' :: rest => ([], some rest)
  | c :: rest =>
    let (before, after) := splitBlankLine rest
    (c :: before, after)

/-- The first line of a text.  A line break before a blank does not end it; both become one
blank. -/
def firstLine : List Char -> List Char
  | [] => []
  | '\r' :: '\n' :: c :: rest => if isLineBlank c then ' ' :: firstLine rest else []
  | '\r' :: c :: rest => if isLineBlank c then ' ' :: firstLine rest else []
  | '\n' :: c :: rest => if isLineBlank c then ' ' :: firstLine rest else []
  | c :: rest => if c == '\r' || c == '\n' then [] else c :: firstLine rest

/-- The part that is received for a field that is sent.  If its names put a blank line into the
header, the rest of the header belongs to the bytes. -/
def received (name : String) (fileName : Option String) (bytes : List UInt8) : Part :=
  let (before, beyond) := splitBlankLine (header name fileName)
  let parameters := Parameters.ofHeader (firstLine before)
  let body := match beyond with
    | none => bytes
    | some rest =>
      (String.ofList rest ++ "\r\nContent-Type: application/octet-stream\r\n\r\n").toUTF8.toList ++
        bytes
  ⟨parameters.text? "name", parameters.text? "filename", body⟩

/-- The media type that the name of a file says of itself: what stands between the word `data` with
a colon and the first semicolon or comma, if there is a comma. -/
def statedMediaType? (fileName : String) : Option (List Char) :=
  let name := fileName.toList
  let scheme := name.takeWhile fun c => c != ':' && c != '/'
  let rest := (name.drop scheme.length).drop 1
  if (scheme.map Char.toLower) == "data".toList && name[scheme.length]? == some ':' &&
      rest.contains ',' then
    some (rest.takeWhile fun c => c != ';' && c != ',')
  else none

/-- Whether a file can be sent under a name: a media type that the name states goes into a header of
its own, where it may have no line break.  A type without a slash or with an equals sign is not
used. -/
def canSend (fileName : String) : Bool :=
  match statedMediaType? fileName with
  | none => true
  | some stated =>
    stated.contains '=' || !stated.contains '/' ||
      !(stated.contains '\n' || stated.contains '\r')

/-- Send a field, if it can be sent, and receive its part. -/
def sent? (name : String) (fileName : Option String) (bytes : List UInt8) : Option Part :=
  if fileName.all canSend then some (received name fileName bytes) else none

end Part

end TraceView.Web
