import TraceView.Fields
import TraceView.Text.Percent

namespace TraceView.Web

/-!
# Parameters of a header

A header has a value and, each after a semicolon, parameters with names.  A name with a star at its
end announces a token in a character set, and one that ends with a star and a number a piece of a
longer text.  What cannot be read is passed over, but a quotation mark that is never closed ends the
header.
-/

inductive Written where
  | token (text : List Char)
  | quoted (inside : List Char)
  deriving DecidableEq, Repr

namespace Written

def isTokenChar (c : Char) : Bool :=
  c.isAlphanum || "!#$%&*+-.^_|~'\x60".toList.contains c

/-- The inside of a text between quotation marks, given what follows the opening one, and what
follows the closing one.  A backslash takes the meaning from a quotation mark or another
backslash. -/
def closeQuote : List Char -> Option (List Char × List Char)
  | [] => none
  | '\\' :: '\\' :: rest =>
    (closeQuote rest).map fun (inside, after) => ('\\' :: '\\' :: inside, after)
  | '\\' :: '"' :: rest =>
    (closeQuote rest).map fun (inside, after) => ('\\' :: '"' :: inside, after)
  | '"' :: rest => some ([], rest)
  | c :: rest => (closeQuote rest).map fun (inside, after) => (c :: inside, after)

/-- A text in which each occurrence of some characters is one other character.  A number of
characters at the beginning is passed over. -/
def resolved (written : List Char) (meant : Char) : (passed : Nat) -> List Char -> List Char
  | _, [] => []
  | passed + 1, _ :: rest => resolved written meant passed rest
  | 0, c :: rest =>
    if written.isPrefixOf (c :: rest) then
      meant :: resolved written meant (written.length - 1) rest
    else c :: resolved written meant 0 rest

/-- What is meant by what is written.  Each kind of mark is resolved in the whole text before the
next one. -/
def plain : Written -> List Char
  | .token text => resolved ['%', '2', '2'] '"' 0 text
  | .quoted inside =>
    let single := resolved ['\\', '\\'] '\\' 0 inside
    resolved ['%', '2', '2'] '"' 0 (resolved ['\\', '"'] '"' 0 single)

def raw : Written -> List Char
  | .token text => text
  | .quoted inside => '"' :: inside ++ ['"']

end Written

/-! ## Sections -/

inductive Beginning where
  | value (written : Written) (after : List Char)
  | unclosed
  | nothing

def Beginning.read (text : List Char) : Beginning :=
  match text.takeWhile Written.isTokenChar, text with
  | c :: more, _ => .value (.token (c :: more)) (text.dropWhile Written.isTokenChar)
  | [], '"' :: rest =>
    match Written.closeQuote rest with
    | some (inside, after) => .value (.quoted inside) after
    | none => .unclosed
  | [], _ => .nothing

/-- Whether a character is a blank that may follow a semicolon or continue a line. -/
def isLineBlank (c : Char) : Bool := c == ' ' || c == '\t'

/-- The named sections of a header, of which a semicolon begins each.  Names are in lower case. -/
def sections : (fuel : Nat) -> List Char -> List (List Char × Written)
  | 0, _ => []
  | fuel + 1, text =>
    match text.dropWhile (· != ';') with
    | [] => []
    | _ :: rest =>
      let text := rest.dropWhile isLineBlank
      match text.takeWhile Written.isTokenChar, text.dropWhile Written.isTokenChar with
      | first :: more, '=' :: following =>
        match Beginning.read following with
        | .value written after =>
          ((first :: more).map Char.toLower, written) :: sections fuel after
        | .unclosed => []
        | .nothing => sections fuel following
      | _, _ => sections fuel text

/-! ## Character sets -/

/-- A character set in which the bytes of a parameter may be given. -/
inductive Charset where
  | ascii
  | latin
  | unicode
  deriving DecidableEq, Repr

/-- The character set of a name, if it is one of the known names. -/
def Charset.named? (name : String) : Option Charset :=
  match name with
  | "ascii" => some .ascii
  | "us-ascii" => some .ascii
  | "iso-8859-1" => some .latin
  | "utf-8" => some .unicode
  | _ => none

/-- The text that bytes are in a character set. -/
def Charset.decode (charset : Charset) (bytes : List UInt8) : String :=
  match charset with
  | .ascii => String.ofList (bytes.map fun byte =>
      if byte < 128 then Char.ofNat byte.toNat else '\ufffd')
  | .latin => String.ofList (bytes.map fun byte => Char.ofNat byte.toNat)
  | .unicode => Text.ofBytes bytes

/-- A text in which the bytes behind percent signs are resolved in a character set.  Characters beyond
ASCII stay as they are and keep the bytes on both sides of them apart. -/
def Charset.resolve (charset : Charset) (text : List Char) : String :=
  let isAscii := fun c : Char => c.toNat < 128
  let runs := text.splitBy fun a b => isAscii a == isAscii b
  String.join <| runs.map fun run =>
    if run.all isAscii then charset.decode (Text.percentBytes run) else String.ofList run

/-- The name of the character set that a text begins with, which may be empty, and what comes after
it.  Two quotation marks with the name of a language between them follow the name. -/
def splitCharset (text : List Char) : Option (List Char × List Char) :=
  match text.splitOn '\'' with
  | charset :: _ :: first :: rest =>
    let value := ['\''].intercalate (first :: rest)
    if value.isEmpty || text.head? == some '"' then none else some (charset, value)
  | _ => none

/-! ## Meaning -/

/-- The parameters of a header so far: the name of the character set given last, the last known one,
the text under each name, and the name of the last parameter if that is a piece. -/
structure Parameters where
  charset : String
  known : Option Charset
  found : List (String × String)
  joining : Option String

namespace Parameters

def empty : Parameters := ⟨"", none, [], none⟩

/-- The name before a star and a number, if a name ends so. -/
def pieceOf? (name : List Char) : Option (List Char) :=
  let reversed := name.reverse
  match reversed.takeWhile Char.isDigit, reversed.dropWhile Char.isDigit with
  | _ :: _, '*' :: rest => some rest.reverse
  | _, _ => none

/-- Add a text under a name.  A piece is put after the piece before it if both have one name, and
takes the place of any other text. -/
def add (parameters : Parameters) (name : List Char) (text : String) : Parameters :=
  match (pieceOf? name).map String.ofList with
  | none =>
    { parameters with
      found := Fields.put (String.ofList name) text parameters.found, joining := none }
  | some whole =>
    let before := if parameters.joining = some whole then parameters.found.lookup whole else none
    { parameters with
      found := Fields.put whole (before.getD "" ++ text) parameters.found, joining := some whole }

/-- Add a text that may be in a character set.  Without a character set of its own it is in the one
given before; if that is not known, the text stays as it is. -/
def addEncoded (parameters : Parameters) (name written : List Char) : Parameters :=
  let (charset, value) := match splitCharset written with
    | some (charset, value) => (String.ofList (charset.map Char.toLower), value)
    | none => (parameters.charset, written)
  let known := if charset.isEmpty then parameters.known else Charset.named? charset
  match known with
  | some set =>
    ({ parameters with charset := charset, known := some set }).add name
      (set.resolve value)
  | none => ({ parameters with charset := charset }).add name (String.ofList value)

def addSection (parameters : Parameters) (name : List Char) (written : Written) : Parameters :=
  if name.getLast? == some '*' then parameters.addEncoded name.dropLast written.raw
  else parameters.add name (String.ofList written.plain)

def ofHeader (header : List Char) : Parameters :=
  (sections header.length header).foldl (fun soFar (name, written) => soFar.addSection name written)
    empty

def text? (parameters : Parameters) (name : String) : Option String :=
  parameters.found.lookup name

end Parameters

end TraceView.Web
