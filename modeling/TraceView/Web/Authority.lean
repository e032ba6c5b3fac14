import TraceView.Number.Numeral
import TraceView.Text.HostName
import TraceView.Text.Percent

namespace TraceView.Web

/-!
# Authorities

The target of a request may name an authority: a host, perhaps with a user before it and the number
of a service after it.  None of them is needed to answer the request, but an authority that cannot
be one makes the target unusable.
-/

/-- What a target writes between two slashes and its path. -/
abbrev Authority := List Char

namespace Authority

def splitAtFirst (mark : Char) (text : List Char) : List Char × List Char :=
  (text.takeWhile (· != mark), (text.dropWhile (· != mark)).drop 1)

/-! ## Addresses in brackets -/

def isGroup (text : List Char) : Bool :=
  !text.isEmpty && text.length ≤ 4 && text.all fun c => (Text.hexDigit? c).isSome

/-- Whether a text is one of the four decimal numbers that an address may end with. -/
def isOctet (text : List Char) : Bool :=
  !text.isEmpty && text.length ≤ 3 && text.all Char.isDigit &&
    (text.length = 1 || text.head? != some '0') &&
    text.foldl (fun value c => 10 * value + (c.toNat - '0'.toNat)) 0 < 256

/-- The number of groups in a row of groups, if it is one.  Four decimal numbers at the end of an
address stand for two groups. -/
def groupCount? (isLast : Bool) (text : List Char) : Option Nat :=
  let groups := text.splitOn ':'
  let tail := (groups.getLast?.getD []).splitOn '.'
  if text.isEmpty then some 0
  else if groups.all isGroup then some groups.length
  else if isLast && groups.dropLast.all isGroup && tail.length = 4 && tail.all isOctet then
    some (groups.length + 1)
  else none

/-- A text before its first pair of colons and after it, if it has one. -/
def splitPair : List Char -> Option (List Char × List Char)
  | ':' :: ':' :: rest => some ([], rest)
  | c :: rest => (splitPair rest).map fun (before, after) => (c :: before, after)
  | [] => none

/-- Whether a text is an address of eight groups, of which a pair of colons may leave out some. -/
def isGroupAddress (text : List Char) : Bool :=
  match splitPair text with
  | none => groupCount? true text == some 8
  | some (before, after) =>
    match groupCount? false before, groupCount? true after with
    | some first, some last => first + last < 8
    | _, _ => false

/-- Whether a text is an address of groups, perhaps with the name of a zone. -/
def isZonedAddress (text : List Char) : Bool :=
  let (address, zone) := splitAtFirst '%' text
  isGroupAddress address && (!text.contains '%' || (!zone.isEmpty && !zone.contains '%'))

/-- Whether a text is an address of a kind that is still to come: the letter v, a version and a
point before it. -/
def isFutureAddress (text : List Char) : Bool :=
  let (version, address) := splitAtFirst '.' (text.drop 1)
  !version.isEmpty && version.all (fun c => (Text.hexDigit? c).isSome) && !address.isEmpty

def isBracketAddress (text : List Char) : Bool :=
  if text.head? == some 'v' then isFutureAddress text else isZonedAddress text

/-- Whether the brackets of an authority are a pair, and what they surround is an address. -/
def hasGoodBrackets (authority : Authority) : Bool :=
  if authority.contains '[' || authority.contains ']' then
    authority.contains '[' && authority.contains ']' &&
      isBracketAddress (splitAtFirst ']' (splitAtFirst '[' authority).2).1
  else true

/-! ## Characters that would end an authority -/

/-- The ranges of characters that stand for texts in which a mark of a target occurs. -/
def markedRanges : List (Nat × Nat) :=
  [(0x2047, 0x2049), (0x2100, 0x2101), (0x2105, 0x2106), (0x2A74, 0x2A74), (0xFE13, 0xFE13),
    (0xFE16, 0xFE16), (0xFE55, 0xFE56), (0xFE5F, 0xFE5F), (0xFE6B, 0xFE6B), (0xFF03, 0xFF03),
    (0xFF0F, 0xFF0F), (0xFF1A, 0xFF1A), (0xFF1F, 0xFF20)]

def isWellFormed (authority : Authority) : Bool :=
  authority.hasGoodBrackets && !authority.any (Text.covers markedRanges)

/-! ## The form in ASCII -/

/-- A text before the last character of a kind, if it has one, and what follows that character. -/
def splitAtLast (mark : Char) (text : List Char) : Option (List Char) × List Char :=
  match text.splitOn mark with
  | [] => (none, [])
  | [only] => (none, only)
  | parts => (some ([mark].intercalate parts.dropLast), parts.getLast?.getD [])

/-- The host and the service of an authority without its user. -/
def hostAndService (text : List Char) : List Char × List Char :=
  if text.contains '[' then
    let (host, rest) := splitAtFirst ']' (splitAtFirst '[' text).2
    (host, (splitAtFirst ':' rest).2)
  else splitAtFirst ':' text

/-- The number of a service; a service that is left out has the number zero. -/
def serviceNumber? (text : List Char) : Option Nat :=
  let value := text.foldl (fun value c => 10 * value + (c.toNat - '0'.toNat)) 0
  if text.length ≤ Numeral.digitLimit && text.all Char.isDigit && value < 65536 then some value
  else none

def lowerHost (host : List Char) : List Char :=
  host.takeWhile (· != '%') |>.map Char.toLower |> (· ++ host.dropWhile (· != '%'))

/-- The characters of a user that stay as they are. -/
def userMarks : List Char := "_.-~%!$&'()*+,;=".toList

/-- The user with the password, if the user has a name. -/
def userText (user : Option (List Char)) : List Char :=
  let (name, password) := splitAtFirst ':' (user.getD [])
  let written := Text.percentEncoded userMarks
  if name.isEmpty then []
  else if password.isEmpty then written name ++ ['@']
  else written name ++ ':' :: written password ++ ['@']

/-- The form of an authority in ASCII, if its host and its service have one. -/
def ascii? (authority : Authority) : Option Authority := do
  let (user, rest) := splitAtLast '@' authority
  let (host, service) := hostAndService rest
  let name <- Text.asciiHostName? (lowerHost host)
  let number <- serviceNumber? service
  let bracketed := if name.contains ':' then '[' :: name ++ [']'] else name
  let ending := if number = 0 then [] else ':' :: Nat.toDigits 10 number
  some (userText user ++ bracketed ++ ending)

/-- Whether an authority can be that of a request: it has a form in ASCII, and this form is an
authority as well. -/
def isUsable (authority : Authority) : Bool :=
  authority.ascii?.any hasGoodBrackets

end Authority

end TraceView.Web
